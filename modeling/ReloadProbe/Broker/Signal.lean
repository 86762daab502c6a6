/-! The signals that a broker is sent. -/
namespace ReloadProbe

inductive Signal where
  /-- Read the configuration again. -/
  | reload
  /-- Shut down in an orderly way. -/
  | terminate
  /-- Shut down at once. -/
  | kill
  deriving DecidableEq

namespace Signal

def name : Signal → String
  | reload => "SIGHUP"
  | terminate => "SIGTERM"
  | kill => "SIGKILL"

def number : Signal → Nat
  | reload => 1
  | terminate => 15
  | kill => 9

end Signal
end ReloadProbe
