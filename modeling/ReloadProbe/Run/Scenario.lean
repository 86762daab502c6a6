import ReloadProbe.Document.Json
import ReloadProbe.Net.Address
import ReloadProbe.Wire.Version

/-! What sets one run apart from another. Nothing of it changes once the run has a port. -/
namespace ReloadProbe

structure Scenario where
  perListenerSettings : Bool
  version : Wire.Version
  keepalive : UInt16
  port : UInt16
  deriving DecidableEq

namespace Scenario

def address (s : Scenario) : Address := .loopback s.port

def toValue (s : Scenario) : Value :=
  .table [
    ("per_listener_settings", .bool s.perListenerSettings),
    ("protocol_version", .int s.version.level.toNat),
    ("keepalive", .int s.keepalive.toNat),
    ("port", .int s.port.toNat)]

end Scenario
end ReloadProbe
