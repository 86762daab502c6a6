import ReloadProbe.Config.Fields
import ReloadProbe.Document.Toml.Document
import ReloadProbe.Failure

/-! Settings from a file. -/
namespace ReloadProbe.Config

inductive LoadFault where
  | unreadable (reason : String)
  | notText
  | notToml
  /-- A field is unknown, or its value is none for it. -/
  | badField
  deriving DecidableEq

def LoadFault.message : LoadFault → String
  | unreadable reason => reason
  | notText => "stream did not contain valid UTF-8"
  | notToml => "TOML parse error"
  | badField => "not a field of the configuration, or not a value for it"

/-- The settings in a file, from its octets or the reason why it cannot be read. -/
def Settings.ofFile (contents : Except String Bytes) : Except LoadFault Settings := do
  let octets ← contents.mapError .unreadable
  let text ← match Utf8.decode? octets with
    | some text => .ok text
    | none => .error .notText
  match Toml.parse? text with
  | none => .error .notToml
  | some document =>
    match Settings.ofValue? true document with
    | some settings => .ok settings
    | none => .error .badField

def Settings.load (path : Path) (contents : Except String Bytes) : Except Failure Settings :=
  (Settings.ofFile contents).mapError fun fault => .configLoad path fault.message

end ReloadProbe.Config
