import ReloadProbe.Wire.Error

/-! Protocol versions, by the level that a CONNECT carries. -/
namespace ReloadProbe.Wire

inductive Version where
  | v31 | v311 | v5
  deriving DecidableEq

namespace Version

def level : Version → UInt8
  | v31 => 3
  | v311 => 4
  | v5 => 5

def ofLevel (level : UInt8) : Except WireError Version :=
  if level = 3 then .ok v31
  else if level = 4 then .ok v311
  else if level = 5 then .ok v5
  else .error (.unsupportedVersion level)

theorem ofLevel_level (v : Version) : ofLevel v.level = .ok v := by cases v <;> rfl

def protocolName : Version → String
  | v31 => "MQIsdp"
  | v311 | v5 => "MQTT"

def hasProperties (v : Version) : Bool := v = v5

def number : Version → String
  | v31 => "3.1"
  | v311 => "3.1.1"
  | v5 => "5.0"

end Version
end ReloadProbe.Wire
