import ReloadProbe.Wire.Error

/-! Delivery guarantees of a PUBLISH. -/
namespace ReloadProbe.Wire

inductive QoS where
  | atMostOnce | atLeastOnce | exactlyOnce
  deriving DecidableEq, Inhabited

namespace QoS

def level : QoS → UInt8
  | atMostOnce => 0
  | atLeastOnce => 1
  | exactlyOnce => 2

def name : QoS → String
  | atMostOnce => "AtMostOnce"
  | atLeastOnce => "AtLeastOnce"
  | exactlyOnce => "ExactlyOnce"

def ofLevel (level : UInt8) : Except WireError QoS :=
  if level = 0 then .ok atMostOnce
  else if level = 1 then .ok atLeastOnce
  else if level = 2 then .ok exactlyOnce
  else .error (.invalidQoS level)

theorem ofLevel_level (q : QoS) : ofLevel q.level = .ok q := by cases q <;> rfl

end QoS
end ReloadProbe.Wire
