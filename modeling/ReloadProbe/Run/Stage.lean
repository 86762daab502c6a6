/-! How far a run has come. The stages are in the order in which a run goes through them. -/
namespace ReloadProbe

inductive Stage where
  | init
  | configWritten
  | processStarted
  | connected
  | reloadTriggered
  | notificationVerified
  | livenessVerified
  | tornDown
  deriving DecidableEq

namespace Stage

def name : Stage → String
  | init => "Init"
  | configWritten => "ConfigWritten"
  | processStarted => "ProcessStarted"
  | connected => "Connected"
  | reloadTriggered => "ReloadTriggered"
  | notificationVerified => "NotificationVerified"
  | livenessVerified => "LivenessVerified"
  | tornDown => "TornDown"

def all : List Stage :=
  [init, configWritten, processStarted, connected, reloadTriggered, notificationVerified,
    livenessVerified, tornDown]

def ofName? (s : String) : Option Stage := all.find? fun stage => stage.name = s

def rank : Stage → Nat
  | init => 0
  | configWritten => 1
  | processStarted => 2
  | connected => 3
  | reloadTriggered => 4
  | notificationVerified => 5
  | livenessVerified => 6
  | tornDown => 7

theorem rank_inj {a b : Stage} : a.rank = b.rank ↔ a = b := by
  cases a <;> cases b <;> simp [rank]

instance : LE Stage := ⟨fun a b => a.rank ≤ b.rank⟩

instance : LT Stage := ⟨fun a b => a.rank < b.rank⟩

instance (a b : Stage) : Decidable (a ≤ b) := inferInstanceAs (Decidable (a.rank ≤ b.rank))

instance (a b : Stage) : Decidable (a < b) := inferInstanceAs (Decidable (a.rank < b.rank))

instance : Max Stage := maxOfLe

end Stage
end ReloadProbe
