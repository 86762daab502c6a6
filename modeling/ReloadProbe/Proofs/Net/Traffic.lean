import ReloadProbe.Net.Client

/-!
What a record of calls on the network says: the octets that arrived, in the order of their arrival,
and what was done to the connection besides waiting on it.
-/
namespace ReloadProbe.Net

def Arrival.octets : Arrival → Bytes
  | .bytes chunk _ => chunk
  | _ => []

def arrival? : Event link → Option Arrival
  | ⟨.receive _ _, arrival⟩ => some arrival
  | _ => none

def arrivals (events : List (Event link)) : List Arrival := events.filterMap arrival?

def received (events : List (Event link)) : Bytes := (arrivals events).flatMap Arrival.octets

/-- A read, or the look at the clock that gives it a deadline. The peer notices neither. -/
def waits : Event link → Bool
  | ⟨.receive _ _, _⟩ => true
  | ⟨.now, _⟩ => true
  | _ => false

/-- All that the peer can notice: connections opened and closed, and octets sent. -/
def doings (events : List (Event link)) : List (Event link) := events.filter fun e => !waits e

@[simp] theorem arrivals_nil : arrivals [] = [] := rfl

@[simp] theorem arrivals_append (a b : List (Event link)) :
    arrivals (a ++ b) = arrivals a ++ arrivals b := by
  simp only [arrivals, List.filterMap_append]

@[simp] theorem received_nil : received [] = [] := rfl

@[simp] theorem received_append (a b : List (Event link)) :
    received (a ++ b) = received a ++ received b := by
  simp only [received, arrivals_append, List.flatMap_append]

@[simp] theorem doings_nil : doings [] = [] := rfl

@[simp] theorem doings_append (a b : List (Event link)) :
    doings (a ++ b) = doings a ++ doings b := by
  simp only [doings, List.filter_append]

theorem doings_eq_nil {events : List (Event link)} :
    doings events = [] ↔ ∀ e ∈ events, waits e = true := by
  simp [doings]

end ReloadProbe.Net
