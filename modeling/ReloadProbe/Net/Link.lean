import ReloadProbe.Bytes
import ReloadProbe.Interaction
import ReloadProbe.Net.Address
import ReloadProbe.Time.Duration

/-!
What a client asks of the network, with one connection at a time. Instants are told in nanoseconds;
the clock has those whose seconds fit into 63 bits, so a timeout may have no deadline.
-/
namespace ReloadProbe.Net

inductive Dialled where
  | opened
  | refused
  | failed (reason : String)

/-- What a read brings. Bytes that arrive are at least one. -/
inductive Arrival where
  | bytes (chunk : Bytes) (arrived : chunk ≠ [])
  /-- The peer sends no more. -/
  | ended
  /-- The peer broke the connection. -/
  | reset
  | timedOut
  | failed (reason : String)

inductive Call where
  | dial (address : Address)
  | send (data : Bytes)
  /-- Waits until an instant for bytes, and takes no more of them than there is room for. -/
  | receive (deadline room : Nat)
  | hangUp
  /-- The present instant. -/
  | now

def Reply : Call → Type
  | .dial _ => Dialled
  | .send _ => Except String Unit
  | .receive _ _ => Arrival
  | .hangUp => Unit
  | .now => Nat

def link : Interface := ⟨Call, Reply⟩

def dial (address : Address) : Interaction link Dialled := Interaction.ask (Call.dial address) .done

def send (data : Bytes) : Interaction link (Except String Unit) :=
  Interaction.ask (Call.send data) .done

def hangUp : Interaction link Unit := Interaction.ask Call.hangUp .done

def now : Interaction link Nat := Interaction.ask Call.now .done

def instantLimit : Nat := 9223372036854775808 * 1000000000

/-- The instant at which a time is up, if the clock has it. -/
def deadline? (instant : Nat) (timeout : Duration) : Option Nat :=
  let deadline := instant + timeout.toNanos
  if deadline < instantLimit then some deadline else none

def overflow : String := "overflow when adding duration to instant"

end ReloadProbe.Net
