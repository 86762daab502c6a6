import ReloadProbe.Failure
import ReloadProbe.Run.Packets
import ReloadProbe.Wire.Ping

/-! What a rehearsed broker does, and when. -/
namespace ReloadProbe.Rehearsal

inductive Piece where
  | connack
  | notification
  | bytes (bs : Bytes)

def Piece.content (p : Packets) : Piece → Bytes
  | connack => p.connack
  | notification => p.notification
  | bytes bs => bs

/-- A broker exits, sends and hangs up, in this order. With the broker its connection goes. -/
structure Action where
  send : List Piece := []
  exit : Option ExitState := none
  close : Bool := false

def Action.content (a : Action) (p : Packets) : Bytes := a.send.flatMap (Piece.content p)

structure Script where
  startError : Option Failure := none
  exitOnStart : Option ExitState := none
  listen : Bool := true
  listenDelay : Nat := 0
  onConnect : Action := { send := [.connack] }
  /-- For the first reload, the second and so on; the last one stands for all that follow. -/
  onReload : List Action := []
  onPing : Action := { send := [.bytes Wire.pingResp] }
  signalError : Option Failure := none
  statusError : Option Failure := none
  stderr : Bytes := []

def nthOrLast {α : Type} (items : List α) (n : Nat) (default : α) : α :=
  (items[n]?).getD (items.getLastD default)

def Script.reloadAction (s : Script) (n : Nat) : Action :=
  nthOrLast s.onReload n { send := [.notification] }

end ReloadProbe.Rehearsal
