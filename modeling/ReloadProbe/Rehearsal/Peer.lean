import ReloadProbe.Rehearsal.Line

/-! A network with one peer, which answers once when it has been sent enough. -/
namespace ReloadProbe.Rehearsal

structure Answer where
  after : Nat
  reply : Bytes
  hangUp : Bool

structure Peer where
  deaf : Bool := false
  answer : Option Answer := none
  line : Line := {}
  clock : Nat := 0

namespace Peer

def react (p : Peer) : Peer :=
  match p.answer with
  | some a =>
    if a.after ≤ p.line.outbound.length then
      let line := (p.line.peerRead a.after).2.peerWrite a.reply
      { p with answer := none, line := if a.hangUp then line.peerHangUp else line }
    else p
  | none => p

def serve : (c : Net.Call) → Peer → Net.Reply c × Peer
  | .dial _, p => if p.deaf then (.refused, p) else (.opened, p.react)
  | .send data, p =>
    let (sent, line) := p.line.write data
    (sent, react { p with line })
  | .receive deadline room, p =>
    match p.line.read? room with
    | some (arrival, line) => (arrival, { p with line })
    | none => (.timedOut, { p with clock := max p.clock deadline })
  | .hangUp, p => ((), { p with line := p.line.hangUp })
  | .now, p => (p.clock, p)

end Peer
end ReloadProbe.Rehearsal
