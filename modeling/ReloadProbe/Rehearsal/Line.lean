import ReloadProbe.Net.Link

/-!
A connection in memory, between a client and a peer that a rehearsal plays. What either writes stays
on the line until the other reads it.
-/
namespace ReloadProbe.Rehearsal

structure Line where
  inbound : Bytes := []
  outbound : Bytes := []
  peerGone : Bool := false
  clientGone : Bool := false
  lostWrite : Bool := false

namespace Line

/-- The client writes. The first bytes that it writes after the peer has gone are lost, and it only
learns of that when it writes again. -/
def write (l : Line) (data : Bytes) : Except String Unit × Line :=
  if data.isEmpty then (.ok (), l)
  else if l.lostWrite then (.error "Broken pipe (os error 32)", l)
  else if l.peerGone then (.ok (), { l with lostWrite := true })
  else (.ok (), { l with outbound := l.outbound ++ data })

/-- What a read of the client brings at once; nothing if it would have to wait. -/
def read? (l : Line) (room : Nat) : Option (Net.Arrival × Line) :=
  let chunk := l.inbound.take room
  if arrived : chunk ≠ [] then
    some (.bytes chunk arrived, { l with inbound := l.inbound.drop room })
  else if l.peerGone then some (.ended, l)
  else none

def hangUp (l : Line) : Line := { l with clientGone := true }

def peerWrite (l : Line) (data : Bytes) : Line := { l with inbound := l.inbound ++ data }

def peerRead (l : Line) (n : Nat) : Bytes × Line :=
  (l.outbound.take n, { l with outbound := l.outbound.drop n })

def peerHangUp (l : Line) : Line := { l with peerGone := true }

end Line
end ReloadProbe.Rehearsal
