import ReloadProbe.Failure
import ReloadProbe.Interaction

/-!
Ports for successive runs, each above the one before it. A port that is bound is passed over, so a
broker that an earlier run left behind never answers for a new one.
-/
namespace ReloadProbe

structure Ports where
  /-- The first port that may be given, at least one. -/
  base : UInt16
  /-- The next port to try; 65536 when all have been tried. -/
  next : Nat
  deriving DecidableEq

namespace Ports

def new (base : UInt16) : Ports :=
  let base := if base = 0 then 1 else base
  ⟨base, base.toNat⟩

def probing : Interface := ⟨UInt16, fun _ => Bool⟩

/-- The first port from the next one on that is free. Each port is tried once, in this call or an
earlier one. -/
def allocate (p : Ports) : Interaction probing (Except Failure UInt16 × Ports) :=
  if p.next < 65536 then
    let port := UInt16.ofNat p.next
    let p := { p with next := p.next + 1 }
    .ask port fun (isFree : Bool) => if isFree then .done (.ok port, p) else p.allocate
  else .done (.error (.portsExhausted p.base), p)
termination_by 65536 - p.next

end Ports
end ReloadProbe
