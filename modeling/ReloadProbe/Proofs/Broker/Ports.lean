import ReloadProbe.Broker.Ports
import ReloadProbe.Proofs.Runs

/-! The search for a free port: one port after the other, up to one that is free. -/
namespace ReloadProbe.Ports

open Interaction

/-- A search from the next port on: what was asked, the result, and the ports that are left. -/
inductive Allocates : Ports → List (Event probing) → Except Failure UInt16 → Ports → Prop where
  | exhausted {ports : Ports} (all : 65536 ≤ ports.next) :
      Allocates ports [] (.error (.portsExhausted ports.base)) ports
  | free {ports : Ports} (left : ports.next < 65536) :
      Allocates ports [⟨UInt16.ofNat ports.next, true⟩] (.ok (UInt16.ofNat ports.next))
        { ports with next := ports.next + 1 }
  | bound {ports ports' : Ports} {asked : List (Event probing)} {r : Except Failure UInt16}
      (left : ports.next < 65536)
      (later : Allocates { ports with next := ports.next + 1 } asked r ports') :
      Allocates ports (⟨UInt16.ofNat ports.next, false⟩ :: asked) r ports'

theorem runs_allocate {ports ports' : Ports} {asked : List (Event probing)}
    {r : Except Failure UInt16} (h : Runs ports.allocate asked (r, ports')) :
    Allocates ports asked r ports' := by
  fun_induction Ports.allocate ports generalizing asked with
  | case1 ports left =>
    rename_i ih
    obtain ⟨isFree, later, rfl, rest⟩ := runs_ask.mp h
    cases isFree with
    | true =>
      obtain ⟨rfl, same⟩ := runs_pure.mp rest
      obtain ⟨rfl, rfl⟩ := Prod.mk.inj same
      exact .free left
    | false => exact .bound left (ih rest)
  | case2 ports =>
    rename_i all
    obtain ⟨rfl, same⟩ := runs_pure.mp h
    cases same
    exact .exhausted (by omega)

theorem allocate_safe (ports : Ports) : ports.allocate.Safe := by
  fun_induction Ports.allocate ports with
  | case1 ports =>
    rename_i ih
    refine .ask fun (isFree : Bool) => ?_
    cases isFree with
    | true => exact .pure _
    | false => exact ih
  | case2 => exact .pure _

theorem Allocates.all_bound {ports ports' : Ports} {asked : List (Event probing)} {e : Failure}
    (search : Allocates ports asked (.error e) ports') : ∀ probe ∈ asked, probe.reply = false := by
  generalize failed : (.error e : Except Failure UInt16) = r at search
  induction search with
  | exhausted => simp
  | free => cases failed
  | bound left later ih => exact List.forall_mem_cons.mpr ⟨rfl, ih failed⟩

theorem Allocates.exhausted_base {ports ports' : Ports} {asked : List (Event probing)} {e : Failure}
    (search : Allocates ports asked (.error e) ports') : ∃ base, e = .portsExhausted base := by
  generalize failed : (.error e : Except Failure UInt16) = r at search
  induction search with
  | exhausted => exact ⟨_, Except.error.inj failed⟩
  | free => cases failed
  | bound left later ih => exact ih failed

end ReloadProbe.Ports
