import ReloadProbe.Proofs.Run.Teardown
import ReloadProbe.Rehearsal.Bench

/-!
What a rehearsal leaves on its bench. Of all that happens, only the deeds of a run change the books
of the bench, so the laws of a teardown are laws of the bench: no file stays, and every broker that
was stopped was waited for.
-/
namespace ReloadProbe

open Interaction Host Rehearsal

/-- The files that there are, and how often brokers were started, stopped and waited for. -/
structure Books where
  files : List Path
  starts : Nat
  terminates : Nat
  waits : Nat

namespace Books

def after (k : Books) : Deed → Books
  | .write file => { k with files := file :: k.files }
  | .remove file => { k with files := k.files.filter (· ≠ file) }
  | .start _ => { k with starts := k.starts + 1 }
  | .terminate => { k with terminates := k.terminates + 1 }
  | .wait => { k with waits := k.waits + 1 }
  | _ => k

structure Tidy (k : Books) : Prop where
  empty : k.files = []
  awaited : k.waits = k.terminates
  within : k.terminates ≤ k.starts

variable {k : Books} {a b : Bool} {run : List Deed}

theorem after_talk (talk : Talk a run b) (k : Books) : run.foldl after k = k := by
  induction talk with
  | nothing => rfl
  | signalled _ ih | opened _ ih | closed _ ih => exact ih

theorem Tidy.whole (tidy : k.Tidy) (whole : Whole run) : (run.foldl after k).Tidy := by
  obtain ⟨empty, awaited, within⟩ := tidy
  cases whole with
  | nothing => exact ⟨empty, awaited, within⟩
  | unstarted file =>
    refine ⟨?_, awaited, Nat.le_succ_of_le within⟩
    simp [after, empty]
  | started file talk =>
    simp only [List.foldl_cons, List.foldl_append, after_talk talk]
    refine ⟨?_, congrArg (· + 1) awaited, Nat.succ_le_succ within⟩
    simp [after, empty]

/-- A run that crashes stops no broker. -/
theorem Tidy.wreck {p : Plan} {events : List (Event host)} (tidy : k.Tidy)
    (wreck : Plan.Wreck p events) : ((deeds events).foldl after k).Tidy := by
  obtain ⟨empty, awaited, within⟩ := tidy
  obtain ⟨file, session, talk, all⟩ := wreck.deeds
  rw [all]
  simp only [List.foldl_cons, List.foldl_append, after_talk talk]
  refine ⟨?_, awaited, Nat.le_succ_of_le within⟩
  simp [after, empty]

theorem Tidy.records {records : List (List (Event host))} (tidy : k.Tidy)
    (whole : ∀ record ∈ records, Whole (deeds record)) :
    ((deeds records.flatten).foldl after k).Tidy := by
  induction records generalizing k with
  | nil => exact tidy
  | cons record records ih =>
    obtain ⟨first, others⟩ := List.forall_mem_cons.mp whole
    rw [List.flatten_cons, deeds_append, List.foldl_append]
    exact ih (tidy.whole first) others

end Books

namespace Rehearsal.Bench

def books (b : Bench) : Books where
  files := b.files.map Prod.fst
  starts := b.tally.starts
  terminates := b.tally.terminates
  waits := b.tally.waits

/-- Stated for any instant: the kernel would else compute with the nanoseconds of a sleep. -/
theorem books_clock (b : Bench) (instant : Nat) : { b with clock := instant }.books = b.books := rfl

theorem books_act (b : Bench) (who : Actor) (a : Action) : (b.act who a).books = b.books := by
  unfold act
  split <;> rfl

theorem books_answer (b : Bench) (limit : Nat) : (b.answer limit).books = b.books := by
  induction limit generalizing b with
  | zero => rfl
  | succ limit ih =>
    unfold answer
    split
    · dsimp only
      split
      · rw [ih, books_act]
        rfl
      · split
        · rw [ih, books_act]
          rfl
        · rw [ih]
          rfl
    · rfl

theorem books_net (call : Net.Call) (b : Bench) : (net call b).2.books = b.books := by
  cases call with
  | dial address =>
    cases address with
    | v4 =>
      unfold net
      dsimp only
      split <;> rfl
    | v6 => rfl
  | send => exact books_answer _ _
  | receive deadline room =>
    unfold net
    dsimp only
    split <;> rfl
  | hangUp | now => rfl

theorem books_signal (s : Signal) (b : Bench) : (b.signal s).2.books = b.books := by
  unfold signal
  dsimp only
  split
  · rfl
  split
  · rfl
  split
  · rfl
  cases s <;> exact books_act _ _ _

theorem after_link (k : Books) (e : Event Net.link) :
    (Deed.ofLink? e).toList.foldl Books.after k = k := by
  unfold Deed.ofLink?
  split <;> rfl

/-- A call changes the books by the deed that it is, if it is one. -/
theorem books_serve (call : Call) (b : Bench) :
    (serve call b).2.books =
      (Deed.ofEvent? ⟨call, (serve call b).1⟩).toList.foldl Books.after b.books := by
  cases call with
  | writeConfig directory contents =>
    unfold serve
    dsimp only
    split <;> rfl
  | removeConfig file =>
    simp [serve, books, Deed.ofEvent?, Books.after, List.filter_map, Function.comp_def]
  | start config port =>
    unfold serve start
    dsimp only
    split <;> rfl
  | signal s => exact books_signal s b
  | net call => exact (books_net call b).trans (after_link _ _).symm
  | sleep length => exact books_clock b (b.clock + length.toNanos)
  | newId | probe | exitState | terminate | wait | abandon => rfl

theorem books_run {α : Type} (q : Interaction host α) (b : Bench) :
    (q.run serve b).2.books = (deeds (q.trace serve b)).foldl Books.after b.books := by
  induction q generalizing b with
  | done | crash => rfl
  | ask call next ih =>
    have first := books_serve call b
    have later := ih (serve call b).1 (serve call b).2
    rw [first, ← List.foldl_append] at later
    refine later.trans (congrArg (List.foldl Books.after b.books) ?_)
    cases told : Deed.ofEvent? ⟨call, (serve call b).1⟩ with
    | none => exact (List.filterMap_cons_none told).symm
    | some deed => exact (List.filterMap_cons_some told).symm

/-- Whatever the scripts are, and also if a run crashes, a rehearsal of variants leaves no file, and
waited for each broker that it stopped. -/
theorem tidy_runAll (p : Plan) (ports : Ports) (variants : List Bool) (b : Bench)
    (tidy : b.books.Tidy) : ((p.runAll ports variants).run serve b).2.books.Tidy := by
  rw [books_run]
  cases ended : ((p.runAll ports variants).run serve b).1 with
  | ok report =>
    obtain ⟨records, suite, split⟩ := Plan.runs_runAll (runs_trace ended)
    rw [split]
    exact tidy.records suite.whole
  | error reason =>
    obtain ⟨records, last, suite, split⟩ := Plan.crashes_runAll (crashes_trace ended)
    rw [split, deeds_append, List.foldl_append]
    exact (tidy.records suite.whole).wreck suite.wreck.1

theorem tidy_suite (p : Plan) (scripts : List Script) :
    (p.suite.run serve ({ packets := p.packets, scripts } : Bench)).2.books.Tidy :=
  tidy_runAll p _ _ _ ⟨rfl, rfl, Nat.le_refl 0⟩

end Rehearsal.Bench
end ReloadProbe
