import ReloadProbe.Proofs.Run.Indifference
import ReloadProbe.Proofs.Run.Overdue

/-!
A run that comes to a result leaves nothing behind, wherever it fails, and a suite starts no broker
before all of the runs that precede it are over. A run that crashes drops what it has, and stops no
broker.
-/
namespace ReloadProbe

open Interaction Host Net

variable {before after : List Deed} {ok : Bool}

/-- Nothing precedes a start but the file that it is made with. -/
def StartsOnce (run : List Deed) : Prop :=
  ∀ before ok after, run = before ++ .start ok :: after → ∃ file, before = [.write file]

theorem startsOnce_of_not_mem {file : Path} {rest : List Deed}
    (once : ∀ ok, .start ok ∉ rest) : StartsOnce (.write file :: .start ok :: rest) := by
  intro before again after split
  match before with
  | [] => cases split
  | [_] =>
    cases split
    exact ⟨file, rfl⟩
  | _ :: _ :: before =>
    have later : rest = before ++ .start again :: after :=
      (List.cons.inj (List.cons.inj split).2).2
    exact absurd (by simp [later]) (once again)

theorem Whole.startsOnce {run : List Deed} (whole : Whole run) : StartsOnce run := by
  cases whole with
  | nothing =>
    intro before ok after split
    simp at split
  | unstarted file => exact startsOnce_of_not_mem (by simp)
  | started file talk =>
    exact startsOnce_of_not_mem fun ok => by simp [talk.start_not_mem]

theorem Whole.terminate_mem {run : List Deed} (whole : Whole run) (started : .start true ∈ run) :
    .terminate ∈ run := by
  cases whole with
  | nothing => cases started
  | unstarted => simp at started
  | started => simp

theorem before_start {runs : List (List Deed)} (each : ∀ run ∈ runs, StartsOnce run)
    (split : runs.flatten = before ++ .start ok :: after) :
    ∃ n < runs.length, ∃ file, before = (runs.take n).flatten ++ [.write file] := by
  induction runs generalizing before with
  | nil => simp at split
  | cons run runs ih =>
    obtain ⟨here, others⟩ := List.forall_mem_cons.mp each
    rw [List.flatten_cons] at split
    rcases List.append_eq_append_iff.mp split with ⟨more, rfl, rest⟩ | ⟨more, own, rest⟩
    · obtain ⟨n, few, file, rfl⟩ := ih others rest
      exact ⟨n + 1, Nat.succ_lt_succ few, file, by simp⟩
    · cases more with
      | nil =>
        have first : runs.flatten = [] ++ .start ok :: after := rest.symm
        obtain ⟨n, _, file, unmade⟩ := ih others first
        simp at unmade
      | cons first more =>
        obtain ⟨rfl, _⟩ := List.cons.inj rest
        obtain ⟨file, rfl⟩ := here _ _ _ own
        exact ⟨0, Nat.succ_pos _, file, rfl⟩

/-- The same of the records of runs. -/
theorem deeds_before_start {records : List (List (Event host))}
    (each : ∀ record ∈ records, StartsOnce (deeds record))
    (split : deeds records.flatten = before ++ .start ok :: after) :
    ∃ n < records.length, ∃ file, before = deeds (records.take n).flatten ++ [.write file] := by
  have apart (runs : List (List (Event host))) : deeds runs.flatten = (runs.map deeds).flatten :=
    List.filterMap_flatten
  rw [apart] at split
  obtain ⟨n, few, file, rfl⟩ := before_start (List.forall_mem_map.mpr each) split
  exact ⟨n, by simpa using few, file, by rw [apart, List.map_take]⟩

namespace Plan

variable {p : Plan} {ports : Ports} {variants : List Bool} {records : List (List (Event host))}
  {events last : List (Event host)} {report : Report} {reason : String}

theorem Wreck.deeds (wreck : Wreck p events) :
    ∃ file session, Talk false session true ∧ deeds events =
      .write file :: .start true :: (session ++ [.closed, .abandon, .remove file]) := by
  obtain ⟨file, instant, gone, held, talk, _⟩ := wreck
  exact ⟨file, _, talk, by rw [deeds_append, held]; rfl⟩

theorem Wreck.startsOnce (wreck : Wreck p events) : StartsOnce (ReloadProbe.deeds events) := by
  obtain ⟨file, session, talk, all⟩ := wreck.deeds
  rw [all]
  exact startsOnce_of_not_mem fun ok => by simp [talk.start_not_mem]

theorem Suites.whole (suite : Suites p ports variants records report) :
    ∀ record ∈ records, Whole (deeds record) := by
  induction suite with
  | finished => simp
  | skipped run => simpa using run_whole run
  | followed run _ _ ih => exact List.forall_mem_cons.mpr ⟨run_whole run, ih⟩

theorem Aborts.whole (suite : Aborts p ports variants records last reason) :
    ∀ record ∈ records, Whole (deeds record) := by
  induction suite with
  | crashed => simp
  | followed run _ _ ih => exact List.forall_mem_cons.mpr ⟨run_whole run, ih⟩

/-- Whatever fails, a run that comes to a result undoes what it did: a broker that was started is
stopped and waited for once, after its last signal and without a connection, a file that was written
is removed once, after that, and nothing else is. The reply to the removal makes no difference. A run
that crashes, for want of a deadline, drops its connection, its broker and its file. In a suite each
run is over before the next: what precedes a start is all of some runs and the file of the new
one. -/
theorem run_tears_down (p : Plan) :
    (∀ (ports ports' : Ports) (variant : Bool) (events : List (Event host)) (outcome : Outcome),
      Runs (p.run ports variant) events (outcome, ports') →
        Whole (deeds events) ∧
        ∀ early late file reply other, events = early ++ ⟨Call.removeConfig file, reply⟩ :: late →
          Runs (p.run ports variant) (early ++ ⟨Call.removeConfig file, other⟩ :: late)
            (outcome, ports')) ∧
    (∀ (ports : Ports) (variant : Bool) (events : List (Event host)) (reason : String),
      Crashes (p.run ports variant) events reason → Wreck p events ∧ reason = overflow) ∧
    (∀ (ports : Ports) (variants : List Bool) (events : List (Event host)) (report : Report),
      Runs (p.runAll ports variants) events report →
        ∃ records, Suites p ports variants records report ∧ events = records.flatten ∧
          (∀ record ∈ records, Whole (deeds record)) ∧
          ∀ before ok after, deeds events = before ++ .start ok :: after →
            ∃ n < records.length, ∃ file,
              before = deeds (records.take n).flatten ++ [.write file]) ∧
    ∀ (ports : Ports) (variants : List Bool) (events : List (Event host)) (reason : String),
      Crashes (p.runAll ports variants) events reason →
        ∃ records last, Aborts p ports variants records last reason ∧
          events = records.flatten ++ last ∧ (∀ record ∈ records, Whole (deeds record)) ∧
          Wreck p last ∧ reason = overflow ∧
          ∀ before ok after, deeds events = before ++ .start ok :: after →
            ∃ n ≤ records.length, ∃ file,
              before = deeds (records.take n).flatten ++ [.write file] := by
  refine ⟨?_, fun _ _ _ _ crash => crashes_run crash, ?_, ?_⟩
  · intro ports ports' variant events outcome h
    refine ⟨run_whole h, ?_⟩
    rintro early late file reply other rfl
    have removal : removes (.removeConfig file) := trivial
    exact (p.ignores_run ports variant).runs removal h other
  · intro ports variants events report h
    obtain ⟨records, suite, rfl⟩ := runs_runAll h
    refine ⟨records, suite, rfl, suite.whole, fun before ok after split => ?_⟩
    exact deeds_before_start (fun record member => (suite.whole record member).startsOnce) split
  · intro ports variants events reason h
    obtain ⟨records, last, suite, rfl⟩ := crashes_runAll h
    obtain ⟨wreck, told⟩ := suite.wreck
    refine ⟨records, last, suite, rfl, suite.whole, wreck, told, fun before ok after split => ?_⟩
    have each : ∀ record ∈ records ++ [last], StartsOnce (deeds record) := by
      refine List.forall_mem_append.mpr ⟨fun record member => ?_, by simpa using wreck.startsOnce⟩
      exact (suite.whole record member).startsOnce
    obtain ⟨n, few, file, rfl⟩ := deeds_before_start each (by simpa using split)
    have within : n ≤ records.length := by simpa [Nat.lt_succ_iff] using few
    exact ⟨n, within, file, by rw [List.take_append_of_le_length within]⟩

/-- The broker serves the first of two runs and leaves the second at once; and a run passes though
its file stays. -/
theorem run_tears_down_standard :
    (∃ events report, Runs (standard.runAll (.new 1888) [false, true]) events report ∧
      deeds events =
        [.write (.ofText "broker.conf"), .start true, .opened, .signal, .closed, .terminate, .wait,
          .remove (.ofText "broker.conf"),
          .write (.ofText "broker.conf"), .start true, .opened, .closed, .terminate, .wait,
          .remove (.ofText "broker.conf")] ∧
      ∃ records : List (List (Event host)), events = records.flatten ∧
        ∀ record ∈ records, Whole (deeds record)) ∧
    ∃ early late outcome ports',
      Runs (standard.run (.new 1888) false)
        (early ++ ⟨Call.removeConfig (.ofText "broker.conf"), .error "busy"⟩ :: late)
        (outcome, ports') ∧ outcome.result = .ok () := by
  constructor
  · let runs := standard.runAll (.new 1888) [false, true]
    let events := runs.trace (obliging .ended) standard.script
    have h := runs_ended (obliging .ended) runs standard.script (by decide +kernel)
    obtain ⟨_, _, suites, _⟩ := run_tears_down standard
    obtain ⟨records, _, split, whole, _⟩ := suites _ _ _ _ h
    exact ⟨events, _, h, by decide +kernel, records, split, whole⟩
  · let run := standard.run (.new 1888) false
    let events := run.trace (obliging .ended) standard.script
    have h := runs_ended (obliging .ended) run standard.script (by decide +kernel)
    have removal : .remove (.ofText "broker.conf") ∈ deeds events := by decide +kernel
    obtain ⟨early, reply, late, split⟩ := exists_removal removal
    obtain ⟨_, same⟩ := (run_tears_down standard).1 _ _ _ _ _ h
    exact ⟨_, _, _, _, same _ _ _ _ (.error "busy") split, by decide +kernel⟩

/-- A broker that was started may not be told to stop, nor waited for: here the time for its
notification is longer than the clock can tell. -/
theorem run_not_torn_down :
    ofSettings endless = .ok endlessPlan ∧
    ∃ events, Crashes (endlessPlan.run (.new 1888) false) events overflow ∧
      deeds events = [.write (.ofText "broker.conf"), .start true, .opened, .signal, .closed,
        .abandon, .remove (.ofText "broker.conf")] ∧
      ¬ Whole (deeds events) := by
  let run := endlessPlan.run (.new 1888) false
  have all : deeds (run.trace (obliging .ended) endlessPlan.script) =
      [.write (.ofText "broker.conf"), .start true, .opened, .signal, .closed, .abandon,
        .remove (.ofText "broker.conf")] := by decide +kernel
  refine ⟨endless_made, _, crashes_trace endless_ended, all, fun whole => ?_⟩
  rw [all] at whole
  have stopped := whole.terminate_mem (by decide)
  revert stopped
  decide

end Plan
end ReloadProbe
