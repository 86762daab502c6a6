import ReloadProbe.Proofs.Runs
import ReloadProbe.Run.Plan

/-! The course of a suite: one run after the other, each with its own record. -/
namespace ReloadProbe.Plan

open Interaction Host

/-- Runs of variants in their order, with the record of each. After a failure the others are skipped
if the settings want that. -/
inductive Suites (p : Plan) : Ports → List Bool → List (List (Event host)) → Report → Prop where
  | finished {ports : Ports} : Suites p ports [] [] {}
  | skipped {ports ports' : Ports} {variant : Bool} {more : List Bool}
      {record : List (Event host)} {outcome : Outcome}
      (run : Runs (p.run ports variant) record (outcome, ports'))
      (failed : outcome.passed = false) (fast : p.settings.failFast = true) :
      Suites p ports (variant :: more) [record] { outcomes := [outcome], skipped := more }
  | followed {ports ports' : Ports} {variant : Bool} {more : List Bool}
      {record : List (Event host)} {outcome : Outcome} {records : List (List (Event host))}
      {report : Report} (run : Runs (p.run ports variant) record (outcome, ports'))
      (allowed : outcome.passed = true ∨ p.settings.failFast = false)
      (later : Suites p ports' more records report) :
      Suites p ports (variant :: more) (record :: records)
        { report with outcomes := outcome :: report.outcomes }

/-- Runs of variants in their order, with the record of each, and the record of one that crashes. -/
inductive Aborts (p : Plan) : Ports → List Bool → List (List (Event host)) → List (Event host) →
    String → Prop where
  | crashed {ports : Ports} {variant : Bool} {more : List Bool} {last : List (Event host)}
      {reason : String} (crash : Crashes (p.run ports variant) last reason) :
      Aborts p ports (variant :: more) [] last reason
  | followed {ports ports' : Ports} {variant : Bool} {more : List Bool}
      {record last : List (Event host)} {outcome : Outcome} {records : List (List (Event host))}
      {reason : String} (run : Runs (p.run ports variant) record (outcome, ports'))
      (allowed : outcome.passed = true ∨ p.settings.failFast = false)
      (later : Aborts p ports' more records last reason) :
      Aborts p ports (variant :: more) (record :: records) last reason

theorem allowed_of_goes_on {outcome : Outcome} {failFast : Bool}
    (on : ¬ (!outcome.passed && failFast) = true) :
    outcome.passed = true ∨ failFast = false := by
  cases passed : outcome.passed <;> simp_all

theorem runs_runAll {p : Plan} {ports : Ports} {variants : List Bool}
    {events : List (Event host)} {report : Report}
    (h : Runs (p.runAll ports variants) events report) :
    ∃ records, Suites p ports variants records report ∧ events = records.flatten := by
  induction variants generalizing ports events report with
  | nil =>
    obtain ⟨rfl, rfl⟩ := runs_pure.mp h
    exact ⟨[], .finished, rfl⟩
  | cons variant more ih =>
    obtain ⟨record, after, ⟨outcome, left⟩, rfl, run, rest⟩ := runs_seq.mp h
    dsimp only at rest
    split at rest
    · rename_i stop
      obtain ⟨failed, fast⟩ := Bool.and_eq_true_iff.mp stop
      obtain ⟨rfl, rfl⟩ := runs_pure.mp rest
      exact ⟨[record], .skipped run (by simpa using failed) fast, by simp⟩
    · rename_i allowed
      obtain ⟨following, last, report, rfl, others, ended⟩ := runs_seq.mp rest
      obtain ⟨rfl, rfl⟩ := runs_pure.mp ended
      obtain ⟨records, suite, rfl⟩ := ih others
      exact ⟨record :: records, .followed run (allowed_of_goes_on allowed) suite, by simp⟩

theorem crashes_runAll {p : Plan} {ports : Ports} {variants : List Bool}
    {events : List (Event host)} {reason : String}
    (h : Crashes (p.runAll ports variants) events reason) :
    ∃ records last, Aborts p ports variants records last reason ∧
      events = records.flatten ++ last := by
  induction variants generalizing ports events with
  | nil => cases h
  | cons variant more ih =>
    rcases crashes_seq.mp h with crash | ⟨record, after, ⟨outcome, left⟩, rfl, run, rest⟩
    · exact ⟨[], events, .crashed crash, rfl⟩
    · dsimp only at rest
      split at rest
      · cases rest
      · rename_i allowed
        rcases crashes_seq.mp rest with others | ⟨_, _, _, _, _, ended⟩
        · obtain ⟨records, last, suite, rfl⟩ := ih others
          exact ⟨record :: records, last, .followed run (allowed_of_goes_on allowed) suite, by simp⟩
        · cases ended

end ReloadProbe.Plan
