import ReloadProbe.CommandLine.Program
import ReloadProbe.Proofs.Fallible
import ReloadProbe.Proofs.Run.Overdue
import ReloadProbe.Proofs.Run.Packets

/-!
What a suite tells of its variants. Those that ran stand in the report in their order, each with what
its own run came to, and those that were skipped stand after them. The program ends with zero exactly
if all of them ran and passed.
-/
namespace ReloadProbe

open Except (bind_eq_ok mapError_eq_ok eq_ok_get)
open Interaction Host

theorem Outcome.passed_iff {o : Outcome} : o.passed = true ↔ o.result = .ok () := by
  unfold Outcome.passed Outcome.failure?
  cases o.result with
  | ok => simp
  | error e => simp

namespace Report

theorem passed_iff {r : Report} :
    r.passed = true ↔ r.outcomes ≠ [] ∧ r.skipped = [] ∧ ∀ o ∈ r.outcomes, o.result = .ok () := by
  simp only [passed, Bool.and_eq_true, Bool.not_eq_true', List.isEmpty_eq_false_iff,
    List.isEmpty_iff, List.all_eq_true, Outcome.passed_iff, and_assoc]

/-- All of the variants ran, and none failed. -/
def Clears (r : Report) (variants : List Bool) : Prop :=
  r.outcomes.map Outcome.perListenerSettings = variants ∧ ∀ o ∈ r.outcomes, o.result = .ok ()

/-- A report has every variant once and in its place: first those that ran, then those that were
skipped. Where a failure is to end the suite, none but the last that ran failed, and none is skipped
but for its sake; elsewhere none is skipped. -/
structure Accounts (r : Report) (variants : List Bool) (failFast : Bool) : Prop where
  complete : r.outcomes.map Outcome.perListenerSettings ++ r.skipped = variants
  patient : failFast = false → r.skipped = []
  sound : failFast = true → ∀ o ∈ r.outcomes.dropLast, o.result = .ok ()
  cause : r.skipped ≠ [] → ∃ o, r.outcomes.getLast? = some o ∧ o.result ≠ .ok ()

variable {r : Report} {variants : List Bool} {failFast : Bool} {o : Outcome}

/-- A report with one more outcome before the others. -/
theorem Accounts.cons (h : r.Accounts variants failFast)
    (allowed : o.passed = true ∨ failFast = false) :
    Accounts { r with outcomes := o :: r.outcomes } (o.perListenerSettings :: variants)
      failFast := by
  obtain ⟨complete, patient, sound, cause⟩ := h
  refine ⟨?_, patient, ?_, ?_⟩
  · rw [List.map_cons, List.cons_append, complete]
  · intro fast o' member
    -- The new outcome is the last one only if there are no others.
    cases later : r.outcomes with
    | nil =>
      rw [later] at member
      cases member
    | cons next more =>
      have others : r.outcomes ≠ [] := by simp [later]
      rw [List.dropLast_cons_of_ne_nil others] at member
      rcases List.mem_cons.mp member with rfl | within
      · have fine : o'.passed = true := allowed.resolve_right (by simp [fast])
        exact Outcome.passed_iff.mp fine
      · exact sound fast o' within
  · intro left
    obtain ⟨last, found, failed⟩ := cause left
    refine ⟨last, ?_, failed⟩
    rw [List.getLast?_cons, found]
    rfl

/-- Without a variant there would be nothing to pass, and nothing to fail. -/
theorem Accounts.passed_iff (h : r.Accounts variants failFast) (asked : variants ≠ []) :
    r.passed = true ↔ r.Clears variants := by
  rw [Report.passed_iff, Clears]
  have complete := h.complete
  constructor
  · rintro ⟨_, kept, fine⟩
    rw [kept, List.append_nil] at complete
    exact ⟨complete, fine⟩
  · rintro ⟨all, fine⟩
    refine ⟨?_, ?_, fine⟩
    · intro empty
      rw [empty] at all
      exact asked all.symm
    · rw [all] at complete
      exact List.append_right_eq_self.mp complete

end Report

namespace Plan

variable {p : Plan} {ports ports' : Ports} {variant : Bool} {variants : List Bool}
  {events : List (Event host)} {outcome : Outcome} {report : Report}

theorem ofSettings_eq_ok {s : Config.Settings} (h : ofSettings s = .ok p) :
    s.validate = .ok () ∧ p.settings = s := by
  obtain ⟨_, checked, more⟩ := bind_eq_ok.mp h
  obtain ⟨version, _, more⟩ := bind_eq_ok.mp more
  obtain ⟨packets, _, made⟩ := bind_eq_ok.mp more
  cases made
  exact ⟨mapError_eq_ok.mp checked, rfl⟩

theorem run_variant (h : Runs (p.run ports variant) events (outcome, ports')) :
    outcome.perListenerSettings = variant := by
  obtain ⟨_, _, _, _, timed, _, performs, _, rfl⟩ := runs_run h
  cases performs with
  | portless | unwritten | driven => rfl

/-- A record is that of a run, with the variant that its outcome names. -/
def Came (p : Plan) (record : List (Event host)) (o : Outcome) : Prop :=
  ∃ ports ports', Runs (p.run ports o.perListenerSettings) record (o, ports')

theorem Came.of_run (h : Runs (p.run ports variant) events (outcome, ports')) :
    p.Came events outcome := by
  obtain rfl := run_variant h
  exact ⟨ports, ports', h⟩

theorem Suites.accounts {records : List (List (Event host))}
    (suite : Suites p ports variants records report) :
    report.Accounts variants p.settings.failFast := by
  -- A suite takes one variant at a time, and what is left of it accounts for the rest.
  induction suite with
  | finished =>
    refine ⟨rfl, fun _ => rfl, ?_, fun left => absurd rfl left⟩
    intro _ o member
    cases member
  | skipped run failed fast =>
    obtain rfl := run_variant run
    refine ⟨rfl, ?_, ?_, ?_⟩
    · intro slow
      cases fast.symm.trans slow
    · intro _ o member
      cases member
    · intro _
      refine ⟨_, rfl, ?_⟩
      intro fine
      cases failed.symm.trans (Outcome.passed_iff.mpr fine)
  | followed run allowed _ ih =>
    obtain rfl := run_variant run
    exact ih.cons allowed

theorem Suites.came {records : List (List (Event host))}
    (suite : Suites p ports variants records report) :
    List.Forall₂ p.Came records report.outcomes := by
  induction suite with
  | finished => exact .nil
  | skipped run => exact .cons (.of_run run) .nil
  | followed run _ _ ih => exact .cons (.of_run run) ih

theorem suite_accounts {s : Config.Settings} (made : ofSettings s = .ok p)
    (h : Runs p.suite events report) : report.Accounts s.variants s.failFast := by
  obtain ⟨_, rfl⟩ := ofSettings_eq_ok made
  obtain ⟨records, suite, _⟩ := runs_runAll h
  exact suite.accounts

theorem suite_passed_iff {s : Config.Settings} (made : ofSettings s = .ok p)
    (h : Runs p.suite events report) : report.passed = true ↔ report.Clears s.variants := by
  obtain ⟨valid, _⟩ := ofSettings_eq_ok made
  exact (suite_accounts made h).passed_iff (Config.Settings.valid_of_validate valid).variants

end Plan

namespace CommandLine

variable {read : Path → Except String Bytes} {arguments : List String} {o : Options} {p : Plan}
  {events : List (Event host)} {ending : Ending}

theorem prepare_eq_ok (h : prepare read arguments = .ok (o, p)) :
    ∃ s, o.settings read = .ok s ∧ Plan.ofSettings s = .ok p := by
  obtain ⟨o', _, more⟩ := bind_eq_ok.mp h
  obtain ⟨p', planned, made⟩ := bind_eq_ok.mp more
  cases made
  obtain ⟨s, set, packed⟩ := bind_eq_ok.mp (mapError_eq_ok.mp planned)
  exact ⟨s, set, mapError_eq_ok.mp packed⟩

theorem Options.code_ending (o : Options) (r : Report) :
    (o.ending r).code = if r.passed then 0 else 1 := rfl

theorem runs_perform (h : Runs (perform o p) events ending) :
    ∃ report, Runs p.suite events report ∧ ending = o.ending report := by
  obtain ⟨before, after, report, rfl, suite, told⟩ := runs_seq.mp h
  obtain ⟨rfl, rfl⟩ := runs_pure.mp told
  exact ⟨report, by rwa [List.append_nil], rfl⟩

theorem crashes_perform {reason : String} (h : Crashes (perform o p) events reason) :
    reason = Net.overflow ∧
      ∃ instant : Nat, atLink ⟨Net.Call.now, instant⟩ ∈ events ∧ p.Overdue instant := by
  rcases crashes_seq.mp h with suite | ⟨_, _, _, _, _, told⟩
  · obtain ⟨records, last, aborts, rfl⟩ := Plan.crashes_runAll suite
    obtain ⟨wreck, told⟩ := aborts.wreck
    obtain ⟨instant, looked, overdue⟩ := wreck.overdue
    exact ⟨told, instant, List.mem_append_right _ looked, overdue⟩
  · cases told

theorem ends_or_crashes {σ : Type} (world : (c : host.Call) → σ → host.Reply c × σ) (state : σ) :
    (∃ ending, ((perform o p).run world state).1 = .ok ending ∧
      Runs (perform o p) ((perform o p).trace world state) ending) ∨
    (((perform o p).run world state).1 = .error Net.overflow ∧
      ∃ instant : Nat, atLink ⟨Net.Call.now, instant⟩ ∈ (perform o p).trace world state ∧
        p.Overdue instant) := by
  cases ended : ((perform o p).run world state).1 with
  | ok ending => exact .inl ⟨ending, rfl, runs_trace ended⟩
  | error reason =>
    obtain ⟨rfl, overdue⟩ := crashes_perform (crashes_trace ended)
    exact .inr ⟨rfl, overdue⟩

/-- A report accounts for all variants of the settings, each with the outcome of its own run, and
passes if all of them ran and none failed. A command line that has a plan ends in every world in
which the times of the plan have deadlines; its status is zero if all variants that it asks for ran
and none failed, and one otherwise. -/
theorem perform_accounts :
    (∀ (s : Config.Settings) (p : Plan) (events : List (Event host)) (report : Report),
      Plan.ofSettings s = .ok p → Runs p.suite events report →
        report.Accounts s.variants s.failFast ∧
        (report.passed = true ↔ report.Clears s.variants) ∧
        ∃ records, events = records.flatten ∧ List.Forall₂ p.Came records report.outcomes) ∧
    ∀ (read : Path → Except String Bytes) (arguments : List String) (o : Options) (p : Plan),
      prepare read arguments = .ok (o, p) →
        ∃ s, o.settings read = .ok s ∧ Plan.ofSettings s = .ok p ∧
        (∀ {σ : Type} (world : (c : host.Call) → σ → host.Reply c × σ) (state : σ),
          (∃ ending, ((perform o p).run world state).1 = .ok ending ∧
            Runs (perform o p) ((perform o p).trace world state) ending) ∨
          (((perform o p).run world state).1 = .error Net.overflow ∧
            ∃ instant : Nat, atLink ⟨Net.Call.now, instant⟩ ∈ (perform o p).trace world state ∧
              p.Overdue instant)) ∧
        ∀ events ending, Runs (perform o p) events ending →
          ∃ report, Runs p.suite events report ∧ ending = o.ending report ∧
            (ending.code = 0 ↔ report.Clears s.variants) ∧
            (ending.code = 1 ↔ ¬ report.Clears s.variants) := by
  constructor
  · intro s p events report made h
    obtain ⟨records, suite, split⟩ := Plan.runs_runAll h
    exact ⟨Plan.suite_accounts made h, Plan.suite_passed_iff made h, records, split, suite.came⟩
  · intro read arguments o p prepared
    obtain ⟨s, set, made⟩ := prepare_eq_ok prepared
    refine ⟨s, set, made, ends_or_crashes, ?_⟩
    intro events ending h
    obtain ⟨report, suite, rfl⟩ := runs_perform h
    have cleared := Plan.suite_passed_iff made suite
    refine ⟨report, suite, rfl, ?_, ?_⟩
    · rw [← cleared, Options.code_ending]
      cases report.passed <;> simp
    · rw [← cleared, Options.code_ending]
      cases report.passed <;> simp

/-- A command line without a file, for a suite of one variant. -/
def single : Options × Plan :=
  (prepare (fun _ => .error "") ["--variant", "true"]).toOption.get (by decide +kernel)

theorem prepare_single : prepare (fun _ => .error "") ["--variant", "true"] = .ok single :=
  eq_ok_get _

theorem perform_accounts_single :
    ∃ s events ending report, single.1.settings (fun _ => .error "") = .ok s ∧
      Runs (perform single.1 single.2) events ending ∧ ending.code = 0 ∧
      Runs single.2.suite events report ∧ report.Clears s.variants ∧
      report.Accounts s.variants s.failFast := by
  let program := perform single.1 single.2
  let world := Plan.obliging .ended
  obtain ⟨ended, status⟩ : ∃ ended : (program.run world single.2.script).1.toOption.isSome,
      ((program.run world single.2.script).1.toOption.get ended).code = 0 :=
    ⟨by decide +kernel, by decide +kernel⟩
  have h := runs_ended world program single.2.script ended
  obtain ⟨accounts, tells⟩ := perform_accounts
  obtain ⟨s, set, made, _, ends⟩ := tells _ _ single.1 single.2 prepare_single
  obtain ⟨report, suite, _, zero, _⟩ := ends _ _ h
  exact ⟨s, _, _, report, set, h, status, suite, zero.mp status, (accounts s _ _ _ made suite).1⟩

end CommandLine
end ReloadProbe
