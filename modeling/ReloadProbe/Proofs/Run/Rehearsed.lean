import ReloadProbe.Proofs.Run.Account
import ReloadProbe.Rehearsal.Suite

/-!
The whole program, rehearsed: whatever the machine, its files and the arguments, what it ends with is
said by the settings that the arguments ask for and by what their variants came to.
-/
namespace ReloadProbe.Rehearsal

open CommandLine Interaction

variable {machine : Machine} {read : Path → Except String Bytes} {arguments : List String}
  {ending : Ending} {o : Options} {p : Plan}

theorem rehearse_unprepared (refused : prepare read arguments = .error ending) :
    rehearse machine read arguments = ending := by
  simp only [rehearse, refused]

/-- The report that ends a rehearsal accounts for all variants, and the status is zero if all of them
ran and passed; but a rehearsal crashes where a time that the plan allows has no deadline. -/
theorem rehearse_prepared (prepared : prepare read arguments = .ok (o, p)) :
    (∃ s report, o.settings read = .ok s ∧ report.Accounts s.variants s.failFast ∧
      rehearse machine read arguments = o.ending report ∧
      ((o.ending report).code = 0 ↔ report.Clears s.variants)) ∨
    (∃ instant, p.Overdue instant) ∧
      rehearse machine read arguments = crashed Net.overflow := by
  let site : Site :=
    { parent := { machine }, command := p.settings.broker
      grace := p.settings.timeouts.shutdownGrace }
  rcases ends_or_crashes Site.serve site with ⟨ending, ended, run⟩ | ⟨ended, instant, _, overdue⟩
  · obtain ⟨s, set, made⟩ := prepare_eq_ok prepared
    obtain ⟨report, suite, rfl⟩ := runs_perform run
    refine .inl ⟨s, report, set, Plan.suite_accounts made suite, ?_, ?_⟩
    · simp only [rehearse, prepared, site] at ended ⊢
      rw [ended]
    · rw [← Plan.suite_passed_iff made suite, Options.code_ending]
      cases report.passed <;> simp
  · refine .inr ⟨⟨instant, overdue⟩, ?_⟩
    simp only [rehearse, prepared, site] at ended ⊢
    rw [ended]

end ReloadProbe.Rehearsal
