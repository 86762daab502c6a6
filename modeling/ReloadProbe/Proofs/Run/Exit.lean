import ReloadProbe.Proofs.Run.Custody
import ReloadProbe.Proofs.Run.Delivery
import ReloadProbe.Proofs.Run.Failures

/-!
What a run says of the end of its broker. A failure that may come from it is looked into, and told as
such if the broker did end; one that cannot come from it is told as it is.
-/
namespace ReloadProbe.Plan

open Interaction Host Net

variable {p : Plan} {ports ports' : Ports} {variant : Bool} {s : Scenario} {config : Path}
  {events driving judging : List (Event host)} {outcome : Outcome} {progress : Progress}
  {r : Except Failure Unit}

/-- A run whose broker was started: what led to the start, what was done from there on, the look at
the broker after a failure, and the teardown. -/
structure Parts (p : Plan) (s : Scenario) (config : Path) (events : List (Event host))
    (outcome : Outcome) (progress : Progress) (driving judging : List (Event host)) : Prop where
  driven : Runs (p.drive s config) driving progress
  started : progress.started = true
  judged : Runs (verdict progress) judging outcome.result
  whole : ∃ entry torn ended left,
    Runs (tearDown progress { path := config }) torn (outcome.output, left) ∧
    events = entry ++ (driving ++ (judging ++ (torn ++ [atLink ⟨Net.Call.now, ended⟩])))

theorem perform_parts {id : String} (h : Runs (p.perform id ports variant) events (outcome, ports')) :
    deeds events = [] ∨ ∃ s config progress entry driving judging torn left,
      Runs (p.drive s config) driving progress ∧ Runs (verdict progress) judging outcome.result ∧
      Runs (tearDown progress { path := config }) torn (outcome.output, left) ∧
      events = entry ++ (driving ++ (judging ++ torn)) ∧ deeds entry = [.write config] := by
  obtain ⟨before, after, ⟨given, left⟩, rfl, asking, more⟩ := runs_seq.mp h
  obtain ⟨asked, rfl, search⟩ := runs_allocate asking
  cases given with
  | error e =>
    obtain ⟨rfl, same⟩ := runs_pure.mp more
    exact .inl (by rw [List.append_nil, deeds_probed])
  | ok port =>
    obtain ⟨writes, later, reply, rfl, written, rest⟩ := runs_seq.mp more
    obtain ⟨own, rfl, wrote⟩ := runs_disk written
    obtain ⟨place, rfl, rfl⟩ := ConfigFile.runs_write wrote
    cases place with
    | error source =>
      obtain ⟨rfl, same⟩ := runs_pure.mp rest
      exact .inl (by rw [deeds_append, deeds_probed]; rfl)
    | ok config =>
      obtain ⟨driving, judged, progress, rfl, drive, judges⟩ := runs_seq.mp rest
      obtain ⟨judging, torn, r, rfl, judge, tearing⟩ := runs_seq.mp judges
      obtain ⟨tears, last, ⟨output, left⟩, rfl, tear, ended⟩ := runs_seq.mp tearing
      obtain ⟨_, _, _, gone⟩ := runs_tearDown rfl tear
      obtain ⟨dropped, nothing, ⟨⟩, rfl, dropping, told⟩ := runs_seq.mp ended
      obtain rfl := dropped_nothing gone dropping
      obtain ⟨rfl, same⟩ := runs_pure.mp told
      cases same
      refine .inr ⟨_, config, progress,
        asked.map probed ++ [p.writing variant port (.ok config)], driving, judging, tears, left,
        runs_unwinding.mp drive, judge, tear, ?_, p.deeds_entry asked variant port config []⟩
      simp [writing, onDisk]

theorem tearDown_start_not_mem {torn : List (Event host)} {output : Option Output}
    {left : ConfigFile} (h : Runs (tearDown progress { path := config }) torn (output, left))
    (ok : Bool) : .start ok ∉ deeds torn := by
  obtain ⟨removed, rfl, _⟩ := runs_tearDown rfl h
  exact leaving_start_not_mem progress config output removed ok

theorem run_parts (h : Runs (p.run ports variant) events (outcome, ports'))
    (started : .start true ∈ deeds events) :
    ∃ s config progress driving judging,
      Parts p s config events outcome progress driving judging := by
  obtain ⟨id, begun, ended, performed, timed, elapsed, performing, rfl, rfl⟩ := runs_timed h
  rw [deeds_timed] at started
  rcases perform_parts performing with idle |
    ⟨s, config, progress, entry, driving, judging, torn, left, drive, judge, tear, rfl, wrote⟩
  · rw [idle] at started
    cases started
  · refine ⟨s, config, progress, driving, judging, drive, ?_, judge,
      ⟨Call.newId, id⟩ :: atLink ⟨Net.Call.now, begun⟩ :: entry, torn, ended, left, tear, by simp⟩
    rcases (runs_drive drive).deeds with ⟨failed, _⟩ | ⟨_, _, running, _⟩
    · simp [wrote, failed, (runs_verdict judge).deeds, tearDown_start_not_mem tear] at started
    · exact running

theorem Classifies.of_exit {e e' : Failure} {exit : ExitState}
    (told : Classifies e events e') (found : exit ∈ exits events) : e' = .exitedEarly exit := by
  cases told with
  | shown => cases found
  | looked hides reply =>
    have still : exits (pause e.lostConnection) = [] := by cases e.lostConnection <;> rfl
    rw [exits_append, still, List.nil_append] at found
    rcases reply with fault | _ | exit
    · cases found
    · cases found
    · obtain rfl := List.mem_singleton.mp found
      rfl

theorem Classifies.of_settled {e e' : Failure} (told : Classifies e events e')
    (settled : e.isSettled = true) : e' = e := by
  cases told with
  | shown => rfl
  | looked hides => cases hides.symm.trans (Failure.not_mayHideExit_of_isSettled settled)

/-- The end of a broker is told if it was told already, or if a look at the broker found it. -/
theorem Classifies.exited {e e' : Failure} {exit : ExitState} (told : Classifies e events e')
    (exited : e' = .exitedEarly exit) :
    e = .exitedEarly exit ∨ e.isSettled = false ∧ exit ∈ exits events := by
  cases told with
  | shown => exact .inl exited
  | looked hides reply =>
    rcases reply with fault | _ | found
    · exact .inl exited
    · exact .inl exited
    · cases exited
      refine .inr ⟨?_, ?_⟩
      · cases settled : e.isSettled with
        | false => rfl
        | true => cases hides.symm.trans (Failure.not_mayHideExit_of_isSettled settled)
      · rw [exits_append]
        exact List.mem_append_right _ List.mem_cons_self

/-- What a run says of its broker is what was seen of it, in the session and in the look after it. -/
structure Faithful (s : Scenario) (progress : Progress) (driving judging : List (Event host))
    (result : Except Failure Unit) : Prop where
  exited : ∀ exit, result = .error (.exitedEarly exit) ↔ SeenEnded s exit driving ∨
    (∃ e, progress.result = .error e ∧ e.isSettled = false) ∧ exit ∈ exits judging
  looked : ∀ e, progress.result = .error e → e.isSettled = false →
    ∃ reply, ⟨Call.exitState, reply⟩ ∈ judging
  found : ∀ exit ∈ exits judging, result = .error (.exitedEarly exit)
  mismatched : ∀ e, progress.result = .error e → e.isMismatch = true → result = .error e
  passed : progress.result = .ok () → result = .ok ()

theorem faithful (drive : Drives p s config driving progress) (told : Judges progress judging r)
    (candid : ∀ e ∈ driving, Candid e) (started : progress.started = true) :
    Faithful s progress driving judging r := by
  cases told with
  | passed fine =>
    refine ⟨?_, ?_, ?_, ?_, fun _ => rfl⟩
    · intro exit
      constructor
      · nofun
      · rintro (seen | ⟨_, found⟩)
        · cases fine.symm.trans (drive.of_exit seen.mem_exits)
        · cases found
    · intro e failed
      cases fine.symm.trans failed
    · nofun
    · intro e failed
      cases fine.symm.trans failed
  | unstarted _ without => cases started.symm.trans without
  | @failed e e' judging failed _ told =>
    obtain ⟨kind, own⟩ := drive.fails candid started failed
    have only {e₁ : Failure} (same : progress.result = .error e₁) : e₁ = e :=
      Except.error.inj (same.symm.trans failed)
    refine ⟨?_, ?_, ?_, ?_, ?_⟩
    · intro exit
      constructor
      · intro same
        rcases told.exited (Except.error.inj same) with rfl | ⟨unsettled, found⟩
        · exact .inl (own exit rfl)
        · exact .inr ⟨⟨e, failed, unsettled⟩, found⟩
      · rintro (seen | ⟨_, found⟩)
        · obtain rfl := only (drive.of_exit seen.mem_exits)
          rw [told.of_settled rfl]
        · rw [told.of_exit found]
    · intro e₁ same unsettled
      obtain rfl := only same
      rcases kind with hides | settled
      · cases told with
        | shown plain => cases hides.symm.trans plain
        | looked _ reply => exact ⟨reply, by simp⟩
      · cases settled.symm.trans unsettled
    · intro exit found
      rw [told.of_exit found]
    · intro e₁ same mismatch
      obtain rfl := only same
      rw [told.of_settled (Failure.isSettled_of_isMismatch mismatch)]
    · intro fine
      cases fine.symm.trans failed

/-- A broker that is a process fails candidly; and whatever else happens to a run whose broker was
started, its end is told if it was seen after a refusal, or in the look that follows every failure
that it would explain, and only then. Wrong bytes are told as such, and a run that passed has. -/
theorem run_tells_exit :
    (∀ (b b' : Subprocess) (events : List (Event Child.child)) (e : Failure),
      Runs b.exitState events (.error e, b') → StateFault e) ∧
    (∀ (b b' : Subprocess) (s : Signal) (events : List (Event Child.child)) (e : Failure),
      Runs (b.signal s) events (.error e, b') → SignalFault e) ∧
    ∀ (p : Plan) (ports ports' : Ports) (variant : Bool) (events : List (Event host))
      (outcome : Outcome), Runs (p.run ports variant) events (outcome, ports') →
      (∀ e ∈ events, Candid e) → .start true ∈ deeds events →
      ∃ s config progress driving judging,
        Parts p s config events outcome progress driving judging ∧
          Faithful s progress driving judging outcome.result := by
  refine ⟨fun _ _ _ _ => Subprocess.exitState_fault, fun _ _ _ _ _ => Subprocess.signal_fault, ?_⟩
  intro p ports ports' variant events outcome h candid started
  obtain ⟨s, config, progress, driving, judging, parts⟩ := run_parts h started
  obtain ⟨entry, torn, ended, left, _, rfl⟩ := parts.whole
  refine ⟨s, config, progress, driving, judging, parts, ?_⟩
  exact faithful (runs_drive parts.driven) (runs_verdict parts.judged)
    (fun e he => candid e (List.mem_append_right _ (List.mem_append_left _ he))) parts.started

/-- A host on which the broker takes the connection and ends. -/
def deserting : (c : host.Call) → Bytes → host.Reply c × Bytes
  | .exitState, unread => (.ok (some (.ofCode 1)), unread)
  | call, unread => obliging .ended call unread

theorem run_tells_exit_deserted :
    StateFault (.status "lost") ∧ SignalFault (.signal .reload 7 "denied") ∧
    ∃ events outcome ports' s config progress driving judging,
      Runs (standard.run (.new 1888) false) events (outcome, ports') ∧
      outcome.result = .error (.exitedEarly (.ofCode 1)) ∧
      Parts standard s config events outcome progress driving judging ∧
      Faithful s progress driving judging outcome.result := by
  let broker : Subprocess := { pid := some 7, grace := .zero }
  have asked : Runs broker.exitState [⟨Child.Call.poll, .error "lost"⟩]
      (.error (.status "lost"), broker) := .ask (.done _)
  have sent : Runs (broker.signal .reload)
      [⟨Child.Call.poll, .ok none⟩, ⟨Child.Call.kill 7 .reload, Child.Sent.failed "denied"⟩]
      (.error (.signal .reload 7 "denied"), broker) := .ask (.ask (.done _))
  let run := standard.run (.new 1888) false
  have h := runs_ended deserting run [] (by decide +kernel)
  have candid : ∀ e ∈ run.trace deserting [], Candid e := by
    refine forall_mem_trace (fun call unread => ?_) run []
    cases call with
    | signal | exitState => nofun
    | _ => trivial
  obtain ⟨state, signal, tells⟩ := run_tells_exit
  obtain ⟨s, config, progress, driving, judging, parts, faithful⟩ :=
    tells _ _ _ _ _ _ h candid (by decide +kernel)
  exact ⟨state _ _ _ _ asked, signal _ _ _ _ _ sent, _, _, _, s, config, progress, driving, judging,
    h, by decide +kernel, parts, faithful⟩

end ReloadProbe.Plan
