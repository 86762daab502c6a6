import ReloadProbe.Proofs.Run.Account
import ReloadProbe.Proofs.Run.Custody
import ReloadProbe.Proofs.Run.Failures

/-!
What an outcome says of one run, one field held against the other. A failure can end a run only at
some stages (`Failure.stages`), and every part of a run keeps to them. What else stands in an outcome
follows from its stage.
-/
namespace ReloadProbe

open Interaction Host Net

namespace Failure

/-- The stages at which a run can end with a failure. -/
def stages : Failure → List Stage
  | configLoad _ _ | invalidConfig _ | wire _ => []
  | portsExhausted _ | configWrite _ => [.init]
  | spawn _ _ => [.configWritten]
  | refused _ _ | handshakeMismatch _ _ | handshakeTimeout _ _ => [.processStarted]
  | connection _ => [.processStarted, .reloadTriggered, .notificationVerified]
  | status _ => [.processStarted, .connected, .notificationVerified]
  | notRunning | signal _ _ _ => [.connected, .notificationVerified]
  | unexpectedMessage label _ _ =>
    if label = Plan.notificationLabel then [.reloadTriggered]
    else if label = Client.pingLabel then [.notificationVerified]
    else []
  | exitedEarly _ => [.processStarted, .connected, .reloadTriggered, .notificationVerified]

variable {e : Failure} {stage : Stage}

theorem le_of_mem_stages (h : stage ∈ e.stages) : stage ≤ .notificationVerified := by
  cases e with
  | unexpectedMessage label =>
    simp only [stages] at h
    split at h
    · cases List.mem_singleton.mp h
      decide
    split at h
    · cases List.mem_singleton.mp h
      decide
    · cases h
  | _ =>
    revert stage
    simp +decide [stages]

theorem mem_stages_exitedEarly (started : .processStarted ≤ stage)
    (early : stage ≤ .notificationVerified) (exit : ExitState) :
    stage ∈ (exitedEarly exit).stages := by
  revert started early
  cases stage <;> simp +decide [stages]

theorem mem_stages_notification (reason : Mismatch) (diff : Wire.Diff) :
    stage ∈ (unexpectedMessage Plan.notificationLabel reason diff).stages ↔
      stage = .reloadTriggered := by
  simp [stages]

theorem mem_stages_ping (reason : Mismatch) (diff : Wire.Diff) :
    stage ∈ (unexpectedMessage Client.pingLabel reason diff).stages ↔
      stage = .notificationVerified := by
  have other : Client.pingLabel ≠ Plan.notificationLabel := by decide
  simp [stages, other]

end Failure

/-- How far a run came agrees with what came of it. -/
inductive Agrees : Stage → Except Failure Unit → Prop where
  | passed : Agrees .livenessVerified (.ok ())
  | failed {stage : Stage} {e : Failure} (listed : stage ∈ e.stages) : Agrees stage (.error e)

namespace Agrees

variable {stage : Stage} {r : Except Failure Unit} {e : Failure}

theorem passed_iff (h : Agrees stage r) : r = .ok () ↔ stage = .livenessVerified := by
  cases h with
  | passed => exact iff_of_true rfl rfl
  | failed listed =>
    refine iff_of_false nofun ?_
    rintro rfl
    exact absurd (Failure.le_of_mem_stages listed) (by decide)

theorem standing (h : Agrees stage r) : stage ≠ .tornDown := by
  rintro rfl
  cases h with
  | failed listed => exact absurd (Failure.le_of_mem_stages listed) (by decide)

theorem listed (h : Agrees stage (.error e)) : stage ∈ e.stages := by
  cases h with
  | failed listed => exact listed

theorem unprepared_iff (h : Agrees stage r) : stage = .init ↔
    (∃ base, r = .error (.portsExhausted base)) ∨ ∃ source, r = .error (.configWrite source) := by
  constructor
  · rintro rfl
    cases h with
    | @failed _ e listed =>
      cases e with
      | portsExhausted base => exact .inl ⟨base, rfl⟩
      | configWrite source => exact .inr ⟨source, rfl⟩
      | unexpectedMessage label =>
        simp only [Failure.stages] at listed
        split at listed
        · simp at listed
        split at listed <;> simp at listed
      | _ => simp [Failure.stages] at listed
  · rintro (⟨base, rfl⟩ | ⟨source, rfl⟩)
    · exact List.mem_singleton.mp h.listed
    · exact List.mem_singleton.mp h.listed

end Agrees

/-- Calls on a broker fail in the ways in which those on a process fail, its start included. -/
def Frank : Event host → Prop
  | ⟨.start _ _, reply⟩ => ∀ e, reply = (.error e : Except Failure Unit) → LaunchFault e
  | e => Candid e

theorem Frank.candid {e : Event host} (frank : Frank e) : Candid e := by
  obtain ⟨call, reply⟩ := e
  cases call with
  | start => trivial
  | _ => exact frank

def launch? : Event host → Option (Except Failure Unit)
  | ⟨.start _ _, reply⟩ => some reply
  | _ => none

/-- What came of the attempts to start a broker. -/
def launches (events : List (Event host)) : List (Except Failure Unit) := events.filterMap launch?

@[simp] theorem launches_append (a b : List (Event host)) :
    launches (a ++ b) = launches a ++ launches b := List.filterMap_append

@[simp] theorem launches_probed (asked : List (Event Ports.probing)) :
    launches (asked.map probed) = [] := by
  induction asked with
  | nil => rfl
  | cons e asked ih => exact ih

theorem launches_eq_nil {events : List (Event host)} (unstarted : ∀ ok, .start ok ∉ deeds events) :
    launches events = [] := by
  refine List.filterMap_eq_nil_iff.mpr fun e member => ?_
  obtain ⟨call, reply⟩ := e
  cases call with
  | start config port =>
    have started : .start (reply : Except Failure Unit).toBool ∈ deeds events :=
      List.mem_filterMap.mpr ⟨_, member, rfl⟩
    exact absurd started (unstarted _)
  | _ => rfl

namespace Net

variable {e : Failure}

theorem OpenFault.stage (h : OpenFault e) : .processStarted ∈ e.stages := by
  cases h <;> simp [Failure.stages]

theorem AwaitFault.notification_stage (h : AwaitFault Plan.notificationLabel e) :
    .reloadTriggered ∈ e.stages := by
  cases h with
  | unmet reason diff => exact (Failure.mem_stages_notification reason diff).mpr rfl
  | broken => simp [Failure.stages]

theorem AwaitFault.ping_stage (h : AwaitFault Client.pingLabel e) :
    .notificationVerified ∈ e.stages := by
  cases h with
  | unmet reason diff => exact (Failure.mem_stages_ping reason diff).mpr rfl
  | broken => simp [Failure.stages]

end Net

namespace Plan

variable {p : Plan} {ports ports' : Ports} {variant : Bool} {s : Scenario} {config : Path}
  {c c' : Client} {events : List (Event host)} {outcome : Outcome} {progress : Progress}
  {e : Failure}

structure Progress.Fits (progress : Progress) : Prop where
  agrees : Agrees progress.stage progress.result
  started : progress.started = true ↔ .processStarted ≤ progress.stage

theorem Connects.stage {attempt left : Nat}
    (attempts : Connects p s attempt left events (.error e)) (candid : ∀ e ∈ events, Candid e) :
    .processStarted ∈ e.stages := by
  rcases attempts.fails candid rfl with client | fault | ⟨exit, rfl, _⟩
  · exact client.stage
  · cases fault
    simp [Failure.stages]
  · simp [Failure.stages]

theorem Cycles.failed_stage {n : Nat} {stage : Stage}
    (cycles : Cycles p n c .connected events (.error e) c' stage)
    (candid : ∀ e ∈ events, Candid e) : stage ∈ e.stages ∧ .processStarted ≤ stage := by
  rcases cycles.fails candid rfl with ⟨unanswered, rfl⟩ | ⟨undelivered, rfl | rfl⟩
  · exact ⟨unanswered.notification_stage, by decide⟩
  · cases undelivered <;> exact ⟨by simp [Failure.stages], by decide⟩
  · cases undelivered <;> exact ⟨by simp [Failure.stages], by decide⟩

theorem Cycles.passed_stage {n : Nat} {stage stage' : Stage} {r : Except Failure Unit}
    (cycles : Cycles p n c stage events r c' stage') (fine : r = .ok ()) :
    n = 0 ∧ stage' = stage ∨ stage' = .notificationVerified := by
  induction cycles with
  | finished => exact .inl ⟨rfl, rfl⟩
  | undelivered | unanswered => cases fine
  | answered wait later ih =>
    rcases ih fine with ⟨_, same⟩ | verified
    · exact .inr same
    · exact .inr verified

theorem Converses.fits (session : Converses p c events progress) (candid : ∀ e ∈ events, Candid e)
    (due : p.settings.reloadCycles.toNat ≠ 0) : progress.Fits := by
  cases session with
  | stopped cycles =>
    obtain ⟨listed, started⟩ := cycles.failed_stage candid
    exact ⟨.failed listed, iff_of_true rfl started⟩
  | mute cycles ping =>
    obtain rfl := (cycles.passed_stage rfl).resolve_left fun ended => due ended.1
    have started : Stage.processStarted ≤ .notificationVerified := by decide
    exact ⟨.failed (ping_fault ping).ping_stage, iff_of_true rfl started⟩
  | alive =>
    have started : Stage.processStarted ≤ .livenessVerified := by decide
    exact ⟨.passed, iff_of_true rfl started⟩

theorem Drives.fits (drive : Drives p s config events progress) (frank : ∀ e ∈ events, Frank e)
    (due : p.settings.reloadCycles.toNat ≠ 0) : progress.Fits := by
  have candid := fun e he => (frank e he).candid
  cases drive with
  | unstarted fault =>
    have told := frank ⟨Call.start config s.port, .error fault⟩ (by simp) fault rfl
    have early : ¬ Stage.processStarted ≤ .configWritten := by decide
    cases told
    exact ⟨.failed (by simp [Failure.stages]), iff_of_false Bool.false_ne_true early⟩
  | unconnected attempts =>
    have listed := attempts.stage fun e he => candid e (List.mem_cons_of_mem _ he)
    have started : Stage.processStarted ≤ .processStarted := by decide
    exact ⟨.failed listed, iff_of_true rfl started⟩
  | connected attempts session =>
    have own := fun e he => candid e (List.mem_cons_of_mem _ (List.mem_append_right _ he))
    exact session.fits own due

/-- A broker is started once. -/
theorem Drives.launches_eq (drive : Drives p s config events progress) :
    (launches events = [.ok ()] ∧ progress.started = true) ∨
      ∃ e, launches events = [.error e] ∧ progress.started = false ∧
        progress.result = .error e ∧ progress.stage = .configWritten := by
  cases drive with
  | unstarted e => exact .inr ⟨e, rfl, rfl, rfl, rfl⟩
  | unconnected attempts =>
    have later := launches_eq_nil fun _ => attempts.talk.start_not_mem
    exact .inl ⟨congrArg (_ :: ·) later, rfl⟩
  | @connected dialled events c progress attempts session =>
    obtain ⟨talk, started⟩ := session.talk
    have whole := attempts.talk.append talk
    rw [← deeds_append] at whole
    have later := launches_eq_nil fun _ => whole.start_not_mem
    exact .inl ⟨congrArg (_ :: ·) later, started⟩

theorem Classifies.blamed {e' : Failure} (told : Classifies e events e') :
    e' = e ∨ ∃ exit, e' = .exitedEarly exit := by
  cases told with
  | shown => exact .inl rfl
  | looked hides reply =>
    rcases reply with fault | _ | exit
    · exact .inl rfl
    · exact .inl rfl
    · exact .inr ⟨exit, rfl⟩

/-- What a failure is told to be after a look at the broker can end a run at the same stage. -/
theorem Judges.agrees {r : Except Failure Unit} (told : Judges progress events r)
    (fits : progress.Fits) : Agrees progress.stage r := by
  have agrees := fits.agrees
  cases told with
  | passed fine => rwa [fine] at agrees
  | unstarted failed => rwa [failed] at agrees
  | failed failed started told =>
    rw [failed] at agrees
    rcases told.blamed with rfl | ⟨exit, rfl⟩
    · exact agrees
    · have late := Failure.le_of_mem_stages agrees.listed
      exact .failed (Failure.mem_stages_exitedEarly (fits.started.mp started) late exit)

theorem Judges.unstarted_eq {r : Except Failure Unit} (told : Judges progress events r)
    (unstarted : progress.started = false) : r = progress.result := by
  cases told with
  | passed fine => exact fine.symm
  | unstarted failed => exact failed.symm
  | failed _ started => cases started.symm.trans unstarted

/-- The outcomes of a run, with what came of the start of its broker. -/
inductive Shape : List (Except Failure Unit) → Option Scenario → Stage → Except Failure Unit →
    Option Output → Prop where
  | portless (base : UInt16) : Shape [] none .init (.error (.portsExhausted base)) none
  | unwritten (s : Scenario) (source : String) :
      Shape [] (some s) .init (.error (.configWrite source)) none
  | unstarted (s : Scenario) {e : Failure} (agrees : Agrees .configWritten (.error e)) :
      Shape [.error e] (some s) .configWritten (.error e) none
  | started (s : Scenario) {stage : Stage} {r : Except Failure Unit} (agrees : Agrees stage r)
      (late : .processStarted ≤ stage) (output : Output) :
      Shape [.ok ()] (some s) stage r (some output)

/-- The only start is that of the drive. -/
theorem launches_driven {asked : List (Event Ports.probing)} {port : UInt16}
    {driving judging : List (Event host)} {r : Except Failure Unit} {output : Option Output}
    {removed : Except String Unit} (told : Judges progress judging r) :
    launches (asked.map probed ++ p.writing variant port (.ok config) :: (driving ++ (judging ++
      ((parting progress.client).map atLink ++
        (stopping output ++ [⟨Call.removeConfig config, removed⟩]))))) = launches driving := by
  have judged : launches judging = [] := launches_eq_nil fun ok => by simp [told.deeds]
  have left := launches_eq_nil fun ok => leaving_start_not_mem progress config output removed ok
  have entry (rest : List (Event host)) :
      launches (p.writing variant port (.ok config) :: rest) = launches rest := rfl
  rw [launches_append, launches_probed, entry, launches_append, launches_append, judged, left]
  simp

theorem Performs.shape {id : String} (course : Performs p id ports variant events outcome)
    (frank : ∀ e ∈ events, Frank e) (due : p.settings.reloadCycles.toNat ≠ 0) :
    Shape (launches events) outcome.scenario outcome.reached outcome.result outcome.output := by
  cases course with
  | portless search =>
    obtain ⟨base, rfl⟩ := search.exhausted_base
    rw [launches_probed]
    exact .portless base
  | unwritten search source =>
    rw [launches_append, launches_probed]
    exact .unwritten _ source
  | driven search drive told stopped =>
    rename_i asked port _ config driving judging progress r output removed
    have own : ∀ e ∈ driving, Frank e := fun e he =>
      frank e (List.mem_append_right _ (List.mem_cons_of_mem _ (List.mem_append_left _ he)))
    have fits := drive.fits own due
    rw [launches_driven told]
    rcases drive.launches_eq with ⟨launched, started⟩ | ⟨e, launched, unstarted, failed, stage⟩
    · cases output with
      | none => cases started.symm.trans stopped.symm
      | some output =>
        rw [launched]
        exact .started _ (told.agrees fits) (fits.started.mp started) output
    · cases output with
      | some => cases unstarted.symm.trans stopped.symm
      | none =>
        have agrees := told.agrees fits
        rw [told.unstarted_eq unstarted, failed, stage] at agrees
        rw [launched, told.unstarted_eq unstarted, failed, stage]
        exact .unstarted _ agrees

/-- The fields of an outcome against each other, and against what came of the start. -/
structure Consistent (events : List (Event host)) (o : Outcome) : Prop where
  passed : o.result = .ok () ↔ o.reached = .livenessVerified
  portless : o.scenario = none ↔ ∃ base, o.result = .error (.portsExhausted base)
  unprepared : o.reached = .init ↔ (∃ base, o.result = .error (.portsExhausted base)) ∨
    ∃ source, o.result = .error (.configWrite source)
  unstarted : o.reached = .configWritten ↔ ∃ e, .error e ∈ launches events
  launch : ∀ e, .error e ∈ launches events → o.result = .error e
  output : o.output.isSome ↔ .processStarted ≤ o.reached
  notification : ∀ reason diff,
    o.result = .error (.unexpectedMessage "reload notification" reason diff) →
      o.reached = .reloadTriggered
  liveness : ∀ reason diff, o.result = .error (.unexpectedMessage "pingresp" reason diff) →
    o.reached = .notificationVerified
  mismatch : ∀ reason diff, o.result = .error (.handshakeMismatch reason diff) →
    o.reached = .processStarted
  timeout : ∀ limit diff, o.result = .error (.handshakeTimeout limit diff) →
    o.reached = .processStarted
  refused : ∀ address attempts, o.result = .error (.refused address attempts) →
    o.reached = .processStarted
  standing : o.reached ≠ .tornDown

theorem Shape.agrees {launched : List (Except Failure Unit)} {scenario : Option Scenario}
    {stage : Stage} {r : Except Failure Unit} {output : Option Output}
    (shape : Shape launched scenario stage r output) : Agrees stage r := by
  cases shape with
  | portless | unwritten => exact .failed (by simp [Failure.stages])
  | unstarted _ agrees | started _ agrees => exact agrees

theorem Shape.consistent (shape : Shape (launches events) outcome.scenario outcome.reached
    outcome.result outcome.output) : Consistent events outcome := by
  have agrees := shape.agrees
  have located (e : Failure) (failed : outcome.result = .error e) : outcome.reached ∈ e.stages := by
    rw [failed] at agrees
    exact agrees.listed
  obtain ⟨id, own, scenario, stage, result, output, elapsed⟩ := outcome
  dsimp only at shape agrees located
  constructor
  case passed => exact agrees.passed_iff
  case unprepared => exact agrees.unprepared_iff
  case standing => exact agrees.standing
  case notification =>
    intro reason diff failed
    exact (Failure.mem_stages_notification reason diff).mp (located _ failed)
  case liveness =>
    intro reason diff failed
    exact (Failure.mem_stages_ping reason diff).mp (located _ failed)
  case mismatch => exact fun _ _ failed => List.mem_singleton.mp (located _ failed)
  case timeout => exact fun _ _ failed => List.mem_singleton.mp (located _ failed)
  case refused => exact fun _ _ failed => List.mem_singleton.mp (located _ failed)
  all_goals generalize launches events = launched at shape
  case portless =>
    have early (base : UInt16) (failed : result = .error (.portsExhausted base)) : stage = .init :=
      List.mem_singleton.mp (located _ failed)
    cases shape with
    | portless base => exact iff_of_true rfl ⟨base, rfl⟩
    | unwritten => exact iff_of_false nofun nofun
    | unstarted =>
      refine iff_of_false nofun ?_
      rintro ⟨base, failed⟩
      cases early base failed
    | started s agrees late =>
      refine iff_of_false nofun ?_
      rintro ⟨base, failed⟩
      cases early base failed
      exact absurd late (by decide)
  case unstarted =>
    cases shape with
    | portless | unwritten | unstarted => simp
    | started s agrees late =>
      refine iff_of_false ?_ (by simp)
      rintro rfl
      exact absurd late (by decide)
  case launch =>
    intro e launched
    cases shape with
    | portless | unwritten => cases launched
    | unstarted =>
      cases List.mem_singleton.mp launched
      rfl
    | started => cases List.mem_singleton.mp launched
  case output =>
    cases shape with
    | portless | unwritten =>
      have early : ¬ Stage.processStarted ≤ .init := by decide
      exact iff_of_false Bool.false_ne_true early
    | unstarted =>
      have early : ¬ Stage.processStarted ≤ .configWritten := by decide
      exact iff_of_false Bool.false_ne_true early
    | started s agrees late output => exact iff_of_true rfl late

theorem launches_timed (id : String) (begun ended : Nat) (performed : List (Event host)) :
    launches (⟨Call.newId, id⟩ :: atLink ⟨Net.Call.now, begun⟩ ::
      (performed ++ [atLink ⟨Net.Call.now, ended⟩])) = launches performed :=
  (launches_append _ _).trans (List.append_nil _)

theorem reloadCycles_ne_zero {settings : Config.Settings} (made : ofSettings settings = .ok p) :
    p.settings.reloadCycles.toNat ≠ 0 := by
  obtain ⟨valid, rfl⟩ := ofSettings_eq_ok made
  intro zero
  exact (Config.Settings.valid_of_validate valid).cycles (UInt32.toNat_inj.mp zero)

/-- A broker that is a process fails frankly, and with such a broker the fields of every outcome
agree. -/
theorem run_consistent :
    (∀ (command : Config.BrokerCommand) (grace : Duration) (config : Path) (port : UInt16)
      (events : List (Event Child.child)) (e : Failure),
      Runs (Subprocess.spawn command grace config port) events (.error e) → LaunchFault e) ∧
    (∀ (b b' : Subprocess) (s : Signal) (events : List (Event Child.child)) (e : Failure),
      Runs (b.signal s) events (.error e, b') → SignalFault e) ∧
    (∀ (b b' : Subprocess) (events : List (Event Child.child)) (e : Failure),
      Runs b.exitState events (.error e, b') → StateFault e) ∧
    ∀ (settings : Config.Settings) (p : Plan) (ports ports' : Ports) (variant : Bool)
      (events : List (Event host)) (outcome : Outcome), ofSettings settings = .ok p →
      Runs (p.run ports variant) events (outcome, ports') → (∀ e ∈ events, Frank e) →
      Consistent events outcome := by
  refine ⟨fun _ _ _ _ _ _ => Subprocess.spawn_fault, fun _ _ _ _ _ => Subprocess.signal_fault,
    fun _ _ _ _ => Subprocess.exitState_fault, ?_⟩
  intro settings p ports ports' variant events outcome made h frank
  obtain ⟨id, begun, ended, performed, timed, elapsed, course, rfl, rfl⟩ := runs_run h
  have own : ∀ e ∈ performed, Frank e := fun e he => frank e (by simp [he])
  have shape := course.shape own (reloadCycles_ne_zero made)
  rw [← launches_timed id begun ended performed] at shape
  exact Shape.consistent shape

theorem standard_made : ofSettings {} = .ok standard := Except.eq_ok_get _

/-- A broker that takes the session, and answers the first reload with a wrong byte. -/
theorem run_consistent_garbled :
    LaunchFault (.spawn "mosquitto" "not found") ∧ SignalFault (.signal .reload 7 "denied") ∧
    StateFault (.status "lost") ∧
    ∃ events outcome ports', Runs (standard.run (.new 1888) false) events (outcome, ports') ∧
      outcome.reached = .reloadTriggered ∧ Consistent events outcome := by
  let broker : Subprocess := { pid := some 7, grace := .zero }
  have unstarted : Runs (Subprocess.spawn {} .zero ⟨[]⟩ 1888)
      [⟨Child.Call.spawn _, .error "not found"⟩]
      (.error (.spawn "mosquitto" "not found")) := .ask (.done _)
  have sent : Runs (broker.signal .reload)
      [⟨Child.Call.poll, .ok none⟩, ⟨Child.Call.kill 7 .reload, Child.Sent.failed "denied"⟩]
      (.error (.signal .reload 7 "denied"), broker) := .ask (.ask (.done _))
  have asked : Runs broker.exitState [⟨Child.Call.poll, .error "lost"⟩]
      (.error (.status "lost"), broker) := .ask (.done _)
  let run := standard.run (.new 1888) false
  let garbled : Bytes := standard.packets.connack ++ [0]
  have h := runs_ended (obliging .ended) run garbled (by decide +kernel)
  have frank : ∀ e ∈ run.trace (obliging .ended) garbled, Frank e := by
    refine forall_mem_trace (fun call unread => ?_) run garbled
    cases call with
    | start | signal | exitState => nofun
    | _ => trivial
  obtain ⟨launch, signal, state, agrees⟩ := run_consistent
  exact ⟨launch _ _ _ _ _ _ unstarted, signal _ _ _ _ _ sent, state _ _ _ _ asked, _, _, _, h,
    by decide +kernel, agrees _ _ _ _ _ _ _ standard_made h frank⟩

end Plan
end ReloadProbe
