import ReloadProbe.Proofs.Fallible
import ReloadProbe.Proofs.Run.Delivery

/-!
The stages that a run goes through. An outcome has only the stage that its run stopped at, so the
plan is told once more with the stages before it; without them it is the plan again. The stages of a
run are a beginning of its itinerary. A second reload takes the run back from a verified
notification to a triggered reload, and that is the one case in which a run stops short of the
furthest stage that it came to.
-/
namespace ReloadProbe

open Interaction Host Net

/-- Where a run is, and the stages it was at before, in their order. -/
structure Trail where
  past : List Stage := []
  present : Stage := .init

namespace Trail

def stages (t : Trail) : List Stage := t.past ++ [t.present]

def advance (t : Trail) (stage : Stage) : Trail := { past := t.stages, present := stage }

variable {t : Trail} {stage : Stage} {before : List Stage}

@[simp] theorem stages_advance : (t.advance stage).stages = t.stages ++ [stage] := rfl

theorem present_of_stages (h : t.stages = before ++ [stage]) : t.present = stage :=
  (List.concat_inj.mp (by simpa [stages] using h)).2

end Trail

namespace Plan

/-! The plan, where each advance is kept. -/

def cyclesTrailed (p : Plan) :
    (n : Nat) → Client → Trail → Interaction host (Except Failure Unit × Client × Trail)
  | 0, client, trail => return (.ok (), client, trail)
  | n + 1, client, trail => do
    match ← signal .reload with
    | .error e => return (.error e, client, trail)
    | .ok () =>
      let trail := trail.advance .reloadTriggered
      let (met, client) ← holding client (client.expect p.packets.notification
        p.settings.timeouts.notification notificationLabel)
      match met with
      | .error e => return (.error e, client, trail)
      | .ok () => p.cyclesTrailed n client (trail.advance .notificationVerified)

def converseTrailed (p : Plan) (client : Client) (trail : Trail) :
    Interaction host (Progress × Trail) := do
  let (reloaded, client, trail) ←
    p.cyclesTrailed p.settings.reloadCycles.toNat client (trail.advance .connected)
  match reloaded with
  | .error e =>
    return ({ result := .error e, stage := trail.present, client := some client }, trail)
  | .ok () =>
    let (alive, client) ← holding client (client.ping p.settings.timeouts.ping)
    match alive with
    | .error e =>
      return ({ result := .error e, stage := trail.present, client := some client }, trail)
    | .ok () =>
      let trail := trail.advance .livenessVerified
      return ({ stage := trail.present, client := some client }, trail)

def attendTrailed (p : Plan) (s : Scenario) (trail : Trail) :
    Interaction host (Progress × Trail) := do
  match ← p.connect s with
  | .error e => return ({ result := .error e, stage := trail.present }, trail)
  | .ok client => p.converseTrailed client trail

def driveTrailed (p : Plan) (s : Scenario) (config : Path) (trail : Trail) :
    Interaction host (Progress × Trail) := do
  match ← start config s.port with
  | .error e => return ({ result := .error e, stage := trail.present, started := false }, trail)
  | .ok () => (p.attendTrailed s (trail.advance .processStarted)).unwinding abandon

def performTrailed (p : Plan) (id : String) (ports : Ports) (perListenerSettings : Bool) :
    Interaction host ((Outcome × Ports) × Trail) := do
  let trail : Trail := {}
  let (port, ports) ← allocate ports
  match port with
  | .error e =>
    return (({ id, perListenerSettings, reached := trail.present, result := .error e }, ports),
      trail)
  | .ok port =>
    let s := p.scenarioAt perListenerSettings port
    let contents := brokerConfig perListenerSettings port p.settings.pluginPath
    match ← disk (ConfigFile.write p.settings.configDir contents) with
    | .error source =>
      return (({ id, perListenerSettings, scenario := some s, reached := trail.present
                 result := .error (.configWrite source) }, ports), trail)
    | .ok file =>
      let (progress, trail) ←
        (p.driveTrailed s file.path (trail.advance .configWritten)).unwinding (disk file.drop)
      let result ← verdict progress
      let (output, file) ← tearDown progress file
      disk file.drop
      return (({ id, perListenerSettings, scenario := some s, reached := progress.stage, result
                 output }, ports), trail)

def runTrailed (p : Plan) (ports : Ports) (perListenerSettings : Bool) :
    Interaction host ((Outcome × Ports) × Trail) := do
  let id ← newId
  let begun ← net now
  let ((outcome, ports), trail) ← p.performTrailed id ports perListenerSettings
  let ended ← net now
  let elapsed := (Duration.ofNanos? (ended - begun)).getD .longest
  return (({ outcome with elapsed }, ports), trail)

variable {p : Plan}

theorem cycles_eq (n : Nat) (c : Client) (t : Trail) :
    p.cycles n c t.present =
      (fun r => (r.1, r.2.1, r.2.2.present)) <$> p.cyclesTrailed n c t := by
  induction n generalizing c t with
  | zero => rfl
  | succ n ih =>
    simp only [cycles, cyclesTrailed, map_bind]
    refine bind_congr fun reply => ?_
    cases reply with
    | error e => rfl
    | ok =>
      simp only [map_bind]
      refine bind_congr ?_
      rintro ⟨met, d⟩
      cases met with
      | error e => rfl
      | ok => exact ih d ((t.advance .reloadTriggered).advance .notificationVerified)

theorem converse_eq (c : Client) (t : Trail) :
    p.converse c = Prod.fst <$> p.converseTrailed c t := by
  simp only [converse, converseTrailed, map_bind]
  rw [show Stage.connected = (t.advance .connected).present from rfl, cycles_eq, bind_map_left]
  refine bind_congr ?_
  rintro ⟨r, d, u⟩
  cases r with
  | error e => rfl
  | ok =>
    simp only [map_bind]
    refine bind_congr ?_
    rintro ⟨alive, d⟩
    cases alive <;> rfl

theorem attend_eq (s : Scenario) (t : Trail) (started : t.present = .processStarted) :
    p.attend s = Prod.fst <$> p.attendTrailed s t := by
  simp only [attend, attendTrailed, map_bind]
  refine bind_congr fun opened => ?_
  cases opened with
  | error e =>
    rw [started]
    rfl
  | ok c => exact converse_eq c t

theorem drive_eq (s : Scenario) (config : Path) (t : Trail) (written : t.present = .configWritten) :
    p.drive s config = Prod.fst <$> p.driveTrailed s config t := by
  simp only [drive, driveTrailed, map_bind]
  refine bind_congr fun reply => ?_
  cases reply with
  | error e =>
    rw [written]
    rfl
  | ok =>
    exact (congrArg (·.unwinding abandon) (attend_eq s (t.advance .processStarted) rfl)).trans
      (unwinding_map ..)

theorem perform_eq (id : String) (ports : Ports) (variant : Bool) :
    p.perform id ports variant = Prod.fst <$> p.performTrailed id ports variant := by
  simp only [perform, performTrailed, map_bind]
  refine bind_congr ?_
  rintro ⟨port, ports⟩
  cases port with
  | error e => rfl
  | ok port =>
    simp only [map_bind]
    refine bind_congr fun reply => ?_
    cases reply with
    | error source => rfl
    | ok file =>
      simp only [map_bind]
      rw [drive_eq _ _ (Trail.advance {} .configWritten) rfl, unwinding_map, bind_map_left]
      rfl

/-- Without its trail, a run is the run of the plan. -/
theorem run_eq (ports : Ports) (variant : Bool) :
    p.run ports variant = Prod.fst <$> p.runTrailed ports variant := by
  simp only [run, runTrailed, map_bind, perform_eq, bind_map_left]
  rfl

/-! The itinerary. -/

/-- The stages of `n` reloads, each with its notification. -/
def rounds (n : Nat) : List Stage :=
  (List.replicate n [Stage.reloadTriggered, .notificationVerified]).flatten

/-- What precedes the reloads. -/
def outset : List Stage := [.init, .configWritten, .processStarted, .connected]

/-- The stages of a run with `n` reloads in which nothing fails. -/
def itinerary (n : Nat) : List Stage := outset ++ (rounds n ++ [.livenessVerified])

/-- The stages that a session with `n` reloads ahead goes through, and how many of them were
delivered. -/
inductive Leg (n : Nat) : List Stage → Nat → Prop where
  | answered {k : Nat} (within : k ≤ n) : Leg n (rounds k) k
  | unanswered {k : Nat} (within : k < n) : Leg n (rounds k ++ [.reloadTriggered]) (k + 1)
  | alive : Leg n (rounds n ++ [.livenessVerified]) n

/-- The stages of a whole run, and how many reloads were delivered. -/
inductive Route (n : Nat) : List Stage → Nat → Prop where
  | opening {stages : List Stage} (early : stages <+: outset) : Route n stages 0
  | session {leg : List Stage} {k : Nat} (leads : Leg n leg k) : Route n (outset ++ leg) k

theorem rounds_succ (n : Nat) :
    rounds (n + 1) = .reloadTriggered :: .notificationVerified :: rounds n := rfl

theorem rounds_append (k n : Nat) : rounds k ++ rounds n = rounds (k + n) := by
  rw [rounds, rounds, ← List.flatten_append, List.replicate_append_replicate]
  rfl

theorem count_rounds (n : Nat) : (rounds n).count .reloadTriggered = n := by
  induction n with
  | zero => rfl
  | succ n ih => simp [rounds_succ, ih]

theorem mem_rounds {n : Nat} {stage : Stage} (h : stage ∈ rounds n) :
    stage = .reloadTriggered ∨ stage = .notificationVerified := by
  induction n with
  | zero => cases h
  | succ n ih =>
    rw [rounds_succ, List.mem_cons, List.mem_cons] at h
    rcases h with h | h | h
    · exact .inl h
    · exact .inr h
    · exact ih h

theorem Leg.next {n k : Nat} {leg : List Stage} (h : Leg n leg k) :
    Leg (n + 1) (.reloadTriggered :: .notificationVerified :: leg) (k + 1) := by
  cases h with
  | answered within => exact .answered (Nat.succ_le_succ within)
  | unanswered within => exact .unanswered (Nat.succ_lt_succ within)
  | alive => exact .alive

variable {n k : Nat} {leg stages : List Stage} {t t' : Trail} {c c' : Client}
  {events : List (Event host)}

theorem runs_cyclesTrailed {r : Except Failure Unit}
    (h : Runs (p.cyclesTrailed n c t) events (r, c', t')) :
    ∃ leg, t'.stages = t.stages ++ leg ∧ Leg n leg (reloads events) ∧
      (r = .ok () → leg = rounds n ∧ reloads events = n) := by
  induction n generalizing c t events with
  | zero =>
    obtain ⟨rfl, same⟩ := runs_pure.mp h
    cases same
    exact ⟨[], (List.append_nil _).symm, .answered (Nat.le_refl 0), fun _ => ⟨rfl, rfl⟩⟩
  | succ n ih =>
    obtain ⟨reply, later, rfl, answer⟩ := runs_reply.mp h
    cases reply with
    | error e =>
      obtain ⟨rfl, same⟩ := runs_pure.mp answer
      cases same
      exact ⟨[], (List.append_nil _).symm, .answered (Nat.zero_le _), nofun⟩
    | ok =>
      obtain ⟨before, after, ⟨met, d⟩, rfl, waiting, rest⟩ := runs_seq.mp answer
      obtain ⟨waited, rfl, wait⟩ := runs_holding waiting
      have signalled : reloads (reloaded :: (waited.map atLink ++ after)) = reloads after + 1 := by
        rw [reloads_reloaded, reloads_append, reloads_atLink, Nat.zero_add]
      cases met with
      | error e =>
        obtain ⟨rfl, same⟩ := runs_pure.mp rest
        cases same
        refine ⟨[.reloadTriggered], rfl, ?_, nofun⟩
        show Leg (n + 1) _ (reloads (reloaded :: _))
        rw [signalled]
        exact .unanswered (Nat.zero_lt_succ n)
      | ok =>
        obtain ⟨leg, walked, leads, finished⟩ := ih rest
        refine ⟨.reloadTriggered :: .notificationVerified :: leg, by simp [walked], ?_, ?_⟩
        · show Leg (n + 1) _ (reloads (reloaded :: _))
          rw [signalled]
          exact leads.next
        · intro ok
          obtain ⟨rfl, all⟩ := finished ok
          exact ⟨rfl, signalled.trans (congrArg (· + 1) all)⟩

theorem runs_converseTrailed {progress : Progress}
    (h : Runs (p.converseTrailed c t) events (progress, t')) :
    progress.stage = t'.present ∧
      ∃ leg, t'.stages = t.stages ++ .connected :: leg ∧
        Leg p.settings.reloadCycles.toNat leg (reloads events) := by
  obtain ⟨before, after, ⟨r, d, u⟩, rfl, cycling, rest⟩ := runs_seq.mp h
  obtain ⟨leg, walked, leads, finished⟩ := runs_cyclesTrailed cycling
  rw [Trail.stages_advance, List.append_assoc] at walked
  cases r with
  | error e =>
    obtain ⟨rfl, same⟩ := runs_pure.mp rest
    cases same
    exact ⟨rfl, leg, walked, by simpa using leads⟩
  | ok =>
    obtain ⟨rfl, all⟩ := finished rfl
    obtain ⟨pinging, last, ⟨alive, d'⟩, rfl, ping, ended⟩ := runs_seq.mp rest
    obtain ⟨pinged, rfl, _⟩ := runs_holding ping
    cases alive with
    | error e =>
      obtain ⟨rfl, same⟩ := runs_pure.mp ended
      cases same
      exact ⟨rfl, _, walked, by simpa using leads⟩
    | ok =>
      obtain ⟨rfl, same⟩ := runs_pure.mp ended
      cases same
      refine ⟨rfl, rounds p.settings.reloadCycles.toNat ++ [.livenessVerified], ?_, ?_⟩
      · simp [walked]
      · simp only [reloads_append, reloads_atLink, reloads_nil, Nat.add_zero, all]
        exact .alive

theorem runs_driveTrailed {s : Scenario} {config : Path} {progress : Progress}
    (h : Runs (p.driveTrailed s config t) events (progress, t'))
    (begun : t.stages = [.init, .configWritten]) :
    progress.stage = t'.present ∧
      Route p.settings.reloadCycles.toNat t'.stages (reloads events) := by
  obtain ⟨reply, later, rfl, more⟩ := runs_reply.mp h
  cases reply with
  | error e =>
    obtain ⟨rfl, same⟩ := runs_pure.mp more
    cases same
    exact ⟨rfl, .opening (by rw [begun]; decide)⟩
  | ok =>
    obtain ⟨before, after, opened, rfl, connecting, rest⟩ := runs_seq.mp (runs_unwinding.mp more)
    have still : reloads before = 0 := (runs_connectFrom connecting).still
    cases opened with
    | error e =>
      obtain ⟨rfl, same⟩ := runs_pure.mp rest
      cases same
      refine ⟨rfl, ?_⟩
      have unasked : reloads (before ++ []) = 0 := by rw [List.append_nil, still]
      show Route _ _ (reloads (before ++ []))
      rw [unasked, Trail.stages_advance, begun]
      exact .opening (by decide)
    | ok c =>
      obtain ⟨reached, leg, walked, leads⟩ := runs_converseTrailed rest
      refine ⟨reached, ?_⟩
      show Route _ _ (reloads (before ++ after))
      rw [walked, Trail.stages_advance, begun, reloads_append, still, Nat.zero_add]
      exact .session leads

theorem runs_performTrailed {id : String} {ports ports' : Ports} {variant : Bool}
    {outcome : Outcome}
    (h : Runs (p.performTrailed id ports variant) events ((outcome, ports'), t)) :
    outcome.reached = t.present ∧
      Route p.settings.reloadCycles.toNat t.stages (reloads events) := by
  obtain ⟨before, after, ⟨given, left⟩, rfl, asking, more⟩ := runs_seq.mp h
  obtain ⟨asked, rfl, _⟩ := runs_allocate asking
  rw [reloads_append, reloads_probed, Nat.zero_add]
  cases given with
  | error e =>
    obtain ⟨rfl, same⟩ := runs_pure.mp more
    cases same
    exact ⟨rfl, .opening (by decide)⟩
  | ok port =>
    obtain ⟨writes, later, reply, rfl, written, rest⟩ := runs_seq.mp more
    obtain ⟨own, rfl, wrote⟩ := runs_disk written
    obtain ⟨place, rfl, rfl⟩ := ConfigFile.runs_write wrote
    cases place with
    | error source =>
      obtain ⟨rfl, same⟩ := runs_pure.mp rest
      cases same
      exact ⟨rfl, .opening (by decide)⟩
    | ok config =>
      obtain ⟨driving, judged, ⟨progress, u⟩, rfl, drive, judges⟩ := runs_seq.mp rest
      obtain ⟨judging, torn, r, rfl, verdict, tearing⟩ := runs_seq.mp judges
      obtain ⟨tears, last, ⟨output, file⟩, rfl, torn, ended⟩ := runs_seq.mp tearing
      obtain ⟨removed, rfl, _, gone⟩ := runs_tearDown rfl torn
      obtain ⟨dropped, nothing, ⟨⟩, rfl, dropping, told⟩ := runs_seq.mp ended
      obtain rfl := dropped_nothing gone dropping
      obtain ⟨rfl, same⟩ := runs_pure.mp told
      cases same
      obtain ⟨reached, route⟩ := runs_driveTrailed (runs_unwinding.mp drive) rfl
      refine ⟨reached, ?_⟩
      have quiet := (ending_still (runs_verdict verdict) output config removed 0).2
      show Route _ _ (reloads (driving ++ (judging ++ (_ ++ []))))
      rw [reloads_append] at quiet
      rw [reloads_append, List.append_nil, Nat.eq_zero_of_add_eq_zero_right quiet]
      exact route

theorem runs_runTrailed {ports ports' : Ports} {variant : Bool} {outcome : Outcome}
    (h : Runs (p.runTrailed ports variant) events ((outcome, ports'), t)) :
    outcome.reached = t.present ∧
      Route p.settings.reloadCycles.toNat t.stages (reloads events) := by
  obtain ⟨id, marked, rfl, timing⟩ := runs_reply.mp h
  obtain ⟨first, more, begun, rfl, clock, rest⟩ := runs_seq.mp timing
  obtain ⟨own, rfl, _⟩ := runs_net clock
  obtain ⟨performed, after, ⟨⟨timed, left⟩, u⟩, rfl, performing, ending⟩ := runs_seq.mp rest
  obtain ⟨final, nothing, ended, rfl, clocked, leaving⟩ := runs_seq.mp ending
  obtain ⟨later, rfl, _⟩ := runs_net clocked
  obtain ⟨rfl, same⟩ := runs_pure.mp leaving
  cases same
  obtain ⟨reached, route⟩ := runs_performTrailed performing
  refine ⟨reached, ?_⟩
  show Route _ _ (reloads (own.map atLink ++ (performed ++ (later.map atLink ++ []))))
  simpa using route

theorem Leg.within {n k : Nat} {leg : List Stage} (h : Leg n leg k) :
    leg <+: rounds n ++ [.livenessVerified] := by
  cases h with
  | answered within =>
    obtain ⟨more, rfl⟩ := Nat.exists_eq_add_of_le within
    rw [← rounds_append, List.append_assoc]
    exact List.prefix_append _ _
  | unanswered within =>
    obtain ⟨more, rfl⟩ := Nat.exists_eq_add_of_lt within
    rw [Nat.add_assoc, ← rounds_append, rounds_succ]
    exact ⟨.notificationVerified :: rounds more ++ [.livenessVerified], by simp⟩
  | alive => exact List.prefix_refl _

theorem Route.within (route : Route n stages k) : stages <+: itinerary n := by
  cases route with
  | opening early => exact early.trans (List.prefix_append _ _)
  | session leads => exact (List.prefix_append_right_inj _).mpr leads.within

theorem Route.count (route : Route n stages k) : stages.count .reloadTriggered = k := by
  cases route with
  | opening early =>
    have few := early.sublist.count_le .reloadTriggered
    exact Nat.le_zero.mp few
  | session leads =>
    have unasked : outset.count .reloadTriggered = 0 := rfl
    rw [List.count_append, unasked, Nat.zero_add]
    cases leads <;> simp [count_rounds]

theorem le_of_rounds {stage : Stage} (h : stage ∈ outset ++ rounds n) :
    stage ≤ .notificationVerified := by
  rcases List.mem_append.mp h with h | h
  · have early : ∀ s ∈ outset, s ≤ .notificationVerified := by decide
    exact early stage h
  · rcases mem_rounds h with rfl | rfl <;> decide

theorem le_present (ordered : t.stages.Pairwise (· ≤ ·)) :
    ∀ stage ∈ t.stages, stage ≤ t.present := by
  intro stage member
  rcases List.mem_append.mp member with earlier | last
  · exact (List.pairwise_append.mp ordered).2.2 stage earlier t.present (List.mem_singleton_self _)
  · rw [List.mem_singleton.mp last]
    exact Nat.le_refl t.present.rank

theorem furthest_elsewhere {stage : Stage} (last : t.present = stage)
    (other : stage ≠ .reloadTriggered) (furthest : ∀ s ∈ t.stages, s ≤ stage) :
    (∀ s ∈ t.stages, s ≤ t.present) ↔ (t.present = .reloadTriggered → k ≤ 1) := by
  subst last
  exact iff_of_true furthest fun same => absurd same other

theorem furthest_opening (early : t.stages <+: outset) :
    (∀ s ∈ t.stages, s ≤ t.present) ↔ (t.present = .reloadTriggered → k ≤ 1) := by
  have ordered : outset.Pairwise (· ≤ ·) := by decide
  refine furthest_elsewhere rfl ?_ (le_present (ordered.sublist early.sublist))
  intro same
  have member : t.present ∈ outset := early.subset (by simp [Trail.stages])
  rw [same] at member
  exact absurd member (by decide)

theorem Leg.furthest (leads : Leg n leg k) (walked : t.stages = outset ++ leg) :
    (∀ s ∈ t.stages, s ≤ t.present) ↔ (t.present = .reloadTriggered → k ≤ 1) := by
  cases leads with
  | answered within =>
    cases k with
    | zero => exact furthest_opening (by rw [walked]; decide)
    | succ k =>
      have ends : t.stages =
          (outset ++ rounds k ++ [.reloadTriggered]) ++ [.notificationVerified] := by
        rw [walked, ← rounds_append k 1]
        simp [rounds]
      exact furthest_elsewhere (Trail.present_of_stages ends) (by decide)
        fun s member => le_of_rounds (walked ▸ member)
  | @unanswered k within =>
    have ends : t.stages = (outset ++ rounds k) ++ [.reloadTriggered] :=
      walked.trans (List.append_assoc _ _ _).symm
    rw [Trail.present_of_stages ends, ends]
    cases k with
    | zero => exact iff_of_true (by decide) fun _ => Nat.le_refl 1
    | succ k =>
      -- The notification of the reload before this one is a later stage.
      refine iff_of_false (fun furthest => ?_) (fun first => ?_)
      · exact absurd (furthest .notificationVerified (by simp [rounds_succ])) (by decide)
      · exact absurd (first rfl) (by omega)
  | alive =>
    have ends : t.stages = (outset ++ rounds n) ++ [.livenessVerified] :=
      walked.trans (List.append_assoc _ _ _).symm
    refine furthest_elsewhere (Trail.present_of_stages ends) (by decide) ?_
    intro s member
    rw [ends] at member
    rcases List.mem_append.mp member with earlier | last
    · exact Nat.le_trans (le_of_rounds earlier) (by decide)
    · rw [List.mem_singleton.mp last]
      decide

/-- A run stops at the furthest stage that it came to, unless it is stopped by a reload that was not
its first. -/
theorem Route.furthest (route : Route n t.stages k) :
    (∀ stage ∈ t.stages, stage ≤ t.present) ↔ (t.present = .reloadTriggered → k ≤ 1) := by
  generalize walked : t.stages = stages at route
  cases route with
  | opening early =>
    rw [← walked] at early ⊢
    exact furthest_opening early
  | session leads =>
    rw [← walked]
    exact leads.furthest walked

variable {ports ports' : Ports} {variant : Bool} {outcome : Outcome}

/-- Every run has a trail, which is a beginning of the itinerary and ends with the stage that the
outcome tells. That stage is the furthest of the trail in all runs but those that are stopped by a
reload that was not their first. -/
theorem reached_furthest_iff (h : Runs (p.run ports variant) events (outcome, ports')) :
    ∃ trail, Runs (p.runTrailed ports variant) events ((outcome, ports'), trail) ∧
      trail.present = outcome.reached ∧
      trail.stages <+: itinerary p.settings.reloadCycles.toNat ∧
      trail.stages.count .reloadTriggered = reloads events ∧
      ((∀ stage ∈ trail.stages, stage ≤ outcome.reached) ↔
        (outcome.reached = .reloadTriggered → reloads events ≤ 1)) := by
  rw [run_eq, runs_map] at h
  obtain ⟨⟨found, trail⟩, trailed, rfl⟩ := h
  obtain ⟨reached, route⟩ := runs_runTrailed trailed
  refine ⟨trail, trailed, reached.symm, route.within, route.count, ?_⟩
  rw [reached]
  exact route.furthest

/-- One reload is answered, the next is not. -/
def fading : Config.Settings := { reloadCycles := 2 }

def fadingPlan : Plan := (ofSettings fading).toOption.get (by decide +kernel)

theorem reached_furthest_iff_fading : ∃ events outcome ports' trail,
    Runs (fadingPlan.runTrailed (.new 1888) false) events ((outcome, ports'), trail) ∧
      outcome.reached = .reloadTriggered ∧ reloads events = 2 ∧
      ¬ ∀ stage ∈ trail.stages, stage ≤ outcome.reached := by
  let run := fadingPlan.run (.new 1888) false
  let stream := fadingPlan.packets.connack ++ fadingPlan.packets.notification
  obtain ⟨ended, reached⟩ : ∃ ended : (run.run (obliging .timedOut) stream).1.toOption.isSome,
      ((run.run (obliging .timedOut) stream).1.toOption.get ended).1.reached = .reloadTriggered :=
    ⟨by decide +kernel, by decide +kernel⟩
  have h := runs_ended (obliging .timedOut) run stream ended
  have twice : reloads (run.trace (obliging .timedOut) stream) = 2 := by decide +kernel
  obtain ⟨trail, trailed, _, _, _, furthest⟩ := reached_furthest_iff h
  refine ⟨_, _, _, trail, trailed, reached, twice, fun all => ?_⟩
  exact absurd (furthest.mp all reached) (by rw [twice]; decide)

/-- The stage that an outcome tells is not always the furthest of its run. -/
theorem reached_not_furthest :
    ¬ ∀ (settings : Config.Settings) (p : Plan) (ports ports' : Ports) (variant : Bool)
      (events : List (Event host)) (outcome : Outcome) (trail : Trail),
      ofSettings settings = .ok p →
      Runs (p.runTrailed ports variant) events ((outcome, ports'), trail) →
      ∀ stage ∈ trail.stages, stage ≤ outcome.reached := by
  intro claim
  let run := fadingPlan.runTrailed (.new 1888) false
  let stream := fadingPlan.packets.connack ++ fadingPlan.packets.notification
  have h := runs_ended (obliging .timedOut) run stream (by decide +kernel)
  have made : ofSettings fading = .ok fadingPlan := Except.eq_ok_get _
  have furthest := claim _ _ _ _ _ _ _ _ made h .notificationVerified (by decide +kernel)
  exact absurd furthest (by decide +kernel)

end Plan
end ReloadProbe
