import ReloadProbe.Proofs.Net.Success
import ReloadProbe.Proofs.Run.Course

/-!
What a session takes from its connection. The buffer carries from each expectation to the next what
came too early, so the invariant is about the octets that came in all: they are the answers so far,
in their order, and then the buffer.
-/
namespace ReloadProbe.Plan

open Interaction Host Net

def notifications (p : Plan) (n : Nat) : Bytes := (List.replicate n p.packets.notification).flatten

/-- All that the broker has to send in a run that passes. -/
def script (p : Plan) : Bytes :=
  p.packets.connack ++ (p.notifications p.settings.reloadCycles.toNat ++ Wire.pingResp)

variable {p : Plan} {s : Scenario} {c c' : Client} {events : List (Event host)}

@[simp] theorem notifications_zero : p.notifications 0 = [] := rfl

theorem notifications_succ (n : Nat) :
    p.notifications (n + 1) = p.packets.notification ++ p.notifications n := rfl

theorem notifications_succ_last (n : Nat) :
    p.notifications (n + 1) = p.notifications n ++ p.packets.notification := by
  simp [notifications, List.replicate_succ']

theorem hail_met {hailed : List (Event link)} (h : Runs (p.hail s) hailed (.ok c)) :
    ∃ greeted, hailed = ⟨Net.Call.dial s.address, Dialled.opened⟩ :: greeted ∧
      c.connected = true ∧
      doings greeted = [⟨Net.Call.send p.packets.connect, (.ok () : Except String Unit)⟩] ∧
      received greeted = p.packets.connack ++ c.buffer := by
  rcases runs_handshake h with ⟨reply, other, _, told⟩ | ⟨greeted, d, rfl, greeting, told⟩ |
    ⟨_, _, _, _, _, _, _, _, told⟩
  · cases reply with
    | opened => exact absurd rfl other
    | refused | failed => cases told
  · cases told
    exact ⟨greeted, rfl, greet_met greeting⟩
  · cases told

theorem Connects.still {attempt left : Nat} {r : Except Failure Client}
    (attempts : Connects p s attempt left events r) : reloads events = 0 := by
  induction attempts with
  | met => exact reloads_atLink _
  | unknown | exited | exhausted => rfl
  | again _ ih => exact ih

theorem Connects.opened {attempt left : Nat} {r : Except Failure Client}
    (attempts : Connects p s attempt left events r) (ok : r = .ok c) :
    ∃ tries hailed, events = tries ++ hailed.map atLink ∧ Runs (p.hail s) hailed (.ok c) ∧
      ∀ e ∈ traffic tries, e = ⟨Net.Call.dial s.address, Dialled.refused⟩ := by
  induction attempts with
  | met greeting =>
    subst ok
    exact ⟨[], _, rfl, greeting, by simp⟩
  | unknown | exited | exhausted => cases ok
  | @again attempt left events r later ih =>
    obtain ⟨tries, hailed, rfl, greeting, refused⟩ := ih ok
    exact ⟨p.retry s attempt ++ tries, hailed, by simp, greeting,
      List.forall_mem_cons.mpr ⟨rfl, refused⟩⟩

theorem received_of_refused {s : Scenario} {own : List (Event link)}
    (h : ∀ e ∈ own, e = ⟨Net.Call.dial s.address, Dialled.refused⟩) : received own = [] := by
  induction own with
  | nil => rfl
  | cons e own ih =>
    obtain ⟨rfl, rest⟩ := List.forall_mem_cons.mp h
    exact ih rest

theorem Connects.met_greeting {attempt left : Nat}
    (attempts : Connects p s attempt left events (.ok c)) :
    c.connected = true ∧ received (traffic events) = p.packets.connack ++ c.buffer := by
  obtain ⟨tries, hailed, rfl, greeting, refused⟩ := attempts.opened rfl
  obtain ⟨greeted, rfl, linked, _, welcome⟩ := hail_met greeting
  refine ⟨linked, ?_⟩
  rw [traffic_append, traffic_atLink, received_append, received_of_refused refused]
  exact welcome

/-- Reloads that were all answered took one notification each. -/
theorem Cycles.met {n : Nat} {stage stage' : Stage} {r : Except Failure Unit}
    (cycles : Cycles p n c stage events r c' stage') (ok : r = .ok ()) :
    c.buffer ++ received (traffic events) = p.notifications n ++ c'.buffer ∧
      c'.connected = c.connected ∧ doings (traffic events) = [] ∧ reloads events = n := by
  induction cycles with
  | finished => exact ⟨by simp, rfl, rfl, rfl⟩
  | undelivered | unanswered => cases ok
  | @answered n c d c' stage stage' waited events r wait later ih =>
    obtain ⟨taken, same⟩ := expect_met wait
    obtain ⟨kept, linked, quiet, count⟩ := ih ok
    -- What came too early for the first wait is in the buffer of `d`, where the two sums meet.
    have wire : traffic (reloaded :: (waited.map atLink ++ events)) = waited ++ traffic events := by
      simp
    refine ⟨?_, linked.trans same, ?_, ?_⟩
    · calc c.buffer ++ received (traffic (reloaded :: (waited.map atLink ++ events)))
          = (c.buffer ++ received waited) ++ received (traffic events) := by simp [wire]
        _ = p.packets.notification ++ (d.buffer ++ received (traffic events)) := by
          rw [taken, List.append_assoc]
        _ = p.notifications (n + 1) ++ c'.buffer := by
          rw [kept, notifications_succ, List.append_assoc]
    · rw [wire, doings_append, doings_eq_nil.mpr (expect_unnoticed wait), quiet]
      rfl
    · rw [reloads_reloaded, reloads_append, reloads_atLink, count, Nat.zero_add]

/-- At each reload the session stands between two expectations, and a reload that is not answered is
the last thing that it does. -/
theorem Cycles.at_reload {n : Nat} {stage stage' : Stage} {r : Except Failure Unit}
    (cycles : Cycles p n c stage events r c' stage') {before after : List (Event host)}
    (h : events = before ++ reloaded :: after) :
    ∃ (d d' : Client) (waited : List (Event link)) (tail : List (Event host))
      (met : Except Failure Unit), after = waited.map atLink ++ tail ∧
      Runs (d.expect p.packets.notification p.settings.timeouts.notification notificationLabel)
        waited (met, d') ∧
      c.buffer ++ received (traffic before) = p.notifications (reloads before) ++ d.buffer ∧
      ∀ e, met = .error e → r = .error e ∧ stage' = .reloadTriggered ∧ tail = [] := by
  induction cycles generalizing before with
  | finished => simp at h
  | undelivered e => exact absurd h (ne_split_reload rfl)
  | @unanswered n c c' stage waited e wait =>
    cases before with
    | nil =>
      obtain ⟨_, rfl⟩ := List.cons.inj h
      exact ⟨c, c', waited, [], .error e, (List.append_nil _).symm, wait, List.append_nil _,
        fun _ same => ⟨same, rfl, rfl⟩⟩
    | cons first before =>
      exact absurd (List.cons.inj h).2 (ne_split_reload (reloads_atLink waited))
  | @answered n c d c' stage stage' waited events r wait later ih =>
    cases before with
    | nil =>
      obtain ⟨_, rfl⟩ := List.cons.inj h
      exact ⟨c, d, waited, events, .ok (), rfl, wait, List.append_nil _, fun _ same => nomatch same⟩
    | cons first before =>
      -- A later reload: before it came the answer to this one, and what came since.
      obtain ⟨rfl, rest⟩ := List.cons.inj h
      obtain ⟨early, rfl, split⟩ := split_reload_left (reloads_atLink waited) rest
      obtain ⟨e, e', waited', tail, met, rfl, wait', kept, last⟩ := ih split
      refine ⟨e, e', waited', tail, met, rfl, wait', ?_, last⟩
      have taken := (expect_met wait).1
      calc c.buffer ++ received (traffic (reloaded :: (waited.map atLink ++ early)))
          = (c.buffer ++ received waited) ++ received (traffic early) := by simp
        _ = p.packets.notification ++ (d.buffer ++ received (traffic early)) := by
          rw [taken, List.append_assoc]
        _ = p.notifications (reloads (reloaded :: (waited.map atLink ++ early))) ++ e.buffer := by
          rw [kept, reloads_reloaded, reloads_append, reloads_atLink, Nat.zero_add,
            notifications_succ, List.append_assoc]

theorem Converses.cycled {progress : Progress} (session : Converses p c events progress) :
    ∃ (cycled : List (Event host)) (pinged : List (Event link)) (r : Except Failure Unit)
      (d : Client) (stage : Stage), events = cycled ++ pinged.map atLink ∧
      Cycles p p.settings.reloadCycles.toNat c .connected cycled r d stage ∧
      ∀ e, r = .error e → progress.result = .error e ∧ progress.stage = stage := by
  cases session with
  | stopped reloads =>
    exact ⟨_, [], _, _, _, (List.append_nil _).symm, reloads, fun _ same => ⟨same, rfl⟩⟩
  | mute reloads ping => exact ⟨_, _, _, _, _, rfl, reloads, fun _ same => nomatch same⟩
  | alive reloads ping => exact ⟨_, _, _, _, _, rfl, reloads, fun _ same => nomatch same⟩

theorem Judges.still {progress : Progress} {r : Except Failure Unit}
    (told : Judges progress events r) : traffic events = [] ∧ reloads events = 0 := by
  cases told with
  | passed | unstarted => exact ⟨rfl, rfl⟩
  | @failed e _ _ _ _ told =>
    cases told with
    | shown => exact ⟨rfl, rfl⟩
    | looked => cases e.lostConnection <;> exact ⟨rfl, rfl⟩

theorem Judges.fails {progress : Progress} {r : Except Failure Unit} {e : Failure}
    (told : Judges progress events r) (failed : progress.result = .error e) :
    ∃ e', r = .error e' := by
  cases told with
  | passed fine => cases fine.symm.trans failed
  | unstarted | failed => exact ⟨_, rfl⟩

theorem ending_still {progress : Progress} {r : Except Failure Unit}
    (told : Judges progress events r) (output : Option Output) (config : Path)
    (removed : Except String Unit) (ended : Nat) :
    let late := events ++ ((parting progress.client).map atLink ++
      (stopping output ++ [⟨Call.removeConfig config, removed⟩])) ++
      [atLink ⟨Net.Call.now, ended⟩]
    traffic late = parting progress.client ++ [⟨Net.Call.now, ended⟩] ∧ reloads late = 0 := by
  obtain ⟨quiet, still⟩ := told.still
  cases output with
  | some | none =>
    simp only [traffic_append, reloads_append, traffic_atLink, reloads_atLink, quiet, still]
    exact ⟨congrArg (· ++ _) (List.append_nil _), rfl⟩

/-- A run that came to a session: what went before, the connection, the talk on it and the end. -/
inductive Session (p : Plan) : List (Event host) → Outcome → Prop where
  | held {s : Scenario} {c : Client} {early dialled talk judging late : List (Event host)}
      {progress : Progress} {outcome : Outcome} {begun ended : Nat}
      (place : outcome.scenario = some s)
      (attempts : Connects p s 1 (p.settings.startup.attempts.toNat - 1) dialled (.ok c))
      (talks : Converses p c talk progress) (told : Judges progress judging outcome.result)
      (reached : outcome.reached = progress.stage)
      (opening : traffic early = [⟨Net.Call.now, begun⟩]) (still : reloads early = 0)
      (closing : traffic late = parting progress.client ++ [⟨Net.Call.now, ended⟩])
      (quiet : reloads late = 0) :
      Session p (early ++ (dialled ++ (talk ++ late))) outcome

/-- What precedes the broker: the mark of the run, a look at the clock and the search for a port. -/
theorem entry_still (id : String) (begun : Nat) (asked : List (Event Ports.probing))
    (more : List (Event host)) :
    let entry := ⟨Call.newId, id⟩ :: atLink ⟨Net.Call.now, begun⟩ :: (asked.map probed ++ more)
    traffic entry = ⟨Net.Call.now, begun⟩ :: traffic more ∧ reloads entry = reloads more := by
  constructor
  · have own : traffic (asked.map probed ++ more) = traffic more := by simp
    exact congrArg (_ :: ·) own
  · have own : reloads (asked.map probed ++ more) = reloads more := by simp
    exact own

theorem runs_session {ports ports' : Ports} {variant : Bool} {outcome : Outcome}
    (h : Runs (p.run ports variant) events (outcome, ports')) :
    Session p events outcome ∨ reloads events = 0 ∧ ∃ e, outcome.result = .error e := by
  obtain ⟨id, begun, ended, performed, timed, elapsed, course, rfl, rfl⟩ := runs_run h
  cases course with
  | portless search => exact .inr ⟨(entry_still id begun _ _).2, _, rfl⟩
  | unwritten search source =>
    rw [List.append_assoc]
    exact .inr ⟨(entry_still id begun _ _).2, _, rfl⟩
  | driven search drive told stopped =>
    rename_i asked port _ config driving judging progress r output removed
    obtain ⟨closing, quiet⟩ := ending_still told output config removed ended
    cases drive with
    | unstarted e =>
      refine .inr ⟨?_, told.fails rfl⟩
      simp only [List.cons_append, List.append_assoc, List.nil_append] at quiet ⊢
      exact (entry_still id begun asked _).2.trans quiet
    | unconnected attempts =>
      refine .inr ⟨?_, told.fails rfl⟩
      simp only [List.cons_append, List.append_assoc, List.nil_append] at quiet ⊢
      refine (entry_still id begun asked _).2.trans (reloads_append.trans ?_)
      rw [attempts.still, quiet]
    | connected attempts talks =>
      have started := entry_still id begun asked [p.writing variant port (.ok config),
        ⟨Call.start config port, .ok ()⟩]
      have held : Session p _ { id, perListenerSettings := variant
                                scenario := some (p.scenarioAt variant port)
                                reached := progress.stage, result := r, output, elapsed } :=
        .held rfl attempts talks told rfl started.1 started.2 closing quiet
      simp only [List.cons_append, List.append_assoc, List.nil_append] at held ⊢
      exact .inl held

end ReloadProbe.Plan
