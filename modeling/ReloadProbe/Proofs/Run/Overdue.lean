import ReloadProbe.Proofs.Net.Overdue
import ReloadProbe.Proofs.Run.Custody
import ReloadProbe.Proofs.Run.Delivery
import ReloadProbe.Proofs.Run.Suite

/-!
Runs that crash. The one thing in a run that can is a wait for which the clock has no deadline, so a
crash comes in a session, with a connection; that is dropped, then the broker, then the file. The
broker is not told to stop, and not waited for.
-/
namespace ReloadProbe

open Interaction Host Net

namespace Host

theorem crashes_net {α : Type} {p : Interaction link α} {events : List (Event host)} {reason : String}
    (h : Crashes (net p) events reason) : ∃ own, events = own.map atLink ∧ Crashes p own reason :=
  crashes_embed (fun _ _ => rfl) h

theorem now_safe : (net Net.now).Safe :=
  (Safe.call (I := link) Net.Call.now).embed

theorem allocate_safe (ports : Ports) : (allocate ports).Safe :=
  ports.allocate_safe.embed

theorem write_safe (directory : Option Path) (contents : String) :
    (disk (ConfigFile.write directory contents)).Safe :=
  (ConfigFile.write_safe directory contents).embed

theorem remove_safe (file : ConfigFile) : (disk file.remove).Safe :=
  file.remove_safe.embed

theorem drop_safe (file : ConfigFile) : (disk file.drop).Safe :=
  file.drop_safe.embed

end Host

namespace Plan

/-- There is a time that the plan allows and that has no deadline from this instant on. -/
def Overdue (p : Plan) (instant : Nat) : Prop :=
  ∃ timeout ∈ [p.settings.timeouts.handshake, p.settings.timeouts.notification,
    p.settings.timeouts.ping], deadline? instant timeout = none

instance (p : Plan) (instant : Nat) : Decidable (p.Overdue instant) :=
  inferInstanceAs (Decidable (∃ timeout ∈ _, _))

/-- A session that crashes: the clock is looked at, and the connection dropped. -/
inductive Lapses (p : Plan) (linked : Bool) : List (Event host) → Prop where
  | mk {before : List (Event host)} (instant : Nat) (talk : Talk linked (deeds before) true)
      (overdue : p.Overdue instant) :
      Lapses p linked
        (before ++ [atLink ⟨Net.Call.now, instant⟩, atLink ⟨Net.Call.hangUp, ()⟩])

/-- All of a run that crashes. The last that is done of the deeds that a teardown undoes is to drop
the connection, the broker and the file. -/
inductive Wreck (p : Plan) : List (Event host) → Prop where
  | mk {before : List (Event host)} {session : List Deed} (file : Path) (instant : Nat)
      (gone : Except String Unit) (held : deeds before = .write file :: .start true :: session)
      (talk : Talk false session true) (overdue : p.Overdue instant) :
      Wreck p (before ++ [atLink ⟨Net.Call.now, instant⟩, atLink ⟨Net.Call.hangUp, ()⟩,
        ⟨Call.abandon, ()⟩, ⟨Call.removeConfig file, gone⟩])

variable {p : Plan} {s : Scenario} {c : Client} {events before : List (Event host)}
  {reason : String}

theorem Lapses.after {a b : Bool} (lapse : Lapses p b events) (first : Talk a (deeds before) b) :
    Lapses p a (before ++ events) := by
  obtain ⟨instant, talk, overdue⟩ := lapse
  rw [← List.append_assoc]
  refine .mk instant ?_ overdue
  rw [deeds_append]
  exact first.append talk

/-- The look at the clock, and what was sent before it. -/
theorem lapses_link {linked : Bool} {own : List (Event link)} {instant : Nat}
    (talk : Talk linked (linkDeeds own) true) (overdue : p.Overdue instant) :
    Lapses p linked ((own ++ [⟨.now, instant⟩, ⟨.hangUp, ()⟩] : List (Event link)).map atLink) := by
  rw [List.map_append]
  exact .mk instant (by rwa [deeds_atLink]) overdue

theorem crashes_holding {α : Type} {q : Interaction link α} (linked : c.connected = true)
    (h : Crashes (holding c q) events reason) :
    ∃ own, events = (own ++ [⟨.hangUp, ()⟩] : List (Event link)).map atLink ∧
      Crashes q own reason := by
  obtain ⟨all, rfl, crash⟩ := crashes_net h
  obtain ⟨own, dropped, rfl, called, drop⟩ := (crashes_unwinding (Net.drop_safe c)).mp crash
  obtain rfl := runs_drop linked drop
  exact ⟨own, rfl, called⟩

theorem crashes_hail {hailed : List (Event link)} (h : Crashes (p.hail s) hailed reason) :
    Lapses p false (hailed.map atLink) ∧ reason = overflow := by
  obtain ⟨sent, instant, sending, due, rfl, told⟩ := crashes_handshake h
  have overdue : p.Overdue instant := ⟨_, by simp, due⟩
  have talk : Talk false (linkDeeds (⟨Net.Call.dial s.address, Dialled.opened⟩ :: sent)) true := by
    show Talk false (.opened :: linkDeeds sent) true
    rw [linkDeeds_send sending]
    exact .opened .nothing
  exact ⟨lapses_link talk overdue, told⟩

/-- Attempts to connect crash in a handshake, after so many refusals. -/
theorem crashes_connectFrom {attempt left : Nat}
    (h : Crashes (p.connectFrom s attempt left) events reason) :
    ∃ n hailed, n ≤ left ∧
      events = (List.range' attempt n).flatMap (p.retry s) ++ hailed.map atLink ∧
      Crashes (p.hail s) hailed reason := by
  induction left generalizing attempt events with
  | zero =>
    unfold connectFrom at h
    rcases crashes_seq.mp h with hailing | ⟨_, _, opened, _, _, tried⟩
    · obtain ⟨hailed, rfl, crash⟩ := crashes_net hailing
      exact ⟨0, hailed, Nat.le_refl 0, rfl, crash⟩
    split at tried
    · obtain ⟨reply, _, _, rest⟩ := crashes_reply.mp tried
      rcases reply with _ | _ | _ <;> cases rest
    · cases tried
  | succ left ih =>
    unfold connectFrom at h
    rcases crashes_seq.mp h with hailing | ⟨before, after, opened, rfl, hailing, tried⟩
    · obtain ⟨hailed, rfl, crash⟩ := crashes_net hailing
      exact ⟨0, hailed, Nat.zero_le _, rfl, crash⟩
    obtain ⟨own, rfl, greeting⟩ := runs_net hailing
    split at tried
    · rw [refused_hail greeting]
      obtain ⟨reply, later, rfl, rest⟩ := crashes_reply.mp tried
      rcases reply with _ | _ | _
      · cases rest
      · obtain ⟨⟨⟩, later, rfl, again⟩ := crashes_reply.mp rest
        obtain ⟨n, hailed, few, rfl, crash⟩ := ih again
        refine ⟨n + 1, hailed, by omega, ?_, crash⟩
        rw [List.range'_succ, List.flatMap_cons, List.append_assoc]
        rfl
      · cases rest
    · cases tried

theorem deeds_retries (attempts : List Nat) : deeds (attempts.flatMap (p.retry s)) = [] := by
  induction attempts with
  | nil => rfl
  | cons attempt attempts ih =>
    rw [List.flatMap_cons, deeds_append, ih]
    rfl

theorem lapses_connect (h : Crashes (p.connect s) events reason) :
    Lapses p false events ∧ reason = overflow := by
  obtain ⟨n, hailed, _, rfl, crash⟩ := crashes_connectFrom h
  obtain ⟨lapse, told⟩ := crashes_hail crash
  refine ⟨lapse.after ?_, told⟩
  rw [deeds_retries]
  exact .nothing

theorem lapses_cycles {n : Nat} {stage : Stage} (linked : c.connected = true)
    (h : Crashes (p.cycles n c stage) events reason) :
    Lapses p true events ∧ reason = overflow := by
  induction n generalizing c stage events with
  | zero => cases h
  | succ n ih =>
    obtain ⟨reply, later, rfl, answer⟩ := crashes_reply.mp h
    cases reply with
    | error => cases answer
    | ok =>
      have told : Talk true (deeds [reloaded]) true := .signalled .nothing
      rcases crashes_seq.mp answer with waiting | ⟨before, after, ⟨met, d⟩, rfl, waiting, rest⟩
      · obtain ⟨own, rfl, expecting⟩ := crashes_holding linked waiting
        obtain ⟨instant, due, rfl, rfl⟩ := crashes_expect expecting
        have overdue : p.Overdue instant := ⟨_, by simp, due⟩
        have lapse := lapses_link (show Talk true (linkDeeds []) true from .nothing) overdue
        exact ⟨lapse.after told, rfl⟩
      · obtain ⟨waited, rfl, wait⟩ := runs_holding waiting
        cases met with
        | error => cases rest
        | ok =>
          have same := (expect_met wait).2
          have talk := expect_talk wait
          rw [same, linked, ← deeds_atLink] at talk
          obtain ⟨lapse, reasoned⟩ := ih (same.trans linked) rest
          exact ⟨(lapse.after talk).after told, reasoned⟩

theorem lapses_converse (linked : c.connected = true)
    (h : Crashes (p.converse c) events reason) : Lapses p true events ∧ reason = overflow := by
  rcases crashes_seq.mp h with cycling | ⟨before, after, ⟨met, d, stage⟩, rfl, cycling, more⟩
  · exact lapses_cycles linked cycling
  have reloads := runs_cycles cycling
  cases met with
  | error => cases more
  | ok =>
    obtain ⟨_, same, _⟩ := reloads.met rfl
    have talk := reloads.talk
    rw [same, linked] at talk
    rcases crashes_seq.mp more with pinging | ⟨_, _, ⟨alive, _⟩, _, _, told⟩
    · obtain ⟨own, rfl, ping⟩ := crashes_holding (same.trans linked) pinging
      obtain ⟨sent, instant, sending, due, rfl, told⟩ := crashes_ping ping
      have overdue : p.Overdue instant := ⟨_, by simp, due⟩
      have quiet : Talk true (linkDeeds sent) true := by
        rw [linkDeeds_send sending]
        exact .nothing
      rw [List.append_assoc]
      exact ⟨(lapses_link quiet overdue).after talk, told⟩
    · cases alive <;> cases told

theorem lapses_attend (h : Crashes (p.attend s) events reason) :
    Lapses p false events ∧ reason = overflow := by
  rcases crashes_seq.mp h with connecting | ⟨dialled, later, opened, rfl, connecting, rest⟩
  · exact lapses_connect connecting
  cases opened with
  | error => cases rest
  | ok c =>
    have attempts := runs_connectFrom connecting
    have linked := attempts.met_greeting.1
    have talk : Talk false (deeds dialled) c.connected := attempts.talk
    rw [linked] at talk
    obtain ⟨lapse, told⟩ := lapses_converse linked rest
    exact ⟨lapse.after talk, told⟩

theorem crashes_drive {config : Path} (h : Crashes (p.drive s config) events reason) :
    ∃ own, events = ⟨Call.start config s.port, .ok ()⟩ :: (own ++ [⟨Call.abandon, ()⟩]) ∧
      Lapses p false own ∧ reason = overflow := by
  obtain ⟨reply, later, rfl, more⟩ := crashes_reply.mp h
  cases reply with
  | error => cases more
  | ok =>
    obtain ⟨own, dropped, rfl, attending, drop⟩ :=
      (crashes_unwinding (.call (I := host) Call.abandon)).mp more
    obtain rfl := runs_call.mp drop
    obtain ⟨lapse, told⟩ := lapses_attend attending
    exact ⟨own, rfl, lapse, told⟩

theorem classify_safe (e : Failure) : (classify e).Safe := by
  unfold classify
  split
  case isFalse => exact .pure e
  split
  case' isTrue => refine .ask fun _ => ?_
  all_goals
    refine .ask fun (reply : Except Failure (Option ExitState)) => ?_
    rcases reply with _ | _ | _ <;> exact .pure _

theorem verdict_safe (progress : Progress) : (verdict progress).Safe := by
  unfold verdict
  split
  · exact (classify_safe _).seq fun _ => .pure _
  · exact .pure _

theorem tearDown_safe (progress : Progress) (file : ConfigFile) :
    (tearDown progress file).Safe := by
  have removal (output : Option Output) :
      (disk file.remove >>= fun removed => pure (output, removed.2)).Safe :=
    (remove_safe file).seq fun _ => .pure _
  cases present : progress.client <;> simp only [tearDown, present]
  case' some c => refine .seq (close_safe c).embed fun _ => ?_
  all_goals
    split
    · refine .seq (.call (I := host) Call.terminate) fun _ => ?_
      exact .seq (.map some (.call (I := host) Call.wait)) removal
    · exact removal none

theorem crashes_perform {id : String} {ports : Ports} {variant : Bool}
    (h : Crashes (p.perform id ports variant) events reason) :
    Wreck p events ∧ reason = overflow := by
  rcases crashes_seq.mp h with asking | ⟨before, after, ⟨given, left⟩, rfl, asking, more⟩
  · exact absurd asking (allocate_safe _ _ _)
  obtain ⟨asked, rfl, search⟩ := runs_allocate asking
  cases given with
  | error => cases more
  | ok port =>
    rcases crashes_seq.mp more with writes | ⟨writes, later, written, rfl, writing, rest⟩
    · exact absurd writes (write_safe _ _ _ _)
    obtain ⟨own, rfl, wrote⟩ := runs_disk writing
    obtain ⟨place, rfl, rfl⟩ := ConfigFile.runs_write wrote
    cases place with
    | error => cases rest
    | ok file =>
      rcases crashes_seq.mp rest with driving | ⟨_, _, progress, _, _, judges⟩
      · obtain ⟨driven, dropped, rfl, drive, drop⟩ :=
          (crashes_unwinding (Host.drop_safe _)).mp driving
        obtain ⟨session, rfl, lapse, told⟩ := crashes_drive drive
        obtain ⟨mine, rfl, unlinked⟩ := runs_disk drop
        obtain ⟨before, _⟩ | ⟨_, gone, rfl⟩ := ConfigFile.runs_drop unlinked
        · cases before
        obtain @⟨talked, instant, talk, overdue⟩ := lapse
        refine ⟨?_, told⟩
        have held : deeds (asked.map probed ++ p.writing variant port (.ok file) ::
            ⟨Call.start file port, (.ok () : Except Failure Unit)⟩ :: talked) =
            .write file :: .start true :: deeds talked := p.deeds_entry asked variant port file _
        have wreck := Wreck.mk file instant gone held talk overdue
        simpa [Plan.writing, onDisk] using wreck
      · rcases crashes_seq.mp judges with judging | ⟨_, _, r, _, _, tearing⟩
        · exact absurd judging (verdict_safe _ _ _)
        rcases crashes_seq.mp tearing with torn | ⟨_, _, ⟨output, file⟩, _, _, dropping⟩
        · exact absurd torn (tearDown_safe _ _ _ _)
        rcases crashes_seq.mp dropping with drop | ⟨_, _, _, _, _, told⟩
        · exact absurd drop (Host.drop_safe _ _ _)
        · cases told

theorem crashes_run {ports : Ports} {variant : Bool}
    (h : Crashes (p.run ports variant) events reason) : Wreck p events ∧ reason = overflow := by
  obtain ⟨id, marked, rfl, timing⟩ := crashes_reply.mp h
  rcases crashes_seq.mp timing with clock | ⟨first, more, begun, rfl, clock, rest⟩
  · exact absurd clock (now_safe _ _)
  obtain ⟨own, rfl, asked⟩ := runs_net clock
  obtain rfl := runs_call.mp asked
  rcases crashes_seq.mp rest with performing | ⟨_, _, _, _, _, ending⟩
  · obtain ⟨@⟨before, session, file, instant, gone, held, talk, overdue⟩, told⟩ :=
      crashes_perform performing
    have same : deeds (⟨Call.newId, id⟩ :: atLink ⟨Net.Call.now, begun⟩ :: before) =
        .write file :: .start true :: session := held
    exact ⟨.mk file instant gone same talk overdue, told⟩
  · rcases crashes_seq.mp ending with clocked | ⟨_, _, _, _, _, told⟩
    · exact absurd clocked (now_safe _ _)
    · cases told

theorem Wreck.overdue (wreck : Wreck p events) :
    ∃ instant : Nat, atLink ⟨Net.Call.now, instant⟩ ∈ events ∧ p.Overdue instant := by
  obtain ⟨file, instant, gone, held, talk, overdue⟩ := wreck
  exact ⟨instant, by simp, overdue⟩

theorem Aborts.wreck {ports : Ports} {variants : List Bool} {records : List (List (Event host))}
    (suite : Aborts p ports variants records events reason) : Wreck p events ∧ reason = overflow := by
  induction suite with
  | crashed crash => exact crashes_run crash
  | followed _ _ _ ih => exact ih

/-- Settings that are fine by every check, with a wait that outlasts the clock. -/
def endless : Config.Settings :=
  { timeouts := { notification := .ofSeconds 18446744073709551615 } }

def endlessPlan : Plan := (ofSettings endless).toOption.get (by decide +kernel)

theorem endless_made : ofSettings endless = .ok endlessPlan := Except.eq_ok_get _

/-- Nothing goes wrong in this run, until its first notification is awaited. -/
theorem endless_ended :
    ((endlessPlan.run (.new 1888) false).run (obliging .ended) endlessPlan.script).1 =
      .error overflow := by
  let ended := ((endlessPlan.run (.new 1888) false).run (obliging .ended) endlessPlan.script).1
  have failed : ended.toOption.isNone := by decide +kernel
  obtain ⟨reason, told⟩ := Except.exists_eq_error failed
  obtain ⟨_, rfl⟩ := crashes_run (crashes_trace told)
  exact told

end Plan
end ReloadProbe
