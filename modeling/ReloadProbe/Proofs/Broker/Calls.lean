import ReloadProbe.Broker.Subprocess
import ReloadProbe.Proofs.Runs

/-!
The calls on a broker, and what each of them does (`Does`): all that it may ask of the system, what
it answers and what it puts on record.
-/
namespace ReloadProbe.Subprocess

open Child Interaction

inductive Operation where
  | signal (s : Signal)
  | exitState
  | terminate
  | wait

inductive Answer where
  | signalled (result : Except Failure Unit)
  | state (result : Except Failure (Option ExitState))
  | terminated
  | waited (output : Output)

/-- The end that an answer tells of. -/
def Answer.exit? : Answer → Option ExitState
  | state result => result.toOption.join
  | waited output => output.exit
  | signalled _ | terminated => none

def operate (b : Subprocess) : Operation → Interaction child (Answer × Subprocess)
  | .signal s => Prod.map .signalled id <$> b.signal s
  | .exitState => Prod.map .state id <$> b.exitState
  | .terminate => (.terminated, ·) <$> b.terminate
  | .wait => Prod.map .waited id <$> b.wait

/-- The end that the system tells of. -/
def reports : Event child → Option ExitState
  | ⟨.poll, reply⟩ => (reply : Except String (Option ExitState)).toOption.join
  | ⟨.await _, reply⟩ =>
    match (reply : Waited) with
    | .exited exit => some exit
    | .timedOut | .failed _ => none
  | _ => none

/-- The system is asked whether the broker has ended. -/
def Asks : Event child → Prop
  | ⟨.poll, _⟩ | ⟨.await _, _⟩ => True
  | _ => False

/-- Something is sent to the broker. -/
def Kills : Event child → Prop
  | ⟨.kill _ _, _⟩ | ⟨.killChild, _⟩ => True
  | _ => False

/-- To wait for a broker does not fail, and has no end of its own if it has no limit. -/
def Reliable : Event child → Prop
  | ⟨.await (some _), reply⟩ => ∀ reason, (reply : Waited) ≠ .failed reason
  | ⟨.await none, reply⟩ => ∃ exit, (reply : Waited) = .exited exit
  | _ => True

/-- An end that was told is told again whenever it is asked for. -/
def Persists (earlier later : Event child) : Prop :=
  ∀ exit, reports earlier = some exit → Asks later → reports later = some exit

/-- Nothing is sent to a broker of whose end was told. -/
def Quiet (earlier later : Event child) : Prop := (reports earlier).isSome → ¬ Kills later

/-- The system, when it is asked, tells of the end that is on record. -/
def Repeats (b : Subprocess) (events : List (Event child)) : Prop :=
  ∀ exit, b.exit = some exit → ∀ e ∈ events, Asks e → reports e = some exit

variable {b c : Subprocess} {events looked acted : List (Event child)} {answer : Answer}
  {op : Operation}

theorem asks_of_reports {e : Event child} {exit : ExitState} (h : reports e = some exit) :
    Asks e := by
  obtain ⟨call, reply⟩ := e
  cases call with
  | poll | await => trivial
  | spawn | kill | killChild | drain => exact nomatch h

/-- The record is looked at first, and the system is asked only if there is none. -/
inductive Looks (b : Subprocess) :
    List (Event child) → Except Failure (Option ExitState) → Subprocess → Prop where
  | known {exit : ExitState} (recorded : b.exit = some exit) : Looks b [] (.ok (some exit)) b
  | asked (unknown : b.exit = none) (found : Option ExitState) :
      Looks b [⟨Call.poll, .ok found⟩] (.ok found) { b with exit := found }
  | failed (unknown : b.exit = none) (source : String) :
      Looks b [⟨Call.poll, .error source⟩] (.error (.status source)) b

theorem runs_exitState {r : Except Failure (Option ExitState)}
    (h : Runs b.exitState events (r, c)) : Looks b events r c := by
  unfold exitState at h
  split at h
  · rename_i exit recorded
    obtain ⟨rfl, same⟩ := runs_pure.mp h
    cases same
    exact .known recorded
  · rename_i unknown
    obtain ⟨reply, later, rfl, told⟩ := runs_reply.mp h
    cases reply with
    | ok found =>
      obtain ⟨rfl, same⟩ := runs_pure.mp told
      cases same
      exact .asked unknown found
    | error source =>
      obtain ⟨rfl, same⟩ := runs_pure.mp told
      cases same
      exact .failed unknown source

namespace Looks

variable {r : Except Failure (Option ExitState)}

theorem exit_eq (h : Looks b events r c) : c.exit = r.toOption.join := by
  cases h with
  | known recorded => exact recorded
  | asked _ found => rfl
  | failed unknown source => exact unknown

theorem output_eq (h : Looks b events r c) : c.output = b.output := by
  cases h <;> rfl

theorem settled {exit : ExitState} (h : Looks b events r c) (recorded : b.exit = some exit) :
    events = [] ∧ r = .ok (some exit) ∧ c = b := by
  cases h with
  | known same =>
    cases recorded.symm.trans same
    exact ⟨rfl, rfl, rfl⟩
  | asked unknown | failed unknown => exact nomatch recorded.symm.trans unknown

/-- What a look adds to the record is what the system told, and all of it is added. -/
theorem told (h : Looks b events r c) (unknown : b.exit = none) (exit : ExitState) :
    c.exit = some exit ↔ ∃ e ∈ events, reports e = some exit := by
  cases h with
  | known recorded => exact nomatch unknown.symm.trans recorded
  | asked _ found => simp [reports, Except.toOption]
  | failed _ source => simp [reports, Except.toOption, unknown]

theorem not_kills (h : Looks b events r c) : ∀ e ∈ events, ¬ Kills e := by
  cases h with
  | known => nofun
  | asked | failed => exact List.forall_mem_singleton.mpr id

end Looks

/-- A look at the broker, and what is done after it, which tells of no end; nothing is done if there
is an end on record after the look. -/
structure Acts (b : Subprocess) (looked acted : List (Event child))
    (r : Except Failure (Option ExitState)) (c : Subprocess) : Prop where
  look : Looks b looked r c
  silent : ∀ e ∈ acted, reports e = none
  idle : c.exit.isSome → acted = []

theorem Looks.acts {r : Except Failure (Option ExitState)} (h : Looks b looked r c) :
    Acts b looked [] r c where
  look := h
  silent := fun _ member => nomatch member
  idle := fun _ => rfl

namespace Acts

variable {r : Except Failure (Option ExitState)}

theorem settled {exit : ExitState} (h : Acts b looked acted r c) (recorded : b.exit = some exit) :
    looked ++ acted = [] ∧ c = b := by
  obtain ⟨rfl, _, rfl⟩ := h.look.settled recorded
  exact ⟨h.idle (by simp [recorded]), rfl⟩

theorem recorded {e : Event child} {exit : ExitState} (h : Acts b looked acted r c)
    (member : e ∈ looked ++ acted) (told : reports e = some exit) : c.exit = some exit := by
  cases known : b.exit with
  | some earlier =>
    rw [(h.settled known).1] at member
    cases member
  | none =>
    rcases List.mem_append.mp member with before | after
    · exact (h.look.told known exit).mpr ⟨e, before, told⟩
    · cases (h.silent e after).symm.trans told

theorem quiet (h : Acts b looked acted r c) : (looked ++ acted).Pairwise Quiet := by
  -- Something is sent only where the look found no end, and no end is told of later.
  refine List.pairwise_append.mpr ⟨?_, ?_, ?_⟩
  · exact List.pairwise_of_forall_mem_list fun _ _ e member _ => h.look.not_kills e member
  · refine List.pairwise_of_forall_mem_list fun e member _ _ told => ?_
    simp [h.silent e member] at told
  · intro earlier before later after told
    obtain ⟨exit, told⟩ := Option.isSome_iff_exists.mp told
    have ended := h.recorded (List.mem_append_left _ before) told
    rw [h.idle (by simp [ended])] at after
    cases after

end Acts

theorem send_silent {pid : UInt32} {s : Signal} {r : Except Failure Unit}
    (h : Runs (send pid s) events r) : ∀ e ∈ events, reports e = none := by
  unfold send at h
  split at h
  · obtain ⟨reply, later, rfl, told⟩ := runs_reply.mp h
    have nothing : later = [] := by
      cases reply with
      | delivered | nobody | failed => exact (runs_pure.mp told).1
    subst nothing
    exact List.forall_mem_cons.mpr ⟨rfl, nofun⟩
  · obtain ⟨rfl, _⟩ := runs_pure.mp h
    nofun

theorem runs_signal {s : Signal} {r : Except Failure Unit} (h : Runs (b.signal s) events (r, c)) :
    ∃ looked acted state, events = looked ++ acted ∧ Acts b looked acted state c ∧
      (c.exit.isSome → r = .error .notRunning) := by
  obtain ⟨looked, acted, ⟨state, b'⟩, rfl, looking, acting⟩ := runs_seq.mp h
  have look := runs_exitState looking
  refine ⟨looked, acted, state, rfl, ?_⟩
  dsimp only at acting
  split at acting
  -- What was found is not known, it has ended, it has no number, or the signal is sent.
  · obtain ⟨rfl, same⟩ := runs_pure.mp acting
    cases same
    exact ⟨look.acts, fun ended => by simp [look.exit_eq, Except.toOption] at ended⟩
  · obtain ⟨rfl, same⟩ := runs_pure.mp acting
    cases same
    exact ⟨look.acts, fun _ => rfl⟩
  · obtain ⟨rfl, same⟩ := runs_pure.mp acting
    cases same
    exact ⟨look.acts, fun _ => rfl⟩
  · obtain ⟨sent, nothing, result, rfl, sending, ended⟩ := runs_seq.mp acting
    obtain ⟨rfl, same⟩ := runs_pure.mp ended
    cases same
    have running : ¬ c.exit.isSome := by simp [look.exit_eq, Except.toOption]
    refine ⟨⟨look, ?_, fun ended => absurd ended running⟩, fun ended => absurd ended running⟩
    simpa using send_silent sending

theorem runs_terminate (h : Runs b.terminate events c) :
    ∃ looked acted state, events = looked ++ acted ∧ Acts b looked acted state c := by
  obtain ⟨looked, acted, ⟨state, b'⟩, rfl, looking, acting⟩ := runs_seq.mp h
  have look := runs_exitState looking
  refine ⟨looked, acted, state, rfl, ?_⟩
  dsimp only at acting
  split at acting
  · obtain ⟨rfl, rfl⟩ := runs_pure.mp acting
    exact look.acts
  · obtain ⟨rfl, rfl⟩ := runs_pure.mp acting
    exact look.acts
  · rename_i state _ _ _ running _
    obtain ⟨sent, later, result, rfl, sending, ended⟩ := runs_seq.mp acting
    have silent := send_silent sending
    have unended : ¬ b'.exit.isSome := by
      rw [look.exit_eq]
      rcases state with _ | _ | exit
      · exact Bool.false_ne_true
      · exact Bool.false_ne_true
      · exact absurd rfl (running exit)
    split at ended
    · obtain ⟨rfl, rfl⟩ := runs_pure.mp ended
      exact ⟨look, by simpa using silent, fun h => absurd h unended⟩
    · obtain ⟨rfl, rfl⟩ := runs_pure.mp ended
      exact ⟨look, by simpa using silent, fun h => absurd h unended⟩
    · obtain ⟨killed, nothing, rfl, done⟩ := runs_reply.mp ended
      obtain ⟨rfl, rfl⟩ := runs_pure.mp done
      refine ⟨look, ?_, fun h => absurd h unended⟩
      exact List.forall_mem_append.mpr ⟨silent, List.forall_mem_singleton.mpr rfl⟩

/-- The system is waited on until it tells of an end: within the grace, or after the broker was
killed. -/
inductive Reaps (grace : Duration) : List (Event child) → ExitState → Prop where
  | ended (exit : ExitState) : Reaps grace [⟨Call.await (some grace), Waited.exited exit⟩] exit
  | killed (killing : Except String Unit) (exit : ExitState) :
      Reaps grace [⟨Call.await (some grace), Waited.timedOut⟩, ⟨Call.killChild, killing⟩,
        ⟨Call.await none, Waited.exited exit⟩] exit

theorem runs_reap {status : Option ExitState} (h : Runs b.reap events status)
    (reliable : ∀ e ∈ events, Reliable e) :
    ∃ exit, status = some exit ∧ Reaps b.grace events exit := by
  obtain ⟨reply, later, rfl, told⟩ := runs_reply.mp h
  have ⟨first, rest⟩ := List.forall_mem_cons.mp reliable
  cases reply with
  | exited exit =>
    obtain ⟨rfl, rfl⟩ := runs_pure.mp told
    exact ⟨exit, rfl, .ended exit⟩
  | failed reason => exact absurd rfl (first reason)
  | timedOut =>
    obtain ⟨killing, later, rfl, after⟩ := runs_reply.mp told
    obtain ⟨reply, later, rfl, answered⟩ := runs_reply.mp after
    obtain ⟨exit, same⟩ := rest _ (List.mem_cons_of_mem _ (List.mem_cons_self ..))
    cases (same : reply = Waited.exited exit)
    obtain ⟨rfl, rfl⟩ := runs_pure.mp answered
    exact ⟨exit, rfl, .killed killing exit⟩

def drains (grace : Duration) (stdout stderr : Bytes) : List (Event child) :=
  [⟨Call.drain .stdout grace, stdout⟩, ⟨Call.drain .stderr grace, stderr⟩]

theorem drains_silent {grace : Duration} {stdout stderr : Bytes} :
    ∀ e ∈ drains grace stdout stderr, reports e = none := by simp [drains, reports]

theorem drains_not_kills {grace : Duration} {stdout stderr : Bytes} :
    ∀ e ∈ drains grace stdout stderr, ¬ Kills e := by simp [drains, Kills]

inductive Waits (b : Subprocess) : List (Event child) → Output → Subprocess → Prop where
  | again {output : Output} (known : b.output = some output) : Waits b [] output b
  | first (unknown : b.output = none) {reaping : List (Event child)} {exit : ExitState}
      (reaps : Reaps b.grace reaping exit) (stdout stderr : Bytes) :
      Waits b (reaping ++ drains b.grace stdout stderr)
        { exit := b.exit.orElse fun _ => some exit, stdout, stderr }
        { b with
          exit := b.exit.orElse fun _ => some exit
          output := some { exit := b.exit.orElse fun _ => some exit, stdout, stderr } }

theorem runs_wait {output : Output} (h : Runs b.wait events (output, c))
    (reliable : ∀ e ∈ events, Reliable e) : Waits b events output c := by
  unfold wait at h
  split at h
  · rename_i known
    obtain ⟨rfl, same⟩ := runs_pure.mp h
    cases same
    exact .again known
  · rename_i unknown
    obtain ⟨awaited, later, status, rfl, reaping, draining⟩ := runs_seq.mp h
    obtain ⟨stdout, later, rfl, drained⟩ := runs_reply.mp draining
    obtain ⟨stderr, later, rfl, ended⟩ := runs_reply.mp drained
    obtain ⟨rfl, same⟩ := runs_pure.mp ended
    obtain ⟨exit, rfl, reaps⟩ := runs_reap reaping (List.forall_mem_append.mp reliable).1
    cases same
    exact .first unknown reaps stdout stderr

namespace Reaps

variable {grace : Duration} {exit : ExitState}

theorem reports_iff (h : Reaps grace events exit) (told : ExitState) :
    (∃ e ∈ events, reports e = some told) ↔ told = exit := by
  cases h <;> simp [reports, eq_comm]

/-- An end on record before is the one that is told now, so it does not matter which is kept. -/
theorem kept (h : Reaps grace events exit) (repeats : Repeats b events) :
    (b.exit.orElse fun _ => some exit) = some exit := by
  cases known : b.exit with
  | none => rfl
  | some earlier =>
    obtain ⟨e, member, told⟩ := (h.reports_iff exit).mpr rfl
    have again := repeats earlier known e member (asks_of_reports told)
    exact again.symm.trans told

theorem quiet (h : Reaps grace events exit) : events.Pairwise Quiet := by
  cases h <;> simp [Quiet, reports]

theorem not_kills (h : Reaps grace events exit)
    (prompt : ∀ e ∈ events, Asks e → reports e ≠ none) : ∀ e ∈ events, ¬ Kills e := by
  cases h with
  | ended => exact List.forall_mem_singleton.mpr id
  | killed => exact absurd rfl (prompt _ (List.mem_cons_self ..) trivial)

end Reaps

inductive Does (b : Subprocess) :
    Operation → List (Event child) → Answer → Subprocess → Prop where
  | signal {s : Signal} {looked acted : List (Event child)} {r : Except Failure Unit}
      {state : Except Failure (Option ExitState)} {c : Subprocess}
      (acts : Acts b looked acted state c) (refused : c.exit.isSome → r = .error .notRunning) :
      Does b (.signal s) (looked ++ acted) (.signalled r) c
  | exitState {events : List (Event child)} {r : Except Failure (Option ExitState)} {c : Subprocess}
      (looks : Looks b events r c) : Does b .exitState events (.state r) c
  | terminate {looked acted : List (Event child)} {state : Except Failure (Option ExitState)}
      {c : Subprocess} (acts : Acts b looked acted state c) :
      Does b .terminate (looked ++ acted) .terminated c
  | wait {events : List (Event child)} {output : Output} {c : Subprocess}
      (waits : Waits b events output c) : Does b .wait events (.waited output) c

theorem runs_operate (h : Runs (b.operate op) events (answer, c))
    (reliable : ∀ e ∈ events, Reliable e) : Does b op events answer c := by
  cases op with
  | signal s =>
    obtain ⟨⟨r, b'⟩, calling, same⟩ := runs_map.mp h
    cases same
    obtain ⟨looked, acted, state, rfl, acts, refused⟩ := runs_signal calling
    exact .signal acts refused
  | exitState =>
    obtain ⟨⟨r, b'⟩, calling, same⟩ := runs_map.mp h
    cases same
    exact .exitState (runs_exitState calling)
  | terminate =>
    obtain ⟨b', calling, same⟩ := runs_map.mp h
    cases same
    obtain ⟨looked, acted, state, rfl, acts⟩ := runs_terminate calling
    exact .terminate acts
  | wait =>
    obtain ⟨⟨output, b'⟩, calling, same⟩ := runs_map.mp h
    cases same
    exact .wait (runs_wait calling reliable)

end ReloadProbe.Subprocess
