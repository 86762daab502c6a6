import ReloadProbe.Proofs.Run.Delivery

/-!
Brokers that are silent after a reload. Octets that came too early are kept, so a notification that
was written ahead of its reload does answer it; a broker that wrote none ahead, and none while it
was waited for, fails the run at that reload.
-/
namespace ReloadProbe.Plan

open Interaction Host Net

/-- A moment of a run, with the broker in view. -/
inductive Moment where
  | event (e : Event host)
  /-- The broker writes on the connection. -/
  | written (instant : Nat) (octets : Bytes)

namespace Moment

def event? : Moment → Option (Event host)
  | event e => some e
  | written _ _ => none

/-- What the clock says at a moment, where somebody looks. -/
def instant? : Moment → Option Nat
  | event ⟨.net .now, instant⟩ => some instant
  | event _ => none
  | written instant _ => some instant

def octets : Moment → Bytes
  | event _ => []
  | written _ octets => octets

def octetsBy (deadline : Nat) : Moment → Bytes
  | event _ => []
  | written instant octets => if instant ≤ deadline then octets else []

end Moment

def happened (history : List Moment) : List (Event host) := history.filterMap Moment.event?

def written (history : List Moment) : Bytes := history.flatMap Moment.octets

/-- What was written up to an instant. -/
def writtenBy (deadline : Nat) (history : List Moment) : Bytes :=
  history.flatMap (Moment.octetsBy deadline)

/-- What can happen between a run and a broker. The clock does not go back; and what a read brings,
after all that was read before it, was written by its deadline, in the order in which it is read. -/
structure Causal (history : List Moment) : Prop where
  ordered : (history.filterMap Moment.instant?).Pairwise (· ≤ ·)
  timely : ∀ early late deadline room (arrival : Arrival),
    history = early ++ .event (atLink ⟨Net.Call.receive deadline room, arrival⟩) :: late →
    received (traffic (happened early)) ++ arrival.octets <+: writtenBy deadline early

variable {p : Plan} {ports ports' : Ports} {variant : Bool} {outcome : Outcome}
  {events before after : List (Event host)} {history early late : List Moment}

@[simp] theorem happened_append (a b : List Moment) :
    happened (a ++ b) = happened a ++ happened b := List.filterMap_append

@[simp] theorem happened_map (events : List (Event host)) :
    happened (events.map .event) = events := by
  induction events with
  | nil => rfl
  | cons e events ih => exact congrArg (e :: ·) ih

@[simp] theorem writtenBy_append (deadline : Nat) (a b : List Moment) :
    writtenBy deadline (a ++ b) = writtenBy deadline a ++ writtenBy deadline b :=
  List.flatMap_append

@[simp] theorem writtenBy_map (deadline : Nat) (events : List (Event host)) :
    writtenBy deadline (events.map .event) = [] := by
  induction events with
  | nil => rfl
  | cons e events ih => exact ih

@[simp] theorem written_append (a b : List Moment) : written (a ++ b) = written a ++ written b :=
  List.flatMap_append

@[simp] theorem written_map (events : List (Event host)) : written (events.map .event) = [] := by
  induction events with
  | nil => rfl
  | cons e events ih => exact ih

theorem exists_moment {a b : List (Event host)} {e : Event host}
    (h : happened history = a ++ e :: b) :
    ∃ early late, history = early ++ .event e :: late ∧ happened early = a := by
  obtain ⟨early, more, rfl, first, rest⟩ := List.filterMap_eq_append_iff.mp h
  obtain ⟨skipped, m, late, rfl, quiet, found, _⟩ := List.filterMap_eq_cons_iff.mp rest
  cases m with
  | written => cases found
  | event own =>
    cases found
    refine ⟨early ++ skipped, late, by simp, ?_⟩
    rw [happened_append, show happened early = a from first,
      show happened skipped = [] from List.filterMap_eq_nil_iff.mpr quiet, List.append_nil]

theorem writtenBy_eq_nil {deadline instant : Nat} (late : deadline < instant)
    (onward : ∀ shown ∈ history.filterMap Moment.instant?, instant ≤ shown) :
    writtenBy deadline history = [] := by
  refine List.flatMap_eq_nil_iff.mpr fun m member => ?_
  cases m with
  | event => rfl
  | written shown octets =>
    have after : instant ≤ shown := onward shown (List.mem_filterMap.mpr ⟨_, member, rfl⟩)
    exact if_neg (by omega)

/-- On a clock that does not go back, what was written up to an instant was written first. -/
theorem writtenBy_within {deadline : Nat}
    (ordered : (history.filterMap Moment.instant?).Pairwise (· ≤ ·)) :
    writtenBy deadline history <+: written history := by
  induction history with
  | nil => exact List.prefix_refl []
  | cons m history ih =>
    cases m with
    | event e =>
      refine ih (ordered.sublist ?_)
      rw [List.filterMap_cons]
      split
      · exact List.Sublist.refl _
      · exact List.sublist_cons_self _ _
    | written instant octets =>
      obtain ⟨first, rest⟩ := List.pairwise_cons.mp ordered
      by_cases early : instant ≤ deadline
      · have kept : writtenBy deadline (.written instant octets :: history) =
            octets ++ writtenBy deadline history :=
          congrArg (· ++ writtenBy deadline history) (if_pos early)
        rw [kept]
        exact List.prefix_append_right_inj octets |>.mpr (ih rest)
      · have left_out : writtenBy deadline (.written instant octets :: history) = [] :=
          (congrArg (· ++ writtenBy deadline history) (if_neg early)).trans
            (writtenBy_eq_nil (by omega) first)
        rw [left_out]
        exact List.nil_prefix

theorem read_or_idle (e : Event host) :
    (∃ deadline room, ∃ arrival : Arrival, e = atLink ⟨Net.Call.receive deadline room, arrival⟩) ∨
      received (traffic [e]) = [] := by
  obtain ⟨call, reply⟩ := e
  cases call with
  | net call =>
    cases call with
    | receive deadline room => exact .inl ⟨deadline, room, reply, rfl⟩
    | _ => exact .inr rfl
  | _ => exact .inr rfl

theorem Causal.within (causal : Causal history) {deadline : Nat} (h : early <+: history) :
    writtenBy deadline early <+: written early := by
  obtain ⟨late, rfl⟩ := h
  have ordered := causal.ordered
  rw [List.filterMap_append] at ordered
  exact writtenBy_within (List.pairwise_append.mp ordered).1

/-- Only what was written is read. -/
theorem Causal.received_within (causal : Causal history) (h : early <+: history) :
    received (traffic (happened early)) <+: written early := by
  induction early using List.reverseRecOn with
  | nil => exact List.prefix_refl []
  | append_singleton early m ih =>
    have before : early <+: history := (List.prefix_append _ _).trans h
    rw [happened_append, traffic_append, received_append, written_append]
    cases m with
    | written instant octets =>
      have idle : received (traffic (happened [.written instant octets])) = [] := rfl
      rw [idle, List.append_nil]
      exact (ih before).trans (List.prefix_append _ _)
    | event e =>
      have nothing : written [.event e] = [] := rfl
      have own : happened [.event e] = [e] := rfl
      rw [nothing, own, List.append_nil]
      rcases read_or_idle e with ⟨deadline, room, arrival, rfl⟩ | idle
      · obtain ⟨late, rfl⟩ := h
        have read := causal.timely early late deadline room arrival (by simp)
        have last :
            received (traffic [atLink ⟨Net.Call.receive deadline room, arrival⟩]) =
              arrival.octets := List.append_nil _
        rw [last]
        exact read.trans (causal.within before)
      · rw [idle, List.append_nil]
        exact ih before

/-- A wait in which nothing is written reads no more than was written before. -/
theorem Causal.read_in_silence {begun : Event link} {later : List (Event link)}
    {tail : List (Event host)} {deadline : Nat} (causal : Causal (early ++ late))
    (waited : happened late = (begun :: later).map atLink ++ tail) (idle : received [begun] = [])
    (reads : ∀ e ∈ later, ∃ (room : Nat) (arrival : Arrival),
      e = ⟨Net.Call.receive deadline room, arrival⟩)
    (silent : writtenBy deadline late = []) :
    received (traffic (happened early)) ++ received later <+: written early := by
  rcases List.eq_nil_or_concat' later with rfl | ⟨first, last, rfl⟩
  · rw [received_nil, List.append_nil]
    exact causal.received_within (List.prefix_append _ _)
  · -- All that is read is there at the last read, by its deadline.
    obtain ⟨room, arrival, rfl⟩ := reads last (by simp)
    obtain ⟨between, more, rfl, own⟩ :=
      exists_moment (a := (begun :: first).map atLink) (b := tail) (by simpa using waited)
    have read := causal.timely (early ++ between) more deadline room arrival (by simp)
    have quiet : writtenBy deadline between = [] := by
      rw [writtenBy_append] at silent
      exact (List.append_eq_nil_iff.mp silent).1
    have came : received (traffic (happened (early ++ between))) =
        received (traffic (happened early)) ++ received first := by
      rw [happened_append, traffic_append, received_append, own, traffic_atLink]
      exact congrArg (_ ++ ·) ((received_append [begun] first).trans (by rw [idle]; rfl))
    have took : received (first ++ [⟨Net.Call.receive deadline room, arrival⟩]) =
        received first ++ arrival.octets := by
      rw [received_append]
      exact congrArg (_ ++ ·) (List.append_nil _)
    rw [came, writtenBy_append, quiet, List.append_nil, List.append_assoc] at read
    rw [took]
    exact read.trans (causal.within (List.prefix_append _ _))

/-- At each reload of a run all that came is the welcome, the notifications of the reloads before,
and the buffer; a reload that is not answered is the last, and the run fails there. -/
theorem run_at_reload (h : Runs (p.run ports variant) events (outcome, ports'))
    (split : events = before ++ reloaded :: after) :
    ∃ (d d' : Client) (waited : List (Event link)) (tail : List (Event host))
      (met : Except Failure Unit), after = waited.map atLink ++ tail ∧
      Runs (d.expect p.packets.notification p.settings.timeouts.notification notificationLabel)
        waited (met, d') ∧
      received (traffic before) =
        p.packets.connack ++ (p.notifications (reloads before) ++ d.buffer) ∧
      ∀ e, met = .error e → (∃ e', outcome.result = .error e') ∧
        outcome.reached = .reloadTriggered ∧ reloads tail = 0 := by
  rcases runs_session h with session | ⟨still, _⟩
  · cases session with
    | @held s c early dialled talk judging late progress outcome begun ended place attempts talks
        told reached opening still closing quiet =>
      -- The reload is neither before the session nor after it, and no ping holds one.
      obtain ⟨a, rfl, opened⟩ := split_reload_left still split
      obtain ⟨b, rfl, spoken⟩ := split_reload_left attempts.still opened
      obtain ⟨l, rfl, talked⟩ := split_reload_right quiet spoken
      obtain ⟨cycled, pinged, r, e, stage, rfl, cycles, failed⟩ := talks.cycled
      obtain ⟨tail, rfl, cycle⟩ := split_reload_right (reloads_atLink pinged) talked
      obtain ⟨d, d', waited, tail, met, rfl, wait, kept, last⟩ := cycles.at_reload cycle
      have welcome := attempts.met_greeting.2
      refine ⟨d, d', waited, tail ++ (pinged.map atLink ++ late), met, by simp, wait, ?_, ?_⟩
      · have first : received (traffic early) = [] := by rw [opening]; rfl
        calc received (traffic (early ++ (dialled ++ b)))
            = p.packets.connack ++ (c.buffer ++ received (traffic b)) := by simp [first, welcome]
          _ = p.packets.connack ++
                (p.notifications (reloads (early ++ (dialled ++ b))) ++ d.buffer) := by
            rw [kept, reloads_append, reloads_append, still, attempts.still, Nat.zero_add,
              Nat.zero_add]
      · intro e failing
        obtain ⟨rfl, rfl, rfl⟩ := last e failing
        obtain ⟨result, stage⟩ := failed e rfl
        exact ⟨told.fails result, reached.trans stage, by simp [quiet]⟩
  · exact absurd split (ne_split_reload still)

/-- The wait for a notification begins at once. -/
theorem clock_at_reload (h : Runs (p.run ports variant) (before ++ reloaded :: after)
    (outcome, ports')) :
    ∃ instant : Nat, after.head? = some (atLink ⟨Net.Call.now, instant⟩) := by
  obtain ⟨d, d', waited, tail, met, rfl, wait, _⟩ := run_at_reload h rfl
  obtain ⟨instant, deadline, later, v, rfl, _⟩ := runs_expect wait
  exact ⟨instant, rfl⟩

theorem reload_answered {k : Nat} {d d' : Client} {waited : List (Event link)}
    (kept : received (traffic before) = p.packets.connack ++ (p.notifications k ++ d.buffer))
    (wait : Runs (d.expect p.packets.notification p.settings.timeouts.notification
      notificationLabel) waited (.ok (), d')) :
    p.packets.connack ++ p.notifications (k + 1) <+:
      received (traffic before) ++ received waited := by
  refine ⟨d'.buffer, ?_⟩
  calc p.packets.connack ++ p.notifications (k + 1) ++ d'.buffer
      = p.packets.connack ++ (p.notifications k ++ (p.packets.notification ++ d'.buffer)) := by
        simp [notifications_succ_last]
    _ = p.packets.connack ++ (p.notifications k ++ (d.buffer ++ received waited)) := by
        rw [(expect_met wait).1]
    _ = received (traffic before) ++ received waited := by simp [kept]

/-- The history of a run in which the broker writes once, after the first `n` events. -/
def writeOnce (n : Nat) (octets : Bytes) (events : List (Event host)) : List Moment :=
  (events.take n).map .event ++ .written 0 octets :: (events.drop n).map .event

theorem happened_writeOnce (n : Nat) (octets : Bytes) (events : List (Event host)) :
    happened (writeOnce n octets events) = events := by
  have later : happened (.written 0 octets :: (events.drop n).map .event) = events.drop n :=
    happened_map _
  rw [writeOnce, happened_append, later, happened_map, List.take_append_drop]

theorem instants_map {events : List (Event host)}
    (still : ∀ instant : Nat, atLink ⟨Net.Call.now, instant⟩ ∈ events → instant = 0) :
    ∀ shown ∈ (events.map Moment.event).filterMap Moment.instant?, shown = 0 := by
  intro shown member
  obtain ⟨m, among, told⟩ := List.mem_filterMap.mp member
  obtain ⟨⟨call, reply⟩, own, rfl⟩ := List.mem_map.mp among
  cases call with
  | net call =>
    cases call with
    | now =>
      cases told
      exact still shown own
    | _ => cases told
  | _ => cases told

theorem instants_writeOnce {n : Nat} {octets : Bytes} {events : List (Event host)}
    (still : ∀ instant : Nat, atLink ⟨Net.Call.now, instant⟩ ∈ events → instant = 0) :
    ∀ shown ∈ (writeOnce n octets events).filterMap Moment.instant?, shown = 0 := by
  intro shown member
  rw [writeOnce, List.filterMap_append] at member
  rcases List.mem_append.mp member with first | rest
  · exact instants_map (fun _ h => still _ (List.mem_of_mem_take h)) shown first
  · rcases List.mem_cons.mp rest with rfl | rest
    · rfl
    · exact instants_map (fun _ h => still _ (List.mem_of_mem_drop h)) shown rest

/-- What is written at once is written by any deadline. -/
theorem octets_prefix_writtenBy {octets : Bytes} (deadline : Nat) (events : List (Event host))
    (more : List Moment) :
    octets <+: writtenBy deadline (events.map .event ++ .written 0 octets :: more) := by
  have timely : Moment.octetsBy deadline (.written 0 octets) = octets := by
    simp [Moment.octetsBy]
  refine ⟨writtenBy deadline more, ?_⟩
  rw [writtenBy_append, writtenBy_map]
  exact congrArg (· ++ writtenBy deadline more) timely.symm

theorem not_receive_mem {events : List (Event host)} (unread : arrivals (traffic events) = [])
    {deadline room : Nat} {arrival : Arrival} :
    .event (atLink ⟨Net.Call.receive deadline room, arrival⟩) ∉ events.map Moment.event := by
  intro member
  obtain ⟨e, own, same⟩ := List.mem_map.mp member
  cases same
  obtain ⟨a, b, rfl⟩ := List.append_of_mem own
  rw [traffic_append, arrivals_append] at unread
  cases (List.append_eq_nil_iff.mp unread).2

/-- On a clock that stands still. -/
theorem causal_writeOnce {n : Nat} {octets : Bytes} {events : List (Event host)}
    (unread : arrivals (traffic (events.take n)) = [])
    (reads : received (traffic events) <+: octets)
    (still : ∀ instant : Nat, atLink ⟨Net.Call.now, instant⟩ ∈ events → instant = 0) :
    Causal (writeOnce n octets events) where
  ordered := by
    have zero : ∀ shown ∈ (writeOnce n octets events).filterMap Moment.instant?, shown = 0 :=
      instants_writeOnce still
    exact List.pairwise_of_forall_mem_list fun a ha b hb => by rw [zero a ha, zero b hb]
  timely := by
    intro early late deadline room arrival split
    have whole : happened early ++ atLink ⟨Net.Call.receive deadline room, arrival⟩ ::
        happened late = events := by
      rw [← happened_writeOnce n octets events, split, happened_append]
      rfl
    have read : received (traffic (happened early)) ++ arrival.octets <+: octets := by
      refine List.IsPrefix.trans ⟨received (traffic (happened late)), ?_⟩ reads
      rw [← whole, traffic_append, received_append, List.append_assoc]
      rfl
    -- The read comes after the write, since none comes before it.
    rcases List.append_eq_append_iff.mp split with ⟨more, rfl, rest⟩ | ⟨more, first, rest⟩
    · cases more with
      | nil => cases rest
      | cons m more =>
        obtain ⟨rfl, _⟩ := List.cons.inj rest
        exact read.trans (octets_prefix_writtenBy deadline _ more)
    · cases more with
      | nil => cases rest
      | cons m more =>
        obtain ⟨rfl, _⟩ := List.cons.inj rest
        have member : .event (atLink ⟨Net.Call.receive deadline room, arrival⟩) ∈
            (events.take n).map Moment.event := by
          rw [first]
          exact List.mem_append_right _ List.mem_cons_self
        exact absurd member (not_receive_mem unread)

/-- At each reload a deadline is set. A broker that is silent until then, and has not written its
notification ahead, fails the run at this reload, which is the last. Octets that were written ahead
count: those that begin with the welcome and a notification for each reload so far, this one
included. -/
theorem silence_fails (p : Plan) (ports ports' : Ports) (variant : Bool) (outcome : Outcome)
    (history before rest : List Moment)
    (h : Runs (p.run ports variant) (happened history) (outcome, ports')) (causal : Causal history)
    (split : history = before ++ .event reloaded :: rest)
    (unanswered : ¬ p.packets.connack ++ p.notifications (reloads (happened before) + 1) <+:
      written before) :
    ∃ instant : Nat, (happened rest).head? = some (atLink ⟨Net.Call.now, instant⟩) ∧
      (writtenBy (instant + p.settings.timeouts.notification.toNanos) rest = [] →
        (∃ e, outcome.result = .error e) ∧ outcome.reached = .reloadTriggered ∧
          reloads (happened history) = reloads (happened before) + 1) := by
  have happens : happened history = happened before ++ reloaded :: happened rest := by
    rw [split, happened_append]
    rfl
  obtain ⟨d, d', waited, tail, met, after, wait, kept, last⟩ := run_at_reload h happens
  obtain ⟨instant, deadline, later, v, rfl, due, w, _⟩ := runs_expect wait
  obtain ⟨rfl, _⟩ := deadline?_eq_some.mp due
  refine ⟨instant, by rw [after]; rfl, fun silent => ?_⟩
  cases met with
  | error e =>
    obtain ⟨failed, reached, still⟩ := last e rfl
    refine ⟨failed, reached, ?_⟩
    rw [happens, after, reloads_split, reloads_append, reloads_atLink, still]
  | ok =>
    -- All that the wait took was written before the reload, and ends with the notification.
    exfalso
    apply unanswered
    have onward : Causal ((before ++ [.event reloaded]) ++ rest) := by
      rw [List.append_assoc]
      exact split ▸ causal
    have read := onward.read_in_silence after rfl w.reads silent
    have came : received (traffic (happened (before ++ [.event reloaded]))) =
        received (traffic (happened before)) := by
      rw [happened_append, traffic_append, received_append]
      exact List.append_nil _
    have wrote : written (before ++ [.event reloaded]) = written before := by
      rw [written_append]
      exact List.append_nil _
    rw [came, wrote] at read
    exact (reload_answered kept wait).trans read

theorem writeOnce_at_reload {n : Nat} {octets : Bytes} {events a b : List (Event host)}
    (split : events.drop n = a ++ reloaded :: b) :
    writeOnce n octets events = ((events.take n).map .event ++ .written 0 octets :: a.map .event) ++
      .event reloaded :: b.map .event := by
  rw [writeOnce, split, List.map_append, List.append_assoc]
  rfl

theorem written_once {n : Nat} {octets : Bytes} {events a : List (Event host)} :
    written ((events.take n).map .event ++ .written 0 octets :: a.map .event) = octets := by
  rw [written_append, written_map]
  exact (congrArg (octets ++ ·) (written_map a)).trans (List.append_nil _)

theorem silence_fails_standard : ∃ events outcome ports',
    Runs (standard.run (.new 1888) false) events (outcome, ports') ∧
      outcome.reached = .reloadTriggered ∧ outcome.result ≠ .ok () := by
  let run := standard.run (.new 1888) false
  let welcome := standard.packets.connack
  let events := run.trace (obliging .timedOut) welcome
  obtain ⟨a, b, split⟩ : ∃ a b, events.drop 6 = a ++ reloaded :: b :=
    exists_reload (by decide +kernel)
  have h := runs_ended (obliging .timedOut) run welcome (by decide +kernel)
  rw [← happened_writeOnce 6 welcome (run.trace (obliging .timedOut) welcome)] at h
  have causal : Causal (writeOnce 6 welcome events) :=
    causal_writeOnce (by decide +kernel) (by decide +kernel)
      (fun _ => obliging_clock run welcome)
  obtain ⟨instant, _, fails⟩ := silence_fails _ _ _ _ _ _ _ _ h causal
    (writeOnce_at_reload split) (by
      -- One notification at least lacks.
      rw [show written _ = standard.packets.connack from written_once]
      intro early
      have longer := early.length_le
      have one : 0 < standard.packets.notification.length := by decide +kernel
      rw [List.length_append, notifications_succ, List.length_append] at longer
      omega)
  obtain ⟨⟨e, failed⟩, reached, _⟩ := fails (writtenBy_map _ b)
  exact ⟨_, _, _, h, reached, by rw [failed]; simp⟩

/-- A broker may be silent from a reload on, and the run passes: here it wrote the notification, and
the answer to the ping, together with the welcome. -/
theorem silence_may_pass :
    ¬ ∀ (p : Plan) (ports ports' : Ports) (variant : Bool) (outcome : Outcome)
      (history before rest : List Moment) (instant : Nat),
      Runs (p.run ports variant) (happened history) (outcome, ports') → Causal history →
      history = before ++ .event reloaded :: rest →
      (happened rest).head? = some (atLink ⟨Net.Call.now, instant⟩) →
      writtenBy (instant + p.settings.timeouts.notification.toNanos) rest = [] →
      outcome.result ≠ .ok () := by
  intro claim
  let run := standard.run (.new 1888) false
  let events := run.trace (obliging .timedOut) standard.script
  obtain ⟨a, b, split⟩ : ∃ a b, events.drop 6 = a ++ reloaded :: b :=
    exists_reload (by decide +kernel)
  have h := runs_ended (obliging .timedOut) run standard.script (by decide +kernel)
  rw [← happened_writeOnce 6 standard.script (run.trace (obliging .timedOut) standard.script)] at h
  have causal : Causal (writeOnce 6 standard.script events) :=
    causal_writeOnce (by decide +kernel) (by decide +kernel)
      (fun _ => obliging_clock run standard.script)
  have begun := h
  rw [writeOnce_at_reload split, happened_append] at begun
  obtain ⟨instant, looked⟩ := clock_at_reload begun
  refine claim _ _ _ _ _ _ _ _ instant h causal (writeOnce_at_reload split) looked
    (writtenBy_map _ b) ?_
  decide +kernel

end ReloadProbe.Plan
