import ReloadProbe.Proofs.Net.Delivery
import ReloadProbe.Proofs.Run.Session

/-!
Runs in which nothing goes wrong: calls succeed, the broker does not refuse too often and sends what
the plan wants. Each part of such a run succeeds, as the next answer is always due of the buffer and
the unread rest of the stream.
-/
namespace ReloadProbe.Plan

open Interaction Host Net

/-- A call that did what it is for. The broker is alive whenever the run looks. -/
def Fulfilled : Event host → Prop
  | ⟨.writeConfig _ _, reply⟩ => ∃ file, reply = (.ok file : Except String Path)
  | ⟨.start _ _, reply⟩ => reply = (.ok () : Except Failure Unit)
  | ⟨.signal _, reply⟩ => reply = (.ok () : Except Failure Unit)
  | ⟨.exitState, reply⟩ => reply = (.ok none : Except Failure (Option ExitState))
  | ⟨.net call, reply⟩ => Succeeds ⟨call, reply⟩
  | _ => True

theorem succeeds_of_fulfilled {own : List (Event link)}
    (h : ∀ e ∈ own.map atLink, Fulfilled e) : ∀ e ∈ own, Succeeds e :=
  fun _ he => h _ (List.mem_map_of_mem he)

def isRefused : Event link → Bool
  | ⟨.dial _, Dialled.refused⟩ => true
  | _ => false

def refusals (events : List (Event host)) : Nat := (traffic events).countP isRefused

def isFree : Event host → Bool
  | ⟨.probe _, free⟩ => free
  | _ => false

variable {p : Plan} {s : Scenario} {c c' : Client} {events : List (Event host)}
  {stream unread : Bytes}

theorem refusals_retry (attempt : Nat) :
    refusals (p.retry s attempt ++ events) = refusals events + 1 :=
  List.countP_cons_of_pos rfl

theorem hail_delivered {hailed : List (Event link)} {r : Except Failure Client}
    (h : Runs (p.hail s) hailed r) (taken : ∀ a n, r ≠ .error (.refused a n))
    (succeed : ∀ e ∈ hailed, Succeeds e) (reads : Delivers stream (arrivals hailed) unread)
    (due : p.packets.connack <+: stream) : ∃ c, r = .ok c := by
  rcases runs_handshake h with ⟨reply, other, rfl, rfl⟩ | ⟨_, c, _, _, rfl⟩ |
    ⟨greeted, closing, e, c, d, rfl, greeting, _, _⟩
  · rcases succeed _ (List.mem_singleton_self _) with rfl | rfl
    · exact absurd rfl other
    · exact absurd rfl (taken s.address 1)
  · exact ⟨c, rfl⟩
  · have early : ∀ e ∈ greeted, Succeeds e := fun e he =>
      succeed e (List.mem_cons_of_mem _ (List.mem_append_left _ he))
    have split : Delivers stream (arrivals greeted ++ arrivals closing) unread := by
      rw [← arrivals_append]
      exact reads
    obtain ⟨between, first, _⟩ := split.split
    cases greet_delivered greeting rfl early first due

theorem Connects.delivered {attempt left : Nat} {r : Except Failure Client}
    (attempts : Connects p s attempt left events r) (fulfilled : ∀ e ∈ events, Fulfilled e)
    (few : refusals events ≤ left) (reads : Delivers stream (arrivals (traffic events)) unread)
    (due : p.packets.connack <+: stream) : ∃ c, r = .ok c := by
  induction attempts with
  | met greeting taken =>
    rw [traffic_atLink] at reads
    exact hail_delivered greeting taken (succeeds_of_fulfilled fulfilled) reads due
  | unknown e => cases fulfilled ⟨Call.exitState, .error e⟩ (by simp)
  | exited exit => cases fulfilled ⟨Call.exitState, .ok (some exit)⟩ (by simp)
  | exhausted => cases few
  | @again attempt left events r later ih =>
    rw [refusals_retry] at few
    exact ih (fun e he => fulfilled e (List.mem_append_right _ he)) (by omega) reads

theorem Cycles.delivered {n : Nat} {stage stage' : Stage} {r : Except Failure Unit}
    (cycles : Cycles p n c stage events r c' stage') (linked : c.connected = true)
    (fulfilled : ∀ e ∈ events, Fulfilled e)
    (reads : Delivers stream (arrivals (traffic events)) unread)
    (due : p.notifications n <+: c.buffer ++ stream) : r = .ok () := by
  induction cycles generalizing stream with
  | finished => rfl
  | undelivered e => cases fulfilled ⟨Call.signal .reload, .error e⟩ (by simp)
  | unanswered wait =>
    rw [traffic_reloaded, traffic_atLink] at reads
    exact expect_delivered wait linked reads ((List.prefix_append _ _).trans due)
  | @answered n c d c' stage stage' waited events r wait later ih =>
    rw [traffic_reloaded, traffic_append, traffic_atLink, arrivals_append] at reads
    obtain ⟨between, first, rest⟩ := reads.split
    obtain ⟨taken, same⟩ := expect_met wait
    have late : ∀ e ∈ events, Fulfilled e := fun e he =>
      fulfilled e (List.mem_cons_of_mem _ (List.mem_append_right _ he))
    exact ih (same.trans linked) late rest (first.carry taken due)

theorem Converses.delivered {progress : Progress} (talks : Converses p c events progress)
    (linked : c.connected = true) (fulfilled : ∀ e ∈ events, Fulfilled e)
    (reads : Delivers stream (arrivals (traffic events)) unread)
    (due : p.notifications p.settings.reloadCycles.toNat ++ Wire.pingResp <+: c.buffer ++ stream) :
    progress.result = .ok () := by
  cases talks with
  | stopped cycles =>
    exact cycles.delivered linked fulfilled reads ((List.prefix_append _ _).trans due)
  | @mute c' d stage cycled pinged e cycles ping =>
    rw [traffic_append, traffic_atLink, arrivals_append] at reads
    obtain ⟨between, first, rest⟩ := reads.split
    obtain ⟨taken, same, _, _⟩ := cycles.met rfl
    have late := succeeds_of_fulfilled fun e he => fulfilled e (List.mem_append_right _ he)
    exact ping_delivered ping (same.trans linked) late rest (first.carry taken due)
  | alive => rfl

theorem Drives.delivered {config : Path} {progress : Progress}
    (drive : Drives p s config events progress) (fulfilled : ∀ e ∈ events, Fulfilled e)
    (few : refusals events < p.settings.startup.attempts.toNat)
    (reads : Delivers stream (arrivals (traffic events)) unread) (due : p.script <+: stream) :
    progress.result = .ok () := by
  have welcome : p.packets.connack <+: stream := (List.prefix_append _ _).trans due
  cases drive with
  | unstarted e => cases fulfilled ⟨Call.start config s.port, .error e⟩ (by simp)
  | @unconnected events e attempts =>
    have few' : refusals events < p.settings.startup.attempts.toNat := few
    obtain ⟨c, opened⟩ := attempts.delivered (fun e he => fulfilled e (List.mem_cons_of_mem _ he))
      (by omega) reads welcome
    cases opened
  | @connected dialled events c progress attempts talks =>
    have split : Delivers stream (arrivals (traffic (dialled ++ events))) unread := reads
    rw [traffic_append, arrivals_append] at split
    obtain ⟨between, first, rest⟩ := split.split
    obtain ⟨linked, taken⟩ := attempts.met_greeting
    have late : ∀ e ∈ events, Fulfilled e := fun e he =>
      fulfilled e (List.mem_cons_of_mem _ (List.mem_append_right _ he))
    have fresh : [] ++ received (traffic dialled) = p.packets.connack ++ c.buffer := taken
    exact talks.delivered linked late rest (first.carry fresh due)

theorem Judges.passes {progress : Progress} {r : Except Failure Unit}
    (told : Judges progress events r) (fine : progress.result = .ok ()) : r = .ok () := by
  cases told with
  | passed => rfl
  | unstarted failed | failed failed => cases fine.symm.trans failed

/-- Surroundings that give a run no cause to fail: a port is free, calls do what they are for, the
broker refuses less often than the plan tries, and reads bring the stream in order. -/
structure Favours (p : Plan) (stream : Bytes) (events : List (Event host)) : Prop where
  port : ∃ e ∈ events, isFree e = true
  fulfilled : ∀ e ∈ events, Fulfilled e
  few : refusals events < p.settings.startup.attempts.toNat
  reads : ∃ unread, Delivers stream (arrivals (traffic events)) unread

theorem Performs.delivered {id : String} {ports : Ports} {variant : Bool} {outcome : Outcome}
    (course : Performs p id ports variant events outcome) (favours : Favours p stream events)
    (due : p.script <+: stream) : outcome.result = .ok () := by
  obtain ⟨⟨e, asked, free⟩, fulfilled, few, unread, reads⟩ := favours
  cases course with
  | portless search =>
    obtain ⟨probe, member, rfl⟩ := List.mem_map.mp asked
    cases (search.all_bound probe member).symm.trans free
  | unwritten search source =>
    obtain ⟨file, wrote⟩ := fulfilled _ (List.mem_append_right _ (List.mem_singleton_self _))
    cases wrote
  | driven search drive told stopped =>
    rename_i probes port _ config driving judging progress r output removed
    have wire (rest : List (Event host)) :
        traffic (probes.map probed ++ p.writing variant port (.ok config) :: (driving ++ rest)) =
          traffic driving ++ traffic rest := by
      rw [traffic_append, traffic_probed, ← traffic_append]
      rfl
    rw [wire, arrivals_append] at reads
    obtain ⟨between, first, _⟩ := reads.split
    have own : ∀ e ∈ driving, Fulfilled e := fun e he => fulfilled e
      (List.mem_append_right _ (List.mem_cons_of_mem _ (List.mem_append_left _ he)))
    have few' : refusals driving < p.settings.startup.attempts.toNat := by
      rw [refusals, wire, List.countP_append] at few
      exact Nat.lt_of_le_of_lt (Nat.le_add_right _ _) few
    exact told.passes (drive.delivered own few' first due)

theorem Favours.passes {ports ports' : Ports} {variant : Bool} {outcome : Outcome}
    (favours : Favours p stream events) (due : p.script <+: stream)
    (h : Runs (p.run ports variant) events (outcome, ports')) : outcome.result = .ok () := by
  obtain ⟨id, begun, ended, performed, timed, elapsed, course, rfl, rfl⟩ := runs_run h
  obtain ⟨⟨e, asked, free⟩, fulfilled, few, unread, reads⟩ := favours
  have wire : traffic (⟨Call.newId, id⟩ :: atLink ⟨Net.Call.now, begun⟩ ::
      (performed ++ [atLink ⟨Net.Call.now, ended⟩])) =
      ⟨Net.Call.now, begun⟩ :: (traffic performed ++ [⟨Net.Call.now, ended⟩]) :=
    congrArg (_ :: ·) traffic_append
  have port : e ∈ performed := by
    simp only [List.mem_cons, List.mem_append, List.not_mem_nil, or_false] at asked
    rcases asked with rfl | rfl | within | rfl
    · cases free
    · cases free
    · exact within
    · cases free
  have own : ∀ e ∈ performed, Fulfilled e := fun e he =>
    fulfilled e (List.mem_cons_of_mem _ (List.mem_cons_of_mem _ (List.mem_append_left _ he)))
  have split :
      Delivers stream (arrivals (traffic performed ++ [⟨Net.Call.now, ended⟩])) unread := by
    rw [wire] at reads
    exact reads
  rw [arrivals_append] at split
  obtain ⟨between, first, _⟩ := split.split
  refine course.delivered ⟨⟨e, port, free⟩, own, ?_, between, first⟩ due
  rw [refusals, wire] at few
  simpa [refusals, isRefused] using few

/-- The plan of no settings at all. -/
def standard : Plan := (ofSettings {}).toOption.get (by decide +kernel)

/-- A host on which nothing goes wrong, and what its broker has still to send. All of that comes in
one read; then reads end in one way. -/
def obliging (ending : Ending) : (c : host.Call) → Bytes → host.Reply c × Bytes
  | .newId, unread => ("run", unread)
  | .probe _, unread => (true, unread)
  | .writeConfig _ _, unread => (.ok (.ofText "broker.conf"), unread)
  | .removeConfig _, unread | .start _ _, unread | .signal _, unread => (.ok (), unread)
  | .exitState, unread => (.ok none, unread)
  | .terminate, unread | .abandon, unread | .sleep _, unread | .net .hangUp, unread => ((), unread)
  | .wait, unread => ({}, unread)
  | .net (.dial _), unread => (Dialled.opened, unread)
  | .net (.send _), unread => ((.ok () : Except String Unit), unread)
  | .net (.receive _ _), [] => (ending.arrival, [])
  | .net (.receive _ _), b :: unread =>
    (Arrival.bytes (b :: unread) (List.cons_ne_nil b unread), [])
  | .net .now, unread => ((0 : Nat), unread)

variable {α : Type} (program : Interaction host α) (stream : Bytes)

theorem obliging_fulfils : ∀ e ∈ program.trace (obliging .ended) stream, Fulfilled e := by
  refine forall_mem_trace (fun call unread => ?_) program stream
  match call with
  | .writeConfig _ _ => exact ⟨_, rfl⟩
  | .start _ _ | .signal _ | .exitState | .net (.send _) => rfl
  | .net (.dial _) => exact .inl rfl
  | .newId | .probe _ | .removeConfig _ | .terminate | .wait | .abandon | .sleep _
  | .net (.receive _ _) | .net .hangUp | .net .now => trivial

theorem obliging_delivers :
    ∃ unread,
      Delivers stream (arrivals (traffic (program.trace (obliging .ended) stream))) unread := by
  induction program generalizing stream with
  | done | crash => exact ⟨stream, .nothing stream⟩
  | ask call next ih =>
    match call, stream with
    | .net (.receive deadline room), [] =>
      obtain ⟨unread, rest⟩ := ih Arrival.ended []
      exact ⟨unread, .ended rest⟩
    | .net (.receive deadline room), b :: stream =>
      let whole : Arrival := .bytes (b :: stream) (List.cons_ne_nil b stream)
      obtain ⟨unread, rest⟩ := ih whole []
      have all : Delivers (b :: stream ++ [])
          (whole :: arrivals (traffic ((next whole).trace (obliging .ended) []))) unread :=
        .piece rest
      rw [List.append_nil] at all
      exact ⟨unread, all⟩
    | .writeConfig _ _, _ | .start _ _, _ | .signal _, _ | .exitState, _ | .net (.send _), _
    | .net (.dial _), _ | .newId, _ | .probe _, _ | .removeConfig _, _ | .terminate, _ | .wait, _
    | .abandon, _ | .sleep _, _ | .net .hangUp, _ | .net .now, _ => exact ih _ _

/-- The clock stands still. -/
theorem obliging_clock {ending : Ending} {instant : Nat}
    (h : atLink ⟨Net.Call.now, instant⟩ ∈ program.trace (obliging ending) stream) : instant = 0 := by
  have still : ∀ e ∈ program.trace (obliging ending) stream,
      ∀ instant : Nat, e = atLink ⟨Net.Call.now, instant⟩ → instant = 0 := by
    refine forall_mem_trace (fun call unread instant same => ?_) program stream
    obtain rfl : call = .net .now := congrArg Event.call same
    cases same
    rfl
  exact still _ h instant rfl

theorem obliging_refusals : refusals (program.trace (obliging .ended) stream) = 0 := by
  induction program generalizing stream with
  | done | crash => rfl
  | ask call next ih =>
    match call, stream with
    | .net (.receive _ _), [] | .net (.receive _ _), _ :: _
    | .writeConfig _ _, _ | .start _ _, _ | .signal _, _ | .exitState, _ | .net (.send _), _
    | .net (.dial _), _ | .newId, _ | .probe _, _ | .removeConfig _, _ | .terminate, _ | .wait, _
    | .abandon, _ | .sleep _, _ | .net .hangUp, _ | .net .now, _ => exact ih _ _

end ReloadProbe.Plan
