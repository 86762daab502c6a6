import ReloadProbe.Proofs.Broker.Disk
import ReloadProbe.Proofs.Broker.Ports
import ReloadProbe.Proofs.Net.Calls
import ReloadProbe.Proofs.Run.Record
import ReloadProbe.Run.Plan

/-!
The course of a run: for each part of a plan a relation with one case for each way that the part can
go, with its events and its result. Later proofs go by these cases and do not open the plan again.
-/
namespace ReloadProbe

open Interaction

namespace Host

theorem runs_net {α : Type} {p : Interaction Net.link α} {events : List (Event host)} {a : α}
    (h : Runs (net p) events a) : ∃ own, events = own.map atLink ∧ Runs p own a :=
  runs_embed (fun _ _ => rfl) h

theorem lifts_onDisk (c : ConfigFile.Call) (reply : Reply (fileCall c)) :
    onDisk ⟨c, fileReply c reply⟩ = ⟨fileCall c, reply⟩ := by
  cases c <;> rfl

theorem runs_disk {α : Type} {p : Interaction ConfigFile.disk α} {events : List (Event host)} {a : α}
    (h : Runs (disk p) events a) : ∃ own, events = own.map onDisk ∧ Runs p own a :=
  runs_embed lifts_onDisk h

theorem runs_allocate {ports ports' : Ports} {events : List (Event host)}
    {r : Except Failure UInt16} (h : Runs (allocate ports) events (r, ports')) :
    ∃ asked, events = asked.map probed ∧ Ports.Allocates ports asked r ports' := by
  have lifts (port : UInt16) (isFree : Bool) :
      probed ⟨port, isFree⟩ = ⟨Call.probe port, isFree⟩ := rfl
  obtain ⟨asked, rfl, own⟩ := runs_embed lifts h
  exact ⟨asked, rfl, Ports.runs_allocate own⟩

end Host

open Host Net

namespace Plan

def hail (p : Plan) (s : Scenario) : Interaction link (Except Failure Client) :=
  Client.handshake s.address p.version p.packets.connect p.packets.connack
    p.settings.timeouts.handshake

theorem runs_holding {α : Type} {c : Client} {q : Interaction link α} {events : List (Event host)}
    {a : α} (h : Runs (holding c q) events a) : ∃ own, events = own.map atLink ∧ Runs q own a := by
  obtain ⟨own, rfl, called⟩ := runs_net h
  exact ⟨own, rfl, runs_unwinding.mp called⟩

def refusal (s : Scenario) : Event host := ⟨Call.net (.dial s.address), Dialled.refused⟩

def retry (p : Plan) (s : Scenario) (attempt : Nat) : List (Event host) :=
  [refusal s, ⟨Call.exitState, .ok none⟩,
    ⟨Call.sleep (p.settings.startup.backoff (attempt - 1)), ()⟩]

/-- Attempts to connect, of which the next has the number `attempt` and may have `left` more after
it. Only `met` opens a connection. -/
inductive Connects (p : Plan) (s : Scenario) :
    (attempt left : Nat) → List (Event host) → Except Failure Client → Prop where
  | met {attempt left : Nat} {hailed : List (Event link)} {r : Except Failure Client}
      (greeting : Runs (p.hail s) hailed r) (taken : ∀ a n, r ≠ .error (.refused a n)) :
      Connects p s attempt left (hailed.map atLink) r
  | unknown {attempt left : Nat} (e : Failure) :
      Connects p s attempt left [refusal s, ⟨Call.exitState, .error e⟩] (.error e)
  | exited {attempt left : Nat} (exit : ExitState) :
      Connects p s attempt left [refusal s, ⟨Call.exitState, .ok (some exit)⟩]
        (.error (.exitedEarly exit))
  | exhausted {attempt : Nat} :
      Connects p s attempt 0 [refusal s, ⟨Call.exitState, .ok none⟩]
        (.error (.refused s.address (UInt32.ofNat attempt)))
  | again {attempt left : Nat} {events : List (Event host)} {r : Except Failure Client}
      (later : Connects p s (attempt + 1) left events r) :
      Connects p s attempt (left + 1) (p.retry s attempt ++ events) r

/-- A greeting that fails is never told as a refusal; a connection that is not taken is. -/
theorem refused_hail {p : Plan} {s : Scenario} {hailed : List (Event link)} {a : Address}
    {n : UInt32} (h : Runs (p.hail s) hailed (.error (.refused a n))) :
    hailed.map atLink = [refusal s] := by
  rcases runs_handshake h with ⟨reply, _, rfl, told⟩ | ⟨_, _, _, _, told⟩ |
    ⟨greeted, closing, e, c, d, _, greeting, _, told⟩
  · cases reply with
    | refused => rfl
    | opened | failed => cases told
  · cases told
  · cases told
    rcases runs_greet greeting with ⟨e, sent, told, _⟩ |
      ⟨_, _, _, _, v, _, _, _, _, ⟨_, told⟩ | ⟨e, failed, told⟩⟩
    · cases told
      rcases runs_send sent with ⟨_, reply, _, told⟩ | ⟨_, _, told⟩
      · cases reply <;> cases told
      · cases told
    · cases told
    · cases told
      cases v with
      | matched | broken => cases failed
      | unmet reason => cases reason <;> cases failed

theorem runs_connectFrom {p : Plan} {s : Scenario} {attempt left : Nat}
    {events : List (Event host)} {r : Except Failure Client}
    (h : Runs (p.connectFrom s attempt left) events r) : Connects p s attempt left events r := by
  unfold connectFrom at h
  obtain ⟨before, after, opened, rfl, hailed, tried⟩ := runs_seq.mp h
  -- Only a refusal with the broker alive leads on, and that uses up one of `left`.
  obtain ⟨own, rfl, greeting⟩ := runs_net hailed
  split at tried
  · rw [refused_hail greeting]
    obtain ⟨reply, later, rfl, rest⟩ := runs_reply.mp tried
    match reply with
    | .error e =>
      obtain ⟨rfl, rfl⟩ := runs_pure.mp rest
      exact .unknown e
    | .ok (some exit) =>
      obtain ⟨rfl, rfl⟩ := runs_pure.mp rest
      exact .exited exit
    | .ok none =>
      cases left with
      | zero =>
        obtain ⟨rfl, rfl⟩ := runs_pure.mp rest
        exact .exhausted
      | succ left =>
        obtain ⟨⟨⟩, later, rfl, again⟩ := runs_reply.mp rest
        exact .again (runs_connectFrom again)
  · rename_i taken
    obtain ⟨rfl, rfl⟩ := runs_pure.mp tried
    rw [List.append_nil]
    exact .met greeting taken
termination_by left

/-- `n` reloads, each with its notification. A reload that is not delivered, or not answered, is the
last. -/
inductive Cycles (p : Plan) : Nat → Client → Stage → List (Event host) → Except Failure Unit →
    Client → Stage → Prop where
  | finished {c : Client} {stage : Stage} : Cycles p 0 c stage [] (.ok ()) c stage
  | undelivered {n : Nat} {c : Client} {stage : Stage} (e : Failure) :
      Cycles p (n + 1) c stage [⟨Call.signal .reload, .error e⟩] (.error e) c stage
  | unanswered {n : Nat} {c c' : Client} {stage : Stage} {waited : List (Event link)} {e : Failure}
      (wait : Runs (c.expect p.packets.notification p.settings.timeouts.notification
        notificationLabel) waited (.error e, c')) :
      Cycles p (n + 1) c stage (reloaded :: waited.map atLink) (.error e) c' .reloadTriggered
  | answered {n : Nat} {c d c' : Client} {stage stage' : Stage} {waited : List (Event link)}
      {events : List (Event host)} {r : Except Failure Unit}
      (wait : Runs (c.expect p.packets.notification p.settings.timeouts.notification
        notificationLabel) waited (.ok (), d))
      (later : Cycles p n d .notificationVerified events r c' stage') :
      Cycles p (n + 1) c stage (reloaded :: (waited.map atLink ++ events)) r c' stage'

theorem runs_cycles {p : Plan} {n : Nat} {c c' : Client} {stage stage' : Stage}
    {events : List (Event host)} {r : Except Failure Unit}
    (h : Runs (p.cycles n c stage) events (r, c', stage')) :
    Cycles p n c stage events r c' stage' := by
  induction n generalizing c stage events with
  | zero =>
    obtain ⟨rfl, same⟩ := runs_pure.mp h
    cases same
    exact .finished
  | succ n ih =>
    obtain ⟨reply, later, rfl, answer⟩ := runs_reply.mp h
    cases reply with
    | error e =>
      obtain ⟨rfl, same⟩ := runs_pure.mp answer
      cases same
      exact .undelivered e
    | ok =>
      obtain ⟨before, after, ⟨met, d⟩, rfl, waiting, rest⟩ := runs_seq.mp answer
      obtain ⟨waited, rfl, wait⟩ := runs_holding waiting
      cases met with
      | error e =>
        obtain ⟨rfl, same⟩ := runs_pure.mp rest
        cases same
        rw [List.append_nil]
        exact .unanswered wait
      | ok => exact .answered wait (ih rest)

inductive Converses (p : Plan) (c : Client) : List (Event host) → Progress → Prop where
  | stopped {c' : Client} {stage : Stage} {events : List (Event host)} {e : Failure}
      (reloads : Cycles p p.settings.reloadCycles.toNat c .connected events (.error e) c' stage) :
      Converses p c events { result := .error e, stage, client := some c' }
  | mute {c' d : Client} {stage : Stage} {events : List (Event host)} {pinged : List (Event link)}
      {e : Failure}
      (reloads : Cycles p p.settings.reloadCycles.toNat c .connected events (.ok ()) d stage)
      (ping : Runs (d.ping p.settings.timeouts.ping) pinged (.error e, c')) :
      Converses p c (events ++ pinged.map atLink) { result := .error e, stage, client := some c' }
  | alive {c' d : Client} {stage : Stage} {events : List (Event host)} {pinged : List (Event link)}
      (reloads : Cycles p p.settings.reloadCycles.toNat c .connected events (.ok ()) d stage)
      (ping : Runs (d.ping p.settings.timeouts.ping) pinged (.ok (), c')) :
      Converses p c (events ++ pinged.map atLink)
        { stage := .livenessVerified, client := some c' }

theorem runs_converse {p : Plan} {c : Client} {events : List (Event host)} {progress : Progress}
    (h : Runs (p.converse c) events progress) : Converses p c events progress := by
  obtain ⟨before, after, ⟨met, d, stage⟩, rfl, cycling, more⟩ := runs_seq.mp h
  have reloads := runs_cycles cycling
  cases met with
  | error e =>
    obtain ⟨rfl, rfl⟩ := runs_pure.mp more
    rw [List.append_nil]
    exact .stopped reloads
  | ok =>
    obtain ⟨second, last, ⟨answer, c'⟩, rfl, pinging, rest⟩ := runs_seq.mp more
    obtain ⟨pinged, rfl, ping⟩ := runs_holding pinging
    cases answer with
    | error e =>
      obtain ⟨rfl, rfl⟩ := runs_pure.mp rest
      rw [List.append_nil]
      exact .mute reloads ping
    | ok =>
      obtain ⟨rfl, rfl⟩ := runs_pure.mp rest
      rw [List.append_nil]
      exact .alive reloads ping

inductive Drives (p : Plan) (s : Scenario) (config : Path) :
    List (Event host) → Progress → Prop where
  | unstarted (e : Failure) :
      Drives p s config [⟨Call.start config s.port, .error e⟩]
        { result := .error e, stage := .configWritten, started := false }
  | unconnected {events : List (Event host)} {e : Failure}
      (attempts : Connects p s 1 (p.settings.startup.attempts.toNat - 1) events (.error e)) :
      Drives p s config (⟨Call.start config s.port, .ok ()⟩ :: events)
        { result := .error e, stage := .processStarted }
  | connected {dialled events : List (Event host)} {c : Client} {progress : Progress}
      (attempts : Connects p s 1 (p.settings.startup.attempts.toNat - 1) dialled (.ok c))
      (session : Converses p c events progress) :
      Drives p s config (⟨Call.start config s.port, .ok ()⟩ :: (dialled ++ events)) progress

theorem runs_drive {p : Plan} {s : Scenario} {config : Path} {events : List (Event host)}
    {progress : Progress} (h : Runs (p.drive s config) events progress) :
    Drives p s config events progress := by
  obtain ⟨reply, later, rfl, more⟩ := runs_reply.mp h
  cases reply with
  | error e =>
    obtain ⟨rfl, rfl⟩ := runs_pure.mp more
    exact .unstarted e
  | ok =>
    obtain ⟨before, after, opened, rfl, connecting, rest⟩ := runs_seq.mp (runs_unwinding.mp more)
    have attempts := runs_connectFrom connecting
    cases opened with
    | error e =>
      obtain ⟨rfl, rfl⟩ := runs_pure.mp rest
      rw [List.append_nil]
      exact .unconnected attempts
    | ok c => exact .connected attempts (runs_converse rest)

/-- What a failure is told to be, after a look at the broker. -/
def blame (e : Failure) : Except Failure (Option ExitState) → Failure
  | .ok (some exit) => .exitedEarly exit
  | _ => e

def pause (lost : Bool) : List (Event host) :=
  if lost then [⟨Call.sleep settle, ()⟩] else []

theorem runs_pause {α : Type} {lost : Bool} {q : Interaction host α} {a : α}
    {events : List (Event host)}
    (h : Runs (if lost then sleep settle >>= fun _ => q else q) events a) :
    ∃ later, events = pause lost ++ later ∧ Runs q later a := by
  cases lost with
  | true =>
    obtain ⟨⟨⟩, later, rfl, rest⟩ := runs_reply.mp h
    exact ⟨later, rfl, rest⟩
  | false => exact ⟨events, rfl, h⟩

inductive Classifies (e : Failure) : List (Event host) → Failure → Prop where
  | shown (plain : e.mayHideExit = false) : Classifies e [] e
  | looked (hides : e.mayHideExit = true) (reply : Except Failure (Option ExitState)) :
      Classifies e (pause e.lostConnection ++ [⟨Call.exitState, reply⟩]) (blame e reply)

theorem runs_classify {e e' : Failure} {events : List (Event host)}
    (h : Runs (classify e) events e') : Classifies e events e' := by
  unfold classify at h
  split at h
  · rename_i hides
    obtain ⟨later, rfl, look⟩ := runs_pause h
    obtain ⟨reply, rest, rfl, told⟩ := runs_reply.mp look
    rcases reply with fault | _ | exit
    · obtain ⟨rfl, rfl⟩ := runs_pure.mp told
      exact .looked hides (.error fault)
    · obtain ⟨rfl, rfl⟩ := runs_pure.mp told
      exact .looked hides (.ok none)
    · obtain ⟨rfl, rfl⟩ := runs_pure.mp told
      exact .looked hides (.ok (some exit))
  · rename_i plain
    obtain ⟨rfl, rfl⟩ := runs_pure.mp h
    exact .shown (by simpa using plain)

/-- The result of a run, before its broker is stopped. Only a failure of a run whose broker was
started is looked into. -/
inductive Judges : Progress → List (Event host) → Except Failure Unit → Prop where
  | passed {progress : Progress} (fine : progress.result = .ok ()) : Judges progress [] (.ok ())
  | unstarted {progress : Progress} {e : Failure} (failed : progress.result = .error e)
      (unstarted : progress.started = false) : Judges progress [] (.error e)
  | failed {progress : Progress} {e e' : Failure} {events : List (Event host)}
      (failed : progress.result = .error e) (started : progress.started = true)
      (told : Classifies e events e') : Judges progress events (.error e')

theorem runs_verdict {progress : Progress} {events : List (Event host)}
    {r : Except Failure Unit} (h : Runs (verdict progress) events r) :
    Judges progress events r := by
  unfold verdict at h
  split at h
  · rename_i e failed started
    obtain ⟨before, after, e', rfl, told, rest⟩ := runs_seq.mp h
    obtain ⟨rfl, rfl⟩ := runs_pure.mp rest
    rw [List.append_nil]
    exact .failed failed started (runs_classify told)
  · rename_i other
    obtain ⟨rfl, rfl⟩ := runs_pure.mp h
    cases failed : progress.result with
    | ok => exact .passed failed
    | error e =>
      exact .unstarted failed (by simpa using other e failed)

def parting : Option Client → List (Event link)
  | some c => if c.connected then [⟨Call.hangUp, ()⟩] else []
  | none => []

def stopping : Option Output → List (Event host)
  | some output => [⟨Call.terminate, ()⟩, ⟨Call.wait, output⟩]
  | none => []

/-- The end of a teardown, after the connection. -/
theorem runs_stop {started : Bool} {file file' : ConfigFile} {events : List (Event host)}
    {output : Option Output} (still : file.removed = false) (h : Runs (do
      let output ←
        if started then do
          terminate
          some <$> wait
        else pure none
      let (_, file) ← disk file.remove
      return (output, file)) events (output, file')) :
    ∃ gone : Except String Unit,
      events = stopping output ++ [⟨Call.removeConfig file.path, gone⟩] ∧
      output.isSome = started ∧ file'.removed = true := by
  have removed {left : Option Output} {last : List (Event host)}
      (h : Runs (do
        let (_, file) ← disk file.remove
        return (left, file)) last (output, file')) :
      ∃ gone : Except String Unit, last = [⟨Call.removeConfig file.path, gone⟩] ∧ output = left ∧
        file'.removed = true := by
    obtain ⟨removing, ended, ⟨told, after⟩, rfl, asked, rest⟩ := runs_seq.mp h
    obtain ⟨rfl, same⟩ := runs_pure.mp rest
    cases same
    obtain ⟨own, rfl, remove⟩ := runs_disk asked
    rcases ConfigFile.runs_remove remove with ⟨before, _⟩ | ⟨_, gone, rfl, _, rfl⟩
    · cases still.symm.trans before
    · exact ⟨gone, rfl, rfl, rfl⟩
  cases started with
  | true =>
    obtain ⟨⟨⟩, more, rfl, rest⟩ := runs_reply.mp h
    obtain ⟨waiting, last, _, rfl, waited, ended⟩ := runs_seq.mp rest
    obtain ⟨left, asked, rfl⟩ := runs_map.mp waited
    obtain rfl := runs_call.mp asked
    obtain ⟨gone, rfl, rfl, done⟩ := removed ended
    exact ⟨gone, rfl, rfl, done⟩
  | false =>
    obtain ⟨gone, rfl, rfl, done⟩ := removed h
    exact ⟨gone, rfl, rfl, done⟩

theorem runs_tearDown {progress : Progress} {file file' : ConfigFile} {events : List (Event host)}
    {output : Option Output} (still : file.removed = false)
    (h : Runs (tearDown progress file) events (output, file')) :
    ∃ removed : Except String Unit,
      events = (parting progress.client).map atLink ++
        (stopping output ++ [⟨Call.removeConfig file.path, removed⟩]) ∧
      output.isSome = progress.started ∧ file'.removed = true := by
  cases present : progress.client with
  | some c =>
    simp only [tearDown, present] at h
    obtain ⟨before, after, d, rfl, closing, rest⟩ := runs_seq.mp h
    obtain ⟨own, rfl, closed⟩ := runs_net closing
    obtain ⟨removed, rfl, started⟩ := runs_stop still rest
    refine ⟨removed, ?_, started⟩
    rcases runs_close closed with ⟨linked, rfl, _⟩ | ⟨gone, rfl, _⟩
    · simp [parting, linked]
    · simp [parting, gone]
  | none =>
    simp only [tearDown, present] at h
    obtain ⟨removed, rfl, started⟩ := runs_stop still h
    exact ⟨removed, rfl, started⟩

theorem dropped_nothing {file : ConfigFile} {events : List (Event host)} (gone : file.removed = true)
    (h : Runs (disk file.drop) events ()) : events = [] := by
  obtain ⟨own, rfl, drop⟩ := runs_disk h
  rcases ConfigFile.runs_drop drop with ⟨_, rfl⟩ | ⟨still, _⟩
  · rfl
  · cases still.symm.trans gone

def scenarioAt (p : Plan) (variant : Bool) (port : UInt16) : Scenario :=
  { perListenerSettings := variant, version := p.version
    keepalive := p.settings.client.keepalive, port }

def writing (p : Plan) (variant : Bool) (port : UInt16) (reply : Except String Path) : Event host :=
  ⟨Call.writeConfig p.settings.configDir (brokerConfig variant port p.settings.pluginPath), reply⟩

/-- A run, between the two looks at the clock that give its length. -/
inductive Performs (p : Plan) (id : String) (ports : Ports) (variant : Bool) :
    List (Event host) → Outcome → Prop where
  | portless {asked : List (Event Ports.probing)} {e : Failure} {ports' : Ports}
      (search : Ports.Allocates ports asked (.error e) ports') :
      Performs p id ports variant (asked.map probed)
        { id, perListenerSettings := variant, reached := .init, result := .error e }
  | unwritten {asked : List (Event Ports.probing)} {port : UInt16} {ports' : Ports}
      (search : Ports.Allocates ports asked (.ok port) ports') (source : String) :
      Performs p id ports variant (asked.map probed ++ [p.writing variant port (.error source)])
        { id, perListenerSettings := variant, scenario := some (p.scenarioAt variant port)
          reached := .init, result := .error (.configWrite source) }
  | driven {asked : List (Event Ports.probing)} {port : UInt16} {ports' : Ports} {config : Path}
      {driving judging : List (Event host)} {progress : Progress} {r : Except Failure Unit}
      {output : Option Output} {removed : Except String Unit}
      (search : Ports.Allocates ports asked (.ok port) ports')
      (drive : Drives p (p.scenarioAt variant port) config driving progress)
      (told : Judges progress judging r) (stopped : output.isSome = progress.started) :
      Performs p id ports variant
        (asked.map probed ++ p.writing variant port (.ok config) :: (driving ++ (judging ++
          ((parting progress.client).map atLink ++
            (stopping output ++ [⟨Call.removeConfig config, removed⟩])))))
        { id, perListenerSettings := variant, scenario := some (p.scenarioAt variant port)
          reached := progress.stage, result := r, output }

theorem runs_perform {p : Plan} {id : String} {ports ports' : Ports} {variant : Bool}
    {events : List (Event host)} {outcome : Outcome}
    (h : Runs (p.perform id ports variant) events (outcome, ports')) :
    Performs p id ports variant events outcome := by
  obtain ⟨before, after, ⟨given, left⟩, rfl, asking, more⟩ := runs_seq.mp h
  obtain ⟨asked, rfl, search⟩ := runs_allocate asking
  cases given with
  | error e =>
    obtain ⟨rfl, same⟩ := runs_pure.mp more
    cases same
    rw [List.append_nil]
    exact .portless search
  | ok port =>
    obtain ⟨writes, later, reply, rfl, written, rest⟩ := runs_seq.mp more
    obtain ⟨own, rfl, wrote⟩ := runs_disk written
    obtain ⟨place, rfl, rfl⟩ := ConfigFile.runs_write wrote
    cases place with
    | error source =>
      obtain ⟨rfl, same⟩ := runs_pure.mp rest
      cases same
      exact .unwritten search source
    | ok config =>
      obtain ⟨driving, judged, progress, rfl, drive, judges⟩ := runs_seq.mp rest
      obtain ⟨judging, torn, r, rfl, verdict, tearing⟩ := runs_seq.mp judges
      obtain ⟨tears, last, ⟨output, file⟩, rfl, torn, ended⟩ := runs_seq.mp tearing
      obtain ⟨removed, rfl, stopped, gone⟩ := runs_tearDown rfl torn
      -- The file was removed in the teardown, so nothing is dropped.
      obtain ⟨dropped, nothing, ⟨⟩, rfl, dropping, told⟩ := runs_seq.mp ended
      obtain rfl := dropped_nothing gone dropping
      obtain ⟨rfl, same⟩ := runs_pure.mp told
      cases same
      rw [List.append_nil, List.append_nil]
      exact .driven search (runs_drive (runs_unwinding.mp drive)) (runs_verdict verdict) stopped

/-- What a run adds to what it performs: its mark, and the two looks at the clock. -/
theorem runs_timed {p : Plan} {ports ports' : Ports} {variant : Bool} {events : List (Event host)}
    {outcome : Outcome} (h : Runs (p.run ports variant) events (outcome, ports')) :
    ∃ (id : String) (begun ended : Nat) (performed : List (Event host)) (timed : Outcome)
      (elapsed : Duration), Runs (p.perform id ports variant) performed (timed, ports') ∧
      events = ⟨Call.newId, id⟩ :: atLink ⟨Net.Call.now, begun⟩ :: (performed ++
        [atLink ⟨Net.Call.now, ended⟩]) ∧
      outcome = { timed with elapsed } := by
  obtain ⟨id, marked, rfl, timing⟩ := runs_reply.mp h
  obtain ⟨first, more, begun, rfl, clock, rest⟩ := runs_seq.mp timing
  obtain ⟨own, rfl, asked⟩ := runs_net clock
  obtain rfl := runs_call.mp asked
  obtain ⟨performed, after, ⟨timed, left⟩, rfl, performing, ending⟩ := runs_seq.mp rest
  obtain ⟨final, nothing, ended, rfl, clocked, leaving⟩ := runs_seq.mp ending
  obtain ⟨own, rfl, asked⟩ := runs_net clocked
  obtain rfl := runs_call.mp asked
  obtain ⟨rfl, same⟩ := runs_pure.mp leaving
  cases same
  exact ⟨id, begun, ended, performed, timed, _, performing, by simp, rfl⟩

theorem runs_run {p : Plan} {ports ports' : Ports} {variant : Bool} {events : List (Event host)}
    {outcome : Outcome} (h : Runs (p.run ports variant) events (outcome, ports')) :
    ∃ (id : String) (begun ended : Nat) (performed : List (Event host)) (timed : Outcome)
      (elapsed : Duration), Performs p id ports variant performed timed ∧
      events = ⟨Call.newId, id⟩ :: atLink ⟨Net.Call.now, begun⟩ :: (performed ++
        [atLink ⟨Net.Call.now, ended⟩]) ∧
      outcome = { timed with elapsed } := by
  obtain ⟨id, begun, ended, performed, timed, elapsed, performing, rest⟩ := runs_timed h
  exact ⟨id, begun, ended, performed, timed, elapsed, runs_perform performing, rest⟩

end Plan
end ReloadProbe
