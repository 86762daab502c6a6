import ReloadProbe.Proofs.Run.Course

/-!
What a run takes and gives back: its configuration file, its broker and its connection. All that it
does with them is put in a list of deeds, and `Whole` has the lists that leave nothing behind.
-/
namespace ReloadProbe

open Interaction Host Net

/-- Something that is done to the file, the broker or the connection of a run. -/
inductive Deed where
  | write (file : Path)
  | remove (file : Path)
  | start (succeeded : Bool)
  | signal
  | terminate
  | wait
  /-- The broker was let go of, and not waited for. -/
  | abandon
  /-- A connection is there from now on. -/
  | opened
  /-- The connection was hung up, or given up because the peer had left it. -/
  | closed
  deriving DecidableEq

namespace Deed

def ofLink? : Event link → Option Deed
  | ⟨.dial _, Dialled.opened⟩ => some opened
  | ⟨.hangUp, _⟩ => some closed
  | ⟨.receive _ _, Arrival.ended⟩ => some closed
  | ⟨.receive _ _, Arrival.reset⟩ => some closed
  | _ => none

/-- A file that could not be written is not there, and a connection not made need not be closed. -/
def ofEvent? : Event host → Option Deed
  | ⟨.writeConfig _ _, reply⟩ => (reply : Except String Path).toOption.map write
  | ⟨.removeConfig file, _⟩ => some (remove file)
  | ⟨.start _ _, reply⟩ => some (start (reply : Except Failure Unit).toBool)
  | ⟨.signal _, _⟩ => some signal
  | ⟨.terminate, _⟩ => some terminate
  | ⟨.wait, _⟩ => some wait
  | ⟨.abandon, _⟩ => some abandon
  | ⟨.net call, reply⟩ => ofLink? ⟨call, reply⟩
  | _ => none

end Deed

def deeds (events : List (Event host)) : List Deed := events.filterMap Deed.ofEvent?

def linkDeeds (events : List (Event link)) : List Deed := events.filterMap Deed.ofLink?

/-- What is done between start and stop of a broker. There is a connection first and last as told; it
is opened only where there is none, and closed only where there is one. -/
inductive Talk : Bool → List Deed → Bool → Prop where
  | nothing {linked : Bool} : Talk linked [] linked
  | signalled {linked after : Bool} {rest : List Deed} (later : Talk linked rest after) :
      Talk linked (.signal :: rest) after
  | opened {after : Bool} {rest : List Deed} (later : Talk true rest after) :
      Talk false (.opened :: rest) after
  | closed {after : Bool} {rest : List Deed} (later : Talk false rest after) :
      Talk true (.closed :: rest) after

/-- All the deeds of a run. A broker that was started is told to stop once and then waited for once,
after the last signal and with no connection left; a file that was written is removed once, after
all that; and nothing else is stopped or removed. -/
inductive Whole : List Deed → Prop where
  | nothing : Whole []
  | unstarted (file : Path) : Whole [.write file, .start false, .remove file]
  | started (file : Path) {session : List Deed} (talk : Talk false session false) :
      Whole (.write file :: .start true :: (session ++ [.terminate, .wait, .remove file]))

@[simp] theorem deeds_nil : deeds [] = [] := rfl

@[simp] theorem deeds_append (a b : List (Event host)) : deeds (a ++ b) = deeds a ++ deeds b :=
  List.filterMap_append

@[simp] theorem linkDeeds_nil : linkDeeds [] = [] := rfl

@[simp] theorem linkDeeds_append (a b : List (Event link)) :
    linkDeeds (a ++ b) = linkDeeds a ++ linkDeeds b := List.filterMap_append

@[simp] theorem deeds_atLink (own : List (Event link)) : deeds (own.map atLink) = linkDeeds own :=
  List.filterMap_map

@[simp] theorem deeds_probed (asked : List (Event Ports.probing)) :
    deeds (asked.map probed) = [] := by
  induction asked with
  | nil => rfl
  | cons e asked ih => exact ih

/-- A removal is told by no other event. -/
theorem exists_removal {events : List (Event host)} {file : Path}
    (h : .remove file ∈ deeds events) :
    ∃ early reply late, events = early ++ ⟨Call.removeConfig file, reply⟩ :: late := by
  obtain ⟨⟨call, reply⟩, member, removes⟩ := List.mem_filterMap.mp h
  obtain ⟨early, late, rfl⟩ := List.append_of_mem member
  cases call with
  | removeConfig =>
    cases removes
    exact ⟨early, reply, late, rfl⟩
  | writeConfig => cases reply <;> cases removes
  | net call =>
    cases call with
    | dial | receive => cases reply <;> cases removes
    | _ => cases removes
  | _ => cases removes

theorem Talk.append {a b c : Bool} {x y : List Deed} (first : Talk a x b) (second : Talk b y c) :
    Talk a (x ++ y) c := by
  induction first with
  | nothing => exact second
  | signalled _ ih => exact .signalled (ih second)
  | opened _ ih => exact .opened (ih second)
  | closed _ ih => exact .closed (ih second)

theorem Talk.start_not_mem {a b ok : Bool} {session : List Deed} (talk : Talk a session b) :
    .start ok ∉ session := by
  induction talk with
  | nothing => exact List.not_mem_nil
  | signalled _ ih | opened _ ih | closed _ ih => simpa using ih

namespace Net

variable {c c' : Client} {expected : Bytes} {timeout : Duration} {events : List (Event link)}

theorem Waits.talk {deadline : Nat} {v : Verdict} (w : Waits expected deadline c events v c') :
    Talk c.connected (linkDeeds events) c'.connected := by
  induction w with
  | matched | differs | closed => exact .nothing
  | stopped ending short linked =>
    rw [linked]
    cases ending with
    | ended | reset => exact .closed .nothing
    | timedOut | failed => exact .nothing
  | more _ _ _ ih => exact ih

theorem expect_talk {label : String} {r : Except Failure Unit}
    (h : Runs (c.expect expected timeout label) events (r, c')) :
    Talk c.connected (linkDeeds events) c'.connected := by
  obtain ⟨_, _, later, v, rfl, _, w, _⟩ := runs_expect h
  exact w.talk

theorem linkDeeds_send {data : Bytes} {r : Except Failure Unit}
    (h : Runs (c.send data) events r) : linkDeeds events = [] := by
  rcases runs_send h with ⟨_, reply, rfl, _⟩ | ⟨_, rfl, _⟩ <;> rfl

theorem ping_talk {r : Except Failure Unit} (h : Runs (c.ping timeout) events (r, c')) :
    Talk c.connected (linkDeeds events) c'.connected := by
  rcases runs_ping h with ⟨e, sent, _, rfl⟩ | ⟨sent, later, rfl, first, waited⟩
  · rw [linkDeeds_send sent]
    exact .nothing
  · rw [linkDeeds_append, linkDeeds_send first]
    exact expect_talk waited

theorem greet_talk {hello welcome : Bytes} {r : Except Failure Unit}
    (h : Runs (c.greet hello welcome timeout) events (r, c')) :
    Talk c.connected (linkDeeds events) c'.connected := by
  rcases runs_greet h with ⟨e, sent, _, rfl⟩ |
    ⟨sent, instant, deadline, later, v, rfl, first, _, w, _⟩
  · rw [linkDeeds_send sent]
    exact .nothing
  · rw [linkDeeds_append, linkDeeds_send first]
    exact w.talk

theorem close_talk (h : Runs c.close events c') : Talk c.connected (linkDeeds events) false := by
  rcases runs_close h with ⟨linked, rfl, _⟩ | ⟨gone, rfl, _⟩
  · rw [linked]
    exact .closed .nothing
  · rw [gone]
    exact .nothing

end Net

namespace Plan

variable {p : Plan} {s : Scenario} {c c' : Client} {events : List (Event host)}

/-- Whether there is a connection after an attempt to make one. -/
def linkedBy : Except Failure Client → Bool
  | .ok c => c.connected
  | .error _ => false

theorem hail_talk {hailed : List (Event link)} {r : Except Failure Client}
    (h : Runs (p.hail s) hailed r) : Talk false (linkDeeds hailed) (linkedBy r) := by
  rcases runs_handshake h with ⟨reply, other, rfl, rfl⟩ | ⟨greeted, c, rfl, greeting, rfl⟩ |
    ⟨greeted, closing, e, c, d, rfl, greeting, closed, rfl⟩
  · cases reply with
    | opened => exact absurd rfl other
    | refused | failed => exact .nothing
  · exact .opened (greet_talk greeting)
  · have whole := (greet_talk greeting).append (close_talk closed)
    rw [← linkDeeds_append] at whole
    exact .opened whole

theorem Connects.talk {attempt left : Nat} {r : Except Failure Client}
    (attempts : Connects p s attempt left events r) : Talk false (deeds events) (linkedBy r) := by
  induction attempts with
  | met greeting =>
    rw [deeds_atLink]
    exact hail_talk greeting
  | unknown | exited | exhausted => exact .nothing
  | again _ ih => exact ih

theorem Cycles.talk {n : Nat} {stage stage' : Stage} {r : Except Failure Unit}
    (cycles : Cycles p n c stage events r c' stage') :
    Talk c.connected (deeds events) c'.connected := by
  induction cycles with
  | finished => exact .nothing
  | undelivered e => exact .signalled .nothing
  | @unanswered n c c' stage waited e wait =>
    have talk := expect_talk wait
    rw [← deeds_atLink] at talk
    exact .signalled talk
  | @answered n c d c' stage stage' waited events r wait later ih =>
    have talk := (expect_talk wait).append ih
    rw [← deeds_atLink, ← deeds_append] at talk
    exact .signalled talk

/-- Whether a run still has a connection when its teardown begins. -/
def Progress.linked (progress : Progress) : Bool :=
  match progress.client with
  | some c => c.connected
  | none => false

theorem Converses.talk {progress : Progress} (session : Converses p c events progress) :
    Talk c.connected (deeds events) progress.linked ∧ progress.started = true := by
  cases session with
  | stopped cycles => exact ⟨cycles.talk, rfl⟩
  | mute cycles ping | alive cycles ping =>
    rw [deeds_append, deeds_atLink]
    exact ⟨cycles.talk.append (ping_talk ping), rfl⟩

theorem Drives.deeds {config : Path} {progress : Progress}
    (drive : Drives p s config events progress) :
    deeds events = [.start false] ∧ progress.started = false ∧ progress.client = none ∨
      ∃ session, deeds events = .start true :: session ∧ progress.started = true ∧
        Talk false session progress.linked := by
  cases drive with
  | unstarted e => exact .inl ⟨rfl, rfl, rfl⟩
  | unconnected attempts => exact .inr ⟨_, rfl, rfl, attempts.talk⟩
  | connected attempts session =>
    obtain ⟨talk, started⟩ := session.talk
    exact .inr ⟨_, congrArg (_ :: ·) (deeds_append _ _), started, attempts.talk.append talk⟩

theorem Judges.deeds {progress : Progress} {r : Except Failure Unit}
    (told : Judges progress events r) : deeds events = [] := by
  cases told with
  | passed | unstarted => rfl
  | @failed e _ _ _ _ told =>
    cases told with
    | shown => rfl
    | looked => cases e.lostConnection <;> rfl

theorem parting_talk (progress : Progress) :
    Talk progress.linked (linkDeeds (parting progress.client)) false := by
  unfold Progress.linked parting
  cases progress.client with
  | none => exact .nothing
  | some c =>
    show Talk c.connected (linkDeeds (if c.connected then [⟨Net.Call.hangUp, ()⟩] else [])) false
    cases c.connected with
    | true => exact .closed .nothing
    | false => exact .nothing

theorem deeds_leaving {client : Option Client} {output : Option Output} {config : Path}
    {removed : Except String Unit} :
    deeds ((parting client).map atLink ++ (stopping output ++
        [⟨Call.removeConfig config, removed⟩])) =
      linkDeeds (parting client) ++ (deeds (stopping output) ++ [.remove config]) := by
  rw [deeds_append, deeds_append, deeds_atLink]
  rfl

theorem leaving_start_not_mem (progress : Progress) (config : Path) (output : Option Output)
    (removed : Except String Unit) (ok : Bool) :
    .start ok ∉ deeds ((parting progress.client).map atLink ++ (stopping output ++
      [⟨Call.removeConfig config, removed⟩])) := by
  rw [deeds_leaving, List.mem_append, not_or]
  refine ⟨(parting_talk progress).start_not_mem, ?_⟩
  cases output <;> simp [stopping, deeds, Deed.ofEvent?]

/-- What is done before the broker: a port is looked for, and the file written. -/
theorem deeds_entry (asked : List (Event Ports.probing)) (variant : Bool) (port : UInt16)
    (config : Path) (rest : List (Event host)) :
    deeds (asked.map probed ++ p.writing variant port (.ok config) :: rest) =
      .write config :: deeds rest := by
  rw [deeds_append, deeds_probed]
  rfl

theorem Performs.whole {id : String} {ports : Ports} {variant : Bool} {outcome : Outcome}
    (course : Performs p id ports variant events outcome) : Whole (deeds events) := by
  cases course with
  | portless search =>
    rw [deeds_probed]
    exact .nothing
  | unwritten search source =>
    rw [deeds_append, deeds_probed]
    exact .nothing
  | driven search drive told stopped =>
    rename_i asked port _ config driving judging progress r output removed
    -- Whether there is a broker decides both what the drive did and what the teardown does.
    rw [deeds_entry, deeds_append, deeds_append, told.deeds, List.nil_append, deeds_leaving]
    rcases drive.deeds with ⟨driven, started, gone⟩ | ⟨session, driven, started, talk⟩
    · cases output with
      | some => cases started.symm.trans stopped.symm
      | none =>
        rw [driven, gone]
        exact .unstarted config
    · cases output with
      | none => cases started.symm.trans stopped.symm
      | some output =>
        have closed := talk.append (parting_talk progress)
        rw [driven, List.cons_append, ← List.append_assoc]
        exact .started config closed

/-- Neither the mark of a run nor the looks at the clock are deeds. -/
theorem deeds_timed (id : String) (begun ended : Nat) (performed : List (Event host)) :
    deeds (⟨Call.newId, id⟩ :: atLink ⟨Net.Call.now, begun⟩ ::
      (performed ++ [atLink ⟨Net.Call.now, ended⟩])) = deeds performed :=
  (deeds_append _ _).trans (List.append_nil _)

theorem run_whole {ports ports' : Ports} {variant : Bool} {outcome : Outcome}
    (h : Runs (p.run ports variant) events (outcome, ports')) : Whole (deeds events) := by
  obtain ⟨id, begun, ended, performed, timed, elapsed, course, rfl, rfl⟩ := runs_run h
  rw [deeds_timed]
  exact course.whole

end Plan
end ReloadProbe
