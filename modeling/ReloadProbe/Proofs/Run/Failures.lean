import ReloadProbe.Proofs.Broker.Subprocess
import ReloadProbe.Proofs.Run.Course

/-!
How a session fails: with wrong bytes, in a way that the end of the broker would explain, or because
the broker was seen to have ended or could not be asked after.
-/
namespace ReloadProbe

open Interaction Host Net

namespace Failure

/-- Bytes arrived that are not the right ones. -/
def isMismatch : Failure → Bool
  | handshakeMismatch .differs _ => true
  | unexpectedMessage _ .differs _ => true
  | _ => false

/-- Failures that the end of a broker does not explain, or that tell of it already. -/
def isSettled : Failure → Bool
  | status _ => true
  | exitedEarly _ => true
  | e => e.isMismatch

variable {e : Failure}

theorem isSettled_of_isMismatch (h : e.isMismatch = true) : e.isSettled = true := by
  cases e with
  | handshakeMismatch | unexpectedMessage => exact h
  | _ => cases h

theorem not_mayHideExit_of_isSettled (h : e.isSettled = true) : e.mayHideExit = false := by
  cases e with
  | status | exitedEarly => rfl
  | handshakeMismatch reason | unexpectedMessage _ reason =>
    cases reason with
    | differs => rfl
    | timedOut | closed => cases h
  | _ => cases h

end Failure

def exit? : Event host → Option ExitState
  | ⟨.exitState, reply⟩ => (reply : Except Failure (Option ExitState)).toOption.join
  | _ => none

/-- The ends of a broker that were found when its state was looked at. -/
def exits (events : List (Event host)) : List ExitState := events.filterMap exit?

@[simp] theorem exits_append (a b : List (Event host)) : exits (a ++ b) = exits a ++ exits b :=
  List.filterMap_append

@[simp] theorem exits_atLink (own : List (Event link)) : exits (own.map atLink) = [] := by
  induction own with
  | nil => rfl
  | cons e own ih => exact ih

/-- Calls on a broker fail in the ways in which those on a process fail. -/
def Candid : Event host → Prop
  | ⟨.signal _, reply⟩ => ∀ e, reply = (.error e : Except Failure Unit) → SignalFault e
  | ⟨.exitState, reply⟩ =>
    ∀ e, reply = (.error e : Except Failure (Option ExitState)) → StateFault e
  | _ => True

namespace Net

/-- How a client fails: with wrong bytes, or in a way that the end of its peer would explain. -/
def Failed (e : Failure) : Prop := e.mayHideExit = true ∨ e.isMismatch = true

variable {c c' : Client} {expected : Bytes} {timeout : Duration} {events : List (Event link)}
  {e : Failure}

/-- Why an awaited message was not met. -/
inductive AwaitFault (label : String) : Failure → Prop where
  | unmet (reason : Mismatch) (diff : Wire.Diff) :
      AwaitFault label (.unexpectedMessage label reason diff)
  | broken (reason : String) : AwaitFault label (.connection reason)

/-- Why no session was opened. -/
inductive OpenFault : Failure → Prop where
  | refused (address : Address) (attempts : UInt32) : OpenFault (.refused address attempts)
  | broken (reason : String) : OpenFault (.connection reason)
  | unmet (reason : Mismatch) (diff : Wire.Diff) : OpenFault (.handshakeMismatch reason diff)
  | late (limit : Duration) (diff : Wire.Diff) : OpenFault (.handshakeTimeout limit diff)

theorem AwaitFault.failed {label : String} (h : AwaitFault label e) : Failed e := by
  cases h with
  | unmet reason =>
    cases reason with
    | differs => exact .inr rfl
    | timedOut | closed => exact .inl rfl
  | broken => exact .inl rfl

theorem OpenFault.failed (h : OpenFault e) : Failed e := by
  cases h with
  | unmet reason =>
    cases reason with
    | differs => exact .inr rfl
    | timedOut | closed => exact .inl rfl
  | refused | broken | late => exact .inl rfl

theorem expect_fault {label : String}
    (h : Runs (c.expect expected timeout label) events (.error e, c')) : AwaitFault label e := by
  obtain ⟨_, _, _, v, _, _, _, told⟩ := runs_expect h
  cases v with
  | matched => cases told
  | unmet reason =>
    cases told
    exact .unmet reason _
  | broken reason =>
    cases told
    exact .broken reason

theorem ping_fault (h : Runs (c.ping timeout) events (.error e, c')) :
    AwaitFault Client.pingLabel e := by
  rcases runs_ping h with ⟨_, sent, told, _⟩ | ⟨_, _, _, _, waited⟩
  · cases told
    obtain ⟨reason, rfl⟩ := send_error sent
    exact .broken reason
  · exact expect_fault waited

theorem greet_fault {hello welcome : Bytes}
    (h : Runs (c.greet hello welcome timeout) events (.error e, c')) : OpenFault e := by
  rcases runs_greet h with ⟨_, sent, told, _⟩ |
    ⟨_, _, _, _, v, _, _, _, _, ⟨_, told⟩ | ⟨_, failed, told⟩⟩
  · cases told
    obtain ⟨reason, rfl⟩ := send_error sent
    exact .broken reason
  · cases told
  · cases told
    rcases v with _ | reason | reason
    · cases failed
    · cases reason with
      | timedOut =>
        cases failed
        exact .late timeout _
      | differs | closed =>
        cases failed
        exact .unmet _ _
    · cases failed
      exact .broken reason

theorem handshake_fault {address : Address} {version : Wire.Version} {hello welcome : Bytes}
    (h : Runs (Client.handshake address version hello welcome timeout) events (.error e)) :
    OpenFault e := by
  rcases runs_handshake h with ⟨reply, other, _, told⟩ | ⟨_, _, _, _, told⟩ |
    ⟨_, _, _, _, _, _, greeting, _, told⟩
  · cases reply with
    | opened => exact absurd rfl other
    | refused =>
      cases told
      exact .refused _ _
    | failed reason =>
      cases told
      exact .broken reason
  · cases told
  · cases told
    exact greet_fault greeting

end Net

namespace Plan

variable {p : Plan} {ports ports' : Ports} {variant : Bool} {s : Scenario} {config : Path}
  {c c' : Client} {events : List (Event host)} {outcome : Outcome} {progress : Progress}
  {exit : ExitState} {e : Failure}

/-- A refusal, and the look at the broker after it that finds that it has ended. -/
def SeenEnded (s : Scenario) (exit : ExitState) (events : List (Event host)) : Prop :=
  ∃ before after, events = before ++ refusal s :: ⟨Call.exitState, .ok (some exit)⟩ :: after

theorem SeenEnded.mem_exits (seen : SeenEnded s exit events) : exit ∈ exits events := by
  obtain ⟨before, after, rfl⟩ := seen
  rw [exits_append]
  exact List.mem_append_right _ List.mem_cons_self

theorem SeenEnded.append_left (seen : SeenEnded s exit events) (early : List (Event host)) :
    SeenEnded s exit (early ++ events) := by
  obtain ⟨before, after, rfl⟩ := seen
  exact ⟨early ++ before, after, by simp⟩

theorem Connects.of_exit {attempt left : Nat} {r : Except Failure Client}
    (attempts : Connects p s attempt left events r) (seen : exit ∈ exits events) :
    r = .error (.exitedEarly exit) := by
  induction attempts with
  | met greeting =>
    rw [exits_atLink] at seen
    cases seen
  | unknown | exhausted => cases seen
  | exited found =>
    obtain rfl : exit = found := List.mem_singleton.mp seen
    rfl
  | again _ ih => exact ih seen

/-- Attempts to connect fail as the client does, or the state of the broker was not to be had, or it
had ended. -/
theorem Connects.fails {attempt left : Nat} {r : Except Failure Client}
    (attempts : Connects p s attempt left events r) (candid : ∀ e ∈ events, Candid e)
    (failed : r = .error e) :
    OpenFault e ∨ StateFault e ∨ ∃ exit, e = .exitedEarly exit ∧ SeenEnded s exit events := by
  induction attempts with
  | met greeting =>
    subst failed
    exact .inl (handshake_fault greeting)
  | unknown fault =>
    have state := candid ⟨Call.exitState, .error fault⟩ (by simp) fault rfl
    cases failed
    exact .inr (.inl state)
  | exited exit =>
    cases failed
    exact .inr (.inr ⟨exit, rfl, [], [], rfl⟩)
  | exhausted =>
    cases failed
    exact .inl (.refused _ _)
  | @again attempt left events r later ih =>
    have late : ∀ e ∈ events, Candid e := fun e he => candid e (List.mem_append_right _ he)
    rcases ih late failed with client | state | ⟨exit, rfl, seen⟩
    · exact .inl client
    · exact .inr (.inl state)
    · exact .inr (.inr ⟨exit, rfl, seen.append_left _⟩)

theorem Cycles.exits_eq_nil {n : Nat} {stage stage' : Stage} {r : Except Failure Unit}
    (cycles : Cycles p n c stage events r c' stage') : exits events = [] := by
  induction cycles with
  | finished | undelivered => rfl
  | unanswered wait => exact exits_atLink _
  | @answered n c d c' stage stage' waited events r wait later ih =>
    have quiet : exits (waited.map atLink ++ events) = [] := by
      rw [exits_append, exits_atLink, ih]
      rfl
    exact quiet

/-- A reload that is not answered is the last, and so is one that is not delivered, at the beginning
of the session or after one that was answered. -/
theorem Cycles.fails {n : Nat} {stage stage' : Stage} {r : Except Failure Unit}
    (cycles : Cycles p n c stage events r c' stage') (candid : ∀ e ∈ events, Candid e)
    (failed : r = .error e) :
    AwaitFault notificationLabel e ∧ stage' = .reloadTriggered ∨
      SignalFault e ∧ (stage' = stage ∨ stage' = .notificationVerified) := by
  induction cycles with
  | finished => cases failed
  | undelivered fault =>
    have told := candid ⟨Call.signal .reload, .error fault⟩ (by simp) fault rfl
    cases failed
    exact .inr ⟨told, .inl rfl⟩
  | unanswered wait =>
    cases failed
    exact .inl ⟨expect_fault wait, rfl⟩
  | answered wait later ih =>
    have own := fun e he => candid e (List.mem_cons_of_mem _ (List.mem_append_right _ he))
    rcases ih own failed with unanswered | ⟨undelivered, stage⟩
    · exact .inl unanswered
    · exact .inr ⟨undelivered, .inr (or_self_iff.mp stage)⟩

theorem Converses.exits_eq_nil (session : Converses p c events progress) : exits events = [] := by
  cases session with
  | stopped cycles => exact cycles.exits_eq_nil
  | mute cycles ping | alive cycles ping =>
    rw [exits_append, exits_atLink, cycles.exits_eq_nil]
    rfl

theorem Converses.fails (session : Converses p c events progress)
    (candid : ∀ e ∈ events, Candid e) (failed : progress.result = .error e) :
    Failed e ∨ SignalFault e := by
  cases session with
  | stopped cycles =>
    cases failed
    rcases cycles.fails candid rfl with ⟨unanswered, _⟩ | ⟨undelivered, _⟩
    · exact .inl unanswered.failed
    · exact .inr undelivered
  | mute cycles ping =>
    cases failed
    exact .inl (ping_fault ping).failed
  | alive => cases failed

theorem Drives.of_exit (drive : Drives p s config events progress)
    (seen : exit ∈ exits events) : progress.result = .error (.exitedEarly exit) := by
  cases drive with
  | unstarted e => cases seen
  | unconnected attempts =>
    cases attempts.of_exit seen
    rfl
  | @connected dialled events c progress attempts session =>
    have split : exit ∈ exits (dialled ++ events) := seen
    rw [exits_append, session.exits_eq_nil, List.append_nil] at split
    cases attempts.of_exit split

/-- A drive that had a broker fails in a way that is looked into, or with a failure that is settled;
and it tells of the end of the broker only if it saw it. -/
theorem Drives.fails (drive : Drives p s config events progress)
    (candid : ∀ e ∈ events, Candid e) (started : progress.started = true)
    (failed : progress.result = .error e) :
    (e.mayHideExit = true ∨ e.isSettled = true) ∧
      ∀ exit, e = .exitedEarly exit → SeenEnded s exit events := by
  -- A failure of the client never tells of the end of the broker by itself.
  have client (h : Failed e) : (e.mayHideExit = true ∨ e.isSettled = true) ∧
      ∀ exit, e = .exitedEarly exit → SeenEnded s exit events := by
    refine ⟨h.imp_right Failure.isSettled_of_isMismatch, ?_⟩
    rintro exit rfl
    rcases h with h | h <;> cases h
  cases drive with
  | unstarted => cases started
  | unconnected attempts =>
    cases failed
    have own := fun e he => candid e (List.mem_cons_of_mem _ he)
    rcases attempts.fails own rfl with h | fault | ⟨exit, rfl, seen⟩
    · exact client h.failed
    · cases fault
      exact ⟨.inr rfl, fun _ same => nomatch same⟩
    · refine ⟨.inr rfl, fun _ same => ?_⟩
      cases same
      exact seen.append_left [_]
  | connected attempts session =>
    have own := fun e he => candid e (List.mem_cons_of_mem _ (List.mem_append_right _ he))
    rcases session.fails own failed with h | fault
    · exact client h
    · cases fault with
      | gone | undelivered => exact ⟨.inl rfl, fun _ same => nomatch same⟩
      | unknown => exact ⟨.inr rfl, fun _ same => nomatch same⟩

end Plan
end ReloadProbe
