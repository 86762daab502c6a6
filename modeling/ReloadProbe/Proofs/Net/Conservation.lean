import ReloadProbe.Proofs.Net.Calls

/-!
Sequences of calls on one client. The octets that arrive go to the expectations that are met, in
their order, and those that none has taken are kept. An expectation that is not met takes nothing,
and one that failed for good fails again.
-/
namespace ReloadProbe

/-- The reason and the difference of a failure to get the octets that were awaited. -/
def Failure.unmet? : Failure → Option (Mismatch × Wire.Diff)
  | .handshakeMismatch reason diff | .unexpectedMessage _ reason diff => some (reason, diff)
  | .handshakeTimeout _ diff => some (.timedOut, diff)
  | _ => none

namespace Net

open Interaction

inductive Operation where
  | expect (expected : Bytes) (timeout : Duration) (label : String)
  | ping (timeout : Duration)
  | send (data : Bytes)
  | close

namespace Operation

/-- What the operation expects, if it expects anything. -/
def awaited : Operation → Option Bytes
  | expect expected _ _ => some expected
  | ping _ => some Wire.pingResp
  | send _ | close => none

def taken (op : Operation) : Except Failure Unit → Bytes
  | .ok () => op.awaited.getD []
  | .error _ => []

end Operation

namespace Client

def operate (c : Client) : Operation → Interaction link (Except Failure Unit × Client)
  | .expect expected timeout label => c.expect expected timeout label
  | .ping timeout => c.ping timeout
  | .send data => do return (← c.send data, c)
  | .close => do return (.ok (), ← c.close)

/-- One operation after the other, whatever comes of them. -/
def operateAll : List Operation → Client → Interaction link (List (Except Failure Unit) × Client)
  | [], c => return ([], c)
  | op :: ops, c => do
    let (result, c) ← c.operate op
    let (results, c) ← c.operateAll ops
    return (result :: results, c)

end Client

variable {c c' : Client} {expected : Bytes} {timeout : Duration} {label : String}
  {events : List (Event link)} {r : Except Failure Unit}

theorem expect_conserves (h : Runs (c.expect expected timeout label) events (r, c')) :
    c.buffer ++ received events =
      (Operation.expect expected timeout label).taken r ++ c'.buffer := by
  obtain ⟨instant, deadline, later, v, rfl, _, w, rfl⟩ := runs_expect h
  have kept := w.conserves
  cases v with
  | matched | unmet | broken => exact kept

theorem received_send {data : Bytes} (h : Runs (c.send data) events r) : received events = [] := by
  rcases runs_send h with ⟨_, reply, rfl, _⟩ | ⟨_, rfl, _⟩ <;> rfl

theorem operate_conserves {op : Operation} (h : Runs (c.operate op) events (r, c')) :
    c.buffer ++ received events = op.taken r ++ c'.buffer := by
  cases op with
  | expect expected timeout label => exact expect_conserves h
  | ping timeout =>
    rcases runs_ping h with ⟨e, sent, rfl, rfl⟩ | ⟨before, later, rfl, sent, expecting⟩
    · rw [received_send sent, List.append_nil]
      rfl
    · rw [received_append, received_send sent]
      exact expect_conserves expecting
  | send data =>
    obtain ⟨before, after, reply, rfl, sent, ended⟩ := runs_seq.mp h
    obtain ⟨rfl, same⟩ := runs_pure.mp ended
    cases same
    rw [received_append, received_send sent]
    cases r <;> exact List.append_nil _
  | close =>
    obtain ⟨before, after, d, rfl, closed, ended⟩ := runs_seq.mp h
    obtain ⟨rfl, same⟩ := runs_pure.mp ended
    cases same
    rcases runs_close closed with ⟨_, rfl, rfl⟩ | ⟨_, rfl, rfl⟩ <;>
      exact List.append_nil _

theorem operateAll_conserves {ops : List Operation} {results : List (Except Failure Unit)}
    (h : Runs (c.operateAll ops) events (results, c')) :
    c.buffer ++ received events =
      (List.zipWith Operation.taken ops results).flatten ++ c'.buffer := by
  induction ops generalizing c events results with
  | nil =>
    obtain ⟨rfl, same⟩ := runs_pure.mp h
    cases same
    simp
  | cons op ops ih =>
    obtain ⟨first, rest, ⟨r, d⟩, rfl, one, more⟩ := runs_seq.mp h
    obtain ⟨second, last, ⟨rs, d'⟩, rfl, others, ended⟩ := runs_seq.mp more
    obtain ⟨rfl, same⟩ := runs_pure.mp ended
    cases same
    have head := operate_conserves one
    have tail := ih others
    calc c.buffer ++ received (first ++ (second ++ []))
        = (c.buffer ++ received first) ++ received second := by simp
      _ = op.taken r ++ (d.buffer ++ received second) := by rw [head, List.append_assoc]
      _ = (List.zipWith Operation.taken (op :: ops) (r :: rs)).flatten ++ c'.buffer := by
        simp [tail]

/-- A wait that is not met leaves a wrong octet in the buffer, or too few octets. -/
theorem Waits.resting {deadline : Nat} {v : Verdict} {reason : Mismatch}
    (w : Waits expected deadline c events v c')
    (failed : v = .unmet reason) :
    (reason = .differs ∧ Diverges c'.buffer expected) ∨
    (reason ≠ .differs ∧ Short c'.buffer expected ∧
      (reason = .closed → c'.connected = false)) := by
  induction w with
  | matched => cases failed
  | differs apart => cases failed; exact .inl ⟨rfl, apart⟩
  | closed short gone => cases failed; exact .inr ⟨nofun, short, fun _ => gone⟩
  | stopped ending short =>
    cases ending with
    | ended | reset => cases failed; exact .inr ⟨nofun, short, fun _ => rfl⟩
    | timedOut => cases failed; exact .inr ⟨nofun, short, nofun⟩
    | failed => cases failed
  | more _ _ _ ih => exact ih failed

theorem Waits.settled {deadline later : Nat} {v : Verdict} {d : Client} {again : List (Event link)}
    {reason : Mismatch} (first : Waits expected deadline c events (.unmet reason) c')
    (lasting : reason ≠ .timedOut) (second : Waits expected later c' again v d) : v = .unmet reason ∧ again = [] ∧ d = c' := by
  rcases first.resting rfl with ⟨rfl, apart⟩ | ⟨other, short, closed⟩
  · cases second with
    | matched whole => exact absurd apart (prefix_not_diverges whole).2
    | differs => exact ⟨rfl, rfl, rfl⟩
    | closed short => exact absurd apart short.not_diverges
    | stopped _ short => exact absurd apart short.not_diverges
    | more short => exact absurd apart short.not_diverges
  · obtain rfl : reason = .closed := by
      cases reason with
      | differs => exact absurd rfl other
      | timedOut => exact absurd rfl lasting
      | closed => rfl
    have gone := closed rfl
    cases second with
    | matched whole => exact absurd whole short.not_whole
    | differs apart => exact absurd apart short.not_diverges
    | closed => exact ⟨rfl, rfl, rfl⟩
    | stopped _ _ linked => simp [gone] at linked
    | more _ linked => simp [gone] at linked

theorem expect_unmet {e : Failure} {reason : Mismatch} {diff : Wire.Diff}
    (h : Runs (c.expect expected timeout label) events (.error e, c'))
    (unmet : e.unmet? = some (reason, diff)) :
    ∃ deadline later, Waits expected deadline c later (.unmet reason) c' ∧ diff = c'.diff expected := by
  obtain ⟨instant, deadline, later, v, rfl, _, w, told⟩ := runs_expect h
  cases v with
  | matched => cases told
  | unmet => cases told; cases unmet; exact ⟨deadline, later, w, rfl⟩
  | broken => cases told; cases unmet

theorem waits_of_unmet {op : Operation} {e : Failure} {reason : Mismatch} {diff : Wire.Diff}
    (awaited : op.awaited = some expected) (h : Runs (c.operate op) events (.error e, c'))
    (unmet : e.unmet? = some (reason, diff)) :
    ∃ deadline later, Waits expected deadline c later (.unmet reason) c' ∧ diff = c'.diff expected := by
  cases op with
  | expect => cases awaited; exact expect_unmet h unmet
  | ping =>
    cases awaited
    rcases runs_ping h with ⟨_, sent, told, _⟩ | ⟨_, later, _, _, expecting⟩
    · obtain ⟨_, rfl⟩ := send_error sent
      cases told
      cases unmet
    · exact expect_unmet expecting unmet
  | send => cases awaited
  | close => cases awaited

theorem waits_of_unexpected {op : Operation} {reason : Mismatch} {diff : Wire.Diff}
    (awaited : op.awaited = some expected)
    (h : Runs (c.operate op) events (.error (.unexpectedMessage label reason diff), c')) :
    ∃ deadline later, Waits expected deadline c later (.unmet reason) c' ∧ diff = c'.diff expected :=
  waits_of_unmet awaited h rfl

theorem expect_matched {instant deadline : Nat} (due : deadline? instant timeout = some deadline)
    (whole : expected <+: c.buffer) :
    Runs (c.expect expected timeout label) [⟨Call.now, instant⟩] (.ok (), { c with
      buffer := c.buffer.drop expected.length, storage := c.storage.pass expected.length }) := by
  have taken : Runs (c.awaitFor expected timeout) [⟨Call.now, instant⟩] (.matched, { c with
      buffer := c.buffer.drop expected.length, storage := c.storage.pass expected.length }) := by
    refine runs_await_by due ?_
    rw [await_matched _ whole]
    exact .done _
  exact runs_bind taken (.done _)

theorem expect_differs {instant deadline : Nat} (due : deadline? instant timeout = some deadline)
    (apart : Diverges c.buffer expected) :
    Runs (c.expect expected timeout label) [⟨Call.now, instant⟩]
      (.error (.unexpectedMessage label .differs (c.diff expected)), c) := by
  have found : Runs (c.awaitFor expected timeout) [⟨Call.now, instant⟩] (.unmet .differs, c) := by
    refine runs_await_by due ?_
    rw [await_differs _ apart]
    exact .done _
  exact runs_bind found (.done _)

/-- No octet that arrives is lost, doubled or moved. Over any operations, what the met expectations
took, what the buffer holds and what is still unread make up the buffer at first and the stream
after it. An operation that fails takes nothing. An expectation that found a wrong octet or a
closed connection does so again, and changes nothing. -/
theorem operations_keep_octets (c : Client) :
    (∀ ops events results c', Runs (c.operateAll ops) events (results, c') →
      ∀ stream unread, received events ++ unread = stream →
        (List.zipWith Operation.taken ops results).flatten ++ c'.buffer ++ unread =
          c.buffer ++ stream) ∧
    (∀ op events e c', Runs (c.operate op) events (.error e, c') →
      c'.buffer = c.buffer ++ received events) ∧
    (∀ op expected events label reason diff c', op.awaited = some expected →
      Runs (c.operate op) events (.error (.unexpectedMessage label reason diff), c') →
      reason ≠ .timedOut →
      ∀ timeout name again r d, Runs (c'.expect expected timeout name) again (r, d) →
        r = .error (.unexpectedMessage name reason diff) ∧ d.buffer = c'.buffer ∧
          received again = []) := by
  refine ⟨?_, ?_, ?_⟩
  · rintro ops events results c' run stream unread rfl
    rw [← List.append_assoc, operateAll_conserves run]
  · intro op events e c' run
    exact (operate_conserves run).symm
  · intro op expected events label reason diff c' awaited run lasting timeout name again r d
      repeated
    obtain ⟨_, _, first, rfl⟩ := waits_of_unexpected awaited run
    obtain ⟨instant, deadline, later, v, rfl, _, second, rfl⟩ := runs_expect repeated
    obtain ⟨rfl, rfl, rfl⟩ := first.settled lasting second
    exact ⟨rfl, rfl, rfl⟩

theorem operations_keep_octets_after_mismatch :
    ∃ first second again c d e, ∃ diff : Wire.Diff,
      Runs (Client.operate { buffer := [7, 1], version := .v5 } (.expect [7] .zero "one")) first
        (.ok (), c) ∧
      Runs (c.operate (.expect [8] .zero "two")) second
        (.error (.unexpectedMessage "two" .differs diff), d) ∧
      Runs (d.expect [8] .zero "three") again
        (.error (.unexpectedMessage "three" .differs diff), e) ∧
      c.buffer ++ [5] = [1, 5] ∧ d.buffer = [1] ∧ e.buffer = [1] := by
  let start : Client := { buffer := [7, 1], version := .v5 }
  let c : Client := { start with buffer := [1], storage := start.storage.pass 1 }
  let diff : Wire.Diff := c.diff [8]
  have due : deadline? 0 .zero = some 0 := by decide
  have one : Runs (start.expect [7] .zero "one") [⟨Call.now, (0 : Nat)⟩] (.ok (), c) :=
    expect_matched due (by decide)
  have apart : Diverges c.buffer [8] := by decide
  have two : Runs (c.expect [8] .zero "two") [⟨Call.now, (0 : Nat)⟩]
      (.error (.unexpectedMessage "two" .differs diff), c) := expect_differs due apart
  have three : Runs (c.expect [8] .zero "three") [⟨Call.now, (0 : Nat)⟩]
      (.error (.unexpectedMessage "three" .differs diff), c) := expect_differs due apart
  have all := (operations_keep_octets start).1 [.expect [7] .zero "one"] _ _ _
    (runs_bind one (runs_bind (.done _) (.done _))) [5] [5] rfl
  have second := (operations_keep_octets c).2.1 (.expect [8] .zero "two") _ _ _ two
  have repeated := (operations_keep_octets c).2.2 (.expect [8] .zero "two") [8] _ _ _ _ _ rfl two
    (by decide) _ _ _ _ _ three
  exact ⟨_, _, _, c, c, c, diff, one, two, three, (List.cons.inj all).2, second, repeated.2.1⟩

end Net
end ReloadProbe
