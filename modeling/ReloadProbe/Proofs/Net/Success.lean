import ReloadProbe.Proofs.Net.Calls

/-!
Calls that succeed: what the peer noticed of them, and which octets they took. The buffer before and
the octets that came are what was taken and the buffer after.
-/
namespace ReloadProbe.Net

open Interaction

variable {c c' : Client} {expected hello welcome : Bytes} {timeout : Duration}
  {events : List (Event link)}

/-- The peer notices nothing of an expectation, whatever comes of it. -/
theorem expect_unnoticed {label : String} {r : Except Failure Unit}
    (h : Runs (c.expect expected timeout label) events (r, c')) :
    ∀ e ∈ events, waits e = true := by
  obtain ⟨instant, deadline, later, v, rfl, _, w, _⟩ := runs_expect h
  exact List.forall_mem_cons.mpr ⟨rfl, doings_eq_nil.mp w.doings_nil⟩

theorem Waits.met {deadline : Nat} {v : Verdict} (w : Waits expected deadline c events v c')
    (matched : v = .matched) :
    c.buffer ++ received events = expected ++ c'.buffer ∧ c'.connected = c.connected := by
  subst matched
  refine ⟨w.conserves, ?_⟩
  rcases w.decided with ⟨_, _, same⟩ | ⟨told, _⟩ | ⟨told, _⟩ | ⟨ending, _, told, _⟩
  · exact same
  · cases told
  · cases told
  · exact absurd told.symm ending.verdict_ne_matched

theorem expect_met {label : String}
    (h : Runs (c.expect expected timeout label) events (.ok (), c')) :
    c.buffer ++ received events = expected ++ c'.buffer ∧ c'.connected = c.connected := by
  obtain ⟨instant, deadline, later, v, rfl, _, w, told⟩ := runs_expect h
  cases v with
  | matched => exact w.met rfl
  | unmet | broken => cases told

theorem send_ok {data : Bytes} (h : Runs (c.send data) events (.ok ())) :
    c.connected = true ∧ events = [⟨Call.send data, (.ok () : Except String Unit)⟩] := by
  rcases runs_send h with ⟨linked, reply, rfl, told⟩ | ⟨_, _, told⟩
  · cases reply with
    | ok => exact ⟨linked, rfl⟩
    | error => cases told
  · cases told

theorem ping_met (h : Runs (c.ping timeout) events (.ok (), c')) :
    c.connected = true ∧ c'.connected = true ∧
      doings events = [⟨Call.send Wire.pingReq, (.ok () : Except String Unit)⟩] ∧
      c.buffer ++ received events = Wire.pingResp ++ c'.buffer := by
  rcases runs_ping h with ⟨e, _, told, _⟩ | ⟨sent, later, rfl, first, rest⟩
  · cases told
  · obtain ⟨linked, rfl⟩ := send_ok first
    obtain ⟨kept, same⟩ := expect_met rest
    refine ⟨linked, same.trans linked, ?_, ?_⟩
    · rw [doings_append, doings_eq_nil.mpr (expect_unnoticed rest)]
      rfl
    · rw [received_append]
      exact kept

theorem welcomeFailure_none {v : Verdict} (h : c.welcomeFailure welcome timeout v = none) :
    v = .matched := by
  cases v with
  | matched => rfl
  | unmet reason => cases reason <;> cases h
  | broken => cases h

theorem greet_met (h : Runs (c.greet hello welcome timeout) events (.ok (), c')) :
    c'.connected = true ∧
      doings events = [⟨Call.send hello, (.ok () : Except String Unit)⟩] ∧
      c.buffer ++ received events = welcome ++ c'.buffer := by
  rcases runs_greet h with ⟨e, _, told, _⟩ |
    ⟨sent, instant, deadline, later, v, rfl, first, _, w, met | failed⟩
  · cases told
  · obtain ⟨linked, rfl⟩ := send_ok first
    obtain ⟨kept, same⟩ := w.met (welcomeFailure_none met.1)
    refine ⟨same.trans linked, ?_, ?_⟩
    · rw [doings_append]
      exact congrArg (_ :: ·) w.doings_nil
    · rw [received_append]
      exact kept
  · obtain ⟨e, _, told⟩ := failed
    cases told

end ReloadProbe.Net
