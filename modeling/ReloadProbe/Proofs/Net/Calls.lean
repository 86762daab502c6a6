import ReloadProbe.Proofs.Net.Wait

/-!
The calls of a client, each as one case analysis: which events it makes and what it returns. A call
that waits is told apart by its wait (`Waits`), so nothing later opens the program of a call.
-/
namespace ReloadProbe.Net

open Interaction

/-- What is said of an expectation that came to a verdict. -/
def Client.report (c : Client) (expected : Bytes) (label : String) : Verdict → Except Failure Unit
  | .matched => .ok ()
  | .unmet reason => .error (.unexpectedMessage label reason (c.diff expected))
  | .broken reason => .error (.connection reason)

variable {c c' : Client} {expected : Bytes} {timeout : Duration} {events : List (Event link)}

theorem runs_expect {label : String} {r : Except Failure Unit}
    (h : Runs (c.expect expected timeout label) events (r, c')) :
    ∃ instant deadline later v, events = ⟨Call.now, instant⟩ :: later ∧
      deadline? instant timeout = some deadline ∧ Waits expected deadline c later v c' ∧
      r = c'.report expected label v := by
  obtain ⟨before, after, ⟨v, d⟩, rfl, waited, ended⟩ := runs_seq.mp h
  obtain ⟨instant, deadline, later, rfl, due, w⟩ := runs_awaitFor waited
  cases v with
  | matched | unmet | broken =>
    obtain ⟨rfl, same⟩ := runs_pure.mp ended
    cases same
    exact ⟨instant, deadline, later, _, by simp, due, w, rfl⟩

theorem runs_send {data : Bytes} {r : Except Failure Unit} (h : Runs (c.send data) events r) :
    (c.connected = true ∧ ∃ reply : Except String Unit,
      events = [⟨Call.send data, reply⟩] ∧ r = reply.mapError .connection) ∨
    (c.connected = false ∧ events = [] ∧
      r = .error (.connection "connection already closed")) := by
  unfold Client.send at h
  split at h
  · rename_i linked
    obtain ⟨before, after, reply, rfl, sent, ended⟩ := runs_seq.mp h
    obtain rfl := runs_call.mp sent
    obtain ⟨rfl, rfl⟩ := runs_pure.mp ended
    exact .inl ⟨linked, reply, rfl, rfl⟩
  · rename_i gone
    obtain ⟨rfl, rfl⟩ := runs_pure.mp h
    exact .inr ⟨by simpa using gone, rfl, rfl⟩

theorem send_error {data : Bytes} {e : Failure} (h : Runs (c.send data) events (.error e)) :
    ∃ reason, e = .connection reason := by
  rcases runs_send h with ⟨_, reply, _, told⟩ | ⟨_, _, told⟩
  · cases reply with
    | ok => cases told
    | error reason =>
      cases told
      exact ⟨reason, rfl⟩
  · cases told
    exact ⟨_, rfl⟩

theorem runs_ping {r : Except Failure Unit} (h : Runs (c.ping timeout) events (r, c')) :
    (∃ e, Runs (c.send Wire.pingReq) events (.error e) ∧ r = .error e ∧ c' = c) ∨
    ∃ sent later, events = sent ++ later ∧ Runs (c.send Wire.pingReq) sent (.ok ()) ∧
      Runs (c.expect Wire.pingResp timeout Client.pingLabel) later (r, c') := by
  obtain ⟨sent, later, reply, rfl, first, rest⟩ := runs_seq.mp h
  cases reply with
  | ok => exact .inr ⟨sent, later, rfl, first, rest⟩
  | error e =>
    obtain ⟨rfl, same⟩ := runs_pure.mp rest
    cases same
    exact .inl ⟨e, by simpa using first, rfl, rfl⟩

theorem runs_close (h : Runs c.close events c') :
    (c.connected = true ∧ events = [⟨Call.hangUp, ()⟩] ∧ c' = { c with connected := false }) ∨
    (c.connected = false ∧ events = [] ∧ c' = c) := by
  unfold Client.close at h
  split at h
  · rename_i linked
    obtain ⟨before, after, reply, rfl, hung, ended⟩ := runs_seq.mp h
    obtain rfl := runs_call.mp hung
    obtain ⟨rfl, rfl⟩ := runs_pure.mp ended
    exact .inl ⟨linked, rfl, rfl⟩
  · rename_i gone
    obtain ⟨rfl, rfl⟩ := runs_pure.mp h
    exact .inr ⟨by simpa using gone, rfl, rfl⟩

def Dialled.report (address : Address) (version : Wire.Version) : Dialled → Except Failure Client
  | .opened => .ok { version }
  | .refused => .error (.refused address 1)
  | .failed reason => .error (.connection reason)

theorem runs_dial {address : Address} {version : Wire.Version} {r : Except Failure Client}
    (h : Runs (Client.dial address version) events r) :
    ∃ reply : Dialled,
      events = [⟨Call.dial address, reply⟩] ∧ r = reply.report address version := by
  obtain ⟨before, after, reply, rfl, dialled, ended⟩ := runs_seq.mp h
  obtain rfl := runs_call.mp dialled
  cases reply with
  | opened | refused | failed =>
    obtain ⟨rfl, rfl⟩ := runs_pure.mp ended
    exact ⟨_, rfl, rfl⟩

theorem runs_greet {hello welcome : Bytes} {r : Except Failure Unit}
    (h : Runs (c.greet hello welcome timeout) events (r, c')) :
    (∃ e, Runs (c.send hello) events (.error e) ∧ r = .error e ∧ c' = c) ∨
    ∃ sent instant deadline later v, events = sent ++ ⟨Call.now, instant⟩ :: later ∧
      Runs (c.send hello) sent (.ok ()) ∧ deadline? instant timeout = some deadline ∧
      Waits welcome deadline c later v c' ∧
      ((c'.welcomeFailure welcome timeout v = none ∧ r = .ok ()) ∨
        ∃ e, c'.welcomeFailure welcome timeout v = some e ∧ r = .error e) := by
  obtain ⟨sent, later, reply, rfl, first, rest⟩ := runs_seq.mp h
  cases reply with
  | error e =>
    obtain ⟨rfl, same⟩ := runs_pure.mp rest
    cases same
    exact .inl ⟨e, by simpa using first, rfl, rfl⟩
  | ok =>
    obtain ⟨before, after, ⟨v, d⟩, rfl, waited, ended⟩ := runs_seq.mp rest
    obtain ⟨instant, deadline, later, rfl, due, w⟩ := runs_awaitFor waited
    refine .inr ⟨sent, instant, deadline, later, v, ?_⟩
    dsimp only at ended
    split at ended
    · rename_i fine
      obtain ⟨rfl, same⟩ := runs_pure.mp ended
      cases same
      exact ⟨by simp, first, due, w, .inl ⟨fine, rfl⟩⟩
    · rename_i e failed
      obtain ⟨rfl, same⟩ := runs_pure.mp ended
      cases same
      exact ⟨by simp, first, due, w, .inr ⟨e, failed, rfl⟩⟩

/-- A connection is opened or not, and one on which the greeting fails is closed. -/
theorem runs_handshake {address : Address} {version : Wire.Version} {hello welcome : Bytes}
    {r : Except Failure Client}
    (h : Runs (Client.handshake address version hello welcome timeout) events r) :
    (∃ reply : Dialled, reply ≠ .opened ∧ events = [⟨Call.dial address, reply⟩] ∧
      r = reply.report address version) ∨
    (∃ greeted c, events = ⟨Call.dial address, Dialled.opened⟩ :: greeted ∧
      Runs (Client.greet { version } hello welcome timeout) greeted (.ok (), c) ∧ r = .ok c) ∨
    ∃ greeted closing e c d,
      events = ⟨Call.dial address, Dialled.opened⟩ :: (greeted ++ closing) ∧
      Runs (Client.greet { version } hello welcome timeout) greeted (.error e, c) ∧
      Runs c.close closing d ∧ r = .error e := by
  obtain ⟨before, after, reply, rfl, dialled, rest⟩ := runs_seq.mp h
  obtain ⟨reply, rfl, rfl⟩ := runs_dial dialled
  cases reply with
  | refused | failed =>
    obtain ⟨rfl, rfl⟩ := runs_pure.mp rest
    exact .inl ⟨_, by simp, rfl, rfl⟩
  | opened =>
    obtain ⟨greeted, later, ⟨met, c⟩, rfl, greeting, rest⟩ := runs_seq.mp rest
    rw [runs_unwinding] at greeting
    cases met with
    | ok =>
      obtain ⟨rfl, rfl⟩ := runs_pure.mp rest
      exact .inr (.inl ⟨greeted, c, by simp, greeting, rfl⟩)
    | error e =>
      obtain ⟨closing, last, d, rfl, closed, ended⟩ := runs_seq.mp rest
      obtain ⟨rfl, rfl⟩ := runs_pure.mp ended
      exact .inr (.inr ⟨greeted, closing, e, c, d, by simp, greeting, closed, rfl⟩)

end ReloadProbe.Net
