import ReloadProbe.Proofs.Net.Calls

/-!
The calls of a client that crash. Only a wait can, and only at its look at the clock; nothing was
compared by then, and of the connection nothing has changed.
-/
namespace ReloadProbe.Net

open Interaction

variable {c : Client} {timeout : Duration} {events : List (Event link)} {reason : String}

theorem send_safe (c : Client) (data : Bytes) : (c.send data).Safe := by
  unfold Client.send
  split
  · exact .ask fun _ => .pure _
  · exact .pure _

theorem close_safe (c : Client) : c.close.Safe := by
  unfold Client.close
  split
  · exact .ask fun _ => .pure _
  · exact .pure _

theorem drop_safe (c : Client) : c.drop.Safe :=
  (close_safe c).seq fun _ => .pure ()

theorem runs_drop (linked : c.connected = true) (h : Runs c.drop events ()) :
    events = [⟨Call.hangUp, ()⟩] := by
  obtain ⟨before, after, d, rfl, closing, rest⟩ := runs_seq.mp h
  obtain ⟨rfl, _⟩ := runs_pure.mp rest
  rcases runs_close closing with ⟨_, rfl, _⟩ | ⟨gone, _⟩
  · rfl
  · cases linked.symm.trans gone

theorem dial_safe (address : Address) (version : Wire.Version) :
    (Client.dial address version).Safe := by
  refine .ask fun (reply : Dialled) => ?_
  cases reply with
  | opened | refused | failed => exact .pure _

theorem crashes_expect {expected : Bytes} {label : String}
    (h : Crashes (c.expect expected timeout label) events reason) :
    ∃ instant, deadline? instant timeout = none ∧ events = [⟨Call.now, instant⟩] ∧
      reason = overflow := by
  rcases crashes_seq.mp h with waiting | ⟨_, _, ⟨v, d⟩, _, _, rest⟩
  · exact crashes_awaitFor.mp waiting
  · cases v <;> cases rest

theorem crashes_ping (h : Crashes (c.ping timeout) events reason) :
    ∃ sent instant, Runs (c.send Wire.pingReq) sent (.ok ()) ∧
      deadline? instant timeout = none ∧ events = sent ++ [⟨Call.now, instant⟩] ∧
      reason = overflow := by
  rcases crashes_seq.mp h with sending | ⟨sent, later, reply, rfl, sending, rest⟩
  · exact absurd sending (send_safe _ _ _ _)
  · cases reply with
    | error => cases rest
    | ok =>
      obtain ⟨instant, due, rfl, told⟩ := crashes_expect rest
      exact ⟨sent, instant, sending, due, rfl, told⟩

theorem crashes_greet {hello welcome : Bytes}
    (h : Crashes (c.greet hello welcome timeout) events reason) :
    ∃ sent instant, Runs (c.send hello) sent (.ok ()) ∧ deadline? instant timeout = none ∧
      events = sent ++ [⟨Call.now, instant⟩] ∧ reason = overflow := by
  rcases crashes_seq.mp h with sending | ⟨sent, later, reply, rfl, sending, rest⟩
  · exact absurd sending (send_safe _ _ _ _)
  · cases reply with
    | error => cases rest
    | ok =>
      rcases crashes_seq.mp rest with waiting | ⟨_, _, ⟨v, d⟩, _, _, told⟩
      · obtain ⟨instant, due, rfl, told⟩ := crashes_awaitFor.mp waiting
        exact ⟨sent, instant, sending, due, rfl, told⟩
      · dsimp only at told
        split at told <;> cases told

/-- A handshake crashes after the greeting was sent, and drops the new connection. -/
theorem crashes_handshake {address : Address} {version : Wire.Version} {hello welcome : Bytes}
    (h : Crashes (Client.handshake address version hello welcome timeout) events reason) :
    ∃ sent instant, Runs (Client.send { version } hello) sent (.ok ()) ∧
      deadline? instant timeout = none ∧
      events = ⟨Call.dial address, Dialled.opened⟩ ::
        (sent ++ [⟨Call.now, instant⟩, ⟨Call.hangUp, ()⟩]) ∧
      reason = overflow := by
  rcases crashes_seq.mp h with dialling | ⟨dialled, later, r, rfl, dialling, rest⟩
  · exact absurd dialling (dial_safe _ _ _ _)
  obtain ⟨reply, rfl, rfl⟩ := runs_dial dialling
  cases reply with
  | refused | failed => cases rest
  | opened =>
    rcases crashes_seq.mp rest with greeting | ⟨_, _, ⟨met, d⟩, _, _, closing⟩
    · obtain ⟨greeted, dropped, rfl, greet, drop⟩ :=
        (crashes_unwinding (drop_safe _)).mp greeting
      obtain ⟨sent, instant, sending, due, rfl, told⟩ := crashes_greet greet
      obtain rfl := runs_drop rfl drop
      exact ⟨sent, instant, sending, due, by simp, told⟩
    · cases met with
      | ok => cases closing
      | error =>
        rcases crashes_seq.mp closing with shut | ⟨_, _, _, _, _, told⟩
        · exact absurd shut (close_safe _ _ _)
        · cases told

end ReloadProbe.Net
