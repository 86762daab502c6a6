import ReloadProbe.Proofs.Net.Success

/-!
Networks on which nothing goes wrong: calls succeed, and reads bring a stream, in pieces of any
sizes, and its end after all of it. On such a network an expectation is met that is the next part of
the stream.
-/
namespace ReloadProbe.Net

open Interaction

/-- Reads of a stream, and what of it they leave unread. -/
inductive Delivers : Bytes → List Arrival → Bytes → Prop where
  | nothing (stream : Bytes) : Delivers stream [] stream
  | piece {chunk stream unread : Bytes} {arrived : chunk ≠ []} {more : List Arrival}
      (rest : Delivers stream more unread) :
      Delivers (chunk ++ stream) (.bytes chunk arrived :: more) unread
  | ended {unread : Bytes} {more : List Arrival} (rest : Delivers [] more unread) :
      Delivers [] (.ended :: more) unread

theorem Delivers.octets {stream unread : Bytes} {reads : List Arrival}
    (h : Delivers stream reads unread) : stream = reads.flatMap Arrival.octets ++ unread := by
  induction h with
  | nothing => rfl
  | @piece chunk stream unread arrived more rest ih =>
    calc chunk ++ stream = chunk ++ (more.flatMap Arrival.octets ++ unread) := by rw [← ih]
      _ = (chunk ++ more.flatMap Arrival.octets) ++ unread := (List.append_assoc ..).symm
  | ended _ ih => exact ih

/-- What is due after octets that were taken is due of the new buffer and the unread rest. -/
theorem Delivers.carry {stream unread buffer buffer' taken more : Bytes}
    {events : List (Event link)} (reads : Delivers stream (arrivals events) unread)
    (kept : buffer ++ received events = taken ++ buffer')
    (due : taken ++ more <+: buffer ++ stream) : more <+: buffer' ++ unread := by
  have whole : buffer ++ stream = taken ++ (buffer' ++ unread) :=
    calc buffer ++ stream = (buffer ++ received events) ++ unread := by
          rw [reads.octets, received, List.append_assoc]
      _ = taken ++ (buffer' ++ unread) := by rw [kept, List.append_assoc]
  rwa [whole, List.prefix_append_right_inj] at due

theorem Delivers.split {stream unread : Bytes} {a b : List Arrival}
    (h : Delivers stream (a ++ b) unread) :
    ∃ between, Delivers stream a between ∧ Delivers between b unread := by
  induction a generalizing stream with
  | nil => exact ⟨stream, .nothing stream, h⟩
  | cons first a ih =>
    cases h with
    | piece rest =>
      obtain ⟨between, early, late⟩ := ih rest
      exact ⟨between, .piece early, late⟩
    | ended rest =>
      obtain ⟨between, early, late⟩ := ih rest
      exact ⟨between, .ended early, late⟩

/-- A call that did what it is for. A connection may be refused, which is for the caller to see to;
reads are a matter of what they deliver. -/
def Succeeds : Event link → Prop
  | ⟨.dial _, reply⟩ => reply = Dialled.opened ∨ reply = Dialled.refused
  | ⟨.send _, reply⟩ => reply = (.ok () : Except String Unit)
  | _ => True

variable {c c' : Client} {expected hello welcome stream unread : Bytes} {timeout : Duration}
  {events : List (Event link)}

theorem Waits.delivered {deadline : Nat} {v : Verdict} (w : Waits expected deadline c events v c')
    (linked : c.connected = true) (reads : Delivers stream (arrivals events) unread)
    (due : expected <+: c.buffer ++ stream) : v = .matched := by
  induction w generalizing stream with
  | matched => rfl
  | differs apart => exact absurd (apart.append stream) (prefix_not_diverges due).2
  | closed short gone => cases linked.symm.trans gone
  | stopped ending short =>
    cases ending with
    | ended =>
      -- The end was read, so all of the stream is in the buffer, which is short.
      cases reads
      rw [List.append_nil] at due
      exact absurd due short.not_whole
    | reset | timedOut | failed => cases reads
  | more short linked later ih =>
    cases reads with
    | piece rest => exact ih linked rest (List.append_assoc .. ▸ due)

theorem expect_delivered {label : String} {r : Except Failure Unit}
    (h : Runs (c.expect expected timeout label) events (r, c')) (linked : c.connected = true)
    (reads : Delivers stream (arrivals events) unread) (due : expected <+: c.buffer ++ stream) :
    r = .ok () := by
  obtain ⟨instant, deadline, later, v, rfl, _, w, rfl⟩ := runs_expect h
  rw [w.delivered linked reads due]
  rfl

theorem send_succeeds {data : Bytes} {r : Except Failure Unit} (h : Runs (c.send data) events r)
    (linked : c.connected = true) (succeed : ∀ e ∈ events, Succeeds e) : r = .ok () := by
  rcases runs_send h with ⟨_, reply, rfl, rfl⟩ | ⟨gone, _⟩
  · obtain rfl : reply = .ok () := succeed _ (List.mem_singleton_self _)
    rfl
  · cases linked.symm.trans gone

theorem ping_delivered {r : Except Failure Unit} (h : Runs (c.ping timeout) events (r, c'))
    (linked : c.connected = true) (succeed : ∀ e ∈ events, Succeeds e)
    (reads : Delivers stream (arrivals events) unread)
    (due : Wire.pingResp <+: c.buffer ++ stream) : r = .ok () := by
  rcases runs_ping h with ⟨e, sent, _⟩ | ⟨sent, later, rfl, first, rest⟩
  · cases send_succeeds sent linked succeed
  · obtain ⟨_, rfl⟩ := send_ok first
    exact expect_delivered rest linked reads due

theorem greet_delivered {r : Except Failure Unit}
    (h : Runs (c.greet hello welcome timeout) events (r, c')) (linked : c.connected = true)
    (succeed : ∀ e ∈ events, Succeeds e) (reads : Delivers stream (arrivals events) unread)
    (due : welcome <+: c.buffer ++ stream) : r = .ok () := by
  rcases runs_greet h with ⟨e, sent, _⟩ |
    ⟨sent, instant, deadline, later, v, rfl, first, _, w, met | failed⟩
  · cases send_succeeds sent linked succeed
  · exact met.2
  · obtain ⟨_, rfl⟩ := send_ok first
    obtain ⟨e, unmet, _⟩ := failed
    rw [w.delivered linked reads due] at unmet
    cases unmet

end ReloadProbe.Net
