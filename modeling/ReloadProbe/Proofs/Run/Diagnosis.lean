import ReloadProbe.Proofs.Net.Conservation
import ReloadProbe.Proofs.Run.Packets

/-!
What the difference in a failure tells. Of the octets that came only the first frame is shown if it
is complete; where a whole frame was expected, the first wrong octet always lies within what is
shown, as a shorter frame before it would also be the frame that was expected.
-/
namespace ReloadProbe

open Interaction Net Wire

/-- The least offset at which both strings have an octet and the octets differ. -/
structure PartsAt (a b : Bytes) (k : Nat) : Prop where
  left : k < a.length
  right : k < b.length
  apart : a[k] ≠ b[k]
  least : ∀ j < k, a[j]? = b[j]?

variable {a b expected : Bytes} {k : Nat}

theorem PartsAt.append (h : PartsAt a b k) (t : Bytes) : PartsAt a (b ++ t) k := by
  refine ⟨h.left, by rw [List.length_append]; exact Nat.lt_add_right _ h.right, ?_, ?_⟩
  · rw [List.getElem_append_left h.right]
    exact h.apart
  · intro j below
    rw [List.getElem?_append_left (Nat.lt_trans below h.right)]
    exact h.least j below

/-- Up to where they part, the strings are the same. -/
theorem PartsAt.take_eq (h : PartsAt a b k) {n : Nat} (within : n ≤ k) : a.take n = b.take n := by
  refine List.ext_getElem? fun j => ?_
  rw [List.getElem?_take, List.getElem?_take]
  split
  · exact h.least j (by omega)
  · rfl

theorem PartsAt.take (h : PartsAt a b k) {n : Nat} (beyond : k < n) : PartsAt a (b.take n) k := by
  have here : k < (b.take n).length := by
    rw [List.length_take]
    exact Nat.lt_min.mpr ⟨beyond, h.right⟩
  refine ⟨h.left, here, ?_, ?_⟩
  · rw [List.getElem_take]
    exact h.apart
  · intro j below
    rw [List.getElem?_take_of_lt (by omega)]
    exact h.least j below

namespace Wire.Diff

variable {d : Diff}

theorem firstDifference_eq_some : d.firstDifference = some k ↔ PartsAt d.expected d.received k := by
  simp only [firstDifference, List.findIdx?_eq_some_iff_getElem, List.length_zip, List.getElem_zip,
    bne_iff_ne, ne_eq, not_not, Nat.lt_min]
  constructor
  · rintro ⟨⟨left, right⟩, apart, least⟩
    refine ⟨left, right, apart, fun j below => ?_⟩
    rw [List.getElem?_eq_getElem (Nat.lt_trans below left),
      List.getElem?_eq_getElem (Nat.lt_trans below right), least j below]
  · rintro ⟨left, right, apart, least⟩
    refine ⟨⟨left, right⟩, apart, fun j below => ?_⟩
    have same := least j below
    rw [List.getElem?_eq_getElem (Nat.lt_trans below left),
      List.getElem?_eq_getElem (Nat.lt_trans below right)] at same
    exact Option.some.inj same

theorem firstDifference_eq_none :
    d.firstDifference = none ↔ ¬ Diverges d.received d.expected := by
  constructor
  · rintro unfound ⟨i, hr, he, ne⟩
    rw [firstDifference, List.findIdx?_eq_none_iff] at unfound
    have paired : (d.expected[i], d.received[i]) ∈ d.expected.zip d.received :=
      List.mem_iff_getElem.mpr ⟨i, by simp only [List.length_zip]; omega, List.getElem_zip⟩
    have same : (d.expected[i] != d.received[i]) = false := unfound _ paired
    exact ne (bne_eq_false_iff_eq.mp same).symm
  · intro same
    cases found : d.firstDifference with
    | none => rfl
    | some k =>
      obtain ⟨left, right, apart, _⟩ := firstDifference_eq_some.mp found
      exact absurd ⟨k, right, left, apart.symm⟩ same

end Wire.Diff

open Wire.Diff (firstDifference_eq_some firstDifference_eq_none)

/-- The offset at which octets go wrong is unaffected by cutting them down to their first frame: a
frame before it would stand at the start of `expected` as well. -/
theorem PartsAt.diff {c : Client} (whole : Frame.Whole expected) (h : PartsAt expected c.buffer k) :
    (c.diff expected).firstDifference = some k := by
  refine firstDifference_eq_some.mpr ?_
  show PartsAt expected (c.diff expected).received k
  unfold Client.diff
  dsimp only
  split
  · rename_i n framed
    refine h.take (Nat.lt_of_not_le fun within => ?_)
    have early : Frame.length? (expected.take n) = .ok (some n) := by
      have cut := Frame.whole_take framed
      rw [Frame.Whole, List.length_take_of_le (Frame.length?_bounds framed).2] at cut
      rwa [h.take_eq within]
    have again := Frame.length?_append early (expected.drop n)
    rw [List.take_append_drop, whole] at again
    simp only [Except.ok.injEq, Option.some.injEq] at again
    have := h.left
    omega
  · exact h

theorem exists_partsAt (apart : Diverges b a) : ∃ k, PartsAt a b k := by
  let d : Diff := { expected := a, received := b, version := .v5 }
  cases found : d.firstDifference with
  | none => exact absurd apart (firstDifference_eq_none.mp found)
  | some k => exact ⟨k, firstDifference_eq_some.mp found⟩

/-- Octets that are right as far as they go are all shown, as no frame is complete among them. -/
theorem diff_of_short {c : Client} (whole : Frame.Whole expected)
    (short : Short c.buffer expected) :
    (c.diff expected).received = c.buffer ∧ (c.diff expected).firstDifference = none := by
  have strict : c.buffer ≠ expected := by
    intro same
    have := short.2
    rw [same] at this
    exact Nat.lt_irrefl _ this
  have all : (c.diff expected).received = c.buffer := by
    unfold Client.diff
    rw [(Frame.cut_of_prefix whole short.1 strict).1]
  refine ⟨all, firstDifference_eq_none.mpr ?_⟩
  rw [all]
  exact short.not_diverges

/-- What a difference has to tell of the octets that `came` where a frame was expected. Whatever
comes later, wrong octets are told at the first of them; where octets lack, all that came is
shown. -/
def Tells (expected came : Bytes) (d : Diff) : Mismatch → Prop
  | .differs => ∃ k, d.firstDifference = some k ∧
      ∀ stream, came <+: stream → PartsAt expected stream k
  | .timedOut | .closed => d.received = came ∧ came <+: expected ∧ came ≠ expected ∧
      d.firstDifference = none

variable {c c' : Client} {events : List (Event link)} {e : Failure} {reason : Mismatch}
  {diff : Diff} {timeout : Duration}

theorem Net.Waits.tells {deadline : Nat} (w : Waits expected deadline c events (.unmet reason) c')
    (whole : Frame.Whole expected) : Tells expected c'.buffer (c'.diff expected) reason := by
  rcases w.resting rfl with ⟨rfl, apart⟩ | ⟨other, short, _⟩
  · obtain ⟨k, parts⟩ := exists_partsAt apart
    refine ⟨k, parts.diff whole, ?_⟩
    rintro stream ⟨later, rfl⟩
    exact parts.append later
  · obtain ⟨all, same⟩ := diff_of_short whole short
    have strict : c'.buffer ≠ expected := fun same => short.not_whole (same ▸ List.prefix_refl _)
    cases reason with
    | differs => exact absurd rfl other
    | timedOut | closed => exact ⟨all, short.1, strict, same⟩

theorem greet_unmet {hello : Bytes}
    (h : Runs (c.greet hello expected timeout) events (.error e, c'))
    (unmet : e.unmet? = some (reason, diff)) :
    ∃ deadline later, Waits expected deadline c later (.unmet reason) c' ∧ diff = c'.diff expected ∧
      received events = received later := by
  rcases runs_greet h with ⟨_, sent, told, _⟩ |
    ⟨sent, instant, deadline, later, v, rfl, sending, _, w, ⟨_, told⟩ | ⟨_, failed, told⟩⟩
  · obtain ⟨_, rfl⟩ := send_error sent
    cases told
    cases unmet
  · cases told
  · cases told
    have came : received (sent ++ ⟨Net.Call.now, instant⟩ :: later) = received later := by
      rw [received_append, received_send sending]
      rfl
    cases v with
    | matched => cases failed
    | unmet found =>
      cases found with
      | differs | timedOut | closed =>
        cases failed
        cases unmet
        exact ⟨deadline, later, w, rfl, came⟩
    | broken =>
      cases failed
      cases unmet

theorem received_close (h : Runs c.close events c') : received events = [] := by
  rcases runs_close h with ⟨_, rfl, _⟩ | ⟨_, rfl, _⟩ <;> rfl

theorem handshake_unmet {address : Address} {version : Version} {hello : Bytes}
    (h : Runs (Client.handshake address version hello expected timeout) events (.error e))
    (unmet : e.unmet? = some (reason, diff)) :
    ∃ deadline later c, Waits expected deadline { version } later (.unmet reason) c ∧
      diff = c.diff expected ∧ received events = received later := by
  rcases runs_handshake h with ⟨reply, _, _, told⟩ | ⟨_, _, _, _, told⟩ |
    ⟨greeted, closing, _, c, d, rfl, greeting, closed, told⟩
  · cases reply with
    | opened => cases told
    | refused | failed =>
      cases told
      cases unmet
  · cases told
  · cases told
    obtain ⟨deadline, later, w, found, came⟩ := greet_unmet greeting unmet
    refine ⟨deadline, later, c, w, found, ?_⟩
    show received (greeted ++ closing) = _
    rw [received_append, received_close closed, List.append_nil, came]

/-- Where exactly one frame is expected, a failure tells what became of it. A difference shows the
first offset at which the octets on the connection are wrong, from the first that no expectation
took, in whatever pieces they came; and a failure for lack of octets shows all that came, which is a
proper beginning of the frame. -/
theorem failure_tells :
    (∀ expected, Frame.Whole expected →
      (∀ (op : Operation) (c c' : Client) (events : List (Event link)) (e : Failure)
        (reason : Mismatch) (diff : Diff), op.awaited = some expected →
        Runs (c.operate op) events (.error e, c') → e.unmet? = some (reason, diff) →
        diff.expected = expected ∧ c'.buffer = c.buffer ++ received events ∧
          Tells expected (c.buffer ++ received events) diff reason) ∧
      ∀ (address : Address) (version : Version) (hello : Bytes) (timeout : Duration)
        (events : List (Event link)) (e : Failure) (reason : Mismatch) (diff : Diff),
        Runs (Client.handshake address version hello expected timeout) events (.error e) →
        e.unmet? = some (reason, diff) →
        diff.expected = expected ∧ Tells expected (received events) diff reason) ∧
    Frame.Whole pingResp ∧
    ∀ s p, Packets.build s = .ok p → Frame.Whole p.connack ∧ Frame.Whole p.notification := by
  refine ⟨?_, rfl, fun s p built => (Packets.whole_of_build built).2⟩
  intro expected whole
  constructor
  · intro op c c' events e reason diff awaited h unmet
    obtain ⟨_, later, w, rfl⟩ := waits_of_unmet awaited h unmet
    have kept : c.buffer ++ received events = c'.buffer := operate_conserves h
    rw [kept]
    exact ⟨rfl, rfl, w.tells whole⟩
  · intro address version hello timeout events e reason diff h unmet
    obtain ⟨_, later, c, w, rfl, came⟩ := handshake_unmet h unmet
    have kept : received later = c.buffer := w.conserves
    rw [came, kept]
    exact ⟨rfl, w.tells whole⟩

/-- A peer that takes everything and never answers. -/
def mute : (call : link.Call) → Unit → link.Reply call × Unit
  | .dial _, _ => (Dialled.opened, ())
  | .send _, _ => ((.ok () : Except String Unit), ())
  | .receive _ _, _ => (Arrival.timedOut, ())
  | .hangUp, _ => ((), ())
  | .now, _ => ((0 : Nat), ())

/-- A frame of four octets is expected, and a shorter one comes; or nothing comes. -/
theorem failure_tells_short_frame :
    (∃ (c : Client) (diff : Diff),
      Runs (c.expect [0x30, 0x02, 0x00, 0x00] .zero "x") [⟨Net.Call.now, (0 : Nat)⟩]
        (.error (.unexpectedMessage "x" .differs diff), c) ∧
      c.buffer = [0x30, 0x00, 0xD0, 0x00] ∧ diff.received = [0x30, 0x00] ∧
      ∃ k, diff.firstDifference = some k ∧
        PartsAt [0x30, 0x02, 0x00, 0x00] [0x30, 0x00, 0xD0, 0x00, 0x01] k) ∧
    ∃ events e diff,
      Runs (Client.handshake (.loopback 1888) .v5 [] [0x20, 0x00] .zero) events (.error e) ∧
      e.unmet? = some (.timedOut, diff) ∧ diff.received = received events ∧
      diff.firstDifference = none := by
  constructor
  · let c : Client := { buffer := [0x30, 0x00, 0xD0, 0x00], version := .v5 }
    have apart : Diverges c.buffer [0x30, 0x02, 0x00, 0x00] := by decide
    have due : deadline? 0 .zero = some 0 := by decide
    have run : Runs (c.expect [0x30, 0x02, 0x00, 0x00] .zero "x") [⟨Net.Call.now, (0 : Nat)⟩]
        (.error (.unexpectedMessage "x" .differs (c.diff _)), c) := expect_differs due apart
    obtain ⟨_, _, k, first, everywhere⟩ := (failure_tells.1 [0x30, 0x02, 0x00, 0x00] rfl).1
      (.expect _ .zero "x") c c _ _ _ _ rfl run rfl
    exact ⟨c, _, run, rfl, rfl, k, first, everywhere _ (by decide)⟩
  · let q := Client.handshake (.loopback 1888) .v5 [] [0x20, 0x00] .zero
    have late : (((q.run mute ()).1.toOption.bind Except.error?).bind Failure.unmet?).map Prod.fst =
        some .timedOut := by decide +kernel
    obtain ⟨⟨reason, diff⟩, told, rfl⟩ := Option.map_eq_some_iff.mp late
    obtain ⟨e, failed, unmet⟩ := Option.bind_eq_some_iff.mp told
    obtain ⟨met, ended, refused⟩ := Option.bind_eq_some_iff.mp failed
    have run : Runs q (q.trace mute ()) (.error e) := by
      rw [← Except.error?_eq_some.mp refused]
      exact runs_trace (Except.toOption_eq_some.mp ended)
    obtain ⟨_, all, _, _, same⟩ := (failure_tells.1 [0x20, 0x00] rfl).2 _ _ _ _ _ _ _ _ run unmet
    exact ⟨_, e, diff, run, unmet, all, same⟩

end ReloadProbe
