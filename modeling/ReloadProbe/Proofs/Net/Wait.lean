import Mathlib.Data.List.Infix
import ReloadProbe.Proofs.Net.Traffic
import ReloadProbe.Proofs.Runs

/-!
The wait for expected octets. Whatever the pieces in which a stream arrives, the verdict is a matter
of the stream and of what ends it; each read finds the buffer a proper first part of what is
expected, so there are no more reads than octets that lack.
-/
namespace ReloadProbe.Net

/-- The strings differ at an offset at which both have an octet. -/
def Diverges (a b : Bytes) : Prop :=
  ∃ (i : Nat) (_ : i < a.length) (_ : i < b.length), a[i] ≠ b[i]

/-- Some octets of `expected` are there, all of them right, and some lack. -/
def Short (a expected : Bytes) : Prop := a <+: expected ∧ a.length < expected.length

theorem prefix_not_diverges {a b : Bytes} (h : a <+: b) : ¬ Diverges a b ∧ ¬ Diverges b a := by
  obtain ⟨t, rfl⟩ := h
  constructor
  · rintro ⟨i, hi, _, ne⟩
    exact ne (List.getElem_append_left hi).symm
  · rintro ⟨i, _, hi, ne⟩
    exact ne (List.getElem_append_left hi)

theorem Diverges.append {a b : Bytes} (h : Diverges a b) (t : Bytes) : Diverges (a ++ t) b := by
  obtain ⟨i, hi, hj, ne⟩ := h
  refine ⟨i, by simp only [List.length_append]; omega, hj, ?_⟩
  rwa [List.getElem_append_left hi]

theorem Short.not_whole {a expected : Bytes} (h : Short a expected) : ¬ expected <+: a := by
  intro hp
  have := hp.length_le
  have := h.2
  omega

theorem Short.not_diverges {a expected : Bytes} (h : Short a expected) : ¬ Diverges a expected :=
  (prefix_not_diverges h.1).1

theorem diverges_of_take_ne {a b : Bytes}
    (h : a.take (min a.length b.length) ≠ b.take (min a.length b.length)) : Diverges a b := by
  by_contra same
  apply h
  apply List.ext_getElem (by simp)
  intro i ha hb
  simp only [List.getElem_take]
  by_contra ne
  simp only [List.length_take] at ha hb
  exact same ⟨i, by omega, by omega, ne⟩

theorem short_of_take_eq {a b : Bytes}
    (h : a.take (min a.length b.length) = b.take (min a.length b.length))
    (hl : a.length < b.length) : Short a b := by
  rw [Nat.min_eq_left (Nat.le_of_lt hl), List.take_length] at h
  exact ⟨h ▸ List.take_prefix a.length b, hl⟩

theorem prefix_of_take_eq {a b : Bytes}
    (h : a.take (min a.length b.length) = b.take (min a.length b.length))
    (hl : b.length ≤ a.length) : b <+: a := by
  rw [Nat.min_eq_right hl, List.take_length] at h
  exact h ▸ List.take_prefix b.length a

theorem diverges_iff {a b : Bytes} : Diverges a b ↔ ¬ a <+: b ∧ ¬ b <+: a := by
  constructor
  · exact fun h => ⟨fun p => (prefix_not_diverges p).1 h, fun p => (prefix_not_diverges p).2 h⟩
  · rintro ⟨hab, hba⟩
    apply diverges_of_take_ne
    intro same
    by_cases hl : a.length < b.length
    · exact hab (short_of_take_eq same hl).1
    · exact hba (prefix_of_take_eq same (Nat.le_of_not_lt hl))

instance (a b : Bytes) : Decidable (Diverges a b) := decidable_of_iff _ diverges_iff.symm

/-- Why reads end: from here on they bring no octets. -/
inductive Ending where
  | ended
  | reset
  | timedOut
  | failed (reason : String)

namespace Ending

def arrival : Ending → Arrival
  | ended => .ended
  | reset => .reset
  | timedOut => .timedOut
  | failed reason => .failed reason

def verdict : Ending → Verdict
  | ended | reset => .unmet .closed
  | timedOut => .unmet .timedOut
  | failed reason => .broken reason

def closes : Ending → Bool
  | ended | reset => true
  | _ => false

end Ending

/-- A wait for `expected`: the client and the calls it makes, then the verdict and the client as it
is left. A read is made in one case only, that of a buffer that is short, and all reads have the one
deadline. -/
inductive Waits (expected : Bytes) (deadline : Nat) :
    Client → List (Event link) → Verdict → Client → Prop where
  | matched {c : Client} (whole : expected <+: c.buffer) :
      Waits expected deadline c [] .matched { c with
        buffer := c.buffer.drop expected.length, storage := c.storage.pass expected.length }
  | differs {c : Client} (apart : Diverges c.buffer expected) :
      Waits expected deadline c [] (.unmet .differs) c
  | closed {c : Client} (short : Short c.buffer expected) (gone : c.connected = false) :
      Waits expected deadline c [] (.unmet .closed) c
  | stopped {c : Client} {storage : Storage} {room : Nat} (ending : Ending)
      (short : Short c.buffer expected) (linked : c.connected = true) :
      Waits expected deadline c [⟨Call.receive deadline room, ending.arrival⟩] ending.verdict
        { c with connected := !ending.closes, storage }
  | more {c c' : Client} {storage : Storage} {room : Nat} {chunk : Bytes}
      {arrived : chunk ≠ []} {events : List (Event link)} {v : Verdict}
      (short : Short c.buffer expected) (linked : c.connected = true)
      (later : Waits expected deadline { c with buffer := c.buffer ++ chunk, storage } events v c') :
      Waits expected deadline c
        (⟨Call.receive deadline room, Arrival.bytes chunk arrived⟩ :: events) v c'

theorem runs_await {c c' : Client} {expected : Bytes} {deadline : Nat}
    {events : List (Event link)} {v : Verdict}
    (h : Interaction.Runs (c.await expected deadline) events (v, c')) :
    Waits expected deadline c events v c' := by
  -- The cases are those of the loop, of which only the last reads.
  fun_induction Client.await c expected deadline generalizing events with
  | case1 c =>
    rename_i ne
    cases h
    exact .differs (diverges_of_take_ne ne)
  | case2 c _ same =>
    rename_i enough
    cases h
    exact .matched (prefix_of_take_eq (not_not.mp same) enough)
  | case3 c _ same lacks =>
    rename_i gone
    cases h
    exact .closed (short_of_take_eq (not_not.mp same) (by omega)) (by simpa using gone)
  | case4 c _ same lacks linked =>
    rename_i storage ih
    have short : Short c.buffer expected := short_of_take_eq (not_not.mp same) (by omega)
    have linked : c.connected = true := by simpa using linked
    obtain ⟨arrival, later, rfl, rest⟩ := Interaction.runs_ask.mp h
    cases arrival with
    | bytes chunk arrived => exact .more short linked (ih chunk arrived rest)
    | ended => cases rest; exact .stopped .ended short linked
    | reset => cases rest; exact .stopped .reset short linked
    | timedOut => cases rest; exact linked ▸ .stopped .timedOut short linked
    | failed reason => cases rest; exact linked ▸ .stopped (.failed reason) short linked

theorem deadline?_eq_some {instant deadline : Nat} {timeout : Duration} :
    deadline? instant timeout = some deadline ↔
      deadline = instant + timeout.toNanos ∧ deadline < instantLimit := by
  simp only [deadline?]
  split
  · rename_i within
    constructor
    · rintro ⟨⟩
      exact ⟨rfl, within⟩
    · rintro ⟨rfl, _⟩
      rfl
  · rename_i beyond
    refine ⟨nofun, ?_⟩
    rintro ⟨rfl, within⟩
    exact absurd within beyond

theorem deadline?_eq_none {instant : Nat} {timeout : Duration} :
    deadline? instant timeout = none ↔ instantLimit ≤ instant + timeout.toNanos := by
  simp [deadline?]

/-- A wait that comes to a verdict has a deadline, which is the time that was given after the present
instant. -/
theorem runs_awaitFor {c c' : Client} {expected : Bytes} {timeout : Duration}
    {events : List (Event link)} {v : Verdict}
    (h : Interaction.Runs (c.awaitFor expected timeout) events (v, c')) :
    ∃ instant deadline later, events = ⟨Call.now, instant⟩ :: later ∧
      deadline? instant timeout = some deadline ∧ Waits expected deadline c later v c' := by
  obtain ⟨instant, later, rfl, waited⟩ := Interaction.runs_reply.mp h
  cases due : deadline? instant timeout with
  | some deadline =>
    rw [due] at waited
    exact ⟨instant, deadline, later, rfl, due, runs_await waited⟩
  | none =>
    rw [due] at waited
    cases waited

theorem runs_await_by {c c' : Client} {expected : Bytes} {timeout : Duration}
    {instant deadline : Nat} {later : List (Event link)} {v : Verdict}
    (due : deadline? instant timeout = some deadline)
    (run : Interaction.Runs (c.await expected deadline) later (v, c')) :
    Interaction.Runs (c.awaitFor expected timeout) (⟨Call.now, instant⟩ :: later) (v, c') := by
  refine Interaction.runs_reply.mpr ⟨instant, later, rfl, ?_⟩
  rw [due]
  exact run

theorem await_safe (c : Client) (expected : Bytes) (deadline : Nat) :
    (c.await expected deadline).Safe := by
  fun_induction Client.await c expected deadline with
  | case1 | case2 | case3 => exact .pure _
  | case4 c =>
    rename_i ih
    refine .ask fun (arrival : Arrival) => ?_
    cases arrival with
    | bytes chunk arrived => exact ih chunk arrived
    | ended | reset | timedOut | failed => exact .pure _

/-- A wait crashes if the clock has no deadline for it, before anything is compared or read. -/
theorem crashes_awaitFor {c : Client} {expected : Bytes} {timeout : Duration}
    {events : List (Event link)} {reason : String} :
    Interaction.Crashes (c.awaitFor expected timeout) events reason ↔
      ∃ instant, deadline? instant timeout = none ∧ events = [⟨Call.now, instant⟩] ∧
        reason = overflow := by
  constructor
  · intro h
    obtain ⟨instant, later, rfl, rest⟩ := Interaction.crashes_reply.mp h
    cases due : deadline? instant timeout with
    | some deadline =>
      rw [due] at rest
      exact absurd rest (await_safe _ _ _ _ _)
    | none =>
      rw [due] at rest
      cases rest
      exact ⟨instant, due, rfl, rfl⟩
  · rintro ⟨instant, due, rfl, rfl⟩
    refine Interaction.crashes_reply.mpr ⟨instant, [], rfl, ?_⟩
    rw [due]
    exact .crash overflow

theorem await_matched {c : Client} {expected : Bytes} (deadline : Nat)
    (whole : expected <+: c.buffer) :
    c.await expected deadline = .done (.matched, { c with
      buffer := c.buffer.drop expected.length, storage := c.storage.pass expected.length }) := by
  have enough := whole.length_le
  obtain ⟨rest, hr⟩ := whole
  rw [Client.await, if_neg, dif_pos enough]
  rw [not_not, Nat.min_eq_right enough, ← hr]
  simp

theorem await_differs {c : Client} {expected : Bytes} (deadline : Nat)
    (apart : Diverges c.buffer expected) :
    c.await expected deadline = .done (.unmet .differs, c) := by
  rw [Client.await, if_pos]
  intro same
  rcases Nat.lt_or_ge c.buffer.length expected.length with hl | hl
  · exact (short_of_take_eq same hl).not_diverges apart
  · exact (prefix_not_diverges (prefix_of_take_eq same hl)).2 apart

def Verdict.taken (expected : Bytes) : Verdict → Bytes
  | .matched => expected
  | _ => []

@[simp] theorem received_chunk {deadline room : Nat} {chunk : Bytes} {arrived : chunk ≠ []}
    {events : List (Event link)} :
    received (⟨Call.receive deadline room, Arrival.bytes chunk arrived⟩ :: events) =
      chunk ++ received events := rfl

@[simp] theorem received_ending {deadline room : Nat} {ending : Ending} :
    received [⟨Call.receive deadline room, ending.arrival⟩] = [] := by
  cases ending <;> rfl

@[simp] theorem arrivals_receive {deadline room : Nat} {arrival : Arrival}
    {events : List (Event link)} :
    arrivals (⟨Call.receive deadline room, arrival⟩ :: events) = arrival :: arrivals events := rfl

namespace Ending

theorem octets_arrival (ending : Ending) : ending.arrival.octets = [] := by
  cases ending <;> rfl

theorem verdict_ne_matched (ending : Ending) : ending.verdict ≠ .matched := by
  cases ending <;> simp [verdict]

theorem verdict_ne_differs (ending : Ending) : ending.verdict ≠ .unmet .differs := by
  cases ending <;> simp [verdict]

theorem taken_verdict (ending : Ending) (expected : Bytes) :
    ending.verdict.taken expected = [] := by
  cases ending <;> rfl

end Ending

namespace Waits

variable {expected : Bytes} {deadline : Nat} {c c' : Client} {events : List (Event link)}
  {v : Verdict}

theorem doings_nil (w : Waits expected deadline c events v c') : doings events = [] := by
  induction w with
  | matched | differs | closed | stopped => rfl
  | more _ _ _ ih => simpa [doings, waits] using ih

/-- All that a wait asks for are octets, by its deadline. -/
theorem reads (w : Waits expected deadline c events v c') :
    ∀ e ∈ events, ∃ (room : Nat) (arrival : Arrival), e = ⟨Call.receive deadline room, arrival⟩ := by
  induction w with
  | matched | differs | closed => exact fun _ member => nomatch member
  | stopped ending => exact List.forall_mem_singleton.mpr ⟨_, ending.arrival, rfl⟩
  | more _ _ _ ih => exact List.forall_mem_cons.mpr ⟨⟨_, _, rfl⟩, ih⟩

theorem conserves (w : Waits expected deadline c events v c') :
    c.buffer ++ received events = v.taken expected ++ c'.buffer := by
  induction w with
  | @matched c whole =>
    obtain ⟨rest, hr⟩ := whole
    simp [← hr, Verdict.taken]
  | differs | closed => simp [Verdict.taken]
  | stopped ending => simp [Ending.taken_verdict]
  | more _ _ _ ih => simpa [List.append_assoc] using ih

/-- Each read brings at least one of the octets that lack, or is the last. -/
theorem length_arrivals_le (w : Waits expected deadline c events v c') :
    (arrivals events).length ≤ expected.length - c.buffer.length := by
  induction w with
  | matched | differs | closed => simp
  | stopped _ short =>
    have := short.2
    simp; omega
  | @more c c' storage room chunk arrived events v short linked later ih =>
    have := short.2
    have := List.length_pos_iff.mpr arrived
    simp only [List.length_append] at ih
    simp only [arrivals_receive, List.length_cons]
    omega

theorem short_before (w : Waits expected deadline c events v c') {before after : List Arrival}
    {arrival : Arrival} (h : arrivals events = before ++ arrival :: after) :
    Short (c.buffer ++ before.flatMap Arrival.octets) expected := by
  induction w generalizing before with
  | matched | differs | closed => simp at h
  | stopped ending short =>
    cases before with
    | nil => simpa using short
    | cons => simp at h
  | @more c c' storage room chunk arrived events v short linked later ih =>
    cases before with
    | nil => simpa using short
    | cons first before =>
      simp only [arrivals_receive, List.cons_append, List.cons.injEq] at h
      obtain ⟨rfl, h⟩ := h
      simpa [List.append_assoc, Arrival.octets] using ih h

/-- What came decides the verdict, or a read that brought nothing does. -/
theorem decided (w : Waits expected deadline c events v c') :
    (v = .matched ∧ expected <+: c.buffer ++ received events ∧ c'.connected = c.connected) ∨
    (v = .unmet .differs ∧ Diverges (c.buffer ++ received events) expected) ∨
    (v = .unmet .closed ∧ events = [] ∧ c.connected = false) ∨
    ∃ (ending : Ending) (before : List Arrival),
      v = ending.verdict ∧ arrivals events = before ++ [ending.arrival] := by
  induction w with
  | matched whole => exact .inl ⟨rfl, by simpa using whole, rfl⟩
  | differs apart => exact .inr (.inl ⟨rfl, by simpa using apart⟩)
  | closed short gone => exact .inr (.inr (.inl ⟨rfl, rfl, gone⟩))
  | stopped ending => exact .inr (.inr (.inr ⟨ending, [], rfl, rfl⟩))
  | @more c c' storage room chunk arrived events v short linked later ih =>
    simp only [received_chunk, ← List.append_assoc]
    rcases ih with matched | differs | ⟨_, _, gone⟩ | ⟨ending, before, hv, ha⟩
    · exact .inl matched
    · exact .inr (.inl differs)
    · exact absurd linked (by simp [show c.connected = false from gone])
    · refine .inr (.inr (.inr ⟨ending, .bytes chunk arrived :: before, hv, ?_⟩))
      rw [arrivals_receive, ha, List.cons_append]

end Waits

end ReloadProbe.Net
