import ReloadProbe.Proofs.Run.Overdue

/-!
How often a broker is called on that does not listen yet. An attempt leads to another one only if it
was refused, the broker was seen alive and attempts are left, so all attempts but the last look the
same. The loop is told once more on a counter of 32 bits that may not wrap, and is the same loop.
-/
namespace ReloadProbe

open Interaction Host Net

namespace Host

def isDial : Event link → Bool
  | ⟨.dial _, _⟩ => true
  | _ => false

/-- How often a connection was asked for. -/
def dials (events : List (Event host)) : Nat := (traffic events).countP isDial

def delay? : Event host → Option Duration
  | ⟨.sleep length, _⟩ => some length
  | _ => none

def delays (events : List (Event host)) : List Duration := events.filterMap delay?

variable {a b : List (Event host)}

theorem dials_append : dials (a ++ b) = dials a + dials b := by
  simp only [dials, traffic_append, List.countP_append]

theorem delays_append : delays (a ++ b) = delays a ++ delays b := List.filterMap_append

theorem delays_atLink (own : List (Event link)) : delays (own.map atLink) = [] := by
  induction own with
  | nil => rfl
  | cons e own ih => exact ih

/-- A program on the network that was run alone is run on the host in the same way. -/
theorem net_runs {α : Type} {p : Interaction link α} {own : List (Event link)} {a : α}
    (h : Runs p own a) : Runs (net p) (own.map atLink) a := by
  induction h with
  | done a => exact .done a
  | ask _ ih => exact .ask ih

end Host

namespace Plan

theorem toNat_next {made : UInt32} (room : ¬ made.toNat + 1 = UInt32.size) :
    (made + 1).toNat = made.toNat + 1 := by
  have := made.toNat_lt
  rw [UInt32.toNat_add]
  exact Nat.mod_eq_of_lt (Nat.lt_of_le_of_ne this room)

/-- The attempts as a loop that counts those made on a counter of 32 bits. There is no result if the
counter has no room for another one. -/
def connectCounting (p : Plan) (s : Scenario) (made : UInt32) :
    Interaction host (Option (Except Failure Client)) :=
  if _room : made.toNat + 1 = UInt32.size then return none
  else do
    let attempt := made + 1
    match ← net (p.hail s) with
    | .error (.refused _ _) =>
      match ← exitState with
      | .error e => return some (.error e)
      | .ok (some exit) => return some (.error (.exitedEarly exit))
      | .ok none =>
        if p.settings.startup.attempts ≤ attempt then
          return some (.error (.refused s.address attempt))
        else
          sleep (p.settings.startup.backoff (attempt - 1).toNat)
          p.connectCounting s attempt
    | opened => return some opened
termination_by UInt32.size - made.toNat
decreasing_by
  rw [toNat_next (by assumption)]
  have := made.toNat_lt
  simp only [UInt32.size]
  omega

/-- The last attempt, which has the number `k`, and what is returned after it. -/
inductive Final (p : Plan) (s : Scenario) (k : Nat) :
    List (Event host) → Except Failure Client → Prop where
  | settled {hailed : List (Event link)} {r : Except Failure Client}
      (greeting : Runs (p.hail s) hailed r) (taken : ∀ a n, r ≠ .error (.refused a n)) :
      Final p s k (hailed.map atLink) r
  | unknown (e : Failure) : Final p s k [refusal s, ⟨Call.exitState, .error e⟩] (.error e)
  | exited (exit : ExitState) :
      Final p s k [refusal s, ⟨Call.exitState, .ok (some exit)⟩] (.error (.exitedEarly exit))
  | exhausted (spent : k = p.settings.startup.attempts.toNat) :
      Final p s k [refusal s, ⟨Call.exitState, .ok none⟩]
        (.error (.refused s.address p.settings.startup.attempts))

/-- A call for a connection that took `k` attempts. All but the last were refused by a broker that
lives, and each of those has its delay after it. -/
structure Bounded (p : Plan) (s : Scenario) (k : Nat) (events : List (Event host))
    (r : Except Failure Client) : Prop where
  tried : 0 < k
  within : k ≤ p.settings.startup.attempts.toNat
  course : ∃ last, events = (List.range' 1 (k - 1)).flatMap (p.retry s) ++ last ∧
    Final p s k last r
  dialled : dials events = k
  delayed : delays events = (List.range (k - 1)).map p.settings.startup.backoff

variable {p : Plan} {s : Scenario} {events last : List (Event host)} {r : Except Failure Client}

/-- The counter has room for all attempts that the settings allow. -/
theorem connectCounting_eq {made : UInt32} {left : Nat}
    (within : made.toNat + 1 + left = p.settings.startup.attempts.toNat) :
    p.connectCounting s made = some <$> p.connectFrom s (made.toNat + 1) left := by
  -- The two get the same replies, so they can only part where they ask for the last attempt.
  have limit := p.settings.startup.attempts.toNat_lt
  have room : ¬ made.toNat + 1 = UInt32.size := by
    simp only [UInt32.size]
    omega
  have next := toNat_next room
  rw [connectCounting, dif_neg room, connectFrom.eq_def, map_bind]
  refine bind_congr fun opened => ?_
  cases opened with
  | ok client => rfl
  | error e =>
    cases e with
    | refused address attempts =>
      rw [map_bind]
      refine bind_congr fun reply => ?_
      cases reply with
      | error e => rfl
      | ok seen =>
        cases seen with
        | some exit => rfl
        | none =>
          cases left with
          | zero =>
            have spent : p.settings.startup.attempts ≤ made + 1 := by
              rw [UInt32.le_iff_toNat_le]
              omega
            have number : UInt32.ofNat (made.toNat + 1) = made + 1 := by
              rw [← next, UInt32.ofNat_toNat]
            simp only [if_pos spent, number]
            rfl
          | succ left =>
            have more : ¬ p.settings.startup.attempts ≤ made + 1 := by
              rw [UInt32.le_iff_toNat_le]
              omega
            have again : p.connectCounting s (made + 1) =
                some <$> p.connectFrom s (made.toNat + 1 + 1) left := by
              rw [← next]
              exact connectCounting_eq (by omega)
            simp only [if_neg more, UInt32.add_sub_cancel, again]
            rfl
    | _ => rfl
termination_by left

theorem runs_refused (s : Scenario) :
    Runs (net (p.hail s)) [refusal s] (.error (.refused s.address 1)) :=
  .ask (.done _)

theorem Connects.runs {attempt left : Nat} (attempts : Connects p s attempt left events r) :
    Runs (p.connectFrom s attempt left) events r := by
  induction attempts with
  | met greeting taken =>
    rw [connectFrom.eq_def]
    refine runs_seq.mpr ⟨_, [], _, (List.append_nil _).symm, net_runs greeting, ?_⟩
    split
    · exact absurd rfl (taken _ _)
    · exact .done _
  | @unknown attempt left e =>
    rw [connectFrom.eq_def]
    exact runs_seq.mpr ⟨[refusal s], _, _, rfl, runs_refused s, .ask (.done _)⟩
  | @exited attempt left exit =>
    rw [connectFrom.eq_def]
    exact runs_seq.mpr ⟨[refusal s], _, _, rfl, runs_refused s, .ask (.done _)⟩
  | exhausted =>
    rw [connectFrom.eq_def]
    exact runs_seq.mpr ⟨[refusal s], _, _, rfl, runs_refused s, .ask (.done _)⟩
  | again _ ih =>
    rw [connectFrom.eq_def]
    exact runs_seq.mpr ⟨[refusal s], _, _, rfl, runs_refused s, .ask (.ask ih)⟩

theorem ofNat_attempts {n : Nat} (spent : n = p.settings.startup.attempts.toNat) :
    UInt32.ofNat n = p.settings.startup.attempts := by
  rw [spent, UInt32.ofNat_toNat]

/-- Attempts are refusals, as many as there may be, and a last one. -/
theorem connects_iff {attempt left : Nat}
    (limit : attempt + left = p.settings.startup.attempts.toNat) :
    Connects p s attempt left events r ↔ ∃ n last, n ≤ left ∧
      events = (List.range' attempt n).flatMap (p.retry s) ++ last ∧
      Final p s (attempt + n) last r := by
  constructor
  · intro attempts
    induction attempts with
    | met greeting taken => exact ⟨0, _, Nat.zero_le _, rfl, .settled greeting taken⟩
    | unknown e => exact ⟨0, _, Nat.zero_le _, rfl, .unknown e⟩
    | exited exit => exact ⟨0, _, Nat.zero_le _, rfl, .exited exit⟩
    | @exhausted attempt =>
      rw [ofNat_attempts (n := attempt) limit]
      exact ⟨0, _, Nat.le_refl 0, rfl, .exhausted limit⟩
    | @again attempt left events r later ih =>
      obtain ⟨n, last, few, rfl, final⟩ := ih (by omega)
      refine ⟨n + 1, last, by omega, ?_, ?_⟩
      · rw [List.range'_succ, List.flatMap_cons, List.append_assoc]
      · rwa [Nat.add_right_comm] at final
  · -- Backwards the refusals are put in front of the last attempt, one by one.
    rintro ⟨n, last, few, rfl, final⟩
    induction n generalizing attempt left with
    | zero =>
      cases final with
      | settled greeting taken => exact .met greeting taken
      | unknown e => exact .unknown e
      | exited exit => exact .exited exit
      | exhausted spent =>
        obtain rfl : left = 0 := by omega
        rw [← ofNat_attempts spent]
        exact .exhausted
    | succ n ih =>
      obtain ⟨left, rfl⟩ : ∃ rest, left = rest + 1 := ⟨left - 1, by omega⟩
      rw [List.range'_succ, List.flatMap_cons, List.append_assoc]
      refine .again (ih (by omega) (by omega) ?_)
      rwa [Nat.add_right_comm]

theorem dials_retries (attempts : List Nat) :
    dials (attempts.flatMap (p.retry s)) = attempts.length := by
  induction attempts with
  | nil => rfl
  | cons attempt attempts ih =>
    rw [List.flatMap_cons, dials_append, ih, List.length_cons, Nat.add_comm]
    rfl

theorem delays_retries (attempts : List Nat) :
    delays (attempts.flatMap (p.retry s)) =
      attempts.map fun attempt => p.settings.startup.backoff (attempt - 1) := by
  induction attempts with
  | nil => rfl
  | cons attempt attempts ih =>
    rw [List.flatMap_cons, delays_append, ih]
    rfl

theorem undialled_of_waits {own : List (Event link)} (h : doings own = []) :
    own.countP isDial = 0 := by
  refine List.countP_eq_zero.mpr fun e member dialled => ?_
  have waiting := doings_eq_nil.mp h e member
  obtain ⟨call, reply⟩ := e
  cases call with
  | dial => cases waiting
  | _ => cases dialled

theorem send_undialled {c : Client} {data : Bytes} {own : List (Event link)}
    {sent : Except Failure Unit} (h : Runs (c.send data) own sent) : own.countP isDial = 0 := by
  rcases runs_send h with ⟨_, reply, rfl, _⟩ | ⟨_, rfl, _⟩ <;> rfl

theorem greet_undialled {c c' : Client} {hello welcome : Bytes} {timeout : Duration}
    {own : List (Event link)} {met : Except Failure Unit}
    (h : Runs (c.greet hello welcome timeout) own (met, c')) : own.countP isDial = 0 := by
  rcases runs_greet h with ⟨e, sent, _⟩ |
    ⟨sent, instant, deadline, later, v, rfl, first, _, w, _⟩
  · exact send_undialled sent
  · rw [List.countP_append, send_undialled first, Nat.zero_add]
    exact undialled_of_waits w.doings_nil

theorem hail_dials {hailed : List (Event link)} (h : Runs (p.hail s) hailed r) :
    hailed.countP isDial = 1 := by
  rcases runs_handshake h with ⟨reply, _, rfl, _⟩ | ⟨greeted, c, rfl, greeting, _⟩ |
    ⟨greeted, closing, e, c, d, rfl, greeting, closed, _⟩
  · rfl
  · rw [List.countP_cons_of_pos rfl, greet_undialled greeting]
  · rw [List.countP_cons_of_pos rfl, List.countP_append, greet_undialled greeting]
    rcases runs_close closed with ⟨_, rfl, _⟩ | ⟨_, rfl, _⟩ <;> rfl

theorem Final.dials_eq {k : Nat} (final : Final p s k last r) : dials last = 1 := by
  cases final with
  | settled greeting taken =>
    rw [dials, traffic_atLink]
    exact hail_dials greeting
  | unknown | exited | exhausted => rfl

theorem Final.delays_eq {k : Nat} (final : Final p s k last r) : delays last = [] := by
  cases final with
  | settled greeting taken => exact delays_atLink _
  | unknown | exited | exhausted => rfl

theorem bounded_of_course {n : Nat} (few : n < p.settings.startup.attempts.toNat)
    (final : Final p s (1 + n) last r) :
    Bounded p s (1 + n) ((List.range' 1 n).flatMap (p.retry s) ++ last) r where
  tried := by omega
  within := by omega
  course := ⟨last, by rw [Nat.add_sub_cancel_left], final⟩
  dialled := by
    rw [dials_append, dials_retries, final.dials_eq, List.length_range', Nat.add_comm]
  delayed := by
    rw [delays_append, delays_retries, final.delays_eq, List.append_nil, Nat.add_sub_cancel_left,
      List.range'_eq_map_range, List.map_map]
    refine List.map_congr_left fun i _ => ?_
    rw [Function.comp_apply, Nat.add_sub_cancel_left]

/-- A broker is called on at most as often as the settings allow, on a counter that cannot overflow,
and the call returns in every world whose clock has a deadline for each handshake. What happens on
the way and what is returned is told by the number of attempts that it took; a handshake that
crashes is one of them. -/
theorem connect_bounded (p : Plan) (s : Scenario) (some_allowed : 0 < p.settings.startup.attempts) :
    p.connectCounting s 0 = some <$> p.connect s ∧
    (∀ (σ : Type) (world : (c : host.Call) → σ → host.Reply c × σ) (state : σ),
      (∀ now, deadline? (world (.net .now) now).1 p.settings.timeouts.handshake ≠ none) →
      ∃ events r, ((p.connect s).run world state).1 = .ok r ∧ Runs (p.connect s) events r) ∧
    (∀ events r, Runs (p.connect s) events r ↔ ∃ k, Bounded p s k events r) ∧
    ∀ events reason, Crashes (p.connect s) events reason →
      ∃ k hailed, 0 < k ∧ k ≤ p.settings.startup.attempts.toNat ∧
        events = (List.range' 1 (k - 1)).flatMap (p.retry s) ++ hailed.map atLink ∧
        Crashes (p.hail s) hailed reason := by
  have limit : 1 + (p.settings.startup.attempts.toNat - 1) = p.settings.startup.attempts.toNat := by
    rw [UInt32.lt_iff_toNat_lt] at some_allowed
    exact Nat.add_sub_cancel' some_allowed
  refine ⟨connectCounting_eq limit, ?_, ?_, ?_⟩
  · intro σ world state timely
    cases ended : ((p.connect s).run world state).1 with
    | ok r => exact ⟨_, r, rfl, runs_trace ended⟩
    | error reason =>
      -- The crash would be that of a handshake, at a look at this clock.
      obtain ⟨n, hailed, _, split, crash⟩ := crashes_connectFrom (crashes_trace ended)
      obtain ⟨sent, instant, _, overdue, rfl, _⟩ := crashes_handshake crash
      have shown : atLink ⟨Net.Call.now, instant⟩ ∈
          (p.connectFrom s 1 (p.settings.startup.attempts.toNat - 1)).trace world state := by
        simp [split]
      obtain ⟨now, told⟩ : ∃ now, instant = (world (.net .now) now).1 := reply_of_mem_trace shown
      exact absurd overdue (told ▸ timely now)
  · intro events r
    constructor
    · intro h
      obtain ⟨n, last, few, rfl, final⟩ := (connects_iff limit).mp (runs_connectFrom h)
      exact ⟨1 + n, bounded_of_course (by omega) final⟩
    · rintro ⟨k, tried, within, ⟨last, rfl, final⟩, _, _⟩
      refine ((connects_iff limit).mpr ⟨k - 1, last, by omega, rfl, ?_⟩).runs
      rwa [Nat.add_sub_cancel' tried]
  · intro events reason crash
    obtain ⟨n, hailed, few, rfl, hailing⟩ := crashes_connectFrom crash
    exact ⟨n + 1, hailed, Nat.succ_pos n, by omega, rfl, hailing⟩

/-- The plan of no settings at all, but for three attempts. -/
def hasty : Plan := { standard with settings := { startup := { attempts := 3 } } }

/-- The broker never listens. -/
theorem connect_bounded_hasty :
    let s := hasty.scenarioAt false 1888
    let events := hasty.retry s 1 ++ hasty.retry s 2 ++ [refusal s, ⟨Call.exitState, .ok none⟩]
    0 < hasty.settings.startup.attempts ∧
      hasty.connectCounting s 0 = some <$> hasty.connect s ∧
      Runs (hasty.connect s) events (.error (.refused s.address 3)) ∧ dials events = 3 ∧
      delays events = [.ofMillis 50, .ofMillis 100] := by
  intro s events
  obtain ⟨counted, _, told, _⟩ := connect_bounded hasty s (by decide)
  have three : Bounded hasty s 3 events (.error (.refused s.address 3)) :=
    bounded_of_course (n := 2) (by decide) (.exhausted rfl)
  exact ⟨by decide, counted, (told _ _).mpr ⟨3, three⟩, three.dialled,
    three.delayed.trans (by decide +kernel)⟩

end Plan
end ReloadProbe
