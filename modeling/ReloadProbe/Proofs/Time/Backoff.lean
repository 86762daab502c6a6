import Mathlib.Algebra.Order.Ring.Nat
import ReloadProbe.Config.Settings

/-!
The delays between attempts, beside the same delays in unbounded nanoseconds. A product that does
not fit saturates, but what saturates is no shorter than any cap. The delays are told once more on
machine words, where a product may wrap if it is not checked, and are the same delays.
-/
namespace ReloadProbe

namespace Duration

variable {a b : Duration}

theorem longest_toNanos : longest.toNanos = 18446744073709551616 * 1000000000 - 1 := rfl

theorem toNanos_le_longest (d : Duration) : d.toNanos ≤ longest.toNanos := by
  have whole := d.seconds.toNat_lt
  have part := d.nanos_lt
  rw [longest_toNanos, toNanos]
  omega

/-- Comparing the seconds first compares the lengths. -/
theorem shorter_iff : a.shorter b = true ↔ a.toNanos < b.toNanos := by
  have ha := a.nanos_lt
  have hb := b.nanos_lt
  simp only [shorter, Bool.or_eq_true, Bool.and_eq_true, decide_eq_true_eq, beq_iff_eq,
    UInt64.lt_iff_toNat_lt, ← UInt64.toNat_inj, toNanos]
  omega

theorem toNanos_min (a b : Duration) : (a.min b).toNanos = Min.min a.toNanos b.toNanos := by
  unfold Duration.min
  split
  · rename_i less
    exact (Nat.min_eq_right (Nat.le_of_lt (shorter_iff.mp less))).symm
  · rename_i more
    have more := mt shorter_iff.mpr more
    exact (Nat.min_eq_left (Nat.le_of_not_lt more)).symm

theorem toNanos_times (d : Duration) (k : Nat) :
    (d.times k).toNanos = Min.min (d.toNanos * k) longest.toNanos := by
  have product : d.toNanos * k = d.seconds.toNat * k * 1000000000 + d.nanos * k := by
    rw [toNanos, Nat.add_mul, Nat.mul_right_comm]
  unfold times
  dsimp only
  split
  · rename_i fits
    rw [longest_toNanos, product, toNanos]
    dsimp only
    rw [UInt64.toNat_ofNat_of_lt' fits]
    omega
  · rw [longest_toNanos, product]
    omega

/-! The same product on words of 64 bits. -/

/-- A sum or a product of words, unless it needs more than 64 bits. -/
def word? (n : Nat) : Option UInt64 :=
  if n < 18446744073709551616 then some (UInt64.ofNat n) else none

theorem word?_of_lt {n : Nat} (fits : n < 18446744073709551616) :
    word? n = some (UInt64.ofNat n) := if_pos fits

theorem word?_of_le {n : Nat} (large : 18446744073709551616 ≤ n) : word? n = none :=
  if_neg (Nat.not_lt.mpr large)

theorem rest_words_lt (nanos : UInt64) : (nanos % 1000000000).toNat < 1000000000 := by
  rw [UInt64.toNat_mod]
  exact Nat.mod_lt _ (by decide)

/-- `k` times the length, unless its seconds need more than 64 bits. The product of the nanoseconds
is not checked. -/
def timesWords? (d : Duration) (k : UInt32) : Option Duration := do
  let nanos := UInt64.ofNat d.nanos * k.toUInt64
  let seconds ← word? (d.seconds.toNat * k.toNat)
  let seconds ← word? (seconds.toNat + (nanos / 1000000000).toNat)
  return ⟨seconds, (nanos % 1000000000).toNat, rest_words_lt nanos⟩

/-- The product of the nanoseconds has room in a word. -/
theorem toNat_nanos_mul (d : Duration) (k : UInt32) :
    (UInt64.ofNat d.nanos * k.toUInt64).toNat = d.nanos * k.toNat := by
  have part := d.nanos_lt
  have factor := k.toNat_lt
  have small : d.nanos < 2 ^ 64 := by omega
  have room : d.nanos * k.toNat < 2 ^ 64 :=
    Nat.lt_of_le_of_lt (Nat.mul_le_mul (Nat.le_of_lt part) (Nat.le_of_lt factor)) (by decide)
  rw [UInt64.toNat_mul, UInt64.toNat_ofNat_of_lt' small, UInt32.toNat_toUInt64,
    Nat.mod_eq_of_lt room]

theorem timesWords?_eq (d : Duration) (k : UInt32) :
    (d.timesWords? k).getD longest = d.times k.toNat := by
  have exact : (UInt64.ofNat d.nanos * k.toUInt64).toNat = d.nanos * k.toNat := toNat_nanos_mul d k
  have carried : (UInt64.ofNat d.nanos * k.toUInt64 / 1000000000).toNat =
      d.nanos * k.toNat / 1000000000 := by
    rw [UInt64.toNat_div, exact]
    rfl
  have kept : (UInt64.ofNat d.nanos * k.toUInt64 % 1000000000).toNat =
      d.nanos * k.toNat % 1000000000 := by
    rw [UInt64.toNat_mod, exact]
    rfl
  unfold timesWords? times
  dsimp only
  by_cases whole : d.seconds.toNat * k.toNat < 18446744073709551616
  · rw [word?_of_lt whole]
    simp only [Option.bind_eq_bind, Option.bind_some, UInt64.toNat_ofNat_of_lt' whole, carried]
    split
    · rename_i fits
      simp only [word?_of_lt fits, Option.bind_some, Option.pure_def, Option.getD_some, kept]
    · rename_i large
      rw [word?_of_le (Nat.not_lt.mp large)]
      rfl
  · -- The seconds alone are too many, and what is carried only adds to them.
    rw [word?_of_le (Nat.not_lt.mp whole), if_neg (by omega)]
    rfl

end Duration

namespace Config.StartupRetry

/-- The delay after an attempt, on machine words. -/
def backoffWords (r : StartupRetry) (attempt : UInt32) : Duration :=
  ((r.initialBackoff.timesWords? (1 <<< min attempt 16)).getD .longest).min r.maxBackoff

/-- The shifted bit stays within its word. -/
theorem toNat_shift (attempt : UInt32) :
    (1 <<< min attempt 16 : UInt32).toNat = 2 ^ min attempt.toNat 16 := by
  have few : min attempt.toNat 16 ≤ 16 := Nat.min_le_right ..
  have small : 2 ^ min attempt.toNat 16 < 2 ^ 32 :=
    Nat.pow_lt_pow_right (by decide) (by omega)
  have limit : (min attempt 16).toNat = min attempt.toNat 16 := UInt32.toNat_min ..
  have shift : min attempt.toNat 16 % 32 = min attempt.toNat 16 := Nat.mod_eq_of_lt (by omega)
  rw [UInt32.toNat_shiftLeft, limit, shift, UInt32.toNat_one, Nat.one_shiftLeft,
    Nat.mod_eq_of_lt small]

theorem backoffWords_eq (r : StartupRetry) (attempt : UInt32) :
    r.backoffWords attempt = r.backoff attempt.toNat := by
  rw [backoffWords, Duration.timesWords?_eq, toNat_shift]
  rfl

variable {m n : Nat}

theorem toNanos_backoff (r : StartupRetry) (n : Nat) :
    (r.backoff n).toNanos =
      min (r.initialBackoff.toNanos * 2 ^ min n 16) r.maxBackoff.toNanos := by
  have cap := r.maxBackoff.toNanos_le_longest
  rw [backoff, Duration.toNanos_min, Duration.toNanos_times, Nat.min_assoc, Nat.min_eq_right cap]
  rfl

theorem backoff_le (r : StartupRetry) (n : Nat) :
    (r.backoff n).toNanos ≤ r.maxBackoff.toNanos := by
  rw [toNanos_backoff]
  exact Nat.min_le_right ..

theorem backoff_mono (r : StartupRetry) (later : m ≤ n) :
    (r.backoff m).toNanos ≤ (r.backoff n).toNanos := by
  have power : 2 ^ min m 16 ≤ 2 ^ min n 16 := Nat.pow_le_pow_right (by decide) (by omega)
  have product := Nat.mul_le_mul_left r.initialBackoff.toNanos power
  rw [toNanos_backoff, toNanos_backoff]
  omega

/-- The sixteenth doubling is the last, which shows where it is not over the cap. -/
theorem backoff_ideal_iff (r : StartupRetry) (n : Nat) :
    (r.backoff n).toNanos = min (r.initialBackoff.toNanos * 2 ^ n) r.maxBackoff.toNanos ↔
      n ≤ 16 ∨ r.initialBackoff.toNanos = 0 ∨
        r.maxBackoff.toNanos ≤ r.initialBackoff.toNanos * 2 ^ 16 := by
  rw [toNanos_backoff]
  by_cases early : n ≤ 16
  · simp [early]
  · have late : 16 < n := Nat.lt_of_not_le early
    have power : 2 ^ 16 < 2 ^ n := Nat.pow_lt_pow_right (by decide) late
    rw [Nat.min_eq_right (Nat.le_of_lt late)]
    rcases Nat.eq_zero_or_pos r.initialBackoff.toNanos with none | some
    · simp [none]
    · have further := Nat.mul_lt_mul_of_pos_left power some
      omega

/-- The delays double from the first one on, sixteen times at most, and are capped. They are exact,
however long the two settings are; they never go down, and they are the delays that double for ever
just where the sixteenth doubling is not passed or does not matter. -/
theorem backoff_doubles (r : StartupRetry) :
    (∀ attempt : UInt32, r.backoffWords attempt = r.backoff attempt.toNat) ∧
    (∀ n, (r.backoff n).toNanos =
      min (r.initialBackoff.toNanos * 2 ^ min n 16) r.maxBackoff.toNanos) ∧
    (∀ n, (r.backoff n).toNanos ≤ r.maxBackoff.toNanos) ∧
    (∀ m n, m ≤ n → (r.backoff m).toNanos ≤ (r.backoff n).toNanos) ∧
    ∀ n, (r.backoff n).toNanos = min (r.initialBackoff.toNanos * 2 ^ n) r.maxBackoff.toNanos ↔
      n ≤ 16 ∨ r.initialBackoff.toNanos = 0 ∨
        r.maxBackoff.toNanos ≤ r.initialBackoff.toNanos * 2 ^ 16 :=
  ⟨r.backoffWords_eq, r.toNanos_backoff, r.backoff_le, fun _ _ => r.backoff_mono,
    r.backoff_ideal_iff⟩

/-- A first delay that saturates with the largest number of an attempt, and one that is a nanosecond
with a cap far away. -/
theorem backoff_doubles_extremes :
    let long : StartupRetry := ⟨50, ⟨9223372036854775808, 7, by decide⟩, .longest⟩
    let tick : StartupRetry := ⟨50, ⟨0, 1, by decide⟩, .ofSeconds 1⟩
    long.backoffWords 4294967295 = .longest ∧
    16 ≤ 17 ∧ (tick.backoff 16).toNanos ≤ (tick.backoff 17).toNanos ∧
    (tick.backoff 17).toNanos = 65536 ∧
    (tick.backoff 17).toNanos ≠
      min (tick.initialBackoff.toNanos * 2 ^ 17) tick.maxBackoff.toNanos := by
  intro long tick
  obtain ⟨words, _⟩ := backoff_doubles long
  obtain ⟨_, exact, _, rising, ideal⟩ := backoff_doubles tick
  refine ⟨(words _).trans (by decide), by decide, rising 16 17 (by decide), ?_, ?_⟩
  · exact (exact 17).trans (by decide +kernel)
  · rw [Ne, ideal]
    decide

end Config.StartupRetry
end ReloadProbe
