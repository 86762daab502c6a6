import ReloadProbe.Text.Utf8

/-!
Octets read lossily. An octet below 128 is a character of its own, also in the middle of a sequence
that it cuts off, and no sequence of several octets writes a character below 128; so the line feeds
of the text are those of the octets.
-/
namespace ReloadProbe.Utf8

variable {b c : UInt8} {bs : Bytes} {l : Lead} {n : Nat}

theorem ofNat_eq_lineFeed : Char.ofNat n = '\n' ↔ n = 10 := by
  refine ⟨fun same => ?_, fun same => by rw [same]⟩
  have code := congrArg Char.toNat same
  by_cases valid : n.isValidChar
  · rw [Char.ofNat, dif_pos valid] at code
    exact code
  · rw [Char.ofNat, dif_neg valid] at code
    cases code

theorem ofNat_toNat_eq_lineFeed : Char.ofNat b.toNat = '\n' ↔ b = 10 := by
  rw [ofNat_eq_lineFeed, ← UInt8.toNat_inj]
  rfl

/-- What follows a leading octet is not below 128, and with the bits of both there is a code that
is not either, or two bits at least and more to come. -/
theorem lead?_bounds (h : lead? b = some l) (low : l.low ≤ c) :
    128 ≤ c.toNat ∧ (128 ≤ l.bits * 64 + (c.toNat - 0x80) ∨
      0 < l.further ∧ 2 ≤ l.bits * 64 + (c.toNat - 0x80)) := by
  rw [UInt8.le_iff_toNat_le] at low
  unfold lead? at h
  simp only [UInt8.le_iff_toNat_le] at h
  repeat' split at h
  all_goals
    cases h <;> simp only [UInt8.reduceToNat] at * <;> omega

theorem continuation_bounds {count bits : Nat} (h : (continuation count bits bs).1 = some n) :
    bits ≤ n ∧ (0 < count → bits * 64 ≤ n) := by
  fun_induction continuation count bits bs with
  | case1 => cases h; omega
  | case2 count bits b bs range code taken rest ih =>
    rw [rest] at ih
    have := ih h
    omega
  | case3 | case4 => cases h

theorem lineFeed_not_mem_continuation (count bits : Nat) (bs : Bytes) :
    10 ∉ bs.take (continuation count bits bs).2 := by
  fun_induction continuation count bits bs with
  | case1 | case3 | case4 => simp
  | case2 count bits b bs range code taken rest ih =>
    rw [rest] at ih
    rw [List.take_succ_cons, List.mem_cons, not_or]
    refine ⟨?_, ih⟩
    rintro rfl
    exact absurd range.1 (by decide)

/-- A code of several octets is not below 128. -/
theorem follow_code (lead : lead? b = some l) (h : (l.follow bs).1 = some n) : 128 ≤ n := by
  cases bs with
  | nil => cases h
  | cons c bs =>
    rw [Lead.follow] at h
    split at h
    · rename_i range
      have first := lead?_bounds lead range.1
      have more := continuation_bounds h
      omega
    · cases h

theorem lineFeed_not_mem_follow (lead : lead? b = some l) (bs : Bytes) :
    10 ∉ bs.take (l.follow bs).2 := by
  cases bs with
  | nil => simp
  | cons c bs =>
    rw [Lead.follow]
    split
    · rename_i range
      have first := lead?_bounds lead range.1
      rw [List.take_succ_cons, List.mem_cons, not_or]
      refine ⟨?_, lineFeed_not_mem_continuation _ _ bs⟩
      rintro rfl
      exact absurd first.1 (by decide)
    · simp

theorem count_drop_of_not_mem {k : Nat} (absent : c ∉ bs.take k) :
    (bs.drop k).count c = bs.count c := by
  have parts := congrArg (List.count c) (List.take_append_drop k bs)
  rwa [List.count_append, List.count_eq_zero.mpr absent, Nat.zero_add] at parts

/-- A lossy text has as many line feeds as there are octets of a line feed. -/
theorem count_lineFeed_lossy (bs : Bytes) : (lossy bs).toList.count '\n' = bs.count 10 := by
  have other {b : UInt8} (high : ¬ b < 0x80) : b ≠ 10 := by
    rintro rfl
    exact high (by decide)
  have replaced : '\uFFFD' ≠ '\n' := by decide
  rw [lossy, String.toList_ofList]
  fun_induction pieces bs with
  | case1 => rfl
  | case2 b bs ascii ih =>
    rw [List.map_cons, List.count_cons, List.count_cons, ih]
    simp only [beq_iff_eq, ofNat_toNat_eq_lineFeed]
  | case3 b bs high bad ih =>
    rw [List.map_cons, List.count_cons_of_ne, ih, List.count_cons_of_ne (other high)]
    exact replaced
  | case4 b bs high l lead code taken followed piece ih =>
    have absent := lineFeed_not_mem_follow lead bs
    rw [followed] at absent
    rw [List.map_cons, List.count_cons_of_ne, ih, count_drop_of_not_mem absent,
      List.count_cons_of_ne (other high)]
    cases code with
    | none => exact replaced
    | some n =>
      have large := follow_code lead (congrArg Prod.fst followed)
      rw [Ne, ofNat_eq_lineFeed]
      omega

end ReloadProbe.Utf8
