import ReloadProbe.Text.Hex

/-!
Hexadecimal texts read back. Every digit is one of sixteen, so nothing in a dump is taken for what
stands around it.
-/
namespace ReloadProbe.Hex

/-- A digit is one of the base. -/
theorem exists_digitChar {base n : Nat} {c : Char} (two : 1 < base)
    (member : c ∈ Nat.toDigits base n) : ∃ d < base, c = Nat.digitChar d := by
  induction n using Nat.strongRecOn with
  | ind n ih =>
    rw [Nat.toDigits_eq_if two] at member
    split at member
    · rename_i small
      exact ⟨n, small, List.mem_singleton.mp member⟩
    · rename_i large
      have shorter : n / base < n := Nat.div_lt_self (by omega) two
      rcases List.mem_append.mp member with front | last
      · exact ih _ shorter front
      · exact ⟨n % base, Nat.mod_lt _ (by omega), List.mem_singleton.mp last⟩

theorem exists_digitChar_of_mem_lower {width n : Nat} {c : Char}
    (member : c ∈ (lower width n).toList) : ∃ d < 16, c = Nat.digitChar d := by
  rw [lower, String.toList_ofList, List.mem_append] at member
  rcases member with zero | digit
  · exact ⟨0, by decide, List.eq_of_mem_replicate zero⟩
  · exact exists_digitChar (by decide) digit

theorem digit?_digitChar : ∀ d < 16, digit? (Nat.digitChar d) = some d := by decide

theorem digit?_of_mem_lower {width n : Nat} {c : Char} (member : c ∈ (lower width n).toList) :
    ∃ d, digit? c = some d := by
  obtain ⟨d, small, rfl⟩ := exists_digitChar_of_mem_lower member
  exact ⟨d, digit?_digitChar d small⟩

/-- An octet is two digits. -/
theorem lower_octet (b : UInt8) :
    (lower 2 b.toNat).toList = [Nat.digitChar (b.toNat / 16), Nat.digitChar (b.toNat % 16)] := by
  have bound := b.toNat_lt
  rw [lower, String.toList_ofList, Nat.toDigits_eq_if (by decide)]
  split
  · rename_i small
    rw [Nat.div_eq_of_lt small, Nat.mod_eq_of_lt small]
    rfl
  · rw [Nat.toDigits_of_lt_base (by omega)]
    rfl

theorem packed_cons (b : UInt8) (bs : Bytes) :
    (packed (b :: bs)).toList = (lower 2 b.toNat).toList ++ (packed bs).toList := by
  simp [packed]

theorem octets?_packed (bs : Bytes) : octets? (packed bs).toList = some bs := by
  induction bs with
  | nil => rfl
  | cons b bs ih =>
    have bound := b.toNat_lt
    have whole : b.toNat / 16 * 16 + b.toNat % 16 = b.toNat := by omega
    rw [packed_cons, lower_octet]
    simp only [List.cons_append, List.nil_append, octets?, ih,
      digit?_digitChar (b.toNat / 16) (by omega), digit?_digitChar (b.toNat % 16) (by omega),
      Option.bind_eq_bind, Option.bind_some, Option.pure_def, whole, UInt8.ofNat_toNat]

theorem spaced_singleton (b : UInt8) : spaced [b] = lower 2 b.toNat := String.intercalate_singleton

theorem spaced_cons_cons (b c : UInt8) (bs : Bytes) :
    spaced (b :: c :: bs) = lower 2 b.toNat ++ " " ++ spaced (c :: bs) :=
  String.intercalate_cons_cons

theorem digit?_of_mem_spaced {bs : Bytes} {c : Char} (member : c ∈ (spaced bs).toList) :
    c = ' ' ∨ ∃ d, digit? c = some d := by
  induction bs with
  | nil => cases member
  | cons b bs ih =>
    cases bs with
    | nil => exact .inr (digit?_of_mem_lower (spaced_singleton b ▸ member))
    | cons b' bs =>
      rw [spaced_cons_cons, String.toList_append, String.toList_append, List.mem_append,
        List.mem_append] at member
      rcases member with (digit | space) | later
      · exact .inr (digit?_of_mem_lower digit)
      · exact .inl (List.mem_singleton.mp space)
      · exact ih later

/-- What is neither a digit nor a space does not stand in a dump. -/
theorem not_mem_spaced {bs : Bytes} {c : Char} (space : c ≠ ' ') (other : digit? c = none) :
    c ∉ (spaced bs).toList := by
  intro member
  rcases digit?_of_mem_spaced member with same | ⟨d, digit⟩
  · exact space same
  · cases digit.symm.trans other

theorem filter_lower (width n : Nat) :
    (lower width n).toList.filter (· ≠ ' ') = (lower width n).toList := by
  refine List.filter_eq_self.mpr fun c member => decide_eq_true fun space => ?_
  obtain ⟨d, digit⟩ := digit?_of_mem_lower member
  rw [space] at digit
  cases digit

theorem filter_spaced (bs : Bytes) :
    (spaced bs).toList.filter (· ≠ ' ') = (packed bs).toList := by
  induction bs with
  | nil => rfl
  | cons b bs ih =>
    cases bs with
    | nil =>
      rw [spaced_singleton, filter_lower, packed_cons]
      exact (List.append_nil _).symm
    | cons b' bs =>
      rw [spaced_cons_cons, String.toList_append, String.toList_append, List.filter_append,
        List.filter_append, filter_lower, ih, packed_cons b]
      simp

theorem octets?_spaced (bs : Bytes) :
    octets? ((spaced bs).toList.filter (· ≠ ' ')) = some bs := by
  rw [filter_spaced, octets?_packed]

end ReloadProbe.Hex
