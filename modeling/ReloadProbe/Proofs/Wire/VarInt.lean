import ReloadProbe.Wire.VarInt

/-!
Variable byte integers as a grammar. `Spells` has all the ways to write a number, of which the
decoder takes those of at most four octets and the encoder writes the shortest; no other way is as
short.
-/
namespace ReloadProbe.Wire.VarInt

/-- Octets that write a number, seven bits each and the least significant first. -/
inductive Spells : Bytes → Nat → Prop where
  | last {b : UInt8} (final : b.toNat < 128) : Spells [b] b.toNat
  | more {b : UInt8} {bs : Bytes} {n : Nat} (continued : 128 ≤ b.toNat) (rest : Spells bs n) :
      Spells (b :: bs) (b.toNat - 128 + 128 * n)

theorem octets_small {n : Nat} (small : n < 128) : octets n = [UInt8.ofNat n] := by
  rw [octets, if_pos small]

theorem octets_large {n : Nat} (large : ¬ n < 128) :
    octets n = UInt8.ofNat (n % 128 + 128) :: octets (n / 128) := by
  rw [octets, if_neg large]

theorem spells_octets (n : Nat) : Spells (octets n) n := by
  induction n using octets.induct with
  | case1 n small =>
    have same : (UInt8.ofNat n).toNat = n := by rw [UInt8.toNat_ofNat']; omega
    rw [octets_small small]
    have last : Spells [UInt8.ofNat n] (UInt8.ofNat n).toNat := .last (by omega)
    rwa [same] at last
  | case2 n large ih =>
    have bits : (UInt8.ofNat (n % 128 + 128)).toNat = n % 128 + 128 := by
      rw [UInt8.toNat_ofNat']; omega
    rw [octets_large large]
    have whole := Spells.more (b := UInt8.ofNat (n % 128 + 128)) (by omega) ih
    have value : n % 128 + 128 - 128 + 128 * (n / 128) = n := by omega
    rwa [bits, value] at whole

theorem Spells.length_pos {bs : Bytes} {n : Nat} (h : Spells bs n) : 0 < bs.length := by
  cases h <;> simp

/-- No way to write a number is shorter than that of the encoder. -/
theorem Spells.length_octets_le {bs : Bytes} {n : Nat} (h : Spells bs n) :
    (octets n).length ≤ bs.length := by
  induction h with
  | last final =>
    rw [octets_small final]
    exact Nat.le_refl 1
  | @more b bs n continued rest ih =>
    by_cases small : b.toNat - 128 + 128 * n < 128
    · rw [octets_small small]
      simp
    · have high : (b.toNat - 128 + 128 * n) / 128 = n := by have := b.toNat_lt; omega
      rw [octets_large small, high]
      simp only [List.length_cons]
      omega

/-- The shortest way to write a number is unique. -/
theorem Spells.eq_octets {bs : Bytes} {n : Nat} (h : Spells bs n)
    (short : bs.length ≤ (octets n).length) : bs = octets n := by
  induction h with
  | @last b final => rw [octets_small final, UInt8.ofNat_toNat]
  | @more b bs n continued rest ih =>
    have := b.toNat_lt
    have := rest.length_pos
    by_cases small : b.toNat - 128 + 128 * n < 128
    · -- One octet would do, and here are two at least.
      rw [octets_small small] at short
      simp only [List.length_cons, List.length_nil] at short
      omega
    · have high : (b.toNat - 128 + 128 * n) / 128 = n := by omega
      have low : (b.toNat - 128 + 128 * n) % 128 + 128 = b.toNat := by omega
      rw [octets_large small, high] at short
      simp only [List.length_cons] at short
      rw [octets_large small, high, low, UInt8.ofNat_toNat, ← ih (by omega)]

theorem length_octets_mono {m n : Nat} (h : m ≤ n) : (octets m).length ≤ (octets n).length := by
  induction m using octets.induct generalizing n with
  | case1 m small =>
    rw [octets_small small]
    exact (spells_octets n).length_pos
  | case2 m large ih =>
    rw [octets_large large, octets_large (by omega : ¬ n < 128)]
    have := ih (Nat.div_le_div_right (c := 128) h)
    simp only [List.length_cons]
    omega

theorem length_octets_le_four {n : Nat} : (octets n).length ≤ 4 ↔ n ≤ limit := by
  have one : 0 < (octets (n / 128 / 128 / 128 / 128)).length := (spells_octets _).length_pos
  rw [limit]
  by_cases h1 : n < 128
  · simp only [octets_small h1, List.length_cons, List.length_nil]
    omega
  by_cases h2 : n / 128 < 128
  · simp only [octets_large h1, octets_small h2, List.length_cons, List.length_nil]
    omega
  by_cases h3 : n / 128 / 128 < 128
  · simp only [octets_large h1, octets_large h2, octets_small h3, List.length_cons,
      List.length_nil]
    omega
  by_cases h4 : n / 128 / 128 / 128 < 128
  · simp only [octets_large h1, octets_large h2, octets_large h3, octets_small h4,
      List.length_cons, List.length_nil]
    omega
  · simp only [octets_large h1, octets_large h2, octets_large h3, octets_large h4,
      List.length_cons]
    omega

theorem width_le_four (n : Nat) : width n ≤ 4 := by
  unfold width
  split
  · decide
  split
  · decide
  split <;> decide

theorem length_octets {n : Nat} (h : n ≤ limit) : (octets n).length = width n := by
  rw [limit] at h
  unfold width
  split
  · rename_i h1
    simp only [octets_small h1, List.length_cons, List.length_nil]
  split
  · rename_i h1 h2
    simp only [octets_large h1, octets_small (by omega : n / 128 < 128), List.length_cons,
      List.length_nil]
  split
  · rename_i h1 h2 h3
    simp only [octets_large h1, octets_large (by omega : ¬ n / 128 < 128),
      octets_small (by omega : n / 128 / 128 < 128), List.length_cons, List.length_nil]
  · rename_i h1 h2 h3
    simp only [octets_large h1, octets_large (by omega : ¬ n / 128 < 128),
      octets_large (by omega : ¬ n / 128 / 128 < 128),
      octets_small (by omega : n / 128 / 128 / 128 < 128), List.length_cons, List.length_nil]

theorem encode_eq_ok {n : Nat} {bs : Bytes} : encode n = .ok bs ↔ n ≤ limit ∧ bs = octets n := by
  unfold encode
  split
  · rename_i fits
    simp only [Except.ok.injEq, fits, true_and, eq_comm]
  · rename_i large
    simp only [reduceCtorEq, large, false_and]

theorem encode_eq_error {n : Nat} {e : WireError} :
    encode n = .error e ↔ limit < n ∧ .remainingLengthTooLarge n = e := by
  unfold encode
  split
  · rename_i fits
    simp only [reduceCtorEq, Nat.not_lt.mpr fits, false_and]
  · rename_i large
    simp only [Except.error.injEq, Nat.not_le.mp large, true_and]

theorem Spells.le_limit {bs : Bytes} {n : Nat} (h : Spells bs n) (four : bs.length ≤ 4) :
    n ≤ limit :=
  length_octets_le_four.mp (Nat.le_trans h.length_octets_le four)

theorem decodeWithin_final {more : Nat} {b : UInt8} {bs : Bytes} (final : b.toNat < 128) :
    decodeWithin more (b :: bs) = .ok (some (b.toNat, 1)) := by
  unfold decodeWithin
  exact if_pos final

theorem decodeWithin_more {more : Nat} {b : UInt8} {bs : Bytes} (continued : 128 ≤ b.toNat) :
    decodeWithin (more + 1) (b :: bs) = (decodeWithin more bs).map
      (Option.map fun (n, size) => (b.toNat - 128 + 128 * n, size + 1)) := by
  rw [decodeWithin, if_neg (Nat.not_lt.mpr continued)]
  rcases decodeWithin more bs with e | _ | ⟨n, size⟩ <;> rfl

theorem decodeWithin_continued {more : Nat} {b : UInt8} {bs : Bytes} {n size : Nat}
    (continued : 128 ≤ b.toNat) :
    decodeWithin (more + 1) (b :: bs) = .ok (some (n, size)) ↔
      ∃ m k, decodeWithin more bs = .ok (some (m, k)) ∧ n = b.toNat - 128 + 128 * m ∧
        size = k + 1 := by
  rw [decodeWithin_more continued]
  rcases decodeWithin more bs with e | _ | ⟨m, k⟩
  · simp [Except.map]
  · simp [Except.map]
  · simp only [Except.map, Option.map_some, Except.ok.injEq, Option.some.injEq, Prod.mk.injEq]
    constructor
    · rintro ⟨rfl, rfl⟩
      exact ⟨m, k, ⟨rfl, rfl⟩, rfl, rfl⟩
    · rintro ⟨_, _, ⟨rfl, rfl⟩, rfl, rfl⟩
      exact ⟨rfl, rfl⟩

theorem decodeWithin_eq_some {more : Nat} {bs : Bytes} {n size : Nat} :
    decodeWithin more bs = .ok (some (n, size)) ↔
      ∃ form rest, bs = form ++ rest ∧ form.length = size ∧ size ≤ more + 1 ∧ Spells form n := by
  constructor
  · intro h
    induction bs generalizing more n size with
    | nil => simp [decodeWithin] at h
    | cons b bs ih =>
      by_cases final : b.toNat < 128
      · rw [decodeWithin_final final] at h
        cases h
        exact ⟨[b], bs, rfl, rfl, Nat.le_add_left _ _, .last final⟩
      · cases more with
        | zero => simp [decodeWithin, final] at h
        | succ more =>
          obtain ⟨m, k, inner, rfl, rfl⟩ := (decodeWithin_continued (Nat.not_lt.mp final)).mp h
          obtain ⟨form, rest, rfl, length, few, spelled⟩ := ih inner
          refine ⟨b :: form, rest, rfl, ?_, by omega, .more (Nat.not_lt.mp final) spelled⟩
          rw [List.length_cons, length]
  · rintro ⟨form, rest, rfl, rfl, few, spelled⟩
    induction spelled generalizing more with
    | last final => exact decodeWithin_final final
    | @more b bs n continued spelled ih =>
      have := spelled.length_pos
      simp only [List.length_cons] at few
      obtain ⟨fewer, rfl⟩ : ∃ fewer, more = fewer + 1 := ⟨more - 1, by omega⟩
      exact (decodeWithin_continued continued).mpr ⟨n, _, ih (by omega), rfl, rfl⟩

theorem decode_eq_some {bs : Bytes} {n size : Nat} :
    decode bs = .ok (some (n, size)) ↔
      ∃ form rest, bs = form ++ rest ∧ form.length = size ∧ size ≤ 4 ∧ Spells form n :=
  decodeWithin_eq_some

theorem Spells.decode {form : Bytes} {n : Nat} (h : Spells form n) (four : form.length ≤ 4)
    (rest : Bytes) : VarInt.decode (form ++ rest) = .ok (some (n, form.length)) :=
  decode_eq_some.mpr ⟨form, rest, rfl, rfl, four, h⟩

theorem decodeWithin_eq_error {more : Nat} {bs : Bytes} {e : WireError} :
    decodeWithin more bs = .error e ↔
      e = .malformedVarInt ∧ more < bs.length ∧ ∀ b ∈ bs.take (more + 1), 128 ≤ b.toNat := by
  induction bs generalizing more with
  | nil => simp [decodeWithin]
  | cons b bs ih =>
    by_cases final : b.toNat < 128
    · rw [decodeWithin_final final]
      simp [Nat.not_le.mpr final]
    · have continued := Nat.not_lt.mp final
      cases more with
      | zero => simp [decodeWithin, final, continued, eq_comm]
      | succ more =>
        have same : decodeWithin (more + 1) (b :: bs) = .error e ↔
            decodeWithin more bs = .error e := by
          rw [decodeWithin_more continued]
          rcases decodeWithin more bs with e | _ | read <;> simp [Except.map]
        rw [same, ih]
        simp [continued]

theorem decodeWithin_eq_none {more : Nat} {bs : Bytes} :
    decodeWithin more bs = .ok none ↔ bs.length ≤ more ∧ ∀ b ∈ bs, 128 ≤ b.toNat := by
  induction bs generalizing more with
  | nil => simp [decodeWithin]
  | cons b bs ih =>
    by_cases final : b.toNat < 128
    · rw [decodeWithin_final final]
      simp [Nat.not_le.mpr final]
    · have continued := Nat.not_lt.mp final
      cases more with
      | zero => simp [decodeWithin, final]
      | succ more =>
        have same : decodeWithin (more + 1) (b :: bs) = .ok none ↔
            decodeWithin more bs = .ok none := by
          rw [decodeWithin_more continued]
          rcases decodeWithin more bs with e | _ | read <;> simp [Except.map]
        rw [same, ih]
        simp [continued]

/-- Octets in which a number does not end, few enough for it to go on. -/
theorem decode_eq_none {bs : Bytes} :
    decode bs = .ok none ↔ bs.length ≤ 3 ∧ ∀ b ∈ bs, 128 ≤ b.toNat := decodeWithin_eq_none

/-- Where a number ends does not depend on what follows it. -/
theorem Spells.append_inj {form form' rest rest' : Bytes} {m n : Nat} (h : Spells form m)
    (h' : Spells form' n) (four : form.length ≤ 4) (four' : form'.length ≤ 4)
    (same : form ++ rest = form' ++ rest') : form = form' ∧ rest = rest' := by
  have here := h.decode four rest
  have there := h'.decode four' rest'
  rw [same, there] at here
  simp only [Except.ok.injEq, Option.some.injEq, Prod.mk.injEq] at here
  exact List.append_inj same here.2.symm

/-- Four octets that all announce another are found out whatever follows them. -/
theorem decode_append_error {bs : Bytes} {e : WireError} (h : decode bs = .error e) (t : Bytes) :
    decode (bs ++ t) = .error e := by
  obtain ⟨rfl, four, continued⟩ := decodeWithin_eq_error.mp h
  refine decodeWithin_eq_error.mpr ⟨rfl, ?_, ?_⟩
  · rw [List.length_append]
    omega
  · rwa [List.take_append_of_le_length four]

/-- The number at the start of `bs` is written in as few octets as can say it. -/
def Minimal (bs : Bytes) : Prop :=
  ∃ n size, decode bs = .ok (some (n, size)) ∧
    ∀ others k, decode others = .ok (some (n, k)) → size ≤ k

theorem Spells.minimal_iff {form : Bytes} {n : Nat} (h : Spells form n) (four : form.length ≤ 4)
    (rest : Bytes) : Minimal (form ++ rest) ↔ form = octets n := by
  have here := h.decode four rest
  have best := spells_octets n
  constructor
  · rintro ⟨m, size, found, least⟩
    cases here.symm.trans found
    have shortest := best.decode (Nat.le_trans h.length_octets_le four) []
    exact h.eq_octets (least _ _ shortest)
  · rintro rfl
    refine ⟨n, _, here, ?_⟩
    intro others k found
    obtain ⟨form, rest, _, rfl, _, spelled⟩ := decode_eq_some.mp found
    exact spelled.length_octets_le

end ReloadProbe.Wire.VarInt
