import ReloadProbe.Proofs.Wire.VarInt
import ReloadProbe.Wire.Property

/-!
Readers as grammars: a reader succeeds exactly on octets that begin with a way to write its result,
and leaves what comes after that. Read from right to left these are round trips, read from left to
right they say what a decoder accepts.
-/
namespace ReloadProbe

namespace Bytes

theorem toNat_ofUInt16_eq (n : UInt16) : toNat (ofUInt16 n) = n.toNat := by
  have := n.toNat_lt
  simp only [toNat, ofUInt16, List.foldl_cons, List.foldl_nil, UInt8.toNat_ofNat']
  omega

theorem ofUInt16_toNat (a b : UInt8) : ofUInt16 (UInt16.ofNat (toNat [a, b])) = [a, b] := by
  have := a.toNat_lt
  have := b.toNat_lt
  have value : (UInt16.ofNat (toNat [a, b])).toNat = a.toNat * 256 + b.toNat := by
    simp only [toNat, List.foldl_cons, List.foldl_nil, UInt16.toNat_ofNat']
    omega
  simp only [ofUInt16, value, List.cons.injEq, and_true, ← UInt8.toNat_inj, UInt8.toNat_ofNat']
  omega

theorem ofUInt32_toNat (a b c d : UInt8) :
    ofUInt32 (UInt32.ofNat (toNat [a, b, c, d])) = [a, b, c, d] := by
  have := a.toNat_lt
  have := b.toNat_lt
  have := c.toNat_lt
  have := d.toNat_lt
  have value : (UInt32.ofNat (toNat [a, b, c, d])).toNat =
      ((a.toNat * 256 + b.toNat) * 256 + c.toNat) * 256 + d.toNat := by
    simp only [toNat, List.foldl_cons, List.foldl_nil, UInt32.toNat_ofNat']
    omega
  simp only [ofUInt32, value, List.cons.injEq, and_true, ← UInt8.toNat_inj, UInt8.toNat_ofNat']
  omega

end Bytes

namespace Wire.Read

variable {α β : Type} {bs left : Bytes}

/-- What a reader takes has one of the forms of its result. -/
def Reads (p : Read α) (form : α → Bytes → Prop) : Prop :=
  ∀ {bs : Bytes} {a : α} {left : Bytes}, p bs = (.ok a, left) →
    ∃ taken, form a taken ∧ bs = taken ++ left

theorem fst_eq_ok {p : Read α} {a : α} : (p bs).1 = .ok a ↔ ∃ left, p bs = (.ok a, left) := by
  constructor
  · intro h
    exact ⟨(p bs).2, Prod.ext h rfl⟩
  · rintro ⟨left, h⟩
    rw [h]

theorem bind_eq_ok {p : Read α} {f : α → Read β} {b : β} :
    (p >>= f) bs = (.ok b, left) ↔ ∃ a mid, p bs = (.ok a, mid) ∧ f a mid = (.ok b, left) := by
  rcases read : p bs with ⟨e | a, rest⟩
  · have failed : (p >>= f) bs = (.error e, rest) := by simp only [Bind.bind, read]
    simp [failed]
  · have further : (p >>= f) bs = f a rest := by simp only [Bind.bind, read]
    rw [further]
    constructor
    · exact fun h => ⟨a, rest, rfl, h⟩
    · rintro ⟨_, _, ⟨rfl, rfl⟩, h⟩
      exact h

theorem bind_of_ok {p : Read α} {f : α → Read β} {a : α} (read : p bs = (.ok a, left)) :
    (p >>= f) bs = f a left := by
  simp only [Bind.bind, read]

theorem bind_eq_error {p : Read α} {f : α → Read β} {e : WireError} :
    (p >>= f) bs = (.error e, left) ↔ p bs = (.error e, left) ∨
      ∃ a mid, p bs = (.ok a, mid) ∧ f a mid = (.error e, left) := by
  rcases read : p bs with ⟨fault | a, rest⟩
  · have failed : (p >>= f) bs = (.error fault, rest) := by simp only [Bind.bind, read]
    simp [failed]
  · rw [bind_of_ok read]
    constructor
    · exact fun h => .inr ⟨a, rest, rfl, h⟩
    · rintro (⟨⟨⟩⟩ | ⟨_, _, ⟨rfl, rfl⟩, h⟩)
      exact h

theorem pure_eq_ok {a b : α} : (pure a : Read α) bs = (.ok b, left) ↔ b = a ∧ left = bs := by
  show (Except.ok a, bs) = (.ok b, left) ↔ _
  simp only [Prod.mk.injEq, Except.ok.injEq, eq_comm]

theorem map_eq_ok {p : Read α} {f : α → β} {b : β} :
    (f <$> p) bs = (.ok b, left) ↔ ∃ a, p bs = (.ok a, left) ∧ b = f a := by
  refine bind_eq_ok.trans ⟨?_, ?_⟩
  · rintro ⟨a, mid, read, mapped⟩
    obtain ⟨rfl, rfl⟩ := pure_eq_ok.mp mapped
    exact ⟨a, read, rfl⟩
  · rintro ⟨a, read, rfl⟩
    exact ⟨a, left, read, rfl⟩

theorem map_eq_error {p : Read α} {f : α → β} {e : WireError} :
    (f <$> p) bs = (.error e, left) ↔ p bs = (.error e, left) := by
  refine bind_eq_error.trans ⟨?_, .inl⟩
  rintro (failed | ⟨_, _, _, ⟨⟩⟩)
  exact failed

theorem fail_ne_ok {e : WireError} {a : α} : (fail e : Read α) bs ≠ (.ok a, left) := by
  intro h
  cases h

theorem take_eq_ok {n : Nat} {taken : Bytes} :
    take n bs = (.ok taken, left) ↔ taken.length = n ∧ bs = taken ++ left := by
  unfold take
  constructor
  · intro h
    split at h
    · rename_i enough
      cases h
      exact ⟨List.length_take_of_le enough, (List.take_append_drop n bs).symm⟩
    · cases h
  · rintro ⟨rfl, rfl⟩
    simp

theorem take_eq_error {n : Nat} {e : WireError} :
    take n bs = (.error e, left) ↔ bs.length < n ∧ e = .truncated n bs.length ∧ left = bs := by
  unfold take
  split
  · rename_i enough
    simp [Nat.not_lt.mpr enough]
  · rename_i short
    simp [Nat.lt_of_not_le short, eq_comm]

theorem octet_eq_ok {b : UInt8} : octet bs = (.ok b, left) ↔ bs = b :: left := by
  refine bind_eq_ok.trans ⟨?_, ?_⟩
  · rintro ⟨taken, mid, took, told⟩
    obtain ⟨one, rfl⟩ := take_eq_ok.mp took
    obtain ⟨rfl, rfl⟩ := pure_eq_ok.mp told
    obtain ⟨a, rfl⟩ := List.length_eq_one_iff.mp one
    simp [Bytes.toNat]
  · rintro rfl
    refine ⟨[b], left, take_eq_ok.mpr ⟨rfl, rfl⟩, pure_eq_ok.mpr ⟨?_, rfl⟩⟩
    simp [Bytes.toNat]

theorem uint16_eq_ok {n : UInt16} :
    uint16 bs = (.ok n, left) ↔ bs = Bytes.ofUInt16 n ++ left := by
  refine bind_eq_ok.trans ⟨?_, ?_⟩
  · rintro ⟨taken, mid, took, told⟩
    obtain ⟨two, rfl⟩ := take_eq_ok.mp took
    obtain ⟨rfl, rfl⟩ := pure_eq_ok.mp told
    match taken, two with
    | [a, b], _ => rw [Bytes.ofUInt16_toNat]
  · rintro rfl
    exact ⟨Bytes.ofUInt16 n, left, take_eq_ok.mpr ⟨rfl, rfl⟩,
      pure_eq_ok.mpr ⟨(Bytes.toNat_ofUInt16 n).symm, rfl⟩⟩

theorem uint32_eq_ok {n : UInt32} :
    uint32 bs = (.ok n, left) ↔ bs = Bytes.ofUInt32 n ++ left := by
  refine bind_eq_ok.trans ⟨?_, ?_⟩
  · rintro ⟨taken, mid, took, told⟩
    obtain ⟨four, rfl⟩ := take_eq_ok.mp took
    obtain ⟨rfl, rfl⟩ := pure_eq_ok.mp told
    match taken, four with
    | [a, b, c, d], _ => rw [Bytes.ofUInt32_toNat]
  · rintro rfl
    exact ⟨Bytes.ofUInt32 n, left, take_eq_ok.mpr ⟨rfl, rfl⟩,
      pure_eq_ok.mpr ⟨(Bytes.toNat_ofUInt32 n).symm, rfl⟩⟩

theorem rest_eq_ok {taken : Bytes} : rest bs = (.ok taken, left) ↔ taken = bs ∧ left = [] := by
  show (Except.ok bs, []) = (.ok taken, left) ↔ _
  simp only [Prod.mk.injEq, Except.ok.injEq, eq_comm]

theorem varInt_eq_ok {n : Nat} :
    varInt bs = (.ok n, left) ↔
      ∃ form, VarInt.Spells form n ∧ form.length ≤ 4 ∧ bs = form ++ left := by
  unfold varInt
  constructor
  · intro h
    split at h
    · rename_i m size found
      cases h
      obtain ⟨form, rest, rfl, rfl, four, spelled⟩ := VarInt.decode_eq_some.mp found
      exact ⟨form, spelled, four, by rw [List.drop_left]⟩
    · cases h
    · cases h
  · rintro ⟨form, spelled, four, rfl⟩
    rw [spelled.decode four left]
    simp

end Wire.Read

namespace Wire

theorem binaryField_eq_ok {data field : Bytes} :
    binaryField data = .ok field ↔
      data.length ≤ 65535 ∧ field = Bytes.ofUInt16 (UInt16.ofNat data.length) ++ data := by
  unfold binaryField
  split
  · rename_i fits
    simp only [Except.ok.injEq, fits, true_and, eq_comm]
  · rename_i long
    simp only [reduceCtorEq, long, false_and]

namespace Read

variable {bs left : Bytes}

theorem binary_eq_ok_sized {data : Bytes} :
    binary bs = (.ok data, left) ↔
      ∃ n, bs = Bytes.ofUInt16 n ++ (data ++ left) ∧ data.length = n.toNat := by
  refine bind_eq_ok.trans ⟨?_, ?_⟩
  · rintro ⟨n, mid, length, took⟩
    obtain ⟨size, rfl⟩ := take_eq_ok.mp took
    exact ⟨n, uint16_eq_ok.mp length, size⟩
  · rintro ⟨n, joined, size⟩
    exact ⟨n, data ++ left, uint16_eq_ok.mpr joined, take_eq_ok.mpr ⟨size, rfl⟩⟩

theorem binary_eq_ok {data : Bytes} :
    binary bs = (.ok data, left) ↔ ∃ field, binaryField data = .ok field ∧ bs = field ++ left := by
  refine binary_eq_ok_sized.trans ⟨?_, ?_⟩
  · rintro ⟨n, rfl, size⟩
    refine ⟨Bytes.ofUInt16 n ++ data, binaryField_eq_ok.mpr ⟨?_, ?_⟩, by rw [List.append_assoc]⟩
    · have := n.toNat_lt
      omega
    · rw [size, UInt16.ofNat_toNat]
  · rintro ⟨field, written, rfl⟩
    obtain ⟨fits, rfl⟩ := binaryField_eq_ok.mp written
    refine ⟨UInt16.ofNat data.length, by rw [List.append_assoc], ?_⟩
    rw [UInt16.toNat_ofNat']
    omega

theorem text_eq_ok {s : String} :
    text bs = (.ok s, left) ↔ ∃ field, textField s = .ok field ∧ bs = field ++ left := by
  refine bind_eq_ok.trans ⟨?_, ?_⟩
  · rintro ⟨data, mid, read, decoded⟩
    obtain ⟨field, written, rfl⟩ := binary_eq_ok.mp read
    cases known : Utf8.decode? data with
    | some s' =>
      rw [known] at decoded
      obtain ⟨rfl, rfl⟩ := pure_eq_ok.mp decoded
      exact ⟨field, by rw [textField, Utf8.encode_of_decode? known, written], rfl⟩
    | none =>
      rw [known] at decoded
      exact absurd decoded fail_ne_ok
  · rintro ⟨field, written, rfl⟩
    refine ⟨Utf8.encode s, left, binary_eq_ok.mpr ⟨field, written, rfl⟩, ?_⟩
    rw [Utf8.decode?_encode]
    rfl

end Read
end Wire
end ReloadProbe
