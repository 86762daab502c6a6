import Mathlib.Algebra.Order.Ring.Nat
import ReloadProbe.Proofs.Wire.VarInt

/-!
Variable byte integers by their bits. The numbers are told once more on words of 32 bits, where the
encoder shifts the bits out and the decoder puts them in place: no bit is lost at the upper end, and
none meets another. Main statement: encoder, table of widths and decoder agree on all numbers and on
all octets.
-/
namespace ReloadProbe.Wire.VarInt

/-- The octets of a number, with its bits shifted out from the lower end. -/
def octetsWords (n : UInt32) : Bytes :=
  let low := (n &&& 0x7F).toUInt8
  if n >>> 7 = 0 then [low] else (low ||| 0x80) :: octetsWords (n >>> 7)
termination_by n.toNat
decreasing_by
  rename_i more
  rw [← UInt32.toNat_inj, UInt32.toNat_shiftRight, Nat.shiftRight_eq_div_pow] at more
  rw [UInt32.toNat_shiftRight, Nat.shiftRight_eq_div_pow]
  simp only [UInt32.reduceToNat, Nat.reduceMod] at more ⊢
  omega

def encodeWords (n : UInt32) : Except WireError Bytes :=
  if 268435455 < n then .error (.remainingLengthTooLarge n.toNat) else .ok (octetsWords n)

/-- Reads on at an octet, with the bits of those before it in place. -/
def decodeWordsFrom (place : Nat) (gathered : UInt32) :
    Bytes → Except WireError (Option (UInt32 × Nat))
  | [] => .ok none
  | b :: bs =>
    let gathered := gathered ||| (b &&& 0x7F).toUInt32 <<< UInt32.ofNat (7 * place)
    if b &&& 0x80 = 0 then .ok (some (gathered, place + 1))
    else if place = 3 then .error .malformedVarInt
    else decodeWordsFrom (place + 1) gathered bs

def decodeWords (bs : Bytes) : Except WireError (Option (UInt32 × Nat)) := decodeWordsFrom 0 0 bs

section Bits

variable {b : UInt8} {place : Nat}

theorem topBit_table : ∀ i : Fin 256, UInt8.ofNat i &&& 0x80 = 0 ↔ i.val < 128 := by
  decide +kernel

/-- The top bit is what an octet has from 128 on. -/
theorem topBit_eq_zero : b &&& 0x80 = 0 ↔ b.toNat < 128 := by
  simpa using topBit_table ⟨b.toNat, b.toNat_lt⟩

theorem toNat_or_topBit (small : b.toNat < 128) : (b ||| 0x80).toNat = b.toNat + 128 := by
  have apart := Nat.two_pow_add_eq_or_of_lt (i := 7) small 1
  rw [UInt8.toNat_or, Nat.or_comm, Nat.add_comm]
  exact apart.symm

theorem toNat_lowBits (n : UInt32) : (n &&& 0x7F).toUInt8.toNat = n.toNat % 128 := by
  have low : (n &&& 0x7F).toNat = n.toNat % 128 := by
    rw [UInt32.toNat_and]
    exact Nat.and_two_pow_sub_one_eq_mod n.toNat 7
  rw [UInt32.toNat_toUInt8, low]
  omega

theorem toNat_shiftRight_seven (n : UInt32) : (n >>> 7).toNat = n.toNat / 128 := by
  rw [UInt32.toNat_shiftRight, Nat.shiftRight_eq_div_pow]
  rfl

/-- The bits of an octet, shifted to their place, stay within the word. -/
theorem toNat_placed (few : place ≤ 3) :
    ((b &&& 0x7F).toUInt32 <<< UInt32.ofNat (7 * place)).toNat =
      2 ^ (7 * place) * (b.toNat % 128) := by
  have low : (b &&& 0x7F).toUInt32.toNat = b.toNat % 128 := by
    rw [UInt8.toNat_toUInt32, UInt8.toNat_and]
    exact Nat.and_two_pow_sub_one_eq_mod b.toNat 7
  have shift : (UInt32.ofNat (7 * place)).toNat % 32 = 7 * place := by
    rw [UInt32.toNat_ofNat']
    omega
  have weight : 2 ^ (7 * place) ≤ 2 ^ 21 := Nat.pow_le_pow_right (by decide) (by omega)
  have room : 2 ^ (7 * place) * (b.toNat % 128) < 2 ^ 32 :=
    calc 2 ^ (7 * place) * (b.toNat % 128)
      _ ≤ 2 ^ 21 * (b.toNat % 128) := Nat.mul_le_mul_right _ weight
      _ < 2 ^ 32 := by omega
  rw [UInt32.toNat_shiftLeft, low, shift, Nat.shiftLeft_eq, Nat.mul_comm, Nat.mod_eq_of_lt room]

/-- The bits gathered before lie below those of the next octet. -/
theorem toNat_gathered {gathered : UInt32} (few : place ≤ 3)
    (below : gathered.toNat < 2 ^ (7 * place)) :
    (gathered ||| (b &&& 0x7F).toUInt32 <<< UInt32.ofNat (7 * place)).toNat =
      gathered.toNat + 2 ^ (7 * place) * (b.toNat % 128) := by
  rw [UInt32.toNat_or, toNat_placed few, Nat.or_comm, ← Nat.two_pow_add_eq_or_of_lt below,
    Nat.add_comm]

end Bits

theorem octetsWords_eq (n : UInt32) : octetsWords n = octets n.toNat := by
  have shifted (n : UInt32) : n >>> 7 = 0 ↔ n.toNat < 128 := by
    rw [← UInt32.toNat_inj, toNat_shiftRight_seven]
    exact Nat.div_eq_zero_iff_lt (by decide)
  have bound (n : UInt32) := n.toNat_lt
  induction n using octetsWords.induct with
  | case1 n small =>
    have below := (shifted n).mp small
    rw [octetsWords, if_pos small, octets_small below]
    refine congrArg ([·]) (UInt8.toNat_inj.mp ?_)
    rw [toNat_lowBits, UInt8.toNat_ofNat']
    omega
  | case2 n more ih =>
    have large := mt (shifted n).mpr more
    rw [octetsWords, if_neg more, octets_large large, ih, toNat_shiftRight_seven]
    refine congrArg (· :: _) (UInt8.toNat_inj.mp ?_)
    have low := toNat_lowBits n
    rw [toNat_or_topBit (by omega), low, UInt8.toNat_ofNat']
    omega

theorem encodeWords_eq (n : UInt32) : encodeWords n = encode n.toNat := by
  have same : 268435455 < n ↔ ¬ n.toNat ≤ limit := by
    rw [UInt32.lt_iff_toNat_lt]
    exact Nat.not_le.symm
  unfold encodeWords encode
  rw [octetsWords_eq]
  by_cases fits : n.toNat ≤ limit
  · rw [if_pos fits, if_neg (mt same.mp (not_not.mpr fits))]
  · rw [if_neg fits, if_pos (same.mpr fits)]

/-- What is gathered of some octets, and what the others write, make up the number. -/
theorem decodeWordsFrom_eq {place : Nat} {gathered : UInt32} (few : place ≤ 3)
    (below : gathered.toNat < 2 ^ (7 * place)) (bs : Bytes) :
    (decodeWordsFrom place gathered bs).map (Option.map (Prod.map UInt32.toNat id)) =
      (decodeWithin (3 - place) bs).map
        (Option.map fun (n, size) => (gathered.toNat + 2 ^ (7 * place) * n, place + size)) := by
  induction bs generalizing place gathered with
  | nil => simp [decodeWordsFrom, decodeWithin, Except.map]
  | cons b bs ih =>
    have value := toNat_gathered (b := b) few below
    have octet := b.toNat_lt
    rw [decodeWordsFrom]
    dsimp only
    by_cases final : b.toNat < 128
    · rw [if_pos (topBit_eq_zero.mpr final), decodeWithin_final final]
      rw [Nat.mod_eq_of_lt final] at value
      exact congrArg (fun n => Except.ok (some (n, place + 1))) value
    rw [if_neg (mt topBit_eq_zero.mp final)]
    by_cases last : place = 3
    · subst last
      simp [decodeWithin, final, Except.map]
    · obtain ⟨more, left⟩ : ∃ more, 3 - place = more + 1 := ⟨2 - place, by omega⟩
      have next : 3 - (place + 1) = more := by omega
      have weight : 2 ^ (7 * (place + 1)) = 2 ^ (7 * place) * 128 := Nat.pow_add 2 (7 * place) 7
      have bits : b.toNat % 128 = b.toNat - 128 := by omega
      rw [bits] at value
      have room : 2 ^ (7 * place) * (b.toNat - 128) ≤ 2 ^ (7 * place) * 127 :=
        Nat.mul_le_mul_left _ (by omega)
      rw [if_neg last, ih (by omega) (by omega), value, next, left,
        decodeWithin_more (Nat.not_lt.mp final)]
      rcases decodeWithin more bs with e | _ | ⟨n, size⟩
      · simp only [Except.map]
      · simp only [Except.map, Option.map_none]
      · have joined : gathered.toNat + 2 ^ (7 * place) * (b.toNat - 128) +
            2 ^ (7 * (place + 1)) * n =
              gathered.toNat + 2 ^ (7 * place) * (b.toNat - 128 + 128 * n) := by
          rw [weight, Nat.mul_assoc, Nat.mul_add, Nat.add_assoc]
        simp only [Except.map, Option.map_some, joined, Nat.add_assoc place, Nat.add_comm 1 size]

/-- The number gathered on a word is the number itself. -/
theorem decodeWords_eq (bs : Bytes) :
    (decodeWords bs).map (Option.map (Prod.map UInt32.toNat id)) = decode bs := by
  rw [decodeWords, decodeWordsFrom_eq (by decide) (by decide), decode]
  rcases decodeWithin (3 - 0) bs with e | _ | ⟨n, size⟩ <;> simp [Except.map]

section Exact

variable {bs : Bytes} {n size : Nat}

/-- Four octets that all announce another are malformed, and nothing else is. -/
theorem decode_eq_error {e : WireError} :
    decode bs = .error e ↔
      e = .malformedVarInt ∧ 4 ≤ bs.length ∧ ∀ b ∈ bs.take 4, 128 ≤ b.toNat :=
  decodeWithin_eq_error

/-- A number is there if one of the first four octets can be its last. -/
theorem exists_decode_eq_some :
    (∃ n size, decode bs = .ok (some (n, size))) ↔ ∃ b ∈ bs.take 4, b.toNat < 128 := by
  cases found : decode bs with
  | error e =>
    obtain ⟨_, _, continued⟩ := decode_eq_error.mp found
    simpa using continued
  | ok read =>
    cases read with
    | none =>
      obtain ⟨_, continued⟩ := decode_eq_none.mp found
      simpa using fun b member => continued b (List.mem_of_mem_take member)
    | some read =>
      refine iff_of_true ⟨read.1, read.2, rfl⟩ ?_
      by_contra! continued
      by_cases four : 4 ≤ bs.length
      · cases found.symm.trans (decode_eq_error.mpr ⟨rfl, four, continued⟩)
      · rw [List.take_of_length_le (by omega)] at continued
        cases found.symm.trans (decode_eq_none.mpr ⟨by omega, continued⟩)

/-- What a decoded number says about the octets that it was read from. -/
theorem spells_of_decode (h : decode bs = .ok (some (n, size))) :
    Spells (bs.take size) n ∧ (bs.take size).length = size ∧ size ≤ 4 := by
  obtain ⟨form, rest, rfl, rfl, four, spelled⟩ := decode_eq_some.mp h
  rw [List.take_left]
  exact ⟨spelled, rfl, four⟩

/-- Nothing behind the last octet of a number is looked at. -/
theorem decode_of_take_eq {other : Bytes} (h : decode bs = .ok (some (n, size)))
    (same : other.take size = bs.take size) : decode other = .ok (some (n, size)) := by
  obtain ⟨spelled, length, four⟩ := spells_of_decode h
  rw [← same] at spelled length
  exact decode_eq_some.mpr ⟨_, _, (List.take_append_drop size other).symm, length, four, spelled⟩

/-- A number is never read from fewer octets than it is written in, and from as many only if they
are those. -/
theorem width_le_size (h : decode bs = .ok (some (n, size))) :
    width n ≤ size ∧ (size = width n ↔ encode n = .ok (bs.take size)) := by
  obtain ⟨spelled, length, four⟩ := spells_of_decode h
  have bound := spelled.le_limit (by omega)
  have shortest := spelled.length_octets_le
  rw [encode_eq_ok, ← length_octets bound]
  refine ⟨by omega, fun same => ⟨bound, spelled.eq_octets (by omega)⟩, fun written => ?_⟩
  rw [← written.2, length]

end Exact

/-- Encoder, table of widths and decoder agree. Each number up to the limit is written in as many
octets as the table says, and read back whatever follows. Octets are malformed, cut off or a number
by which of the first four have the top bit; a number hangs only on the octets that it is read from,
and they are no fewer than the table says, and as many only if the encoder writes them. All this
holds of the same functions on words of 32 bits. -/
theorem codec_exact :
    (∀ n ≤ limit, ∀ suffix : Bytes, ∃ form, encode n = .ok form ∧ form.length = width n ∧
      1 ≤ form.length ∧ form.length ≤ 4 ∧
      decode (form ++ suffix) = .ok (some (n, form.length))) ∧
    (∀ bs : Bytes,
      (∀ e, decode bs = .error e ↔
        e = .malformedVarInt ∧ 4 ≤ bs.length ∧ ∀ b ∈ bs.take 4, 128 ≤ b.toNat) ∧
      (decode bs = .ok none ↔ bs.length < 4 ∧ ∀ b ∈ bs, 128 ≤ b.toNat) ∧
      ((∃ n size, decode bs = .ok (some (n, size))) ↔ ∃ b ∈ bs.take 4, b.toNat < 128) ∧
      ∀ n size, decode bs = .ok (some (n, size)) →
        n ≤ limit ∧ size ≤ bs.length ∧ Spells (bs.take size) n ∧
        (∀ other : Bytes, other.take size = bs.take size → decode other = .ok (some (n, size))) ∧
        width n ≤ size ∧ (size = width n ↔ encode n = .ok (bs.take size))) ∧
    (∀ n : UInt32, encodeWords n = encode n.toNat) ∧
    ∀ bs : Bytes, (decodeWords bs).map (Option.map (Prod.map UInt32.toNat id)) = decode bs := by
  refine ⟨fun n fits suffix => ?_, fun bs => ⟨fun e => decode_eq_error, ?_⟩, encodeWords_eq,
    decodeWords_eq⟩
  · have spelled := spells_octets n
    have four := length_octets_le_four.mpr fits
    exact ⟨octets n, encode_eq_ok.mpr ⟨fits, rfl⟩, length_octets fits, spelled.length_pos, four,
      spelled.decode four suffix⟩
  · refine ⟨decode_eq_none.trans (and_congr_left' Nat.lt_succ_iff.symm), exists_decode_eq_some,
      fun n size h => ?_⟩
    obtain ⟨spelled, length, four⟩ := spells_of_decode h
    exact ⟨spelled.le_limit (by omega), (decode_size h).2, spelled,
      fun other same => decode_of_take_eq h same, width_le_size h⟩

/-- The largest number with an octet behind it, and a number below 128 in three octets. -/
theorem codec_exact_overlong :
    limit ≤ limit ∧ decode [0xFF, 0xFF, 0xFF, 0x7F, 0x09] = .ok (some (limit, 4)) ∧
    decode [0x81, 0x80, 0x00] = .ok (some (1, 3)) ∧ [0x81, 0x80, 0x00, 0x09].take 3 =
      [0x81, 0x80, (0x00 : UInt8)] ∧ decode [0x81, 0x80, 0x00, 0x09] = .ok (some (1, 3)) ∧
    width 1 ≤ 3 ∧ encode 1 ≠ .ok [0x81, 0x80, 0x00] ∧
    (decodeWords [0xFF, 0xFF, 0xFF, 0x7F, 0x09]).map (Option.map (Prod.map UInt32.toNat id)) =
      .ok (some (limit, 4)) := by
  obtain ⟨writes, reads, _, words⟩ := codec_exact
  obtain ⟨form, written, _, _, _, back⟩ := writes limit (Nat.le_refl _) [0x09]
  have longest : encode limit = .ok [0xFF, 0xFF, 0xFF, 0x7F] := by decide +kernel
  cases longest.symm.trans written
  have overlong : decode [0x81, 0x80, 0x00] = .ok (some (1, 3)) := rfl
  obtain ⟨_, _, _, further, least, same⟩ := (reads _).2.2.2 _ _ overlong
  exact ⟨Nat.le_refl _, back, overlong, rfl, further _ rfl, least,
    mt same.mpr (by decide), (words _).trans back⟩

end ReloadProbe.Wire.VarInt
