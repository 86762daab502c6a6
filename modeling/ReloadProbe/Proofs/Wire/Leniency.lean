import ReloadProbe.Proofs.Wire.Canonical

/-!
Writing a CONNACK again. Its decoder looks at the upper half of the first octet and at the lowest of
the flags only, takes lengths in more octets than they need, any octet but zero for truth, a body
without properties in version 5, and octets after the fields. What it takes can always be written.
The encoder does none of this, so a frame is written as it was read only if it did not either.
-/
namespace ReloadProbe.Wire.ConnAck

open Publish (announced encodeBlock_again)
open VarInt (Spells)

/-- A body of which every field is as the encoder writes it, with nothing after them. -/
structure Exact (version : Version) (body : Bytes) : Prop where
  flags : body.head? = some 0 ∨ body.head? = some 1
  ended : (readBody version body).2 = []
  properties : version.hasProperties → body.drop 2 ≠ [] ∧ VarInt.Minimal (body.drop 2) ∧
    Property.Plain (announced (body.drop 2))

/-- The first frame of `bs` is as the encoder writes it, apart from its first octet. -/
structure Tidy (version : Version) (bs : Bytes) : Prop where
  remaining : VarInt.Minimal bs.tail
  body : ∀ first body, Frame.split bs = .ok (first, body) → Exact version body

variable {c : ConnAck} {version : Version} {tail left block : Bytes} {properties : List Property}

theorem readProperties_leaves :
    readProperties version tail = (.ok properties, left) ↔
      if version.hasProperties ∧ tail ≠ [] then
        ∃ form block, Spells form block.length ∧ form.length ≤ 4 ∧
          Property.Block block properties ∧ tail = form ++ (block ++ left)
      else properties = [] ∧ left = tail := by
  unfold readProperties
  by_cases present : version.hasProperties ∧ tail ≠ []
  · have asked : (version.hasProperties && !tail.isEmpty) = true := by simpa using present
    rw [if_pos present, if_pos asked]
    exact Property.readBlock_eq_ok
  · have absent : ¬ (version.hasProperties && !tail.isEmpty) = true := by simpa using present
    rw [if_neg present, if_neg absent]
    simp only [Prod.mk.injEq, Except.ok.injEq, eq_comm]

/-- What a body leaves unread is what the reader of its properties leaves. -/
theorem readBody_leaves (flags reasonCode : UInt8)
    (read : readProperties version tail = (.ok properties, left)) :
    (readBody version (flags :: reasonCode :: tail)).2 = left := by
  have whole : readBody version (flags :: reasonCode :: tail) =
      (.ok { sessionPresent := flags.toNat % 2 = 1, reasonCode, version, properties }, left) := by
    rw [readBody_eq]
    refine Read.bind_eq_ok.mpr ⟨flags, _, Read.octet_eq_ok.mpr rfl, ?_⟩
    refine Read.bind_eq_ok.mpr ⟨reasonCode, tail, Read.octet_eq_ok.mpr rfl, ?_⟩
    exact Read.bind_eq_ok.mpr ⟨properties, left, read, rfl⟩
  rw [whole]

/-- Properties that were read are written again, and as they were if a block of them was there, as
the encoder writes it and with nothing after it. -/
theorem encodeFor_again (read : readProperties version tail = (.ok properties, left)) :
    ∃ block, Property.encodeFor version properties = .ok block ∧
      block.length ≤ max 1 tail.length ∧
      (block = tail ↔ left = [] ∧ (version.hasProperties → tail ≠ [] ∧ VarInt.Minimal tail ∧
        Property.Plain (announced tail))) := by
  rw [readProperties_leaves] at read
  unfold Property.encodeFor
  by_cases five : version.hasProperties = true
  · rw [if_pos five]
    by_cases empty : tail = []
    · -- The reader does without a block, and the encoder writes one for no properties.
      subst empty
      rw [if_neg (fun both => both.2 rfl)] at read
      obtain ⟨rfl, rfl⟩ := read
      have zero : Property.encodeBlock [] = .ok [0] := by
        refine Property.encodeBlock_eq_ok.mpr ⟨[], rfl, Nat.zero_le _, ?_⟩
        rw [List.length_nil, VarInt.octets_small (by decide)]
        rfl
      exact ⟨[0], zero, Nat.le_refl _, nofun, fun ⟨_, rest⟩ => absurd rfl (rest five).1⟩
    · rw [if_pos ⟨five, empty⟩] at read
      obtain ⟨form, inner, spelled, four, parsed, rfl⟩ := read
      obtain ⟨again, wrote, shorter, same⟩ := encodeBlock_again spelled four parsed left
      refine ⟨again, wrote, ?_, ?_⟩
      · simp only [List.length_append] at shorter ⊢
        omega
      · constructor
        · intro whole
          -- The block cannot grow, so nothing is left that would make up for it.
          have sizes := congrArg List.length whole
          simp only [List.length_append] at sizes shorter
          obtain rfl : left = [] := List.eq_nil_of_length_eq_zero (by omega)
          rw [List.append_nil] at whole
          exact ⟨rfl, fun _ => ⟨empty, same.mp whole⟩⟩
        · rintro ⟨rfl, tidy⟩
          rw [same.mpr (tidy five).2, List.append_nil]
  · rw [if_neg five]
    rw [if_neg (fun both => five both.1)] at read
    obtain ⟨rfl, rfl⟩ := read
    refine ⟨[], rfl, Nat.zero_le _, ?_⟩
    constructor
    · rintro rfl
      exact ⟨rfl, fun holds => absurd holds five⟩
    · rintro ⟨rfl, _⟩
      rfl

/-- Of eight flags the packet keeps one. -/
theorem flags_eq_iff {b : UInt8} (present : c.sessionPresent = decide (b.toNat % 2 = 1)) :
    c.flags = b ↔ b = 0 ∨ b = 1 := by
  unfold flags
  rw [present]
  constructor
  · intro same
    rw [← same]
    split
    · exact .inr rfl
    · exact .inl rfl
  · rintro (rfl | rfl) <;> rfl

theorem exact_iff {flags reasonCode : UInt8}
    (read : readProperties version tail = (.ok properties, left)) :
    Exact version (flags :: reasonCode :: tail) ↔ (flags = 0 ∨ flags = 1) ∧ left = [] ∧
      (version.hasProperties → tail ≠ [] ∧ VarInt.Minimal tail ∧
        Property.Plain (announced tail)) := by
  have leaves := readBody_leaves flags reasonCode read
  constructor
  · rintro ⟨plain, ended, block⟩
    rw [leaves] at ended
    exact ⟨by simpa using plain, ended, block⟩
  · rintro ⟨plain, ended, block⟩
    exact ⟨by simpa using plain, by rw [leaves, ended], block⟩

theorem tidy_iff {first : UInt8} {form body rest : Bytes} (spelled : Spells form body.length)
    (four : form.length ≤ 4) :
    Tidy version (first :: (form ++ (body ++ rest))) ↔
      VarInt.octets body.length = form ∧ Exact version body := by
  have found : Frame.split (first :: (form ++ (body ++ rest))) = .ok (first, body) :=
    Frame.split_eq_ok.mpr ⟨form, rest, spelled, four, rfl⟩
  rw [eq_comm, ← spelled.minimal_iff four (body ++ rest)]
  constructor
  · rintro ⟨minimal, exact⟩
    exact ⟨minimal, exact first body found⟩
  · rintro ⟨minimal, exact⟩
    refine ⟨minimal, fun other inner read => ?_⟩
    cases found.symm.trans read
    exact exact

/-- Nothing that is read is left out when it is written. -/
theorem normal_of_tail (told : Tail c.version c.properties tail) : c.normal = c := by
  have properties : (if c.version.hasProperties then c.properties else []) = c.properties := by
    unfold Tail at told
    split
    · rfl
    · rename_i older
      rw [if_neg (fun both => older both.1)] at told
      exact told.symm
  unfold normal
  rw [properties]

/-- What was read as a packet can always be written, and is then read as the same packet. It is
written as it was read exactly if no bit in the lower half of its first octet is set and the rest is
as the encoder writes it. -/
theorem decode_stable (version : Version) (data : Bytes) (c : ConnAck)
    (h : decode version data = .ok c) :
    ∃ frame n, c.encode = .ok frame ∧ Frame.length? data = .ok (some n) ∧
      decode version frame = .ok c ∧
      (frame = data.take n ↔ data.head? = some 0x20 ∧ Tidy version data) := by
  obtain ⟨rfl, first, flags, tail, form, rest, kind, present, told, spelled, four, rfl⟩ :=
    decode_eq_ok.mp h
  obtain ⟨left, read⟩ := readProperties_eq_ok.mpr told
  obtain ⟨block, wrote, size, same⟩ := encodeFor_again read
  have fits : (c.flags :: c.reasonCode :: block).length ≤ VarInt.limit := by
    have body := spelled.le_limit four
    simp only [List.length_cons, VarInt.limit] at body ⊢
    omega
  have written := encode_eq_ok.mpr ⟨block, wrote, fits, rfl⟩
  refine ⟨_, _, written, Frame.length?_frame spelled four, ?_, ?_⟩
  · have again := decode_encode written []
    rwa [List.append_nil, normal_of_tail told] at again
  · rw [Frame.take_frame, Frame.wrapped_eq_iff fits spelled four, tidy_iff spelled four,
      exact_iff read, ← same, ← flags_eq_iff present]
    simp only [List.cons.injEq, List.head?_cons, Option.some.injEq, true_and, eq_comm]

/-- A frame with all that the encoder does otherwise: a bit in the lower half of the first octet,
all flags, both lengths in one octet more than they need, truth by a two, and octets after the
fields and after the frame. -/
def careless : Bytes :=
  [0x21, 0x87, 0x00, 0xFF, 0x00, 0x82, 0x00, 0x25, 0x02, 0x09, 0xC0]

theorem decode_stable_careless :
    ∃ c frame n, decode .v5 careless = .ok c ∧ c.encode = .ok frame ∧
      Frame.length? careless = .ok (some n) ∧ decode .v5 frame = .ok c ∧
      (frame = careless.take n ↔ careless.head? = some 0x20 ∧ Tidy .v5 careless) := by
  have one : Spells [0x82, 0x00] 2 := .more (by decide) (.last (by decide))
  have two : (Property.retainAvailable true).Value [0x02] := ⟨2, rfl, rfl⟩
  have tail : Tail .v5 [.retainAvailable true] [0x82, 0x00, 0x25, 0x02, 0x09] :=
    ⟨[0x82, 0x00], [0x25, 0x02], [0x09], one, by decide, .cons two .nil, rfl⟩
  have length : Spells [0x87, 0x00] 7 := .more (by decide) (.last (by decide))
  have read : decode .v5 careless = .ok { sessionPresent := true, reasonCode := 0, version := .v5
                                          properties := [.retainAvailable true] } :=
    decode_eq_ok.mpr ⟨rfl, 0x21, 0xFF, [0x82, 0x00, 0x25, 0x02, 0x09], [0x87, 0x00], [0xC0], rfl,
      rfl, tail, length, by decide, rfl⟩
  obtain ⟨frame, n, rest⟩ := decode_stable .v5 careless _ read
  exact ⟨_, frame, n, read, rest⟩

/-- The first octet has to be looked at as well: a bit in its lower half is lost, however tidy the
frame is otherwise. -/
theorem tidy_with_stray_bit :
    ¬ ∀ (version : Version) (data : Bytes) (c : ConnAck), decode version data = .ok c →
      ∃ frame n, c.encode = .ok frame ∧ Frame.length? data = .ok (some n) ∧
        decode version frame = .ok c ∧ (frame = data.take n ↔ Tidy version data) := by
  intro all
  let stray : Bytes := 0x21 :: ([0x02] ++ ([0x00, 0x00] ++ []))
  let c : ConnAck := { sessionPresent := false, reasonCode := 0, version := .v311 }
  have spelled : Spells [0x02] [(0x00 : UInt8), 0x00].length := .last (by decide)
  have four : [(0x02 : UInt8)].length ≤ 4 := by decide
  have read : decode .v311 stray = .ok c :=
    decode_eq_ok.mpr ⟨rfl, 0x21, 0x00, [], [0x02], [], rfl, rfl, rfl, spelled, four, rfl⟩
  obtain ⟨frame, n, written, length, _, same⟩ := all .v311 stray c read
  have tidy : Tidy .v311 stray := by
    have bare : readProperties .v311 [] = (.ok [], []) := rfl
    refine (tidy_iff spelled four).mpr ⟨VarInt.octets_small (by decide), ?_⟩
    exact (exact_iff bare).mpr ⟨.inl rfl, rfl, nofun⟩
  have whole : Frame.length? stray = .ok (some 4) := Frame.length?_frame spelled four
  cases length.symm.trans whole
  obtain ⟨block, _, _, rfl⟩ := encode_eq_ok.mp written
  have first := congrArg List.head? (same.mpr tidy)
  cases first

end ReloadProbe.Wire.ConnAck
