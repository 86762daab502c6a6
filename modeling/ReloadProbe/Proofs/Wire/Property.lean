import ReloadProbe.Proofs.Wire.Read
import ReloadProbe.Proofs.Wire.Write

/-!
Properties as a grammar. The reader of a block takes exactly the octets that `Block` allows, of which
those of the writer are one way; another way differs from it only where retained messages are said to
be available, and has the same size.
-/
namespace ReloadProbe.Wire.Property

open Except (bind_eq_ok)
open VarInt (Spells)

/-- The octets that are read as the value of a property: what is written for it, and any octet but
zero where retained messages are available. -/
def Value (value : Bytes) : Property → Prop
  | retainAvailable available => ∃ b : UInt8, value = [b] ∧ available = (b != 0)
  | p => p.encodeValue = .ok value

/-- The octets that are read as a list of properties. -/
inductive Block : Bytes → List Property → Prop where
  | nil : Block [] []
  | cons {p : Property} {ps : List Property} {value bs : Bytes} (first : p.Value value)
      (rest : Block bs ps) : Block (p.id :: (value ++ bs)) (p :: ps)

variable {bs left value : Bytes} {p : Property} {ps : List Property}

theorem eq_of_toNat {id : UInt8} {n : Nat} (h : id.toNat = n) : UInt8.ofNat n = id := by
  rw [← h, UInt8.ofNat_toNat]

theorem reads_readValue (id : UInt8) :
    Read.Reads (readValue id) fun p value => p.id = id ∧ p.Value value := by
  unfold readValue
  split
  case h_1 same | h_11 same =>
    intro bs p left h
    obtain ⟨v, read, rfl⟩ := Read.map_eq_ok.mp h
    exact ⟨[v], ⟨eq_of_toNat same, rfl⟩, Read.octet_eq_ok.mp read⟩
  case h_2 same | h_4 same | h_14 same =>
    intro bs p left h
    obtain ⟨v, read, rfl⟩ := Read.map_eq_ok.mp h
    exact ⟨Bytes.ofUInt32 v, ⟨eq_of_toNat same, rfl⟩, Read.uint32_eq_ok.mp read⟩
  case h_3 same | h_5 same | h_7 same =>
    intro bs p left h
    obtain ⟨s, read, rfl⟩ := Read.map_eq_ok.mp h
    obtain ⟨field, written, rfl⟩ := Read.text_eq_ok.mp read
    exact ⟨field, ⟨eq_of_toNat same, written⟩, rfl⟩
  case h_6 same | h_8 same | h_9 same | h_10 same =>
    intro bs p left h
    obtain ⟨v, read, rfl⟩ := Read.map_eq_ok.mp h
    exact ⟨Bytes.ofUInt16 v, ⟨eq_of_toNat same, rfl⟩, Read.uint16_eq_ok.mp read⟩
  case h_12 same =>
    intro bs p left h
    obtain ⟨v, read, rfl⟩ := Read.map_eq_ok.mp h
    exact ⟨[v], ⟨eq_of_toNat same, v, rfl, rfl⟩, Read.octet_eq_ok.mp read⟩
  case h_13 same =>
    intro bs p left h
    obtain ⟨key, mid, first, more⟩ := Read.bind_eq_ok.mp h
    obtain ⟨v, mid', second, told⟩ := Read.bind_eq_ok.mp more
    obtain ⟨rfl, rfl⟩ := Read.pure_eq_ok.mp told
    obtain ⟨one, wrote, rfl⟩ := Read.text_eq_ok.mp first
    obtain ⟨two, wrote', rfl⟩ := Read.text_eq_ok.mp second
    refine ⟨one ++ two, ⟨eq_of_toNat same, ?_⟩, (List.append_assoc ..).symm⟩
    exact bind_eq_ok.mpr ⟨one, wrote, bind_eq_ok.mpr ⟨two, wrote', rfl⟩⟩
  case h_15 =>
    intro bs p left h
    exact absurd h Read.fail_ne_ok

theorem Value.read (h : p.Value value) (left : Bytes) :
    readValue p.id (value ++ left) = (.ok p, left) := by
  cases p with
  | payloadFormatIndicator v | maximumQoS v =>
    cases h
    exact Read.map_eq_ok.mpr ⟨v, Read.octet_eq_ok.mpr rfl, rfl⟩
  | retainAvailable available =>
    obtain ⟨b, rfl, rfl⟩ := h
    exact Read.map_eq_ok.mpr ⟨b, Read.octet_eq_ok.mpr rfl, rfl⟩
  | serverKeepAlive v | receiveMaximum v | topicAliasMaximum v | topicAlias v =>
    cases h
    exact Read.map_eq_ok.mpr ⟨v, Read.uint16_eq_ok.mpr rfl, rfl⟩
  | messageExpiryInterval v | sessionExpiryInterval v | maximumPacketSize v =>
    cases h
    exact Read.map_eq_ok.mpr ⟨v, Read.uint32_eq_ok.mpr rfl, rfl⟩
  | contentType s | assignedClientIdentifier s | reasonString s =>
    exact Read.map_eq_ok.mpr ⟨s, Read.text_eq_ok.mpr ⟨value, h, rfl⟩, rfl⟩
  | userProperty key v =>
    obtain ⟨one, wrote, more⟩ := bind_eq_ok.mp h
    obtain ⟨two, wrote', told⟩ := bind_eq_ok.mp more
    cases told
    refine Read.bind_eq_ok.mpr ⟨key, two ++ left, Read.text_eq_ok.mpr ⟨one, wrote, ?_⟩, ?_⟩
    · rw [List.append_assoc]
    · exact Read.bind_eq_ok.mpr ⟨v, left, Read.text_eq_ok.mpr ⟨two, wrote', rfl⟩, rfl⟩

theorem readValue_eq_ok {id : UInt8} :
    readValue id bs = (.ok p, left) ↔
      ∃ value, (p.id = id ∧ p.Value value) ∧ bs = value ++ left := by
  constructor
  · exact reads_readValue id
  · rintro ⟨value, ⟨rfl, h⟩, rfl⟩
    exact h.read left

theorem decodeAll_cons {id : UInt8} (first : readValue id bs = (.ok p, left))
    (rest : decodeAll left = .ok ps) : decodeAll (id :: bs) = .ok (p :: ps) := by
  rw [decodeAll]
  split
  · rename_i read
    cases first.symm.trans read
    rw [rest]
  · rename_i read
    cases first.symm.trans read

theorem decodeAll_eq_ok : decodeAll bs = .ok ps ↔ Block bs ps := by
  constructor
  · intro h
    fun_induction decodeAll bs generalizing ps with
    | case1 =>
      cases h
      exact .nil
    | case2 id rest p left read rest' more ih =>
      cases h
      obtain ⟨value, ⟨rfl, first⟩, rfl⟩ := readValue_eq_ok.mp read
      exact .cons first (ih more)
    | case3 | case4 => cases h
  · intro h
    induction h with
    | nil => rw [decodeAll]
    | cons first rest ih => exact decodeAll_cons (first.read _) ih

theorem readBlock_eq_ok :
    readBlock bs = (.ok ps, left) ↔
      ∃ form block, Spells form block.length ∧ form.length ≤ 4 ∧ Block block ps ∧
        bs = form ++ (block ++ left) := by
  refine Read.bind_eq_ok.trans ⟨?_, ?_⟩
  · rintro ⟨n, mid, length, more⟩
    obtain ⟨block, mid', took, told⟩ := Read.bind_eq_ok.mp more
    obtain ⟨form, spelled, four, rfl⟩ := Read.varInt_eq_ok.mp length
    obtain ⟨rfl, rfl⟩ := Read.take_eq_ok.mp took
    cases parsed : decodeAll block with
    | ok found =>
      rw [parsed] at told
      obtain ⟨rfl, rfl⟩ := Read.pure_eq_ok.mp told
      exact ⟨form, block, spelled, four, decodeAll_eq_ok.mp parsed, rfl⟩
    | error e =>
      rw [parsed] at told
      exact absurd told Read.fail_ne_ok
  · rintro ⟨form, block, spelled, four, parsed, rfl⟩
    refine ⟨_, _, Read.varInt_eq_ok.mpr ⟨form, spelled, four, rfl⟩, Read.bind_eq_ok.mpr ?_⟩
    refine ⟨block, left, Read.take_eq_ok.mpr ⟨rfl, rfl⟩, ?_⟩
    rw [decodeAll_eq_ok.mpr parsed]
    rfl

theorem value_of_encodeValue (h : p.encodeValue = .ok value) : p.Value value := by
  cases p with
  | retainAvailable available =>
    cases h
    exact ⟨_, rfl, by cases available <;> rfl⟩
  | _ => exact h

theorem encode_eq_ok {field : Bytes} :
    p.encode = .ok field ↔ ∃ value, p.encodeValue = .ok value ∧ field = p.id :: value := by
  refine bind_eq_ok.trans (exists_congr fun value => and_congr_right fun _ => ?_)
  exact ⟨fun h => by cases h; rfl, fun h => h ▸ rfl⟩

theorem encodeAll_cons_eq_ok {block : Bytes} :
    encodeAll (p :: ps) = .ok block ↔ ∃ value rest, p.encodeValue = .ok value ∧
      encodeAll ps = .ok rest ∧ block = p.id :: (value ++ rest) := by
  rw [encodeAll_cons, bind_eq_ok]
  constructor
  · rintro ⟨first, one, more⟩
    obtain ⟨value, wrote, rfl⟩ := encode_eq_ok.mp one
    obtain ⟨rest, two, told⟩ := bind_eq_ok.mp more
    cases told
    exact ⟨value, rest, wrote, two, rfl⟩
  · rintro ⟨value, rest, one, two, rfl⟩
    exact ⟨p.id :: value, encode_eq_ok.mpr ⟨value, one, rfl⟩, bind_eq_ok.mpr ⟨rest, two, rfl⟩⟩

theorem block_of_encodeAll {block : Bytes} (h : encodeAll ps = .ok block) : Block block ps := by
  induction ps generalizing block with
  | nil =>
    cases h
    exact .nil
  | cons p ps ih =>
    obtain ⟨value, rest, one, two, rfl⟩ := encodeAll_cons_eq_ok.mp h
    exact .cons (value_of_encodeValue one) (ih two)

theorem encodeBlock_eq_ok {block : Bytes} :
    encodeBlock ps = .ok block ↔ ∃ inner, encodeAll ps = .ok inner ∧
      inner.length ≤ VarInt.limit ∧ block = VarInt.octets inner.length ++ inner := by
  rw [encodeBlock_eq, bind_eq_ok]
  refine exists_congr fun inner => and_congr_right fun _ => bind_eq_ok.trans ⟨?_, ?_⟩
  · rintro ⟨length, wrote, told⟩
    obtain ⟨fits, rfl⟩ := VarInt.encode_eq_ok.mp wrote
    cases told
    exact ⟨fits, rfl⟩
  · rintro ⟨fits, rfl⟩
    exact ⟨_, VarInt.encode_eq_ok.mpr ⟨fits, rfl⟩, rfl⟩

/-- What is written as a block is read as one. -/
theorem forms_of_encodeBlock {block : Bytes} (h : encodeBlock ps = .ok block) :
    ∃ form inner, Spells form inner.length ∧ form.length ≤ 4 ∧ Block inner ps ∧
      block = form ++ inner := by
  obtain ⟨inner, wrote, fits, rfl⟩ := encodeBlock_eq_ok.mp h
  exact ⟨_, inner, VarInt.spells_octets _, VarInt.length_octets_le_four.mpr fits,
    block_of_encodeAll wrote, rfl⟩

/-- The length of a text field, which its first two octets say. -/
def textLength (bs : Bytes) : Nat := 2 + Bytes.toNat (bs.take 2)

/-- The length of the value of a property, by its identifier and the octets after that. -/
def valueLength (id : UInt8) (bs : Bytes) : Nat :=
  match id.toNat with
  | 0x01 | 0x24 | 0x25 => 1
  | 0x13 | 0x21 | 0x22 | 0x23 => 2
  | 0x02 | 0x11 | 0x27 => 4
  | 0x03 | 0x12 | 0x1F => textLength bs
  | 0x26 => textLength bs + textLength (bs.drop (textLength bs))
  | _ => 0

/-- The properties of a block by their octets: identifiers and values. -/
def fields : Bytes → List (UInt8 × Bytes)
  | [] => []
  | id :: rest =>
    (id, rest.take (valueLength id rest)) :: fields (rest.drop (valueLength id rest))
termination_by bs => bs.length
decreasing_by simp only [List.length_cons, List.length_drop]; omega

/-- Where a block says whether retained messages are available, it does so by one or by zero. -/
def Plain (block : Bytes) : Prop :=
  ∀ field ∈ fields block, field.1 = 0x25 → field.2 = [0] ∨ field.2 = [1]

theorem textLength_field {s : String} {field : Bytes} (h : textField s = .ok field)
    (left : Bytes) : textLength (field ++ left) = field.length := by
  obtain ⟨fits, rfl⟩ := binaryField_eq_ok.mp h
  have two (n : UInt16) (more : Bytes) : (Bytes.ofUInt16 n ++ more).take 2 = Bytes.ofUInt16 n := rfl
  rw [textLength, List.append_assoc, two, Bytes.toNat_ofUInt16_eq, UInt16.toNat_ofNat',
    List.length_append]
  simp only [Bytes.ofUInt16, List.length_cons, List.length_nil]
  omega

theorem Value.length_eq (h : p.Value value) (left : Bytes) :
    valueLength p.id (value ++ left) = value.length := by
  cases p with
  | retainAvailable available =>
    obtain ⟨b, rfl, _⟩ := h
    rfl
  | contentType s | assignedClientIdentifier s | reasonString s => exact textLength_field h left
  | userProperty key v =>
    obtain ⟨one, wrote, more⟩ := bind_eq_ok.mp h
    obtain ⟨two, wrote', told⟩ := bind_eq_ok.mp more
    cases told
    show textLength (one ++ two ++ left) +
      textLength ((one ++ two ++ left).drop (textLength (one ++ two ++ left))) = _
    rw [List.append_assoc, textLength_field wrote, List.drop_left, textLength_field wrote',
      List.length_append]
  | _ =>
    cases h
    rfl

theorem fields_cons (h : p.Value value) (bs : Bytes) :
    fields (p.id :: (value ++ bs)) = (p.id, value) :: fields bs := by
  rw [fields, h.length_eq, List.take_left, List.drop_left]

/-- A value is written again in as many octets, and in the same unless it says in an odd way that
retained messages are available. -/
theorem Value.again (h : p.Value value) :
    ∃ again, p.encodeValue = .ok again ∧ again.length = value.length ∧
      (again = value ↔ (p.id = 0x25 → value = [0] ∨ value = [1])) := by
  cases p with
  | retainAvailable available =>
    obtain ⟨b, rfl, rfl⟩ := h
    refine ⟨[if b != 0 then 1 else 0], rfl, rfl, ?_, ?_⟩
    · intro same _
      rw [← same]
      cases b != 0 <;> simp
    · intro plain
      rcases plain rfl with zero | one
      · cases zero
        rfl
      · cases one
        rfl
  | _ => exact ⟨value, h, rfl, fun _ => nofun, fun _ => rfl⟩

theorem Block.again {block : Bytes} (h : Block block ps) :
    ∃ again, encodeAll ps = .ok again ∧ again.length = block.length ∧
      (again = block ↔ Plain block) := by
  induction h with
  | nil => exact ⟨[], rfl, rfl, fun _ => by simp [Plain, fields], fun _ => rfl⟩
  | @cons p ps value bs first rest ih =>
    obtain ⟨one, wrote, size, same⟩ := first.again
    obtain ⟨more, wrote', size', same'⟩ := ih
    refine ⟨p.id :: (one ++ more), encodeAll_cons_eq_ok.mpr ⟨one, more, wrote, wrote', rfl⟩, ?_, ?_⟩
    · simp only [List.length_cons, List.length_append, size, size']
    · rw [Plain, fields_cons first, List.forall_mem_cons, ← same, ← Plain, ← same',
        List.cons_inj_right, List.append_eq_append_iff_of_size_eq_left size]

end ReloadProbe.Wire.Property
