import ReloadProbe.Proofs.Wire.Canonical

/-!
Blocks of properties by their octets alone: the identifiers that there are, the form that the value
of each has, and what a declared length encloses. The reader takes a block exactly if its octets are
properties one after another; nothing behind the declared end is looked at, not even for a property
that would need it.
-/
namespace ReloadProbe.Wire.Property

open VarInt (Spells)

/-- The forms that a value may have. -/
inductive Layout where
  | octet
  | uint16
  | uint32
  | text
  | texts

/-- The form of the value by its identifier, of those that are known. -/
def layout? (id : UInt8) : Option Layout :=
  match id.toNat with
  | 0x01 | 0x24 | 0x25 => some .octet
  | 0x13 | 0x21 | 0x22 | 0x23 => some .uint16
  | 0x02 | 0x11 | 0x27 => some .uint32
  | 0x03 | 0x12 | 0x1F => some .text
  | 0x26 => some .texts
  | _ => none

/-- UTF-8 text with its length before it, the most significant octet first. -/
def IsText (field : Bytes) : Prop :=
  ∃ (high low : UInt8) (data : Bytes) (s : String), field = high :: low :: data ∧
    data.length = high.toNat * 256 + low.toNat ∧ Utf8.decode? data = some s

def Layout.Fits : Layout → Bytes → Prop
  | octet, value => value.length = 1
  | uint16, value => value.length = 2
  | uint32, value => value.length = 4
  | text, value => IsText value
  | texts, value => ∃ key text, IsText key ∧ IsText text ∧ value = key ++ text

/-- The octets of one property: an identifier that is known, and a value of its form. -/
inductive Formed : Bytes → Prop where
  | field {id : UInt8} {layout : Layout} {value : Bytes} (known : layout? id = some layout)
      (fits : layout.Fits value) : Formed (id :: value)

/-- The octets start with a length, which is that of the properties after it. -/
structure Announces (bs form : Bytes) (fields : List Bytes) (left : Bytes) : Prop where
  spelled : Spells form fields.flatten.length
  four : form.length ≤ 4
  formed : ∀ field ∈ fields, Formed field
  joined : bs = form ++ (fields.flatten ++ left)

/-- The loop over a block, in at most so many rounds. A round reads a property and puts it behind
those found before. -/
def readRounds : (rounds : Nat) → Bytes → List Property → Option (Except WireError (List Property))
  | _, [], found => some (.ok found)
  | 0, _ :: _, _ => none
  | rounds + 1, id :: rest, found =>
    match readValue id rest with
    | (.ok p, left) => readRounds rounds left (found ++ [p])
    | (.error e, _) => some (.error e)

/-- The octets of properties, and the properties that they are read as. -/
inductive ReadsAs : List Bytes → List Property → Prop where
  | nil : ReadsAs [] []
  | cons {p : Property} {ps : List Property} {value : Bytes} {fields : List Bytes}
      (first : p.Value value) (rest : ReadsAs fields ps) :
      ReadsAs ((p.id :: value) :: fields) (p :: ps)

variable {bs left value block : Bytes} {fields : List Bytes} {p : Property} {ps : List Property}

theorem isText_iff : IsText value ↔ ∃ s, textField s = .ok value := by
  constructor
  · rintro ⟨high, low, data, s, rfl, size, decoded⟩
    have := high.toNat_lt
    have := low.toNat_lt
    have length : Bytes.ofUInt16 (UInt16.ofNat data.length) = [high, low] := by
      have folded : data.length = Bytes.toNat [high, low] := by
        simp [Bytes.toNat, size]
      rw [folded, Bytes.ofUInt16_toNat]
    refine ⟨s, binaryField_eq_ok.mpr ?_⟩
    rw [Utf8.encode_of_decode? decoded, length]
    exact ⟨by omega, rfl⟩
  · rintro ⟨s, written⟩
    obtain ⟨fits, rfl⟩ := binaryField_eq_ok.mp written
    refine ⟨_, _, Utf8.encode s, s, rfl, ?_, Utf8.decode?_encode s⟩
    simp only [UInt8.toNat_ofNat', UInt16.toNat_ofNat']
    omega

theorem exists_uint16 (two : value.length = 2) : ∃ n, value = Bytes.ofUInt16 n := by
  match value, two with
  | [a, b], _ => exact ⟨_, (Bytes.ofUInt16_toNat a b).symm⟩

theorem exists_uint32 (four : value.length = 4) : ∃ n, value = Bytes.ofUInt32 n := by
  match value, four with
  | [a, b, c, d], _ => exact ⟨_, (Bytes.ofUInt32_toNat a b c d).symm⟩

theorem readValue_of_fits {id : UInt8} {layout : Layout} (known : layout? id = some layout)
    (fits : layout.Fits value) : ∃ p, readValue id value = (.ok p, []) := by
  unfold layout? at known
  unfold readValue
  split at known <;> cases known
  case h_1 same | h_2 same | h_3 same =>
    rw [same]
    obtain ⟨v, rfl⟩ := List.length_eq_one_iff.mp fits
    exact ⟨_, Read.map_eq_ok.mpr ⟨v, Read.octet_eq_ok.mpr rfl, rfl⟩⟩
  case h_4 same | h_5 same | h_6 same | h_7 same =>
    rw [same]
    obtain ⟨n, rfl⟩ := exists_uint16 fits
    exact ⟨_, Read.map_eq_ok.mpr ⟨n, Read.uint16_eq_ok.mpr rfl, rfl⟩⟩
  case h_8 same | h_9 same | h_10 same =>
    rw [same]
    obtain ⟨n, rfl⟩ := exists_uint32 fits
    exact ⟨_, Read.map_eq_ok.mpr ⟨n, Read.uint32_eq_ok.mpr rfl, rfl⟩⟩
  case h_11 same | h_12 same | h_13 same =>
    rw [same]
    obtain ⟨s, written⟩ := isText_iff.mp fits
    exact ⟨_, Read.map_eq_ok.mpr ⟨s, Read.text_eq_ok.mpr ⟨_, written, (List.append_nil _).symm⟩, rfl⟩⟩
  case h_14 same =>
    rw [same]
    obtain ⟨key, text, first, second, rfl⟩ := fits
    obtain ⟨s, written⟩ := isText_iff.mp first
    obtain ⟨s', written'⟩ := isText_iff.mp second
    have last := Read.text_eq_ok.mpr ⟨text, written', (List.append_nil text).symm⟩
    exact ⟨_, Read.bind_eq_ok.mpr ⟨s, text, Read.text_eq_ok.mpr ⟨key, written, rfl⟩,
      Read.bind_eq_ok.mpr ⟨s', [], last, rfl⟩⟩⟩

theorem fits_of_value (h : p.Value value) : ∃ layout, layout? p.id = some layout ∧ layout.Fits value := by
  cases p with
  | payloadFormatIndicator v | maximumQoS v =>
    cases h
    exact ⟨.octet, rfl, rfl⟩
  | retainAvailable available =>
    obtain ⟨b, rfl, _⟩ := h
    exact ⟨.octet, rfl, rfl⟩
  | serverKeepAlive v | receiveMaximum v | topicAliasMaximum v | topicAlias v =>
    cases h
    exact ⟨.uint16, rfl, rfl⟩
  | messageExpiryInterval v | sessionExpiryInterval v | maximumPacketSize v =>
    cases h
    exact ⟨.uint32, rfl, rfl⟩
  | contentType s | assignedClientIdentifier s | reasonString s =>
    exact ⟨.text, rfl, isText_iff.mpr ⟨s, h⟩⟩
  | userProperty key v =>
    obtain ⟨one, wrote, more⟩ := Except.bind_eq_ok.mp h
    obtain ⟨two, wrote', told⟩ := Except.bind_eq_ok.mp more
    cases told
    exact ⟨.texts, rfl, one, two, isText_iff.mpr ⟨key, wrote⟩, isText_iff.mpr ⟨v, wrote'⟩, rfl⟩

/-- The octets that have the form of a property are those that are read as one. -/
theorem formed_iff {field : Bytes} :
    Formed field ↔ ∃ (p : Property) (value : Bytes), p.Value value ∧ field = p.id :: value := by
  constructor
  · rintro ⟨known, fits⟩
    obtain ⟨p, read⟩ := readValue_of_fits known fits
    obtain ⟨value, ⟨rfl, has⟩, rfl⟩ := readValue_eq_ok.mp read
    exact ⟨p, value, has, by rw [List.append_nil]⟩
  · rintro ⟨p, value, has, rfl⟩
    obtain ⟨layout, known, fits⟩ := fits_of_value has
    exact .field known fits

theorem block_iff : Block block ps ↔ ∃ fields, ReadsAs fields ps ∧ block = fields.flatten := by
  constructor
  · intro h
    induction h with
    | nil => exact ⟨[], .nil, rfl⟩
    | @cons p ps value bs first rest ih =>
      obtain ⟨fields, told, rfl⟩ := ih
      exact ⟨(p.id :: value) :: fields, .cons first told, rfl⟩
  · rintro ⟨fields, told, rfl⟩
    induction told with
    | nil => exact .nil
    | cons first _ ih => exact .cons first ih

theorem ReadsAs.formed (told : ReadsAs fields ps) : ∀ field ∈ fields, Formed field := by
  induction told with
  | nil => exact fun _ => nofun
  | cons first _ ih => exact List.forall_mem_cons.mpr ⟨formed_iff.mpr ⟨_, _, first, rfl⟩, ih⟩

theorem exists_readsAs (formed : ∀ field ∈ fields, Formed field) : ∃ ps, ReadsAs fields ps := by
  induction fields with
  | nil => exact ⟨[], .nil⟩
  | cons field fields ih =>
    obtain ⟨first, others⟩ := List.forall_mem_cons.mp formed
    obtain ⟨p, value, has, rfl⟩ := formed_iff.mp first
    obtain ⟨ps, told⟩ := ih others
    exact ⟨p :: ps, .cons has told⟩

theorem ReadsAs.ids (told : ReadsAs fields ps) :
    fields.map List.head? = ps.map fun p => some p.id := by
  induction told with
  | nil => rfl
  | cons _ _ ih => exact congrArg (_ :: ·) ih

theorem ReadsAs.plain_iff (told : ReadsAs fields ps) :
    Plain fields.flatten ↔
      ∀ field ∈ fields, field.head? = some 0x25 → field = [0x25, 0] ∨ field = [0x25, 1] := by
  induction told with
  | nil => simp [Plain, Property.fields]
  | @cons p ps value fields first _ ih =>
    rw [List.flatten_cons, List.cons_append, Plain, fields_cons first, List.forall_mem_cons,
      ← Plain, ih, List.forall_mem_cons]
    refine and_congr_left fun _ => ?_
    simp only [List.head?_cons, Option.some.injEq, List.cons.injEq]
    exact forall_congr' fun same => by simp [same]

theorem decodeAll_of_ok {id : UInt8} (read : readValue id bs = (.ok p, left)) :
    decodeAll (id :: bs) = (p :: ·) <$> decodeAll left := by
  rw [decodeAll]
  split
  · rename_i found
    cases read.symm.trans found
    cases decodeAll left <;> rfl
  · rename_i found
    cases read.symm.trans found

theorem decodeAll_of_error {id : UInt8} {e : WireError} (read : readValue id bs = (.error e, left)) :
    decodeAll (id :: bs) = .error e := by
  rw [decodeAll]
  split
  · rename_i found
    cases read.symm.trans found
  · rename_i found
    cases read.symm.trans found
    rfl

/-- A fault after some properties is the fault of the whole. -/
theorem decodeAll_error {tail : Bytes} {e : WireError} (formed : ∀ field ∈ fields, Formed field)
    (fault : decodeAll tail = .error e) : decodeAll (fields.flatten ++ tail) = .error e := by
  induction fields with
  | nil => exact fault
  | cons field fields ih =>
    obtain ⟨first, others⟩ := List.forall_mem_cons.mp formed
    obtain ⟨p, value, has, rfl⟩ := formed_iff.mp first
    rw [List.flatten_cons, List.cons_append, List.cons_append, List.append_assoc,
      decodeAll_of_ok (has.read _), ih others]
    rfl

/-- A value that needs more octets than there are is not read, whatever comes after them. -/
theorem decodeAll_crossing {id : UInt8} {cut more : Bytes}
    (crosses : cut.length < valueLength id (cut ++ more)) :
    ∃ e, decodeAll (id :: cut) = .error e := by
  cases parsed : decodeAll (id :: cut) with
  | error e => exact ⟨e, rfl⟩
  | ok ps =>
    cases decodeAll_eq_ok.mp parsed with
    | @cons p ps value bs first rest =>
      rw [List.append_assoc, first.length_eq, List.length_append] at crosses
      omega

theorem readBlock_error {form : Bytes} {e : WireError} (spelled : Spells form block.length)
    (four : form.length ≤ 4) (fault : decodeAll block = .error e) (left : Bytes) :
    readBlock (form ++ (block ++ left)) = (.error e, left) := by
  have length : Read.varInt (form ++ (block ++ left)) = (.ok block.length, block ++ left) :=
    Read.varInt_eq_ok.mpr ⟨form, spelled, four, rfl⟩
  have took : Read.take block.length (block ++ left) = (.ok block, left) :=
    Read.take_eq_ok.mpr ⟨rfl, rfl⟩
  rw [readBlock, Read.bind_of_ok length, Read.bind_of_ok took, fault]
  rfl

/-- As many rounds as there are octets are enough for any block. -/
theorem readRounds_eq {rounds : Nat} (enough : block.length ≤ rounds) (found : List Property) :
    readRounds rounds block found = some ((found ++ ·) <$> decodeAll block) := by
  induction rounds generalizing block found with
  | zero =>
    obtain rfl := List.eq_nil_of_length_eq_zero (Nat.le_zero.mp enough)
    rw [decodeAll]
    exact congrArg (some ∘ Except.ok) (List.append_nil found).symm
  | succ rounds ih =>
    cases block with
    | nil =>
      rw [decodeAll]
      exact congrArg (some ∘ Except.ok) (List.append_nil found).symm
    | cons id rest =>
      have shorter := (advances_readValue id rest).length_le
      rw [readRounds]
      rcases read : readValue id rest with ⟨e | p, left⟩
      · rw [decodeAll_of_error read]
        rfl
      · rw [read] at shorter
        have fewer : left.length ≤ rounds := Nat.le_trans shorter (Nat.le_of_succ_le_succ enough)
        dsimp only
        rw [ih fewer, decodeAll_of_ok read]
        cases decodeAll left with
        | error e => rfl
        | ok ps => exact congrArg (some ∘ Except.ok) (List.append_assoc found [p] ps)

/-- What the reader of a block does with octets, by the octets alone. It succeeds exactly on a length
and as many octets of properties, whatever follows; what it finds is written again in no more
octets, and in the same if none of them could be otherwise; a property that would go on behind the
declared end is a fault, even if its octets are there; and the loop over the block ends. -/
theorem readBlock_exact (bs : Bytes) :
    ((∃ ps, (readBlock bs).1 = .ok ps) ↔ ∃ form fields left, Announces bs form fields left) ∧
    (∀ ps left, readBlock bs = (.ok ps, left) → ∃ form fields again,
      Announces bs form fields left ∧ fields.map List.head? = (ps.map fun p => some p.id) ∧
      (∀ other, readBlock (form ++ (fields.flatten ++ other)) = (.ok ps, other)) ∧
      encodeBlock ps = .ok again ∧ again.length ≤ (form ++ fields.flatten).length ∧
      (again = form ++ fields.flatten ↔ VarInt.Minimal bs ∧
        ∀ field ∈ fields, field.head? = some 0x25 → field = [0x25, 0] ∨ field = [0x25, 1])) ∧
    (∀ (form : Bytes) (fields : List Bytes) (id : UInt8) (cut more : Bytes),
      Spells form (fields.flatten ++ id :: cut).length → form.length ≤ 4 →
      (∀ field ∈ fields, Formed field) → cut.length < valueLength id (cut ++ more) →
      bs = form ++ (fields.flatten ++ id :: cut ++ more) → ∃ e, readBlock bs = (.error e, more)) ∧
    ∀ block, readRounds block.length block [] = some (decodeAll block) := by
  refine ⟨?_, ?_, ?_, fun block => ?_⟩
  · rw [exists_congr fun ps => Read.fst_eq_ok]
    constructor
    · rintro ⟨ps, left, read⟩
      obtain ⟨form, block, spelled, four, parsed, rfl⟩ := readBlock_eq_ok.mp read
      obtain ⟨fields, told, rfl⟩ := block_iff.mp parsed
      exact ⟨form, fields, left, spelled, four, told.formed, rfl⟩
    · rintro ⟨form, fields, left, spelled, four, formed, rfl⟩
      obtain ⟨ps, told⟩ := exists_readsAs formed
      exact ⟨ps, left, readBlock_eq_ok.mpr
        ⟨form, _, spelled, four, block_iff.mpr ⟨fields, told, rfl⟩, rfl⟩⟩
  · intro ps left read
    obtain ⟨form, block, spelled, four, parsed, rfl⟩ := readBlock_eq_ok.mp read
    obtain ⟨again, wrote, shorter, same⟩ := Publish.encodeBlock_again spelled four parsed left
    obtain ⟨fields, told, rfl⟩ := block_iff.mp parsed
    rw [Publish.announced_spelled spelled four, told.plain_iff] at same
    exact ⟨form, fields, again, ⟨spelled, four, told.formed, rfl⟩, told.ids,
      fun other => readBlock_eq_ok.mpr ⟨form, _, spelled, four, parsed, rfl⟩, wrote, shorter, same⟩
  · rintro form fields id cut more spelled four formed crosses rfl
    obtain ⟨e, fault⟩ := decodeAll_crossing crosses
    exact ⟨e, readBlock_error spelled four (decodeAll_error formed fault) more⟩
  · rw [readRounds_eq (Nat.le_refl _)]
    cases decodeAll block <;> rfl

/-- A block with a length in two octets, that says in an odd way that retained messages are
available, and with an octet after it. -/
def odd : Bytes := [0x82, 0x00, 0x25, 0x02, 0x09]

/-- A block that ends behind an identifier, with the value after its end. -/
def crossed : Bytes := [0x03, 0x25, 0x01, 0x21, 0x00, 0x14]

theorem readBlock_exact_odd :
    (∃ form fields again, readBlock odd = (.ok [.retainAvailable true], [0x09]) ∧
      Announces odd form fields [0x09] ∧ encodeBlock [.retainAvailable true] = .ok again ∧
      again.length ≤ (form ++ fields.flatten).length) ∧
    ∃ e, readBlock crossed = (.error e, [0x00, 0x14]) := by
  have two : Spells [0x82, 0x00] 2 := .more (by decide) (.last (by decide))
  have value : (retainAvailable true).Value [0x02] := ⟨2, rfl, rfl⟩
  have read : readBlock odd = (.ok [.retainAvailable true], [0x09]) :=
    readBlock_eq_ok.mpr ⟨[0x82, 0x00], [0x25, 0x02], two, by decide, .cons value .nil, rfl⟩
  obtain ⟨form, fields, again, announced, _, _, wrote, shorter, _⟩ :=
    (readBlock_exact odd).2.1 _ _ read
  refine ⟨⟨form, fields, again, read, announced, wrote, shorter⟩, ?_⟩
  have three : Spells [0x03] ([[0x25, 0x01]].flatten ++ 0x21 :: []).length := .last (by decide)
  have known : layout? 0x25 = some .octet := rfl
  have formed : ∀ field ∈ [[0x25, 0x01]], Formed field :=
    List.forall_mem_singleton.mpr (.field known rfl)
  exact (readBlock_exact crossed).2.2.1 [0x03] [[0x25, 0x01]] 0x21 [] [0x00, 0x14] three
    (by decide) formed (by decide) rfl

end ReloadProbe.Wire.Property
