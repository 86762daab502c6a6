import ReloadProbe.Proofs.Wire.Property
import ReloadProbe.Wire.Write

/-!
Writing to a buffer and reading it back. A field is written as a whole or not at all, though the
properties within a block are not: those that fail leave what came before the fault. Whatever was
written in turn is read back in turn, and nothing else is there.
-/
namespace ReloadProbe.Wire

open Except (bind_eq_ok)

/-- A writer that appends an encoding, or tells why there is none and leaves the buffer as it is. -/
def Appends (w : Write) (encoding : Except WireError Bytes) : Prop :=
  ∀ buffer, w buffer =
    match encoding with
    | .ok bs => (.ok (), buffer ++ bs)
    | .error e => (.error e, buffer)

/-- A writer that appends an encoding, or tells why there is none and may leave a part of it. -/
def Grows (w : Write) (encoding : Except WireError Bytes) : Prop :=
  ∀ buffer,
    match encoding with
    | .ok bs => w buffer = (.ok (), buffer ++ bs)
    | .error e => ∃ part, w buffer = (.error e, buffer ++ part)

variable {w v : Write} {encoding further : Except WireError Bytes}

theorem appends_octets (bs : Bytes) : Appends (.octets bs) (.ok bs) := fun _ => rfl

theorem appends_fail (e : WireError) : Appends (.fail e) (.error e) := fun _ => rfl

theorem Appends.grows (h : Appends w encoding) : Grows w encoding := by
  intro buffer
  have wrote := h buffer
  cases encoding with
  | ok bs => exact wrote
  | error e => exact ⟨[], by rw [wrote, List.append_nil]⟩

theorem Grows.keeps (h : Grows w encoding) (buffer : Bytes) : buffer <+: (w buffer).2 := by
  have wrote := h buffer
  cases encoding with
  | ok bs =>
    rw [wrote]
    exact List.prefix_append buffer bs
  | error e =>
    obtain ⟨part, wrote⟩ := wrote
    rw [wrote]
    exact List.prefix_append buffer part

theorem Grows.andThen (first : Grows w encoding) (second : Grows v further) :
    Grows (w.andThen v) (encoding >>= fun bs => further >>= fun more => pure (bs ++ more)) := by
  intro buffer
  have one := first buffer
  unfold Write.andThen
  cases encoding with
  | error e =>
    obtain ⟨part, one⟩ := one
    exact ⟨part, by rw [one]⟩
  | ok bs =>
    have two := second (buffer ++ bs)
    cases further with
    | error e =>
      obtain ⟨part, two⟩ := two
      refine ⟨bs ++ part, ?_⟩
      rw [one, ← List.append_assoc]
      exact two
    | ok more =>
      show _ = (Except.ok (), buffer ++ (bs ++ more))
      rw [one, ← List.append_assoc]
      exact two

/-- Writers that cannot fail leave no part of anything. -/
theorem Appends.andThen {bs more : Bytes} (first : Appends w (.ok bs))
    (second : Appends v (.ok more)) : Appends (w.andThen v) (.ok (bs ++ more)) :=
  first.grows.andThen second.grows

/-- A length that cannot be written leaves nothing of what it is the length of. -/
theorem Appends.before (length : Appends w encoding) (body : Bytes) :
    Appends (w.andThen (.octets body)) (encoding >>= fun header => pure (header ++ body)) := by
  cases encoding with
  | error e =>
    intro buffer
    unfold Write.andThen
    rw [length buffer]
    rfl
  | ok header => exact length.andThen (appends_octets body)

theorem appends_digits (n : Nat) : Appends (.digits n) (.ok (VarInt.octets n)) := by
  induction n using VarInt.octets.induct with
  | case1 n small =>
    rw [Write.digits, if_pos small, VarInt.octets_small small]
    exact appends_octets _
  | case2 n large ih =>
    rw [Write.digits, if_neg large, VarInt.octets_large large]
    exact (appends_octets _).andThen ih

theorem appends_varInt (n : Nat) : Appends (.varInt n) (VarInt.encode n) := by
  unfold Write.varInt VarInt.encode
  split
  · exact appends_digits n
  · exact appends_fail _

theorem appends_binary (data : Bytes) : Appends (.binary data) (binaryField data) := by
  unfold Write.binary binaryField
  split
  · exact (appends_octets _).andThen (appends_octets data)
  · exact appends_fail _

theorem appends_text (s : String) : Appends (.text s) (textField s) := appends_binary _

namespace Property

theorem grows_putValue (p : Property) : Grows p.putValue p.encodeValue := by
  cases p with
  | payloadFormatIndicator | maximumQoS | retainAvailable
  | serverKeepAlive | receiveMaximum | topicAliasMaximum | topicAlias
  | messageExpiryInterval | sessionExpiryInterval | maximumPacketSize =>
    exact (appends_octets _).grows
  | contentType s | assignedClientIdentifier s | reasonString s => exact (appends_text s).grows
  | userProperty key value => exact (appends_text key).grows.andThen (appends_text value).grows

theorem grows_put (p : Property) : Grows p.put p.encode :=
  (appends_octets [p.id]).grows.andThen p.grows_putValue

theorem grows_putAll (ps : List Property) : Grows (putAll ps) (encodeAll ps) := by
  induction ps with
  | nil => exact (appends_octets []).grows
  | cons p ps ih =>
    rw [encodeAll_cons]
    exact p.grows_put.andThen ih

/-- A property that cannot be written leaves its identifier. -/
theorem put_leaves_id (p : Property) (buffer : Bytes) :
    buffer ++ [p.id] <+: (p.put buffer).2 := by
  show buffer ++ [p.id] <+: (p.putValue (buffer ++ [p.id])).2
  exact p.grows_putValue.keeps _

theorem appends_putBlock (ps : List Property) : Appends (putBlock ps) (encodeBlock ps) := by
  intro buffer
  have gathered := grows_putAll ps []
  rw [encodeBlock_eq]
  unfold putBlock
  cases wrote : encodeAll ps with
  | error e =>
    -- The part that was written is in the buffer of the properties, which is dropped.
    rw [wrote] at gathered
    obtain ⟨part, gathered⟩ := gathered
    rw [gathered]
    rfl
  | ok block =>
    rw [wrote] at gathered
    have gathered : putAll ps [] = (.ok (), block) := gathered
    rw [gathered]
    exact (appends_varInt block.length).before block buffer

end Property

/-- What can be written as one, and read back. -/
inductive Item where
  | varInt (n : Nat)
  | text (s : String)
  | binary (data : Bytes)
  | block (ps : List Property)

inductive Kind where
  | varInt | text | binary | block

namespace Item

def kind : Item → Kind
  | varInt _ => .varInt
  | text _ => .text
  | binary _ => .binary
  | block _ => .block

end Item

def Kind.read : Kind → Read Item
  | varInt => .varInt <$> Read.varInt
  | text => .text <$> Read.text
  | binary => .binary <$> Read.binary
  | block => .block <$> Property.readBlock

namespace Item

def put : Item → Write
  | varInt n => .varInt n
  | text s => .text s
  | binary data => .binary data
  | block ps => Property.putBlock ps

def encode : Item → Except WireError Bytes
  | varInt n => VarInt.encode n
  | text s => textField s
  | binary data => binaryField data
  | block ps => Property.encodeBlock ps

/-- Why an item cannot be written. Of the texts of properties the first that is too long is told, the
key of a user property before its value, and before the size of the block. -/
inductive Fault : Item → WireError → Prop where
  | largeInt {n : Nat} (large : VarInt.limit < n) :
    Fault (varInt n) (.remainingLengthTooLarge n)
  | longText {s : String} (long : 65535 < (Utf8.encode s).length) :
    Fault (text s) (.stringTooLong (Utf8.encode s).length)
  | longBinary {data : Bytes} (long : 65535 < data.length) :
    Fault (binary data) (.stringTooLong data.length)
  | longWithin {ps : List Property} {s : String}
    (first : (ps.flatMap Property.texts).find? (fun s => 65535 < (Utf8.encode s).length) = some s) :
    Fault (block ps) (.stringTooLong (Utf8.encode s).length)
  | largeBlock {ps : List Property}
    (short : ∀ p ∈ ps, ∀ s ∈ p.texts, (Utf8.encode s).length ≤ 65535)
    (large : VarInt.limit < Property.sizeAll ps) :
    Fault (block ps) (.remainingLengthTooLarge (Property.sizeAll ps))

theorem binaryField_eq_error {data : Bytes} {e : WireError} :
    binaryField data = .error e ↔ 65535 < data.length ∧ .stringTooLong data.length = e := by
  unfold binaryField
  split
  · rename_i fits
    simp only [reduceCtorEq, Nat.not_lt.mpr fits, false_and]
  · rename_i long
    simp only [Except.error.injEq, Nat.not_le.mp long, true_and]

theorem head?_textFaults (texts : List String) :
    (texts.flatMap textFaults).head? =
      (texts.find? fun s => 65535 < (Utf8.encode s).length).map fun s =>
        .stringTooLong (Utf8.encode s).length := by
  induction texts with
  | nil => rfl
  | cons s texts ih =>
    rw [List.flatMap_cons, List.head?_append, ih, List.find?_cons, textFaults]
    by_cases short : (Utf8.encode s).length ≤ 65535
    · simp [short, Nat.not_lt.mpr short]
    · simp [short, Nat.not_le.mp short]

theorem block_eq_error {ps : List Property} {e : WireError} :
    Property.encodeBlock ps = .error e ↔ Fault (block ps) e := by
  have told := head?_textFaults (ps.flatMap Property.texts)
  rw [(Property.writes_encodeBlock ps).eq_error_iff, List.head?_append, Property.faultsAll, told]
  have short : (ps.flatMap Property.texts).find? (fun s => 65535 < (Utf8.encode s).length) = none ↔
      ∀ p ∈ ps, ∀ s ∈ p.texts, (Utf8.encode s).length ≤ 65535 := by
    simp
  cases found : (ps.flatMap Property.texts).find? fun s => 65535 < (Utf8.encode s).length with
  | some s =>
    constructor
    · rintro ⟨⟩
      exact .longWithin found
    · intro fault
      cases fault with
      | longWithin found' =>
        cases found.symm.trans found'
        rfl
      | largeBlock short' _ => cases found.symm.trans (short.mpr short')
  | none =>
    show (lengthFaults (Property.sizeAll ps)).head? = some e ↔ _
    unfold lengthFaults
    split
    · rename_i fits
      constructor
      · rintro ⟨⟩
      · intro fault
        cases fault with
        | longWithin found' => cases found.symm.trans found'
        | largeBlock _ large => exact absurd fits (Nat.not_le.mpr large)
    · rename_i large
      constructor
      · rintro ⟨⟩
        exact .largeBlock (short.mp found) (Nat.not_le.mp large)
      · intro fault
        cases fault with
        | longWithin found' => cases found.symm.trans found'
        | largeBlock => rfl

theorem encode_eq_error {item : Item} {e : WireError} : item.encode = .error e ↔ Fault item e := by
  cases item with
  | block ps => exact block_eq_error
  | varInt n =>
    refine VarInt.encode_eq_error.trans ⟨?_, ?_⟩
    · rintro ⟨large, rfl⟩
      exact .largeInt large
    · intro fault
      cases fault with
      | largeInt large => exact ⟨large, rfl⟩
  | text s =>
    refine binaryField_eq_error.trans ⟨?_, ?_⟩
    · rintro ⟨long, rfl⟩
      exact .longText long
    · intro fault
      cases fault with
      | longText long => exact ⟨long, rfl⟩
  | binary data =>
    refine binaryField_eq_error.trans ⟨?_, ?_⟩
    · rintro ⟨long, rfl⟩
      exact .longBinary long
    · intro fault
      cases fault with
      | longBinary long => exact ⟨long, rfl⟩

theorem appends_put (item : Item) : Appends item.put item.encode := by
  cases item with
  | varInt n => exact appends_varInt n
  | text s => exact appends_text s
  | binary data => exact appends_binary data
  | block ps => exact Property.appends_putBlock ps

theorem read_of_encode {item : Item} {bs : Bytes} (wrote : item.encode = .ok bs) (left : Bytes) :
    item.kind.read (bs ++ left) = (.ok item, left) := by
  cases item with
  | varInt n =>
    obtain ⟨fits, rfl⟩ := VarInt.encode_eq_ok.mp wrote
    exact Read.map_eq_ok.mpr ⟨n, Read.varInt_eq_ok.mpr ⟨_, VarInt.spells_octets n,
      VarInt.length_octets_le_four.mpr fits, rfl⟩, rfl⟩
  | text s => exact Read.map_eq_ok.mpr ⟨s, Read.text_eq_ok.mpr ⟨bs, wrote, rfl⟩, rfl⟩
  | binary data => exact Read.map_eq_ok.mpr ⟨data, Read.binary_eq_ok.mpr ⟨bs, wrote, rfl⟩, rfl⟩
  | block ps =>
    obtain ⟨form, inner, spelled, four, parsed, rfl⟩ := Property.forms_of_encodeBlock wrote
    exact Read.map_eq_ok.mpr ⟨ps, Property.readBlock_eq_ok.mpr ⟨form, inner, spelled, four, parsed,
      List.append_assoc ..⟩, rfl⟩

/-- Items in turn, each at the end of the buffer that the one before it left; with those that could be
written. -/
def putAll : List Item → Bytes → List Item × Bytes
  | [], buffer => ([], buffer)
  | item :: items, buffer =>
    match item.put buffer with
    | (.ok (), after) => (item :: (putAll items after).1, (putAll items after).2)
    | (.error _, after) => putAll items after

def readAll : List Kind → Read (List Item)
  | [] => pure []
  | kind :: kinds => do return (← kind.read) :: (← readAll kinds)

variable {item : Item} {items : List Item} {buffer after : Bytes}

theorem putAll_of_ok (wrote : item.put buffer = (.ok (), after)) :
    putAll (item :: items) buffer = (item :: (putAll items after).1, (putAll items after).2) := by
  simp only [putAll, wrote]

theorem putAll_of_error {e : WireError} (failed : item.put buffer = (.error e, after)) :
    putAll (item :: items) buffer = putAll items after := by
  simp only [putAll, failed]

/-- Those are written that have an encoding, and of the others nothing is in the buffer. -/
theorem putAll_eq (items : List Item) (buffer : Bytes) :
    ∃ parts, (items.filter (·.encode.isOk)).mapM encode = .ok parts ∧
      putAll items buffer = (items.filter (·.encode.isOk), buffer ++ parts.flatten) := by
  -- For every buffer, since an item that is written changes that of the items after it.
  induction items generalizing buffer with
  | nil => exact ⟨[], rfl, by simp [putAll]⟩
  | cons item items ih =>
    have wrote := item.appends_put buffer
    cases encoded : item.encode with
    | error e =>
      rw [encoded] at wrote
      have dropped : ¬ item.encode.isOk = true := by rw [encoded]; nofun
      rw [putAll_of_error wrote, List.filter_cons, if_neg dropped]
      exact ih buffer
    | ok bs =>
      rw [encoded] at wrote
      have kept : item.encode.isOk = true := by rw [encoded]; rfl
      obtain ⟨parts, all, further⟩ := ih (buffer ++ bs)
      rw [putAll_of_ok wrote, further, List.filter_cons, if_pos kept, List.mapM_cons, encoded, all]
      exact ⟨bs :: parts, rfl, by rw [List.flatten_cons, List.append_assoc]⟩

-- The number in the middle is one too large.
example : putAll [.varInt 321, .varInt 268435456, .text "a"] [7] =
    ([.varInt 321, .text "a"], [7, 0xC1, 0x02, 0x00, 0x01, 0x61]) := by cbv

theorem readAll_flatten {parts : List Bytes}
    (wrote : items.mapM encode = .ok parts) (left : Bytes) :
    readAll (items.map kind) (parts.flatten ++ left) = (.ok items, left) := by
  induction items generalizing parts with
  | nil =>
    cases wrote
    rfl
  | cons item items ih =>
    rw [List.mapM_cons] at wrote
    obtain ⟨bs, one, more⟩ := bind_eq_ok.mp wrote
    obtain ⟨rest, all, told⟩ := bind_eq_ok.mp more
    cases told
    rw [List.flatten_cons, List.append_assoc]
    exact Read.bind_eq_ok.mpr ⟨item, _, read_of_encode one _,
      Read.bind_eq_ok.mpr ⟨items, left, ih all, rfl⟩⟩

/-- An item is written as its whole encoding, or for its fault not at all. Of items in turn, whatever
cannot be written among them, those that are written are read back in turn by their kinds, and then
there is nothing left to read. -/
theorem written_reads_back :
    (∀ (item : Item) (buffer : Bytes),
      (∃ bs, item.encode = .ok bs ∧ item.put buffer = (.ok (), buffer ++ bs) ∧
        ∀ e, ¬ item.Fault e) ∨
      ∃ e, item.Fault e ∧ item.encode = .error e ∧ item.put buffer = (.error e, buffer)) ∧
    ∀ (items : List Item) (buffer : Bytes), ∃ written parts,
      written = items.filter (·.encode.isOk) ∧
      written.mapM encode = .ok parts ∧
      putAll items buffer = (written, buffer ++ parts.flatten) ∧
      readAll (written.map kind) parts.flatten = (.ok written, []) := by
  constructor
  · intro item buffer
    have wrote := item.appends_put buffer
    cases encoded : item.encode with
    | ok bs =>
      rw [encoded] at wrote
      refine .inl ⟨bs, rfl, wrote, fun e fault => ?_⟩
      cases encoded.symm.trans (encode_eq_error.mpr fault)
    | error e =>
      rw [encoded] at wrote
      exact .inr ⟨e, encode_eq_error.mp encoded, rfl, wrote⟩
  · intro items buffer
    obtain ⟨parts, all, put⟩ := putAll_eq items buffer
    refine ⟨_, parts, rfl, all, put, ?_⟩
    rw [← List.append_nil parts.flatten]
    exact readAll_flatten all []

end Item
end ReloadProbe.Wire
