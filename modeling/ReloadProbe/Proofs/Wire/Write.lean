import ReloadProbe.Proofs.Fallible
import ReloadProbe.Proofs.Wire.VarInt
import ReloadProbe.Wire.Property
import ReloadProbe.Wire.Version

/-!
Writers and what they may fail with. A writer is told by two things that need no writing: its faults,
in the order in which they would be met, and its size; it fails with the first fault, and fills the
size if there is none.
-/
namespace ReloadProbe.Wire

def Writes (faults : List WireError) (size : Nat) : Except WireError Bytes → Prop
  | .ok bs => faults = [] ∧ bs.length = size
  | .error e => faults.head? = some e

variable {faults later : List WireError} {size m : Nat} {w : Except WireError Bytes}

theorem Writes.pure {bs : Bytes} (length : bs.length = size) :
    Writes [] size (pure bs : Except WireError Bytes) := ⟨rfl, length⟩

/-- What comes first fails first. -/
theorem Writes.bind {f : Bytes → Except WireError Bytes} (first : Writes faults m w)
    (rest : ∀ bs, bs.length = m → Writes later size (f bs)) :
    Writes (faults ++ later) size (w >>= f) := by
  cases w with
  | ok bs =>
    obtain ⟨rfl, length⟩ := first
    exact rest bs length
  | error e =>
    show (faults ++ later).head? = some e
    have told : faults.head? = some e := first
    rw [List.head?_append, told]
    rfl

theorem Writes.eq_ok_iff (h : Writes faults size w) : (∃ bs, w = .ok bs) ↔ faults = [] := by
  cases w with
  | ok bs => exact ⟨fun _ => h.1, fun _ => ⟨bs, rfl⟩⟩
  | error e =>
    have told : faults.head? = some e := h
    constructor
    · rintro ⟨bs, told⟩
      cases told
    · rintro rfl
      cases told

theorem Writes.eq_error_iff {e : WireError} (h : Writes faults size w) :
    w = .error e ↔ faults.head? = some e := by
  cases w with
  | ok bs =>
    obtain ⟨rfl, _⟩ := h
    constructor <;> intro told <;> cases told
  | error e' =>
    have told : faults.head? = some e' := h
    rw [told]
    constructor <;> rintro ⟨⟩ <;> rfl

def textFaults (s : String) : List WireError :=
  if (Utf8.encode s).length ≤ 65535 then [] else [.stringTooLong (Utf8.encode s).length]

/-- The octets of a text and the two of its length. -/
def textSize (s : String) : Nat := 2 + (Utf8.encode s).length

def lengthFaults (n : Nat) : List WireError :=
  if n ≤ VarInt.limit then [] else [.remainingLengthTooLarge n]

theorem textFaults_eq_nil {s : String} : textFaults s = [] ↔ (Utf8.encode s).length ≤ 65535 := by
  unfold textFaults
  split <;> simp_all

theorem lengthFaults_eq_nil {n : Nat} : lengthFaults n = [] ↔ n ≤ VarInt.limit := by
  unfold lengthFaults
  split <;> simp_all

theorem writes_textField (s : String) : Writes (textFaults s) (textSize s) (textField s) := by
  unfold textFaults textField binaryField
  split
  · refine ⟨rfl, ?_⟩
    rw [List.length_append]
    rfl
  · rfl

theorem writes_varInt (n : Nat) : Writes (lengthFaults n) (VarInt.width n) (VarInt.encode n) := by
  unfold lengthFaults VarInt.encode
  split
  · rename_i fits
    exact ⟨rfl, VarInt.length_octets fits⟩
  · rfl

namespace Property

/-- The texts of a property, in the order in which they are written. -/
def texts : Property → List String
  | contentType s | assignedClientIdentifier s | reasonString s => [s]
  | userProperty key value => [key, value]
  | _ => []

def valueSize : Property → Nat
  | payloadFormatIndicator _ | maximumQoS _ | retainAvailable _ => 1
  | serverKeepAlive _ | receiveMaximum _ | topicAliasMaximum _ | topicAlias _ => 2
  | messageExpiryInterval _ | sessionExpiryInterval _ | maximumPacketSize _ => 4
  | contentType s | assignedClientIdentifier s | reasonString s => textSize s
  | userProperty key value => textSize key + textSize value

/-- The size of properties without that of their length. -/
def sizeAll : List Property → Nat
  | [] => 0
  | p :: ps => 1 + p.valueSize + sizeAll ps

def faultsAll (ps : List Property) : List WireError := (ps.flatMap texts).flatMap textFaults

theorem faultsAll_eq_nil {ps : List Property} :
    faultsAll ps = [] ↔ ∀ p ∈ ps, ∀ s ∈ p.texts, (Utf8.encode s).length ≤ 65535 := by
  simp only [faultsAll, List.flatMap_eq_nil_iff, List.mem_flatMap, textFaults_eq_nil]
  exact ⟨fun h p hp s hs => h s ⟨p, hp, hs⟩, fun h s ⟨p, hp, hs⟩ => h p hp s hs⟩

/-- Properties without their length. -/
def encodeAll (ps : List Property) : Except WireError Bytes := do return (← ps.mapM encode).flatten

theorem encodeBlock_eq (ps : List Property) :
    encodeBlock ps = encodeAll ps >>= fun block =>
      VarInt.encode block.length >>= fun length => pure (length ++ block) := by
  unfold encodeBlock encodeAll
  cases ps.mapM encode <;> rfl

theorem encodeAll_cons (p : Property) (ps : List Property) :
    encodeAll (p :: ps) =
      p.encode >>= fun first => encodeAll ps >>= fun rest => pure (first ++ rest) := by
  unfold encodeAll
  rw [List.mapM_cons]
  cases p.encode with
  | error e => rfl
  | ok first => cases ps.mapM encode <;> rfl

theorem writes_encodeValue (p : Property) :
    Writes (p.texts.flatMap textFaults) p.valueSize p.encodeValue := by
  cases p with
  | payloadFormatIndicator | maximumQoS | retainAvailable
  | serverKeepAlive | receiveMaximum | topicAliasMaximum | topicAlias
  | messageExpiryInterval | sessionExpiryInterval | maximumPacketSize => exact ⟨rfl, rfl⟩
  | contentType s | assignedClientIdentifier s | reasonString s =>
    have one : [s].flatMap textFaults = textFaults s := by simp
    rw [texts, one]
    exact writes_textField s
  | userProperty key value =>
    have two : [key, value].flatMap textFaults = textFaults key ++ (textFaults value ++ []) := by
      simp
    rw [texts, two]
    refine (writes_textField key).bind fun k hk => (writes_textField value).bind fun v hv => ?_
    exact .pure (by rw [List.length_append, hk, hv]; rfl)

theorem writes_encode (p : Property) :
    Writes (p.texts.flatMap textFaults) (1 + p.valueSize) p.encode := by
  rw [← List.append_nil (p.texts.flatMap textFaults)]
  refine (writes_encodeValue p).bind fun value length => .pure ?_
  rw [List.length_cons, length, Nat.add_comm]

theorem writes_encodeAll (ps : List Property) :
    Writes (faultsAll ps) (sizeAll ps) (encodeAll ps) := by
  induction ps with
  | nil => exact ⟨rfl, rfl⟩
  | cons p ps ih =>
    have split : faultsAll (p :: ps) = p.texts.flatMap textFaults ++ (faultsAll ps ++ []) := by
      simp [faultsAll]
    rw [encodeAll_cons, split]
    refine (writes_encode p).bind fun first hf => ih.bind fun rest hr => .pure ?_
    rw [List.length_append, hf, hr, sizeAll]

theorem writes_encodeBlock (ps : List Property) :
    Writes (faultsAll ps ++ lengthFaults (sizeAll ps)) (VarInt.width (sizeAll ps) + sizeAll ps)
      (encodeBlock ps) := by
  rw [encodeBlock_eq, ← List.append_nil (lengthFaults _)]
  refine (writes_encodeAll ps).bind fun block size => ?_
  rw [size]
  refine (writes_varInt _).bind fun length width => .pure ?_
  rw [List.length_append, width, size]

/-- What a packet of a version writes for its properties; before version 5 nothing. -/
def encodeFor (version : Version) (ps : List Property) : Except WireError Bytes :=
  if version.hasProperties then encodeBlock ps else .ok []

def faultsFor (version : Version) (ps : List Property) : List WireError :=
  if version.hasProperties then faultsAll ps ++ lengthFaults (sizeAll ps) else []

/-- The size of the properties and of their length. -/
def sizeFor (version : Version) (ps : List Property) : Nat :=
  if version.hasProperties then VarInt.width (sizeAll ps) + sizeAll ps else 0

theorem faultsFor_nil (version : Version) : faultsFor version [] = [] := by
  cases version <;> rfl

theorem writes_encodeFor (version : Version) (ps : List Property) :
    Writes (faultsFor version ps) (sizeFor version ps) (encodeFor version ps) := by
  unfold faultsFor sizeFor encodeFor
  split
  · exact writes_encodeBlock ps
  · exact ⟨rfl, rfl⟩

theorem faultsFor_eq_nil {version : Version} {ps : List Property} :
    faultsFor version ps = [] ↔
      (version = .v5 →
        (∀ p ∈ ps, ∀ s ∈ p.texts, (Utf8.encode s).length ≤ 65535) ∧ sizeAll ps ≤ VarInt.limit) := by
  unfold faultsFor Version.hasProperties
  by_cases five : version = .v5
  · simp [five, faultsAll_eq_nil, lengthFaults_eq_nil]
  · simp [five]

end Property
end ReloadProbe.Wire
