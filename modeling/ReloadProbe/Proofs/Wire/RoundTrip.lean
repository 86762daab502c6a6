import ReloadProbe.Proofs.Wire.Publish

/-!
A PUBLISH that is written is read back, whatever follows it. What keeps a packet from being written
is told by its fields alone (`faults`), in the order in which the encoder meets it.
-/
namespace ReloadProbe.Wire.Publish

open VarInt (Spells)

/-- A packet that asks for delivery has to be numbered. -/
def idFaults (p : Publish) : List WireError :=
  if p.qos = .atMostOnce ∨ p.packetId.isSome then [] else [.missingPacketId p.qos.level]

def propertyFaults (p : Publish) : List WireError :=
  if p.version.hasProperties then
    Property.faultsAll p.properties ++ lengthFaults (Property.sizeAll p.properties)
  else []

def idSize (p : Publish) : Nat := if p.qos = .atMostOnce then 0 else 2

/-- The size of the properties and of their length. -/
def propertySize (p : Publish) : Nat :=
  if p.version.hasProperties then
    VarInt.width (Property.sizeAll p.properties) + Property.sizeAll p.properties
  else 0

def bodySize (p : Publish) : Nat :=
  textSize p.topic + p.idSize + p.propertySize + p.payload.length

/-- Why a packet cannot be written: its topic, its number, its properties and its size. -/
def faults (p : Publish) : List WireError :=
  textFaults p.topic ++ (p.idFaults ++ (p.propertyFaults ++ lengthFaults p.bodySize))

/-- The packet as it is read back: without a number if it needs none, and without properties before
version 5. -/
def normal (p : Publish) : Publish :=
  { p with
    packetId := if p.qos = .atMostOnce then none else p.packetId
    properties := if p.version.hasProperties then p.properties else [] }

variable {p : Publish} {frame : Bytes}

theorem writes_encodeId (p : Publish) : Writes p.idFaults p.idSize p.encodeId := by
  unfold idFaults idSize encodeId
  by_cases zero : p.qos = .atMostOnce
  · simp only [zero, true_or, if_true]
    exact ⟨rfl, rfl⟩
  · cases p.packetId with
    | some n =>
      simp only [zero, Option.isSome_some, or_true, if_true, if_false]
      exact ⟨rfl, rfl⟩
    | none =>
      simp only [zero, Option.isSome_none, Bool.false_eq_true, or_self, if_false]
      rfl

theorem writes_encodeProperties (p : Publish) :
    Writes p.propertyFaults p.propertySize p.encodeProperties :=
  Property.writes_encodeFor p.version p.properties

theorem writes_encode (p : Publish) :
    Writes p.faults (1 + VarInt.width p.bodySize + p.bodySize) p.encode := by
  have body : Writes (textFaults p.topic ++ (p.idFaults ++ (p.propertyFaults ++ []))) p.bodySize
      p.body := by
    rw [body_eq]
    refine (writes_textField p.topic).bind fun topic ht => (writes_encodeId p).bind fun id hi =>
      (writes_encodeProperties p).bind fun block hb => .pure ?_
    simp only [List.length_append, ht, hi, hb, bodySize]
  have all : p.faults = (textFaults p.topic ++ (p.idFaults ++ (p.propertyFaults ++ []))) ++
      lengthFaults p.bodySize := by simp [faults]
  rw [all]
  refine body.bind fun whole size => ?_
  rw [← size]
  exact Frame.writes_wrap

theorem idFaults_eq_nil : p.idFaults = [] ↔ (p.qos ≠ .atMostOnce → p.packetId.isSome) := by
  unfold idFaults
  by_cases zero : p.qos = .atMostOnce
  · simp [zero]
  · cases p.packetId <;> simp [zero]

theorem propertyFaults_eq_nil :
    p.propertyFaults = [] ↔
      (p.version = .v5 →
        (∀ q ∈ p.properties, ∀ s ∈ q.texts, (Utf8.encode s).length ≤ 65535) ∧
        Property.sizeAll p.properties ≤ VarInt.limit) :=
  Property.faultsFor_eq_nil

theorem faults_eq_nil :
    p.faults = [] ↔
      (Utf8.encode p.topic).length ≤ 65535 ∧ (p.qos ≠ .atMostOnce → p.packetId.isSome) ∧
      (p.version = .v5 →
        (∀ q ∈ p.properties, ∀ s ∈ q.texts, (Utf8.encode s).length ≤ 65535) ∧
        Property.sizeAll p.properties ≤ VarInt.limit) ∧
      p.bodySize ≤ VarInt.limit := by
  simp only [faults, List.append_eq_nil_iff, textFaults_eq_nil, idFaults_eq_nil,
    propertyFaults_eq_nil, lengthFaults_eq_nil]

/-- The parts that the encoder writes are read as those of the packet without what is not written. -/
theorem laid_normal {topic id block : Bytes} (one : textField p.topic = .ok topic)
    (two : p.encodeId = .ok id) (three : p.encodeProperties = .ok block) :
    p.normal.Laid topic id block := by
  refine ⟨one, ?_, ?_, ?_⟩
  · rw [encodeId_eq_ok] at two ⊢
    by_cases zero : p.qos = .atMostOnce
    · simpa only [normal, zero, if_true] using two
    · simpa only [normal, zero, if_false] using two
  · intro zero
    exact if_pos zero
  · exact block_of_encodeFor three

theorem decode_encode (h : p.encode = .ok frame) (left : Bytes) :
    decode p.version (frame ++ left) = .ok p.normal := by
  obtain ⟨topic, id, block, one, two, three, fits, rfl⟩ := encode_eq_ok.mp h
  refine decode_eq_ok.mpr ⟨rfl, topic, id, block, _, left, laid_normal one two three,
    VarInt.spells_octets _, VarInt.length_octets_le_four.mpr fits, ?_⟩
  rw [List.cons_append, List.append_assoc]
  rfl

/-- A packet is written exactly if its fields fit, and fails with the first that does not. What is
written is read back, whatever follows it, as the packet without what its version and its QoS leave
out; so two packets that are written alike differ in that only. -/
theorem round_trip (p : Publish) :
    ((∃ frame, p.encode = .ok frame) ↔
      (Utf8.encode p.topic).length ≤ 65535 ∧ (p.qos ≠ .atMostOnce → p.packetId.isSome) ∧
      (p.version = .v5 →
        (∀ q ∈ p.properties, ∀ s ∈ q.texts, (Utf8.encode s).length ≤ 65535) ∧
        Property.sizeAll p.properties ≤ 268435455) ∧
      p.bodySize ≤ 268435455) ∧
    (∀ e, p.encode = .error e ↔ p.faults.head? = some e) ∧
    ∀ frame, p.encode = .ok frame →
      (∀ left, decode p.version (frame ++ left) = .ok p.normal) ∧
      ∀ q : Publish, q.version = p.version → q.encode = .ok frame → q.normal = p.normal := by
  refine ⟨(writes_encode p).eq_ok_iff.trans faults_eq_nil,
    fun e => (writes_encode p).eq_error_iff, fun frame h => ⟨decode_encode h, ?_⟩⟩
  intro q same written
  have mine := decode_encode h []
  have other := decode_encode written []
  rw [same] at other
  exact Except.ok.inj (other.symm.trans mine)

/-- A packet that has all that may be left out of one. -/
def full : Publish :=
  { topic := "a/b", payload := [1], version := .v5, qos := .atLeastOnce, packetId := some 7
    properties := [.userProperty "k" "v", .retainAvailable true] }

theorem round_trip_full :
    ∃ frame, full.encode = .ok frame ∧ decode .v5 (frame ++ [0xD0, 0x00]) = .ok full := by
  obtain ⟨writable, _, readable⟩ := round_trip full
  obtain ⟨frame, written⟩ := writable.mpr
    ⟨by decide +kernel, fun _ => rfl, fun _ => ⟨by decide +kernel, by decide +kernel⟩,
      by decide +kernel⟩
  exact ⟨frame, written, (readable frame written).1 [0xD0, 0x00]⟩

end ReloadProbe.Wire.Publish
