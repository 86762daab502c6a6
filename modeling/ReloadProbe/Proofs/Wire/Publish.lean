import ReloadProbe.Proofs.Wire.ConnAck
import ReloadProbe.Wire.Publish

/-!
PUBLISH as a grammar. `Laid` says how the parts of a packet may be written, `decode_eq_ok` that the
decoder takes exactly the frames whose body is laid out so, and `encode_eq_ok` which of them the
encoder writes.
-/
namespace ReloadProbe.Wire.Publish

open Except (bind_eq_ok)
open VarInt (Spells)

variable {p : Publish} {version : Version} {bs body left : Bytes} {first : UInt8} {qos : QoS}

/-- The octets that are read as the properties of a packet. Before version 5 there are none. -/
def Block (version : Version) (block : Bytes) (properties : List Property) : Prop :=
  if version.hasProperties then
    ∃ form inner, Spells form inner.length ∧ form.length ≤ 4 ∧ Property.Block inner properties ∧
      block = form ++ inner
  else properties = [] ∧ block = []

/-- The parts of a body before its payload, and of what packet they are read. -/
structure Laid (p : Publish) (topic id block : Bytes) : Prop where
  topic : textField p.topic = .ok topic
  id : p.encodeId = .ok id
  unnumbered : p.qos = .atMostOnce → p.packetId = none
  block : Block p.version block p.properties

theorem ofFirstOctet_eq_publish {b : UInt8} :
    PacketKind.ofFirstOctet b = .publish ↔ b.toNat / 16 = 3 := by
  unfold PacketKind.ofFirstOctet
  split <;> simp_all

theorem toNat_firstOctet (p : Publish) :
    p.firstOctet.toNat = 48 + p.dup.toNat * 8 + p.qos.level.toNat * 2 + p.retain.toNat := by
  obtain ⟨_, _, _, qos, retain, dup, _, _⟩ := p
  cases qos <;> cases retain <;> cases dup <;> rfl

theorem toNat_level (qos : QoS) : qos.level.toNat ≤ 2 := by
  cases qos <;> decide

theorem level_firstOctet (p : Publish) : p.firstOctet.toNat / 2 % 4 = p.qos.level.toNat := by
  have := toNat_level p.qos
  have := p.retain.toNat_le
  rw [toNat_firstOctet]
  omega

/-- The first octet says what it was made of. -/
theorem firstOctet_reads (p : Publish) :
    PacketKind.ofFirstOctet p.firstOctet = .publish ∧
      QoS.ofLevel (UInt8.ofNat (p.firstOctet.toNat / 2 % 4)) = .ok p.qos ∧
      decide (p.firstOctet.toNat % 2 = 1) = p.retain ∧
      decide (p.firstOctet.toNat / 8 % 2 = 1) = p.dup := by
  have := toNat_level p.qos
  have := p.dup.toNat_le
  have := p.retain.toNat_le
  have retain : p.firstOctet.toNat % 2 = p.retain.toNat := by rw [toNat_firstOctet]; omega
  have dup : p.firstOctet.toNat / 8 % 2 = p.dup.toNat := by rw [toNat_firstOctet]; omega
  refine ⟨ofFirstOctet_eq_publish.mpr ?_, ?_, ?_, ?_⟩
  · rw [toNat_firstOctet]
    omega
  · rw [level_firstOctet, UInt8.ofNat_toNat, QoS.ofLevel_level]
  · rw [retain]
    cases p.retain <;> rfl
  · rw [dup]
    cases p.dup <;> rfl

theorem level_of_ofLevel {level : UInt8} (h : QoS.ofLevel level = .ok qos) : qos.level = level := by
  unfold QoS.ofLevel at h
  split at h
  · cases h; simp_all [QoS.level]
  split at h
  · cases h; simp_all [QoS.level]
  split at h
  · cases h; simp_all [QoS.level]
  · cases h

theorem firstOctet_of_reads {b : UInt8} (kind : PacketKind.ofFirstOctet b = .publish)
    (level : QoS.ofLevel (UInt8.ofNat (b.toNat / 2 % 4)) = .ok p.qos)
    (retain : p.retain = decide (b.toNat % 2 = 1))
    (dup : p.dup = decide (b.toNat / 8 % 2 = 1)) : p.firstOctet = b := by
  have upper := ofFirstOctet_eq_publish.mp kind
  have level : p.qos.level.toNat = b.toNat / 2 % 4 := by
    rw [level_of_ofLevel level, UInt8.toNat_ofNat']
    omega
  have retain : p.retain.toNat = b.toNat % 2 := by
    rw [retain]
    rcases Nat.mod_two_eq_zero_or_one b.toNat with h | h <;> simp [h]
  have dup : p.dup.toNat = b.toNat / 8 % 2 := by
    rw [dup]
    rcases Nat.mod_two_eq_zero_or_one (b.toNat / 8) with h | h <;> simp [h]
  apply UInt8.toNat_inj.mp
  rw [toNat_firstOctet, level, retain, dup]
  omega

theorem encodeId_eq_ok {id : Bytes} :
    p.encodeId = .ok id ↔
      if p.qos = .atMostOnce then id = []
      else ∃ n, p.packetId = some n ∧ id = Bytes.ofUInt16 n := by
  unfold encodeId
  split
  · simp [eq_comm]
  · cases p.packetId <;> simp [eq_comm]

def readId (qos : QoS) : Read (Option UInt16) :=
  if qos = .atMostOnce then pure none else some <$> Read.uint16

def readProperties (version : Version) : Read (List Property) :=
  if version.hasProperties then Property.readBlock else pure []

/-- The octets of the properties, with the length of all of them. -/
def encodeProperties (p : Publish) : Except WireError Bytes :=
  if p.version.hasProperties then Property.encodeBlock p.properties else .ok []

theorem readBody_eq (version : Version) (first : UInt8) (qos : QoS) :
    readBody version first qos = Read.text >>= fun topic =>
      readId qos >>= fun packetId =>
      readProperties version >>= fun properties =>
      Read.rest >>= fun payload =>
      pure { topic, payload, version, qos, packetId, properties,
             retain := first.toNat % 2 = 1, dup := first.toNat / 8 % 2 = 1 } := by
  cases qos <;> cases version <;> rfl

theorem body_eq (p : Publish) :
    p.body = textField p.topic >>= fun topic =>
      p.encodeId >>= fun id =>
      p.encodeProperties >>= fun block => pure (topic ++ id ++ block ++ p.payload) := by
  unfold body encodeProperties
  cases p.version <;> rfl

theorem readId_eq_ok {mid : Bytes} {packetId : Option UInt16} :
    readId qos bs = (.ok packetId, mid) ↔
      if qos = .atMostOnce then packetId = none ∧ mid = bs
      else ∃ n, packetId = some n ∧ bs = Bytes.ofUInt16 n ++ mid := by
  unfold readId
  split
  · exact Read.pure_eq_ok
  · rw [Read.map_eq_ok]
    constructor
    · rintro ⟨n, read, rfl⟩
      exact ⟨n, rfl, Read.uint16_eq_ok.mp read⟩
    · rintro ⟨n, rfl, read⟩
      exact ⟨n, Read.uint16_eq_ok.mpr read, rfl⟩

/-- What is written for properties is read as those of them that the version has. -/
theorem block_of_encodeFor {ps : List Property} {block : Bytes}
    (h : Property.encodeFor version ps = .ok block) :
    Block version block (if version.hasProperties then ps else []) := by
  unfold Property.encodeFor at h
  unfold Block
  split at h
  · rename_i five
    rw [if_pos five, if_pos five]
    exact Property.forms_of_encodeBlock h
  · rename_i older
    cases h
    rw [if_neg older, if_neg older]
    exact ⟨rfl, rfl⟩

theorem readProperties_eq_ok {mid : Bytes} {properties : List Property} :
    readProperties version bs = (.ok properties, mid) ↔
      ∃ block, Block version block properties ∧ bs = block ++ mid := by
  unfold readProperties Block
  split
  · rw [Property.readBlock_eq_ok]
    constructor
    · rintro ⟨form, inner, spelled, four, parsed, rfl⟩
      exact ⟨_, ⟨form, inner, spelled, four, parsed, rfl⟩, (List.append_assoc ..).symm⟩
    · rintro ⟨_, ⟨form, inner, spelled, four, parsed, rfl⟩, rfl⟩
      exact ⟨form, inner, spelled, four, parsed, List.append_assoc ..⟩
  · rw [Read.pure_eq_ok]
    constructor
    · rintro ⟨rfl, rfl⟩
      exact ⟨[], ⟨rfl, rfl⟩, rfl⟩
    · rintro ⟨_, ⟨rfl, rfl⟩, rfl⟩
      exact ⟨rfl, rfl⟩

theorem readBody_eq_ok :
    readBody version first qos body = (.ok p, left) ↔
      (p.version = version ∧ p.qos = qos ∧ p.retain = decide (first.toNat % 2 = 1) ∧
        p.dup = decide (first.toNat / 8 % 2 = 1) ∧ left = []) ∧
      ∃ topic id block, p.Laid topic id block ∧ body = topic ++ (id ++ (block ++ p.payload)) := by
  rw [readBody_eq]
  refine Read.bind_eq_ok.trans ⟨?_, ?_⟩
  · rintro ⟨topic, afterTopic, one, more⟩
    obtain ⟨packetId, afterId, two, more⟩ := Read.bind_eq_ok.mp more
    obtain ⟨properties, afterBlock, three, more⟩ := Read.bind_eq_ok.mp more
    obtain ⟨payload, left, four, told⟩ := Read.bind_eq_ok.mp more
    obtain ⟨rfl, rfl⟩ := Read.pure_eq_ok.mp told
    obtain ⟨rfl, rfl⟩ := Read.rest_eq_ok.mp four
    obtain ⟨topicField, wrote, rfl⟩ := Read.text_eq_ok.mp one
    obtain ⟨block, laid, rfl⟩ := readProperties_eq_ok.mp three
    refine ⟨⟨rfl, rfl, rfl, rfl, rfl⟩, ?_⟩
    rw [readId_eq_ok] at two
    split at two
    · rename_i zero
      obtain ⟨rfl, rfl⟩ := two
      exact ⟨topicField, [], block, ⟨wrote, encodeId_eq_ok.mpr (by rw [if_pos zero]),
        fun _ => rfl, laid⟩, rfl⟩
    · rename_i positive
      obtain ⟨n, rfl, rfl⟩ := two
      exact ⟨topicField, Bytes.ofUInt16 n, block, ⟨wrote,
        encodeId_eq_ok.mpr (by rw [if_neg positive]; exact ⟨n, rfl, rfl⟩),
        fun zero => absurd zero positive, laid⟩, rfl⟩
  · rintro ⟨⟨rfl, rfl, retain, dup, rfl⟩, topic, id, block, laid, rfl⟩
    refine ⟨p.topic, _, Read.text_eq_ok.mpr ⟨topic, laid.topic, rfl⟩, Read.bind_eq_ok.mpr ?_⟩
    refine ⟨p.packetId, block ++ p.payload, readId_eq_ok.mpr ?_, Read.bind_eq_ok.mpr ?_⟩
    · have written := encodeId_eq_ok.mp laid.id
      split at written
      · rename_i zero
        rw [if_pos zero, written]
        exact ⟨laid.unnumbered zero, rfl⟩
      · rename_i positive
        obtain ⟨n, known, rfl⟩ := written
        rw [if_neg positive]
        exact ⟨n, known, rfl⟩
    · refine ⟨p.properties, p.payload, readProperties_eq_ok.mpr ⟨block, laid.block, rfl⟩,
        Read.bind_eq_ok.mpr ⟨p.payload, [], rfl, Read.pure_eq_ok.mpr ⟨?_, rfl⟩⟩⟩
      rw [← retain, ← dup]

/-- The decoder takes the frames of PUBLISH, and of a longer string the first frame. -/
theorem decode_eq_ok :
    decode version bs = .ok p ↔
      p.version = version ∧ ∃ topic id block form left, p.Laid topic id block ∧
        Spells form (topic ++ (id ++ (block ++ p.payload))).length ∧ form.length ≤ 4 ∧
        bs = p.firstOctet :: (form ++ (topic ++ (id ++ (block ++ p.payload)) ++ left)) := by
  refine bind_eq_ok.trans ⟨?_, ?_⟩
  · rintro ⟨⟨first, body⟩, framed, more⟩
    obtain ⟨⟨⟩, kind, more⟩ := bind_eq_ok.mp more
    obtain ⟨qos, level, read⟩ := bind_eq_ok.mp more
    obtain ⟨form, left, spelled, four, rfl⟩ := Frame.split_eq_ok.mp framed
    have whole : readBody version first qos body = (.ok p, (readBody version first qos body).2) :=
      Prod.ext read rfl
    obtain ⟨⟨rfl, rfl, retain, dup, _⟩, topic, id, block, laid, rfl⟩ := readBody_eq_ok.mp whole
    have same := firstOctet_of_reads (expectKind_eq_ok.mp kind) level retain dup
    exact ⟨rfl, topic, id, block, form, left, laid, spelled, four, by rw [same]⟩
  · rintro ⟨rfl, topic, id, block, form, left, laid, spelled, four, rfl⟩
    obtain ⟨kind, level, retain, dup⟩ := firstOctet_reads p
    refine ⟨(p.firstOctet, _), Frame.split_eq_ok.mpr ⟨form, left, spelled, four, rfl⟩,
      bind_eq_ok.mpr ⟨(), expectKind_eq_ok.mpr kind, bind_eq_ok.mpr ⟨p.qos, level, ?_⟩⟩⟩
    have read := readBody_eq_ok.mpr
      ⟨⟨rfl, rfl, retain.symm, dup.symm, rfl⟩, topic, id, block, laid, rfl⟩
    exact congrArg Prod.fst read

/-- What the encoder writes: the shortest of the forms that the decoder takes. -/
theorem encode_eq_ok {frame : Bytes} :
    p.encode = .ok frame ↔
      ∃ topic id block, textField p.topic = .ok topic ∧ p.encodeId = .ok id ∧
        p.encodeProperties = .ok block ∧
        (topic ++ (id ++ (block ++ p.payload))).length ≤ VarInt.limit ∧
        frame = p.firstOctet :: (VarInt.octets (topic ++ (id ++ (block ++ p.payload))).length ++
          (topic ++ (id ++ (block ++ p.payload)))) := by
  refine bind_eq_ok.trans ⟨?_, ?_⟩
  · rintro ⟨body, made, wrapped⟩
    rw [body_eq] at made
    obtain ⟨topic, one, more⟩ := bind_eq_ok.mp made
    obtain ⟨id, two, more⟩ := bind_eq_ok.mp more
    obtain ⟨block, three, told⟩ := bind_eq_ok.mp more
    cases told
    rw [List.append_assoc, List.append_assoc] at wrapped
    obtain ⟨fits, rfl⟩ := Frame.wrap_eq_ok.mp wrapped
    exact ⟨topic, id, block, one, two, three, fits, rfl⟩
  · rintro ⟨topic, id, block, one, two, three, fits, rfl⟩
    refine ⟨topic ++ (id ++ (block ++ p.payload)), ?_, Frame.wrap_eq_ok.mpr ⟨fits, rfl⟩⟩
    rw [body_eq]
    refine bind_eq_ok.mpr ⟨topic, one, bind_eq_ok.mpr ⟨id, two, bind_eq_ok.mpr ⟨block, three, ?_⟩⟩⟩
    rw [← List.append_assoc, ← List.append_assoc]
    rfl

end ReloadProbe.Wire.Publish
