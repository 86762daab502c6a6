import ReloadProbe.Proofs.Wire.Frame
import ReloadProbe.Proofs.Wire.Property
import ReloadProbe.Wire.ConnAck

/-!
CONNACK as a grammar, and its round trip. A reader may leave out the properties of version 5
altogether and ignores what stands after them; the encoder always writes a block, if need be an empty
one, and nothing after it.
-/
namespace ReloadProbe.Wire

theorem expectKind_eq_ok {wanted : PacketKind} {b : UInt8} {u : Unit} :
    expectKind wanted b = .ok u ↔ PacketKind.ofFirstOctet b = wanted := by
  unfold expectKind
  split <;> simp_all

namespace ConnAck

open Except (bind_eq_ok)
open VarInt (Spells)

variable {c : ConnAck} {version : Version} {bs body tail : Bytes} {properties : List Property}

/-- The octets after the reason code of a packet, and the properties that are read from them. -/
def Tail (version : Version) (properties : List Property) (tail : Bytes) : Prop :=
  if version.hasProperties ∧ tail ≠ [] then
    ∃ form block rest, Spells form block.length ∧ form.length ≤ 4 ∧
      Property.Block block properties ∧ tail = form ++ (block ++ rest)
  else properties = []

def readProperties (version : Version) : Read (List Property) := fun left =>
  if version.hasProperties && !left.isEmpty then Property.readBlock left else (.ok [], left)

theorem readBody_eq (version : Version) :
    readBody version = Read.octet >>= fun flags =>
      Read.octet >>= fun reasonCode =>
      readProperties version >>= fun properties =>
      pure { sessionPresent := flags.toNat % 2 = 1, reasonCode, version, properties } := rfl

theorem readProperties_eq_ok :
    (∃ left, readProperties version tail = (.ok properties, left)) ↔ Tail version properties tail := by
  unfold readProperties Tail
  by_cases present : version.hasProperties ∧ tail ≠ []
  · have asked : (version.hasProperties && !tail.isEmpty) = true := by simpa using present
    simp only [if_pos present, if_pos asked, Property.readBlock_eq_ok]
    constructor
    · rintro ⟨rest, form, block, spelled, four, parsed, rfl⟩
      exact ⟨form, block, rest, spelled, four, parsed, rfl⟩
    · rintro ⟨form, block, rest, spelled, four, parsed, rfl⟩
      exact ⟨rest, form, block, spelled, four, parsed, rfl⟩
  · have absent : ¬ (version.hasProperties && !tail.isEmpty) = true := by simpa using present
    rw [if_neg present, if_neg absent]
    simp [eq_comm]

/-- A body is read as the packet of its flags, its reason code and its properties. -/
theorem readBody_eq_ok :
    (readBody version body).1 = .ok c ↔
      c.version = version ∧ ∃ flags tail, body = flags :: c.reasonCode :: tail ∧
        c.sessionPresent = decide (flags.toNat % 2 = 1) ∧ Tail version c.properties tail := by
  rw [readBody_eq, Read.fst_eq_ok]
  constructor
  · rintro ⟨left, h⟩
    obtain ⟨flags, afterFlags, one, more⟩ := Read.bind_eq_ok.mp h
    obtain ⟨reasonCode, tail, two, more⟩ := Read.bind_eq_ok.mp more
    obtain ⟨properties, rest, three, told⟩ := Read.bind_eq_ok.mp more
    obtain ⟨rfl, rfl⟩ := Read.pure_eq_ok.mp told
    rw [Read.octet_eq_ok] at one two
    subst one two
    exact ⟨rfl, flags, tail, rfl, rfl, readProperties_eq_ok.mp ⟨_, three⟩⟩
  · rintro ⟨rfl, flags, tail, rfl, present, told⟩
    obtain ⟨left, three⟩ := readProperties_eq_ok.mpr told
    refine ⟨left, Read.bind_eq_ok.mpr ⟨flags, _, Read.octet_eq_ok.mpr rfl, ?_⟩⟩
    refine Read.bind_eq_ok.mpr ⟨c.reasonCode, tail, Read.octet_eq_ok.mpr rfl, ?_⟩
    refine Read.bind_eq_ok.mpr ⟨c.properties, left, three, Read.pure_eq_ok.mpr ⟨?_, rfl⟩⟩
    rw [← present]

/-- The decoder takes the frames of CONNACK, and of a longer string the first frame. The lower half of
the first octet makes no difference. -/
theorem decode_eq_ok :
    decode version bs = .ok c ↔
      c.version = version ∧ ∃ first flags tail form left,
        PacketKind.ofFirstOctet first = .connAck ∧
        c.sessionPresent = decide (flags.toNat % 2 = 1) ∧ Tail version c.properties tail ∧
        Spells form (flags :: c.reasonCode :: tail).length ∧ form.length ≤ 4 ∧
        bs = first :: (form ++ (flags :: c.reasonCode :: tail ++ left)) := by
  refine bind_eq_ok.trans ⟨?_, ?_⟩
  · rintro ⟨⟨first, body⟩, framed, more⟩
    obtain ⟨⟨⟩, kind, read⟩ := bind_eq_ok.mp more
    obtain ⟨form, left, spelled, four, rfl⟩ := Frame.split_eq_ok.mp framed
    obtain ⟨same, flags, tail, rfl, present, told⟩ := readBody_eq_ok.mp read
    exact ⟨same, first, flags, tail, form, left, expectKind_eq_ok.mp kind, present, told, spelled,
      four, rfl⟩
  · rintro ⟨same, first, flags, tail, form, left, kind, present, told, spelled, four, rfl⟩
    refine ⟨(first, _), Frame.split_eq_ok.mpr ⟨form, left, spelled, four, rfl⟩, ?_⟩
    refine bind_eq_ok.mpr ⟨(), expectKind_eq_ok.mpr kind, ?_⟩
    exact readBody_eq_ok.mpr ⟨same, flags, tail, rfl, present, told⟩

def flags (c : ConnAck) : UInt8 := if c.sessionPresent then 1 else 0

theorem body_eq (c : ConnAck) :
    c.body = Property.encodeFor c.version c.properties >>= fun block =>
      pure (c.flags :: c.reasonCode :: block) := by
  unfold body Property.encodeFor
  cases c.version <;> rfl

theorem encode_eq_ok {frame : Bytes} :
    c.encode = .ok frame ↔
      ∃ block, Property.encodeFor c.version c.properties = .ok block ∧
        (c.flags :: c.reasonCode :: block).length ≤ VarInt.limit ∧
        frame = 0x20 :: (VarInt.octets (c.flags :: c.reasonCode :: block).length ++
          c.flags :: c.reasonCode :: block) := by
  refine bind_eq_ok.trans ⟨?_, ?_⟩
  · rintro ⟨body, made, wrapped⟩
    rw [body_eq] at made
    obtain ⟨block, one, told⟩ := bind_eq_ok.mp made
    cases told
    obtain ⟨fits, rfl⟩ := Frame.wrap_eq_ok.mp wrapped
    exact ⟨block, one, fits, rfl⟩
  · rintro ⟨block, one, fits, rfl⟩
    refine ⟨c.flags :: c.reasonCode :: block, ?_, Frame.wrap_eq_ok.mpr ⟨fits, rfl⟩⟩
    rw [body_eq]
    exact bind_eq_ok.mpr ⟨block, one, rfl⟩

def bodySize (c : ConnAck) : Nat := 2 + Property.sizeFor c.version c.properties

/-- Why a packet cannot be written: its properties and its size. -/
def faults (c : ConnAck) : List WireError :=
  Property.faultsFor c.version c.properties ++ lengthFaults c.bodySize

/-- The packet as it is read back, without properties before version 5. -/
def normal (c : ConnAck) : ConnAck :=
  { c with properties := if c.version.hasProperties then c.properties else [] }

theorem writes_encode (c : ConnAck) :
    Writes c.faults (1 + VarInt.width c.bodySize + c.bodySize) c.encode := by
  have body : Writes (Property.faultsFor c.version c.properties ++ []) c.bodySize c.body := by
    rw [body_eq]
    refine (Property.writes_encodeFor c.version c.properties).bind fun block size => .pure ?_
    rw [List.length_cons, List.length_cons, size, bodySize]
    omega
  have all : c.faults =
      (Property.faultsFor c.version c.properties ++ []) ++ lengthFaults c.bodySize := by
    rw [List.append_nil, faults]
  rw [all]
  refine body.bind fun whole size => ?_
  rw [← size]
  exact Frame.writes_wrap

theorem faults_eq_nil :
    c.faults = [] ↔
      (c.version = .v5 →
        (∀ p ∈ c.properties, ∀ s ∈ p.texts, (Utf8.encode s).length ≤ 65535) ∧
        Property.sizeAll c.properties ≤ VarInt.limit) ∧
      c.bodySize ≤ VarInt.limit := by
  simp only [faults, List.append_eq_nil_iff, Property.faultsFor_eq_nil, lengthFaults_eq_nil]

/-- Before version 5 there is nothing that could be too long. -/
theorem bodySize_older (older : c.version ≠ .v5) : c.bodySize = 2 := by
  have without : ¬ c.version.hasProperties := by simpa [Version.hasProperties] using older
  rw [bodySize, Property.sizeFor, if_neg without]

theorem tail_of_encodeFor {block : Bytes}
    (h : Property.encodeFor c.version c.properties = .ok block) :
    Tail c.version c.normal.properties block := by
  unfold Property.encodeFor at h
  unfold Tail normal
  split at h
  · rename_i five
    obtain ⟨form, inner, spelled, four, parsed, rfl⟩ := Property.forms_of_encodeBlock h
    -- The reader looks for a block only where something is left, and its length is at least that.
    have present : form ++ inner ≠ [] := by
      have := spelled.length_pos
      intro empty
      have sizes := congrArg List.length empty
      rw [List.length_append, List.length_nil] at sizes
      omega
    rw [if_pos ⟨five, present⟩, if_pos five]
    exact ⟨form, inner, [], spelled, four, parsed, by rw [List.append_nil]⟩
  · rename_i older
    rw [if_neg (fun both => older both.1), if_neg older]

theorem decode_encode {frame : Bytes} (h : c.encode = .ok frame) (left : Bytes) :
    decode c.version (frame ++ left) = .ok c.normal := by
  obtain ⟨block, wrote, fits, rfl⟩ := encode_eq_ok.mp h
  refine decode_eq_ok.mpr ⟨rfl, 0x20, c.flags, block, _, left, rfl, ?_, tail_of_encodeFor wrote,
    VarInt.spells_octets _, VarInt.length_octets_le_four.mpr fits, ?_⟩
  · show c.sessionPresent = decide (c.flags.toNat % 2 = 1)
    unfold flags
    cases c.sessionPresent <;> rfl
  · rw [List.cons_append, List.append_assoc]
    rfl

/-- Only a packet of version 5 may fail to be written, for a text of its properties, for all of them
together or for its body. What is written is read back, whatever follows it, as the packet without
what its version leaves out. -/
theorem encode_round_trip (c : ConnAck) :
    ((∃ e, c.encode = .error e) ↔
      c.version = .v5 ∧
        ((∃ p ∈ c.properties, ∃ s ∈ p.texts, 65535 < (Utf8.encode s).length) ∨
          268435455 < Property.sizeAll c.properties ∨ 268435455 < c.bodySize)) ∧
    (∀ e, c.encode = .error e ↔ c.faults.head? = some e) ∧
    ∀ frame, c.encode = .ok frame → ∀ left, decode c.version (frame ++ left) = .ok c.normal := by
  refine ⟨?_, fun e => (writes_encode c).eq_error_iff, fun frame h => decode_encode h⟩
  have writable := (writes_encode c).eq_ok_iff.trans faults_eq_nil
  have failed : (∃ e, c.encode = .error e) ↔ ¬ ∃ frame, c.encode = .ok frame := by
    cases c.encode <;> simp
  rw [failed, writable]
  by_cases five : c.version = .v5
  · simp only [five, VarInt.limit]
    grind
  · have small := bodySize_older five
    simp [five, small, VarInt.limit]

/-- A packet that has all that may be left out of one. -/
def welcome : ConnAck :=
  { sessionPresent := true, reasonCode := 0, version := .v5
    properties := [.topicAliasMaximum 10, .userProperty "k" "v"] }

theorem encode_round_trip_welcome :
    ∃ frame, welcome.encode = .ok frame ∧ decode .v5 (frame ++ [0xD0, 0x00]) = .ok welcome := by
  obtain ⟨_, _, readable⟩ := encode_round_trip welcome
  have fits : welcome.faults = [] := by decide +kernel
  obtain ⟨frame, written⟩ := (writes_encode welcome).eq_ok_iff.mpr fits
  exact ⟨frame, written, readable frame written [0xD0, 0x00]⟩

end ConnAck
end ReloadProbe.Wire
