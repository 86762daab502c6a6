import ReloadProbe.Proofs.Wire.Framing
import ReloadProbe.Proofs.Wire.RoundTrip
import ReloadProbe.Wire.Connect

/-!
CONNECT told apart by its octets. A broker has to read the packet, so here is a reader of what the
encoder writes: the level of the version stands before everything that depends on the version, and
each field says itself where it ends. What can be read back cannot be written for another packet.
-/
namespace ReloadProbe.Wire.Connect

open Except (bind_eq_ok)
open Publish (readProperties readProperties_eq_ok)

variable {c : Connect} {version : Version} {body frame : Bytes}

def readVersion (level : UInt8) : Read Version :=
  match Version.ofLevel level with
  | .ok version => pure version
  | .error e => Read.fail e

/-- The fields of a body. The name that stands first says no more than the level after it. -/
def readBody : Read Connect := do
  let _ ← Read.text
  let level ← Read.octet
  let flags ← Read.octet
  let keepAlive ← Read.uint16
  let version ← readVersion level
  let properties ← readProperties version
  let clientId ← Read.text
  return { clientId, version, keepAlive, cleanStart := flags.toNat / 2 % 2 = 1, properties }

/-- The packet as it is read back, without properties before version 5. -/
def normal (c : Connect) : Connect :=
  { c with properties := if c.version.hasProperties then c.properties else [] }

def flags (c : Connect) : UInt8 := if c.cleanStart then 0x02 else 0

theorem readVersion_level (version : Version) (left : Bytes) :
    readVersion version.level left = (.ok version, left) := by
  unfold readVersion
  rw [Version.ofLevel_level]
  rfl

theorem body_eq (c : Connect) :
    c.body = textField c.version.protocolName >>= fun name =>
      Property.encodeFor c.version c.properties >>= fun block =>
      textField c.clientId >>= fun clientId =>
      pure (name ++ [c.version.level, c.flags] ++ Bytes.ofUInt16 c.keepAlive ++ block ++
        clientId) := by
  unfold body Property.encodeFor
  cases c.version <;> rfl

theorem body_eq_ok :
    c.body = .ok body ↔
      ∃ name block clientId, textField c.version.protocolName = .ok name ∧
        Property.encodeFor c.version c.properties = .ok block ∧
        textField c.clientId = .ok clientId ∧
        body = name ++ (c.version.level :: c.flags ::
          (Bytes.ofUInt16 c.keepAlive ++ (block ++ clientId))) := by
  rw [body_eq, bind_eq_ok]
  constructor
  · rintro ⟨name, one, more⟩
    obtain ⟨block, two, more⟩ := bind_eq_ok.mp more
    obtain ⟨clientId, three, told⟩ := bind_eq_ok.mp more
    cases told
    exact ⟨name, block, clientId, one, two, three, by simp⟩
  · rintro ⟨name, block, clientId, one, two, three, rfl⟩
    refine ⟨name, one, bind_eq_ok.mpr ⟨block, two, bind_eq_ok.mpr ⟨clientId, three, ?_⟩⟩⟩
    simp [pure, Except.pure]

def bodySize (c : Connect) : Nat :=
  textSize c.version.protocolName + 4 + Property.sizeFor c.version c.properties +
    textSize c.clientId

/-- Why a packet cannot be written: its properties, its client's name and its size. -/
def faults (c : Connect) : List WireError :=
  Property.faultsFor c.version c.properties ++ (textFaults c.clientId ++ lengthFaults c.bodySize)

theorem textFaults_protocolName (version : Version) : textFaults version.protocolName = [] := by
  cases version <;> decide +kernel

theorem writes_encode (c : Connect) :
    Writes c.faults (1 + VarInt.width c.bodySize + c.bodySize) c.encode := by
  have body : Writes (textFaults c.version.protocolName ++
      (Property.faultsFor c.version c.properties ++ (textFaults c.clientId ++ []))) c.bodySize
      c.body := by
    rw [body_eq]
    refine (writes_textField _).bind fun name hn =>
      (Property.writes_encodeFor c.version c.properties).bind fun block hb =>
      (writes_textField c.clientId).bind fun clientId hc => .pure ?_
    simp only [List.length_append, List.length_cons, List.length_nil, hn, hb, hc, bodySize,
      Bytes.ofUInt16]
  have all : c.faults = (textFaults c.version.protocolName ++
      (Property.faultsFor c.version c.properties ++ (textFaults c.clientId ++ []))) ++
      lengthFaults c.bodySize := by
    simp [faults, textFaults_protocolName]
  rw [all]
  refine body.bind fun whole size => ?_
  rw [← size]
  exact Frame.writes_wrap

theorem readProperties_of_encodeFor {ps : List Property} {block : Bytes}
    (h : Property.encodeFor version ps = .ok block) (left : Bytes) :
    readProperties version (block ++ left) =
      (.ok (if version.hasProperties then ps else []), left) :=
  readProperties_eq_ok.mpr ⟨block, Publish.block_of_encodeFor h, rfl⟩

theorem readBody_body (h : c.body = .ok body) (left : Bytes) :
    readBody (body ++ left) = (.ok c.normal, left) := by
  obtain ⟨name, block, clientId, one, two, three, rfl⟩ := body_eq_ok.mp h
  simp only [List.append_assoc, List.cons_append]
  refine Read.bind_eq_ok.mpr
    ⟨c.version.protocolName, _, Read.text_eq_ok.mpr ⟨name, one, rfl⟩, ?_⟩
  refine Read.bind_eq_ok.mpr ⟨c.version.level, _, Read.octet_eq_ok.mpr rfl, ?_⟩
  refine Read.bind_eq_ok.mpr ⟨c.flags, _, Read.octet_eq_ok.mpr rfl, ?_⟩
  refine Read.bind_eq_ok.mpr ⟨c.keepAlive, _, Read.uint16_eq_ok.mpr rfl, ?_⟩
  refine Read.bind_eq_ok.mpr ⟨c.version, _, readVersion_level c.version _, ?_⟩
  refine Read.bind_eq_ok.mpr ⟨_, clientId ++ left, readProperties_of_encodeFor two _, ?_⟩
  refine Read.bind_eq_ok.mpr ⟨c.clientId, left, Read.text_eq_ok.mpr ⟨clientId, three, rfl⟩, ?_⟩
  refine Read.pure_eq_ok.mpr ⟨?_, rfl⟩
  have flag : decide (c.flags.toNat / 2 % 2 = 1) = c.cleanStart := by
    unfold flags
    cases c.cleanStart <;> rfl
  rw [flag]
  rfl

theorem body_of_encode (h : c.encode = .ok frame) :
    ∃ body, c.body = .ok body ∧ Frame.wrap 0x10 body = .ok frame := bind_eq_ok.mp h

/-- Two packets that are written alike are the same, but for properties that neither writes. -/
theorem normal_eq_of_encode {d : Connect} (hc : c.encode = .ok frame) (hd : d.encode = .ok frame) :
    c.normal = d.normal := by
  obtain ⟨one, wrote, wrapped⟩ := body_of_encode hc
  obtain ⟨two, wrote', wrapped'⟩ := body_of_encode hd
  have first := (Frame.split_wrap wrapped []).1
  have second := (Frame.split_wrap wrapped' []).1
  cases first.symm.trans second
  have here := readBody_body wrote []
  have there := readBody_body wrote' []
  rw [here, Prod.mk.injEq, Except.ok.injEq] at there
  exact there.1

theorem length?_of_encode (h : c.encode = .ok frame) (left : Bytes) :
    Frame.length? (frame ++ left) = .ok (some frame.length) :=
  (Frame.whole_of_wrap h).append left

/-- Two packets that are written alike agree in all that is written, properties and their order
included where the version has any; and no packet is written as the beginning of another. -/
theorem encode_unambiguous (c d : Connect) (f g : Bytes) (hc : c.encode = .ok f)
    (hd : d.encode = .ok g) :
    (f = g → c.version = d.version ∧ c.clientId = d.clientId ∧ c.keepAlive = d.keepAlive ∧
      c.cleanStart = d.cleanStart ∧ (c.version = .v5 → c.properties = d.properties)) ∧
    (f <+: g → f = g) := by
  constructor
  · rintro rfl
    obtain ⟨clientId, version, keepAlive, cleanStart, properties⟩ :=
      Connect.mk.inj (normal_eq_of_encode hc hd)
    refine ⟨version, clientId, keepAlive, cleanStart, ?_⟩
    intro five
    simpa only [← version, five, Version.hasProperties, decide_true, if_true] using properties
  · rintro ⟨left, rfl⟩
    -- The frame at the start of `f ++ left` is `f`, and it is all of it.
    have part := length?_of_encode hc left
    have whole := length?_of_encode hd []
    rw [List.append_nil, part] at whole
    simp only [Except.ok.injEq, Option.some.injEq, List.length_append] at whole
    have nothing : left = [] := List.eq_nil_of_length_eq_zero (by omega)
    rw [nothing, List.append_nil]

def plain : Connect := { clientId := "a", version := .v311 }

/-- The same packet with a property that its version leaves out. -/
def adorned : Connect := { plain with properties := [.receiveMaximum 20] }

theorem encode_unambiguous_older : ∃ f, adorned.encode = .ok f ∧ plain.encode = .ok f ∧
    adorned.version = plain.version ∧ adorned.clientId = plain.clientId ∧
    adorned.keepAlive = plain.keepAlive ∧ adorned.cleanStart = plain.cleanStart ∧
    (adorned.version = .v5 → adorned.properties = plain.properties) := by
  let f : Bytes :=
    [0x10, 0x0D, 0x00, 0x04, 0x4D, 0x51, 0x54, 0x54, 0x04, 0x02, 0x00, 0x3C, 0x00, 0x01, 0x61]
  have one : adorned.encode = .ok f := by with_unfolding_all rfl
  have two : plain.encode = .ok f := by with_unfolding_all rfl
  exact ⟨f, one, two, (encode_unambiguous adorned plain f f one two).1 rfl⟩

end ReloadProbe.Wire.Connect
