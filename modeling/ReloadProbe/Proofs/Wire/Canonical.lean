import ReloadProbe.Proofs.Wire.RoundTrip

/-!
Writing again what was read. The decoder takes more than the encoder writes: lengths in more octets
than they need, and any octet but zero to say that retained messages are available. A packet with
neither is written again as it was read, and any other one as a frame that is no longer.
-/
namespace ReloadProbe.Wire.Publish

open VarInt (Spells)

/-- What follows the topic and the number of a packet in its body. -/
def afterHead (first : UInt8) (body : Bytes) : Bytes :=
  body.drop (Property.textLength body + if first.toNat / 2 % 4 = 0 then 0 else 2)

/-- The octets that the length at the start of `bs` announces. -/
def announced (bs : Bytes) : Bytes :=
  match VarInt.decode bs with
  | .ok (some (n, size)) => (bs.drop size).take n
  | _ => []

/-- The first frame of `bs` is written as the encoder does it: its remaining length and, where there
are properties, their length in no more octets than needed, and truth by no octet but one. -/
structure Canonical (version : Version) (bs : Bytes) : Prop where
  remaining : VarInt.Minimal bs.tail
  properties : version.hasProperties → ∀ first body, Frame.split bs = .ok (first, body) →
    VarInt.Minimal (afterHead first body) ∧ Property.Plain (announced (afterHead first body))

variable {p : Publish} {version : Version} {topic id block : Bytes}

theorem announced_spelled {form inner : Bytes} (spelled : Spells form inner.length)
    (four : form.length ≤ 4) (left : Bytes) : announced (form ++ (inner ++ left)) = inner := by
  unfold announced
  rw [spelled.decode four]
  show ((form ++ (inner ++ left)).drop form.length).take inner.length = inner
  rw [List.drop_left, List.take_left]

theorem length_encodeId (h : p.encodeId = .ok id) : id.length = p.idSize := by
  have written := writes_encodeId p
  rw [h] at written
  exact written.2

theorem idSize_eq (p : Publish) :
    p.idSize = if p.firstOctet.toNat / 2 % 4 = 0 then 0 else 2 := by
  rw [level_firstOctet, idSize]
  cases p.qos <;> rfl

theorem Laid.afterHead (h : p.Laid topic id block) (rest : Bytes) :
    afterHead p.firstOctet (topic ++ (id ++ rest)) = rest := by
  unfold Publish.afterHead
  rw [Property.textLength_field h.topic, ← idSize_eq, ← length_encodeId h.id, ← List.drop_drop,
    List.drop_left, List.drop_left]

/-- A block is written again in no more octets, and in the same if they are canonical. -/
theorem encodeBlock_again {form inner : Bytes} {ps : List Property}
    (spelled : Spells form inner.length) (four : form.length ≤ 4)
    (parsed : Property.Block inner ps) (rest : Bytes) :
    ∃ again, Property.encodeBlock ps = .ok again ∧ again.length ≤ (form ++ inner).length ∧
      (again = form ++ inner ↔ VarInt.Minimal (form ++ (inner ++ rest)) ∧
        Property.Plain (announced (form ++ (inner ++ rest)))) := by
  obtain ⟨again, wrote, size, same⟩ := parsed.again
  have fits := spelled.le_limit four
  have shorter := spelled.length_octets_le
  refine ⟨VarInt.octets inner.length ++ again, ?_, ?_, ?_⟩
  · exact Property.encodeBlock_eq_ok.mpr ⟨again, wrote, by rwa [size], by rw [size]⟩
  · simp only [List.length_append]
    omega
  · rw [spelled.minimal_iff four _, announced_spelled spelled four, ← same,
      List.append_eq_append_iff_of_size_eq_right size, eq_comm (a := form)]

/-- Properties are written again in no more octets, and in the same if they are canonical. -/
theorem Laid.again (h : p.Laid topic id block) (rest : Bytes) :
    ∃ again, p.encodeProperties = .ok again ∧ again.length ≤ block.length ∧
      (again = block ↔ (p.version.hasProperties → VarInt.Minimal (block ++ rest) ∧
        Property.Plain (announced (block ++ rest)))) := by
  have laid := h.block
  unfold Block at laid
  unfold encodeProperties
  split at laid
  · rename_i five
    obtain ⟨form, inner, spelled, four, parsed, rfl⟩ := laid
    obtain ⟨again, wrote, shorter, same⟩ := encodeBlock_again spelled four parsed rest
    refine ⟨again, by rw [if_pos five, wrote], shorter, ?_⟩
    rw [List.append_assoc, same]
    exact ⟨fun both _ => both, fun both => both five⟩
  · rename_i older
    rw [if_neg older, laid.2]
    exact ⟨[], rfl, Nat.le_refl _, fun _ five => absurd five older, fun _ => rfl⟩

/-- Nothing that is read is left out when it is written. -/
theorem Laid.normal (h : p.Laid topic id block) : p.normal = p := by
  have number : (if p.qos = .atMostOnce then none else p.packetId) = p.packetId := by
    split
    · rename_i zero
      exact (h.unnumbered zero).symm
    · rfl
  have properties : (if p.version.hasProperties then p.properties else []) = p.properties := by
    have laid := h.block
    unfold Block at laid
    split
    · rfl
    · rename_i older
      rw [if_neg older] at laid
      exact laid.1.symm
  unfold Publish.normal
  rw [number, properties]

/-- Two lengths that can only shrink together with what they measure. -/
theorem frame_again {form body again : Bytes} {first : UInt8} (spelled : Spells form body.length)
    (shorter : again.length ≤ body.length) :
    first :: (VarInt.octets again.length ++ again) = first :: (form ++ body) ↔
      VarInt.octets body.length = form ∧ again = body := by
  have header := VarInt.length_octets_mono shorter
  have least := spelled.length_octets_le
  constructor
  · intro same
    -- Neither part can grow, so wholes of one size have parts of one size.
    have whole := List.cons_inj_right first |>.mp same
    have sizes := congrArg List.length whole
    simp only [List.length_append] at sizes
    obtain ⟨headers, rfl⟩ := List.append_inj whole (by omega)
    exact ⟨headers, rfl⟩
  · rintro ⟨rfl, rfl⟩
    rfl

/-- A frame is canonical by its remaining length and by the octets of its properties. -/
theorem Laid.canonical_iff (h : p.Laid topic id block) {form left : Bytes}
    (spelled : Spells form (topic ++ (id ++ (block ++ p.payload))).length)
    (four : form.length ≤ 4) :
    Canonical version
        (p.firstOctet :: (form ++ (topic ++ (id ++ (block ++ p.payload)) ++ left))) ↔
      VarInt.octets (topic ++ (id ++ (block ++ p.payload))).length = form ∧
        (version.hasProperties → VarInt.Minimal (block ++ p.payload) ∧
          Property.Plain (announced (block ++ p.payload))) := by
  have rest := h.afterHead (block ++ p.payload)
  generalize topic ++ (id ++ (block ++ p.payload)) = body at spelled rest ⊢
  have split : Frame.split (p.firstOctet :: (form ++ (body ++ left))) = .ok (p.firstOctet, body) :=
    Frame.split_eq_ok.mpr ⟨form, left, spelled, four, rfl⟩
  rw [eq_comm, ← spelled.minimal_iff four (body ++ left)]
  constructor
  · rintro ⟨minimal, plain⟩
    refine ⟨minimal, fun five => ?_⟩
    rw [← rest]
    exact plain five _ _ split
  · rintro ⟨minimal, plain⟩
    refine ⟨minimal, fun five first found read => ?_⟩
    cases split.symm.trans read
    rw [rest]
    exact plain five

/-- What was read as a packet can always be written again. The new frame is no longer than the one
that was read, is read as the same packet, and is the same frame exactly if that was canonical. -/
theorem decode_then_encode (version : Version) (data : Bytes) (p : Publish)
    (h : decode version data = .ok p) :
    ∃ frame n, p.encode = .ok frame ∧ Frame.length? data = .ok (some n) ∧ frame.length ≤ n ∧
      decode version frame = .ok p ∧ (frame = data.take n ↔ Canonical version data) := by
  obtain ⟨rfl, topic, id, block, form, left, laid, spelled, four, rfl⟩ := decode_eq_ok.mp h
  obtain ⟨again, wrote, shorter, same⟩ := laid.again p.payload
  have smaller : (topic ++ (id ++ (again ++ p.payload))).length ≤
      (topic ++ (id ++ (block ++ p.payload))).length := by
    simp only [List.length_append]
    omega
  have fits := Nat.le_trans smaller (spelled.le_limit four)
  have written := encode_eq_ok.mpr ⟨topic, id, again, laid.topic, laid.id, wrote, fits, rfl⟩
  refine ⟨_, _, written, Frame.length?_frame spelled four, ?_, ?_, ?_⟩
  · have header := VarInt.length_octets_mono smaller
    have least := spelled.length_octets_le
    rw [List.length_cons, List.length_append]
    omega
  · have read := decode_encode written []
    rwa [List.append_nil, laid.normal] at read
  · rw [Frame.take_frame, frame_again spelled smaller, laid.canonical_iff spelled four, ← same]
    simp only [List.append_cancel_left_eq, List.append_cancel_right_eq]

/-- Both lengths in one octet more than they need, truth by a two, and an octet after the frame. -/
def roundabout : Bytes :=
  [0x30, 0x88, 0x00, 0x00, 0x01, 0x61, 0x82, 0x00, 0x25, 0x02, 0x09, 0xC0]

theorem decode_then_encode_roundabout :
    ∃ p frame n, decode .v5 roundabout = .ok p ∧ p.encode = .ok frame ∧
      Frame.length? roundabout = .ok (some n) ∧ frame.length ≤ n ∧ decode .v5 frame = .ok p ∧
      (frame = roundabout.take n ↔ Canonical .v5 roundabout) := by
  have read : decode .v5 roundabout = .ok
      { topic := "a", payload := [9], version := .v5, properties := [.retainAvailable true] } := by
    refine decode_eq_ok.mpr ⟨rfl, [0x00, 0x01, 0x61], [], [0x82, 0x00, 0x25, 0x02], [0x88, 0x00],
      [0xC0], ⟨rfl, rfl, fun _ => rfl, [0x82, 0x00], [0x25, 0x02], ?_, by decide, ?_, rfl⟩, ?_,
      by decide, rfl⟩
    · exact .more (by decide) (.last (by decide))
    · have two : (Property.retainAvailable true).Value [0x02] := ⟨2, rfl, rfl⟩
      exact .cons two .nil
    · exact .more (by decide) (.last (by decide))
  obtain ⟨frame, n, rest⟩ := decode_then_encode .v5 roundabout _ read
  exact ⟨_, frame, n, read, rest⟩

end ReloadProbe.Wire.Publish
