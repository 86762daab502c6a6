import ReloadProbe.Proofs.Wire.Write
import ReloadProbe.Wire.Frame

/-!
Frames as a grammar: a first octet, the length of a body in any of the ways to write it, and the
body. The frame that is wrapped around a body has the shortest of them.
-/
namespace ReloadProbe.Wire.Frame

open VarInt (Spells)

variable {bs body : Bytes} {first : UInt8}

theorem split_eq_ok :
    split bs = .ok (first, body) ↔
      ∃ form left, Spells form body.length ∧ form.length ≤ 4 ∧
        bs = first :: (form ++ (body ++ left)) := by
  constructor
  · intro h
    unfold split at h
    split at h
    · cases h
    · split at h
      · cases h
      · cases h
      · rename_i b rest _ remaining size found
        obtain ⟨form, more, rfl, rfl, four, spelled⟩ := VarInt.decode_eq_some.mp found
        split at h
        · rename_i enough
          cases h
          have fits : remaining ≤ more.length := by
            rw [List.length_append] at enough
            omega
          rw [List.drop_left]
          refine ⟨form, more.drop remaining, ?_, four, ?_⟩
          · rwa [List.length_take_of_le fits]
          · rw [List.take_append_drop]
        · cases h
  · rintro ⟨form, left, spelled, four, rfl⟩
    have enough : form.length + body.length ≤ (form ++ (body ++ left)).length := by
      simp only [List.length_append]
      omega
    simp only [split, spelled.decode four, enough, if_true, List.drop_left, List.take_left]

theorem length?_frame {form left : Bytes} (spelled : Spells form body.length)
    (four : form.length ≤ 4) :
    length? (first :: (form ++ (body ++ left))) = .ok (some (1 + form.length + body.length)) := by
  have enough : 1 + form.length + body.length ≤ (first :: (form ++ (body ++ left))).length := by
    simp only [List.length_cons, List.length_append]
    omega
  simp only [length?, List.tail_cons, spelled.decode four, enough, if_true]

theorem take_frame (first : UInt8) (form body left : Bytes) :
    (first :: (form ++ (body ++ left))).take (1 + form.length + body.length) =
      first :: (form ++ body) := by
  have size : (first :: (form ++ body)).length = 1 + form.length + body.length := by
    simp only [List.length_cons, List.length_append]
    omega
  rw [← List.append_assoc, ← List.cons_append]
  exact List.take_left' size

/-- A frame that is wrapped around a body is another one only if all parts of the two are the same. -/
theorem wrapped_eq_iff {form again : Bytes} {other : UInt8} (fits : again.length ≤ VarInt.limit)
    (spelled : Spells form body.length) (four : form.length ≤ 4) :
    other :: (VarInt.octets again.length ++ again) = first :: (form ++ body) ↔
      other = first ∧ VarInt.octets body.length = form ∧ again = body := by
  have best := VarInt.spells_octets again.length
  constructor
  · intro same
    obtain ⟨rfl, rest⟩ := List.cons.inj same
    have short := VarInt.length_octets_le_four.mpr fits
    obtain ⟨header, rfl⟩ := best.append_inj spelled short four rest
    exact ⟨rfl, header, rfl⟩
  · rintro ⟨rfl, rfl, rfl⟩
    rfl

theorem wrap_eq_ok {frame : Bytes} :
    wrap first body = .ok frame ↔
      body.length ≤ VarInt.limit ∧ frame = first :: (VarInt.octets body.length ++ body) := by
  unfold wrap VarInt.encode
  split
  · rename_i fits
    constructor
    · intro h
      cases h
      exact ⟨fits, rfl⟩
    · rintro ⟨_, rfl⟩
      rfl
  · rename_i large
    constructor
    · intro h
      cases h
    · rintro ⟨fits, _⟩
      exact absurd fits large

theorem writes_wrap :
    Writes (lengthFaults body.length) (1 + VarInt.width body.length + body.length)
      (wrap first body) := by
  unfold lengthFaults wrap VarInt.encode
  split
  · rename_i fits
    refine ⟨rfl, ?_⟩
    show (first :: (VarInt.octets body.length ++ body)).length = _
    rw [List.length_cons, List.length_append, VarInt.length_octets fits]
    omega
  · rfl

end ReloadProbe.Wire.Frame
