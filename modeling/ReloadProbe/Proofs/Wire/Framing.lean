import ReloadProbe.Proofs.Wire.Frame

/-!
The two readers of a frame's header beside each other: `length?` and `split` tell the same frames
from those that are cut off and from those that are malformed, and what they tell stays true as more
octets arrive, unless the frame was cut off.
-/
namespace ReloadProbe.Wire.Frame

open VarInt (Spells)

variable {bs body : Bytes} {first : UInt8}

/-- What the two readers may tell of a string of octets. -/
inductive Told : Bytes → Except WireError (Option Nat) → Except WireError (UInt8 × Bytes) → Prop where
  | whole {form body left : Bytes} {first : UInt8} (spelled : Spells form body.length)
      (four : form.length ≤ 4) :
      Told (first :: (form ++ (body ++ left))) (.ok (some (1 + form.length + body.length)))
        (.ok (first, body))
  | cut {bs : Bytes} (needed available : Nat) :
      Told bs (.ok none) (.error (.truncated needed available))
  | malformed {first : UInt8} {rest : Bytes} (bad : VarInt.decode rest = .error .malformedVarInt) :
      Told (first :: rest) (.error .malformedVarInt) (.error .malformedVarInt)

theorem told (bs : Bytes) : Told bs (length? bs) (split bs) := by
  cases bs with
  | nil => exact .cut 2 0
  | cons first rest =>
    unfold length? split
    dsimp only [List.tail_cons]
    cases found : VarInt.decode rest with
    | error e =>
      obtain ⟨rfl, _⟩ := VarInt.decodeWithin_eq_error.mp found
      exact .malformed found
    | ok read =>
      cases read with
      | none => exact .cut _ _
      | some read =>
        obtain ⟨remaining, size⟩ := read
        dsimp only
        obtain ⟨form, more, rfl, rfl, four, spelled⟩ := VarInt.decode_eq_some.mp found
        -- `split` counts from behind the first octet, `length?` from it.
        by_cases enough : form.length + remaining ≤ (form ++ more).length
        · have total : 1 + form.length + remaining ≤ (first :: (form ++ more)).length := by
            rw [List.length_cons]
            omega
          have fits : remaining ≤ more.length := by
            rw [List.length_append] at enough
            omega
          obtain ⟨body, left, rfl, rfl⟩ : ∃ body left, more = body ++ left ∧ body.length = remaining :=
            ⟨more.take remaining, more.drop remaining, (List.take_append_drop remaining more).symm,
              List.length_take_of_le fits⟩
          rw [if_pos enough, if_pos total, List.drop_left, List.take_left]
          exact .whole spelled four
        · have short : ¬ 1 + form.length + remaining ≤ (first :: (form ++ more)).length := by
            rw [List.length_cons]
            omega
          rw [if_neg enough, if_neg short]
          exact .cut _ _

variable {length : Except WireError (Option Nat)} {parts : Except WireError (UInt8 × Bytes)}

theorem Told.whole_iff (h : Told bs length parts) :
    (∃ n, length = .ok (some n)) ↔ ∃ first body, parts = .ok (first, body) := by
  cases h <;> simp

theorem Told.cut_iff (h : Told bs length parts) :
    length = .ok none ↔ ∃ needed available, parts = .error (.truncated needed available) := by
  cases h <;> simp

theorem Told.malformed_iff (h : Told bs length parts) (e : WireError) :
    length = .error e ↔ e = .malformedVarInt ∧ parts = .error .malformedVarInt := by
  cases h <;> simp [eq_comm]

theorem length?_eq_some {n : Nat} :
    length? bs = .ok (some n) ↔
      ∃ first form body left, Spells form body.length ∧ form.length ≤ 4 ∧
        bs = first :: (form ++ (body ++ left)) ∧ n = 1 + form.length + body.length := by
  constructor
  · intro h
    have here := told bs
    rw [h] at here
    generalize split bs = parts at here
    cases here with
    | whole spelled four => exact ⟨_, _, _, _, spelled, four, rfl, rfl⟩
  · rintro ⟨first, form, body, left, spelled, four, rfl, rfl⟩
    exact length?_frame spelled four

theorem split_eq_malformed :
    split bs = .error .malformedVarInt ↔
      ∃ first rest, bs = first :: rest ∧ VarInt.decode rest = .error .malformedVarInt := by
  constructor
  · intro h
    have here := told bs
    rw [h] at here
    generalize length? bs = length at here
    cases here with
    | malformed bad => exact ⟨_, _, rfl, bad⟩
  · rintro ⟨first, rest, rfl, bad⟩
    simp only [split, bad]

theorem length?_append {n : Nat} (h : length? bs = .ok (some n)) (t : Bytes) :
    length? (bs ++ t) = .ok (some n) := by
  obtain ⟨first, form, body, left, spelled, four, rfl, rfl⟩ := length?_eq_some.mp h
  exact length?_eq_some.mpr ⟨first, form, body, left ++ t, spelled, four, by simp, rfl⟩

theorem split_append (h : split bs = .ok (first, body)) (t : Bytes) :
    split (bs ++ t) = .ok (first, body) := by
  obtain ⟨form, left, spelled, four, rfl⟩ := split_eq_ok.mp h
  exact split_eq_ok.mpr ⟨form, left ++ t, spelled, four, by simp⟩

theorem split_append_malformed (h : split bs = .error .malformedVarInt) (t : Bytes) :
    split (bs ++ t) = .error .malformedVarInt := by
  obtain ⟨first, rest, rfl, bad⟩ := split_eq_malformed.mp h
  exact split_eq_malformed.mpr ⟨first, rest ++ t, rfl, VarInt.decode_append_error bad t⟩

theorem length?_append_error {e : WireError} (h : length? bs = .error e) (t : Bytes) :
    length? (bs ++ t) = .error e := by
  obtain ⟨rfl, bad⟩ := ((told bs).malformed_iff e).mp h
  exact ((told (bs ++ t)).malformed_iff _).mpr ⟨rfl, split_append_malformed bad t⟩

/-- A frame lies at the start of the octets, and its body at the end of the frame. -/
theorem body_of_split {n : Nat} (h : length? bs = .ok (some n)) (found : split bs = .ok (first, body)) :
    n ≤ bs.length ∧ body.length ≤ n ∧ bs[0]? = some first ∧
      body = (bs.take n).drop (n - body.length) := by
  obtain ⟨form, left, spelled, four, rfl⟩ := split_eq_ok.mp found
  cases h.symm.trans (length?_frame spelled four)
  refine ⟨?_, by omega, rfl, ?_⟩
  · simp only [List.length_cons, List.length_append]
    omega
  · have header : 1 + form.length + body.length - body.length = (first :: form).length := by
      rw [List.length_cons]
      omega
    rw [take_frame, header, ← List.cons_append, List.drop_left]

theorem split_wrap {frame : Bytes} (h : wrap first body = .ok frame) (t : Bytes) :
    split (frame ++ t) = .ok (first, body) ∧ length? (frame ++ t) = .ok (some frame.length) := by
  obtain ⟨fits, rfl⟩ := wrap_eq_ok.mp h
  have spelled := VarInt.spells_octets body.length
  have four := VarInt.length_octets_le_four.mpr fits
  refine ⟨split_eq_ok.mpr ⟨_, t, spelled, four, by simp⟩,
    length?_eq_some.mpr ⟨first, _, body, t, spelled, four, by simp, ?_⟩⟩
  rw [List.length_cons, List.length_append]
  omega

/-- Exactly one frame, all of it there and nothing after it. -/
def Whole (bs : Bytes) : Prop := length? bs = .ok (some bs.length)

theorem whole_of_wrap {frame : Bytes} {made : Except WireError Bytes}
    (h : (made >>= wrap first) = .ok frame) : Whole frame := by
  obtain ⟨body, _, wrapped⟩ := Except.bind_eq_ok.mp h
  have length := (split_wrap wrapped []).2
  rwa [List.append_nil] at length

/-- The frame at the start of the octets, cut out of them. -/
theorem whole_take {n : Nat} (h : length? bs = .ok (some n)) : Whole (bs.take n) := by
  obtain ⟨first, form, body, left, spelled, four, rfl, rfl⟩ := length?_eq_some.mp h
  rw [take_frame]
  refine length?_eq_some.mpr ⟨first, form, body, [], spelled, four, by simp, ?_⟩
  simp only [List.length_cons, List.length_append]
  omega

/-- A whole frame is the frame at the start of whatever begins with it. -/
theorem Whole.append (h : Whole bs) (t : Bytes) : length? (bs ++ t) = .ok (some bs.length) :=
  length?_append h t

theorem Whole.ne_nil (h : Whole bs) : bs ≠ [] := by
  have bounds := length?_bounds h
  intro empty
  rw [empty, List.length_nil] at bounds
  omega

/-- What ends before a frame does is neither whole nor malformed. -/
theorem cut_of_prefix {pre frame : Bytes} (h : Whole frame)
    (part : pre <+: frame) (strict : pre ≠ frame) :
    length? pre = .ok none ∧ ∃ needed available, split pre = .error (.truncated needed available) := by
  obtain ⟨t, rfl⟩ := part
  -- Whatever else is told of the part would be told of the frame as well.
  rcases told_pre : length? pre with e | _ | n
  · cases h.symm.trans (length?_append_error told_pre t)
  · exact ⟨rfl, (told pre).cut_iff.mp told_pre⟩
  · have same := h.symm.trans (length?_append told_pre t)
    have bounds := length?_bounds told_pre
    simp only [Except.ok.injEq, Option.some.injEq, List.length_append] at same
    have nothing : t = [] := List.eq_nil_of_length_eq_zero (by omega)
    rw [nothing, List.append_nil] at strict
    exact absurd rfl strict

/-- The two readers agree on every string of octets: on the frame at its start if there is a whole
one, on that it is cut off, and on that its length is malformed; and only what is cut off can be told
otherwise when more octets are there. A frame that is wrapped around a body is read back by both,
whatever follows it, and cut off by both wherever it ends too early. -/
theorem length_agrees_split :
    (∀ bs : Bytes,
      ((∃ n, length? bs = .ok (some n)) ↔ ∃ first body, split bs = .ok (first, body)) ∧
      (∀ n first body, length? bs = .ok (some n) → split bs = .ok (first, body) →
        n ≤ bs.length ∧ body.length ≤ n ∧ bs[0]? = some first ∧
          body = (bs.take n).drop (n - body.length)) ∧
      (length? bs = .ok none ↔
        ∃ needed available, split bs = .error (.truncated needed available)) ∧
      (∀ e, length? bs = .error e ↔ e = .malformedVarInt ∧ split bs = .error .malformedVarInt) ∧
      ∀ t,
        (∀ n, length? bs = .ok (some n) → length? (bs ++ t) = .ok (some n)) ∧
        (∀ e, length? bs = .error e → length? (bs ++ t) = .error e) ∧
        (∀ first body, split bs = .ok (first, body) → split (bs ++ t) = .ok (first, body)) ∧
        (split bs = .error .malformedVarInt → split (bs ++ t) = .error .malformedVarInt)) ∧
    ∀ (first : UInt8) (body : Bytes),
      ((∃ frame, wrap first body = .ok frame) ↔ body.length ≤ 268435455) ∧
      ∀ frame, wrap first body = .ok frame →
        (∀ t, split (frame ++ t) = .ok (first, body) ∧
          length? (frame ++ t) = .ok (some frame.length)) ∧
        ∀ pre, pre <+: frame → pre ≠ frame →
          length? pre = .ok none ∧
            ∃ needed available, split pre = .error (.truncated needed available) := by
  constructor
  · intro bs
    have here := told bs
    refine ⟨here.whole_iff, fun n first body => body_of_split, here.cut_iff, here.malformed_iff, ?_⟩
    intro t
    exact ⟨fun n h => length?_append h t, fun e h => length?_append_error h t,
      fun first body h => split_append h t, fun h => split_append_malformed h t⟩
  · intro first body
    refine ⟨writes_wrap.eq_ok_iff.trans lengthFaults_eq_nil, ?_⟩
    intro frame wrapped
    refine ⟨fun t => split_wrap wrapped t, ?_⟩
    intro pre part strict
    obtain ⟨_, length⟩ := split_wrap wrapped []
    rw [List.append_nil] at length
    exact cut_of_prefix length part strict

/-- A frame with another one after it, one with four octets of length that all announce more, and one
that ends within its length. -/
theorem length_agrees_split_ping :
    length? ([0xD0, 0x00] ++ [0xC0, 0x00]) = .ok (some 2) ∧
      split ([0xD0, 0x00] ++ [0xC0, 0x00]) = .ok (0xD0, []) ∧
      length? ([0x30, 0xFF, 0xFF, 0xFF, 0xFF] ++ [0x01]) = .error .malformedVarInt ∧
      split ([0x30, 0xFF, 0xFF, 0xFF, 0xFF] ++ [0x01]) = .error .malformedVarInt ∧
      length? [0xD0] = .ok none := by
  obtain ⟨agree, wraps⟩ := length_agrees_split
  obtain ⟨_, frame⟩ := wraps 0xD0 []
  have wrapped : wrap 0xD0 [] = .ok [0xD0, 0x00] :=
    wrap_eq_ok.mpr ⟨by decide, by rw [List.length_nil, VarInt.octets_small (by decide)]; rfl⟩
  obtain ⟨whole, cut⟩ := frame [0xD0, 0x00] wrapped
  obtain ⟨parts, length⟩ := whole [0xC0, 0x00]
  obtain ⟨_, _, _, _, more⟩ := agree [0x30, 0xFF, 0xFF, 0xFF, 0xFF]
  obtain ⟨_, bad, _, bad'⟩ := more [0x01]
  obtain ⟨short, _⟩ := cut [0xD0] ⟨[0x00], rfl⟩ (by decide)
  exact ⟨length, parts, bad _ rfl, bad' rfl, short⟩

end ReloadProbe.Wire.Frame
