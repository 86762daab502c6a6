import ReloadProbe.Proofs.Wire.ConnAck
import ReloadProbe.Proofs.Wire.Publish

/-!
Input that was cut off. Where octets lack, it is said how many were needed and how many there were,
and the first number should be the larger one. It is in all cases but one: a frame that ends within
its remaining length is said to need two octets, however many of that length are there.
-/
namespace ReloadProbe.Wire

/-- Where octets lack, more are needed than there are. -/
def WireError.Truthful : WireError → Prop
  | truncated needed available => available < needed
  | _ => True

namespace Read

variable {α β : Type}

def Truthful (p : Read α) : Prop :=
  ∀ (bs left : Bytes) (e : WireError), p bs = (.error e, left) → e.Truthful

theorem truthful_pure (a : α) : Truthful (pure a) := nofun

theorem truthful_fail {e : WireError} (told : e.Truthful) : Truthful (fail e : Read α) := by
  rintro bs left e' ⟨⟩
  exact told

theorem Truthful.bind {p : Read α} {f : α → Read β} (hp : Truthful p) (hf : ∀ a, Truthful (f a)) :
    Truthful (p >>= f) := by
  intro bs left e h
  rcases bind_eq_error.mp h with first | ⟨a, mid, _, second⟩
  · exact hp _ _ _ first
  · exact hf a _ _ _ second

theorem Truthful.map {p : Read α} (hp : Truthful p) (g : α → β) : Truthful (g <$> p) :=
  hp.bind fun a => truthful_pure (g a)

theorem truthful_take (n : Nat) : Truthful (take n) := by
  intro bs left e h
  unfold take at h
  split at h
  · cases h
  · cases h
    exact Nat.lt_of_not_le ‹_›

theorem truthful_octet : Truthful octet := (truthful_take 1).bind fun _ => truthful_pure _

theorem truthful_uint16 : Truthful uint16 := (truthful_take 2).bind fun _ => truthful_pure _

theorem truthful_uint32 : Truthful uint32 := (truthful_take 4).bind fun _ => truthful_pure _

theorem truthful_varInt : Truthful varInt := by
  intro bs left e h
  unfold varInt at h
  split at h
  · cases h
  · cases h
    exact Nat.lt_succ_self _
  · rename_i found
    cases h
    rw [(VarInt.decodeWithin_eq_error.mp found).1]
    trivial

theorem truthful_binary : Truthful binary := truthful_uint16.bind fun n => truthful_take n.toNat

theorem truthful_text : Truthful text := by
  refine truthful_binary.bind fun data => ?_
  split
  · exact truthful_pure _
  · exact truthful_fail trivial

theorem truthful_rest : Truthful rest := nofun

end Read

open Read (Truthful)

namespace Property

theorem truthful_readValue (id : UInt8) : Truthful (readValue id) := by
  unfold readValue
  split
  case h_13 =>
    exact Read.truthful_text.bind fun _ => Read.truthful_text.bind fun _ => Read.truthful_pure _
  case h_15 => exact Read.truthful_fail trivial
  all_goals
    simp only [Read.Truthful.map, Read.truthful_octet, Read.truthful_uint16, Read.truthful_uint32,
      Read.truthful_text]

theorem truthful_decodeAll {block : Bytes} {e : WireError} (h : decodeAll block = .error e) :
    e.Truthful := by
  fun_induction decodeAll block with
  | case1 => cases h
  | case2 => cases h
  | case3 id rest p left read fault more ih =>
    cases h
    exact ih more
  | case4 id rest fault left read =>
    cases h
    exact truthful_readValue id _ _ _ read

theorem truthful_readBlock : Truthful readBlock := by
  refine Read.truthful_varInt.bind fun n => (Read.truthful_take n).bind fun block => ?_
  split
  · exact Read.truthful_pure _
  · rename_i fault
    exact Read.truthful_fail (truthful_decodeAll fault)

end Property

theorem ConnAck.truthful_readBody (version : Version) : Truthful (readBody version) := by
  rw [readBody_eq]
  refine Read.truthful_octet.bind fun _ => Read.truthful_octet.bind fun _ => ?_
  refine Truthful.bind (fun bs left e h => ?_) fun _ => Read.truthful_pure _
  unfold readProperties at h
  split at h
  · exact Property.truthful_readBlock _ _ _ h
  · cases h

theorem Publish.truthful_readBody (version : Version) (first : UInt8) (qos : QoS) :
    Truthful (readBody version first qos) := by
  rw [readBody_eq]
  refine Read.truthful_text.bind fun _ => Truthful.bind ?_ fun _ => Truthful.bind ?_ fun _ =>
    Read.truthful_rest.bind fun _ => Read.truthful_pure _
  · unfold readId
    split
    · exact Read.truthful_pure _
    · exact Read.truthful_uint16.map _
  · unfold readProperties
    split
    · exact Property.truthful_readBlock
    · exact Read.truthful_pure _

namespace Read

/-- A step of a reader: a field, some octets, a block of properties, or all that is left. -/
inductive Operation where
  | take (n : Nat)
  | octet | uint16 | uint32 | varInt | binary | text | properties | rest

/-- What an operation may find. -/
inductive Found where
  | number (n : Nat)
  | octets (bs : Bytes)
  | text (s : String)
  | properties (ps : List Property)

def Operation.run : Operation → Read Found
  | take n => .octets <$> Read.take n
  | octet => (fun b => .number b.toNat) <$> Read.octet
  | uint16 => (fun n => .number n.toNat) <$> Read.uint16
  | uint32 => (fun n => .number n.toNat) <$> Read.uint32
  | varInt => .number <$> Read.varInt
  | binary => .octets <$> Read.binary
  | text => .text <$> Read.text
  | properties => .properties <$> Property.readBlock
  | rest => .octets <$> Read.rest

theorem Operation.truthful_run (op : Operation) : Truthful op.run := by
  cases op with
  | take n => exact (Read.truthful_take n).map _
  | octet => exact Read.truthful_octet.map _
  | uint16 => exact Read.truthful_uint16.map _
  | uint32 => exact Read.truthful_uint32.map _
  | varInt => exact Read.truthful_varInt.map _
  | binary => exact Read.truthful_binary.map _
  | text => exact Read.truthful_text.map _
  | properties => exact Property.truthful_readBlock.map _
  | rest => exact Read.truthful_rest.map _

end Read

/-- What takes a frame from octets. -/
inductive Decoder where
  | split
  | connAck (version : Version)
  | publish (version : Version)

def Decoder.Fails : Decoder → Bytes → WireError → Prop
  | split, bs, e => Frame.split bs = .error e
  | connAck version, bs, e => ConnAck.decode version bs = .error e
  | publish version, bs, e => Publish.decode version bs = .error e

/-- A frame that ends within its remaining length, after an octet of it that announces another. -/
def HeaderCut (bs : Bytes) : Prop :=
  ∃ first form, bs = first :: form ∧ form ≠ [] ∧ form.length ≤ 3 ∧ ∀ b ∈ form, 128 ≤ b.toNat

variable {bs : Bytes} {e : WireError}

theorem split_of_headerCut (h : HeaderCut bs) : Frame.split bs = .error (.truncated 2 bs.length) := by
  obtain ⟨first, form, rfl, _, few, continued⟩ := h
  rw [Frame.split, VarInt.decode_eq_none.mpr ⟨few, continued⟩]
  rfl

/-- Why a frame is not taken from octets. -/
theorem split_error (h : Frame.split bs = .error e) :
    e.Truthful ∨ HeaderCut bs ∧ e = .truncated 2 bs.length := by
  cases bs with
  | nil =>
    cases h
    exact .inl (show 0 < 2 by decide)
  | cons first rest =>
    rw [Frame.split] at h
    split at h
    · rename_i found
      cases h
      rw [(VarInt.decodeWithin_eq_error.mp found).1]
      exact .inl trivial
    · rename_i found
      cases h
      obtain ⟨few, continued⟩ := VarInt.decode_eq_none.mp found
      -- Two octets are said to be needed: right for one octet, wrong for more.
      by_cases none : rest = []
      · subst none
        exact .inl (show 1 < 2 by decide)
      · exact .inr ⟨⟨first, rest, rfl, none, few, continued⟩, rfl⟩
    · split at h
      · cases h
      · rename_i short
        cases h
        refine .inl ?_
        show rest.length + 1 < _
        omega

theorem expectKind_error {wanted : PacketKind} {first : UInt8}
    (h : expectKind wanted first = .error e) : e.Truthful := by
  unfold expectKind at h
  split at h
  · cases h
  · cases h
    trivial

theorem ofLevel_error {level : UInt8} (h : QoS.ofLevel level = .error e) : e.Truthful := by
  unfold QoS.ofLevel at h
  split at h
  · cases h
  · split at h
    · cases h
    · split at h
      · cases h
      · cases h
        trivial

theorem Decoder.fails (d : Decoder) (h : d.Fails bs e) :
    e.Truthful ∨ HeaderCut bs ∧ e = .truncated 2 bs.length := by
  cases d with
  | split => exact split_error h
  | connAck version =>
    rcases Except.bind_eq_error.mp h with cut | ⟨⟨first, body⟩, _, more⟩
    · exact split_error cut
    · rcases Except.bind_eq_error.mp more with other | ⟨_, _, read⟩
      · exact .inl (expectKind_error other)
      · exact .inl (ConnAck.truthful_readBody version _ _ _ (Prod.ext read rfl))
  | publish version =>
    rcases Except.bind_eq_error.mp h with cut | ⟨⟨first, body⟩, _, more⟩
    · exact split_error cut
    · rcases Except.bind_eq_error.mp more with other | ⟨_, _, more⟩
      · exact .inl (expectKind_error other)
      · rcases Except.bind_eq_error.mp more with level | ⟨qos, _, read⟩
        · exact .inl (ofLevel_error level)
        · exact .inl (Publish.truthful_readBody version first qos _ _ _ (Prod.ext read rfl))

theorem Decoder.fails_of_headerCut (d : Decoder) (h : HeaderCut bs) :
    d.Fails bs (.truncated 2 bs.length) := by
  have cut := split_of_headerCut h
  cases d with
  | split => exact cut
  | connAck | publish => exact Except.bind_eq_error.mpr (.inl cut)

theorem Decoder.fails_unique (d : Decoder) {e' : WireError} (h : d.Fails bs e) (h' : d.Fails bs e') :
    e = e' := by
  cases d with
  | split | connAck | publish => exact Except.error.inj (h.symm.trans h')

theorem HeaderCut.two_le (h : HeaderCut bs) : 2 ≤ bs.length := by
  obtain ⟨first, form, rfl, formed, _, _⟩ := h
  have := List.length_pos_iff.mpr formed
  rw [List.length_cons]
  omega

/-- Where octets lack, more are needed than there are: that is told by every operation of a reader,
in any state, and by every decoder of a frame, unless the frame ends within its remaining length.
Then all decoders tell that two octets are needed, and at least two are there. -/
theorem truncated_truthful_iff (op : Read.Operation) (d : Decoder) (bs left : Bytes)
    (needed available : Nat) :
    (op.run bs = (.error (.truncated needed available), left) → available < needed) ∧
    (d.Fails bs (.truncated needed available) → (available < needed ↔ ¬ HeaderCut bs)) ∧
    (HeaderCut bs → d.Fails bs (.truncated 2 bs.length) ∧ 2 ≤ bs.length) := by
  refine ⟨fun h => op.truthful_run bs left _ h, fun fails => ⟨?_, ?_⟩, fun cut => ?_⟩
  · intro more cut
    cases d.fails_unique fails (d.fails_of_headerCut cut)
    exact Nat.not_lt.mpr cut.two_le more
  · intro whole
    exact (d.fails fails).resolve_right fun both => whole both.1
  · exact ⟨d.fails_of_headerCut cut, cut.two_le⟩

theorem truncated_truthful_iff_cut :
    (Read.Operation.text.run [0, 5, 97] = (.error (.truncated 5 1), [97]) ∧ 1 < 5) ∧
    (Decoder.Fails (.publish .v5) [0x30, 0x1B, 0x00] (.truncated 29 3) ∧
      ¬ HeaderCut [0x30, 0x1B, 0x00]) ∧
    Decoder.Fails (.connAck .v5) [0x20, 0x80, 0x80] (.truncated 2 3) := by
  have short : Read.Operation.text.run [0, 5, 97] = (.error (.truncated 5 1), [97]) := rfl
  have body : Decoder.Fails (.publish .v5) [0x30, 0x1B, 0x00] (.truncated 29 3) := rfl
  have header : HeaderCut [0x20, 0x80, 0x80] :=
    ⟨0x20, [0x80, 0x80], rfl, by decide, by decide, by simp⟩
  refine ⟨⟨short, ?_⟩, ⟨body, ?_⟩, ?_⟩
  · exact (truncated_truthful_iff .text .split [0, 5, 97] [97] 5 1).1 short
  · exact ((truncated_truthful_iff .rest (.publish .v5) _ [] _ _).2.1 body).mp (by decide)
  · exact ((truncated_truthful_iff .rest (.connAck .v5) _ [] 2 3).2.2 header).1

/-- Two octets are said to lack where two are. -/
theorem truncated_not_truthful :
    ¬ ∀ (d : Decoder) (bs : Bytes) (needed available : Nat),
      d.Fails bs (.truncated needed available) → available < needed := by
  intro claim
  have cut : Decoder.split.Fails [0x20, 0x80] (.truncated 2 2) := rfl
  exact absurd (claim _ _ _ _ cut) (by decide)

end ReloadProbe.Wire
