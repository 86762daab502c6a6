import ReloadProbe.Proofs.Wire.Framing
import ReloadProbe.Proofs.Wire.RoundTrip
import ReloadProbe.Wire.Summary

/-!
The summary of octets covers all of them. There is one way to take octets apart into complete
frames and a rest that begins with none; each of these has its part in the summary, in their order.
A packet that was written is told by its own fields.
-/
namespace ReloadProbe.Wire

variable {bs tail : Bytes} {frames : List Bytes} {n : Nat}

namespace Frame

/-- Complete frames one after another, and what follows them, which does not begin with one. -/
structure Splits (bs : Bytes) (frames : List Bytes) (tail : Bytes) : Prop where
  whole : ∀ frame ∈ frames, Whole frame
  rest : ∀ n, length? tail ≠ .ok (some n)
  joined : frames.flatten ++ tail = bs

theorem scan_frame (h : length? bs = .ok (some n)) :
    scan bs = (bs.take n :: (scan (bs.drop n)).1, (scan (bs.drop n)).2) := by
  rw [scan]
  split
  · rename_i found
    cases h.symm.trans found
    rfl
  · rename_i unframed
    exact absurd h (unframed n)

theorem scan_rest (h : ∀ n, length? bs ≠ .ok (some n)) : scan bs = ([], bs) := by
  rw [scan]
  split
  · rename_i found
    exact absurd found (h _)
  · rfl

theorem splits_scan (bs : Bytes) : Splits bs (scan bs).1 (scan bs).2 := by
  refine ⟨?_, ?_, scan_flatten bs⟩
  · fun_induction scan bs with
    | case1 bs n h frames tail hr ih =>
      rw [hr] at ih
      exact List.forall_mem_cons.mpr ⟨whole_take h, ih⟩
    | case2 => exact fun _ member => absurd member List.not_mem_nil
  · fun_induction scan bs with
    | case1 bs n h frames tail hr ih =>
      rw [hr] at ih
      exact ih
    | case2 bs unframed => exact unframed

/-- There is no other way to take octets apart. -/
theorem Splits.scan_eq (h : Splits bs frames tail) : scan bs = (frames, tail) := by
  obtain ⟨whole, rest, rfl⟩ := h
  induction frames with
  | nil => exact scan_rest rest
  | cons frame frames ih =>
    obtain ⟨first, others⟩ := List.forall_mem_cons.mp whole
    rw [List.flatten_cons, List.append_assoc, scan_frame (first.append _), List.take_left,
      List.drop_left, ih others]

theorem Splits.append {more others : Bytes} {next : List Bytes} (h : Splits bs frames [])
    (later : Splits more next others) : Splits (bs ++ more) (frames ++ next) others := by
  obtain ⟨whole, _, rfl⟩ := h
  obtain ⟨whole', rest, rfl⟩ := later
  exact ⟨List.forall_mem_append.mpr ⟨whole, whole'⟩, rest, by simp⟩

theorem splits_flatten (whole : ∀ frame ∈ frames, Whole frame) : Splits frames.flatten frames [] :=
  ⟨whole, fun _ => nofun, List.append_nil _⟩

end Frame

namespace Summary

open ReloadProbe.Wire.Frame (Splits)

variable {version : Version}

def tailParts (tail : Bytes) : List String := if tail.isEmpty then [] else [tailPart tail]

theorem parts_of_splits (h : Splits bs frames tail) :
    parts version bs = frames.map (framePart version) ++ tailParts tail := by
  rw [parts, h.scan_eq]
  rfl

/-- What is left is told as cut off, or as garbage, and by its length. -/
theorem tailPart_told (rest : ∀ n, Frame.length? tail ≠ .ok (some n)) :
    (Frame.length? tail = .ok none ∧
      tailPart tail =
        s!"{(PacketKind.ofFirstOctet (tail.headD 0)).name} ({tail.length} bytes, incomplete)") ∨
    (Frame.length? tail = .error .malformedVarInt ∧
      tailPart tail =
        s!"{tail.length} bytes of garbage ({WireError.malformedVarInt.message})") := by
  cases told : Frame.length? tail with
  | error e =>
    obtain ⟨rfl, _⟩ := ((Frame.told tail).malformed_iff e).mp told
    refine .inr ⟨rfl, ?_⟩
    rw [tailPart, told]
  | ok read =>
    cases read with
    | none =>
      refine .inl ⟨rfl, ?_⟩
      rw [tailPart, told]
    | some n => exact absurd told (rest n)

theorem parts_append {more : Bytes} (h : Splits bs frames []) :
    parts version (bs ++ more) = parts version bs ++ parts version more := by
  have later := Frame.splits_scan more
  rw [parts_of_splits (h.append later), parts_of_splits h, parts_of_splits later]
  simp [tailParts]

theorem parts_ne_nil (filled : bs ≠ []) : parts version bs ≠ [] := by
  have split := Frame.splits_scan bs
  intro empty
  rw [parts_of_splits split, List.append_eq_nil_iff, List.map_eq_nil_iff] at empty
  obtain ⟨frames, tail⟩ := empty
  have tail : (Frame.scan bs).2 = [] := by
    unfold tailParts at tail
    split at tail
    · rename_i empty
      exact List.isEmpty_iff.mp empty
    · cases tail
  have joined := split.joined
  rw [frames, tail] at joined
  exact filled joined.symm

theorem describe_eq (filled : bs ≠ []) :
    describe version bs = ", ".intercalate (parts version bs) :=
  if_neg (by simpa using filled)

theorem describe_append {more : Bytes} (h : Splits bs frames []) (filled : bs ≠ [])
    (later : more ≠ []) :
    describe version (bs ++ more) = describe version bs ++ ", " ++ describe version more := by
  rw [describe_eq (by simp [filled]), describe_eq filled, describe_eq later, parts_append h,
    String.intercalate_append_of_ne_nil (parts_ne_nil filled) (parts_ne_nil later)]

/-! The same parts as a loop finds them. -/

/-- The octets before an offset and those from it on, if the offset is within range. -/
def cutAt? (bs : Bytes) (n : Nat) : Option (Bytes × Bytes) :=
  if n ≤ bs.length then some (bs.take n, bs.drop n) else none

/-- The part for a complete frame, if it has a first octet to look at. -/
def framePart? (version : Version) (frame : Bytes) : Option String :=
  frame.head?.map fun _ => framePart version frame

/-- Goes through the octets by an offset, a frame a round. Nothing is told if an access is out of
range, or if the loop is not over after so many rounds. -/
def walk (version : Version) (bs : Bytes) : (rounds offset : Nat) → Option (List String)
  | 0, offset => if offset < bs.length then none else some []
  | rounds + 1, offset =>
    if offset < bs.length then do
      let (_, rest) ← cutAt? bs offset
      match Frame.length? rest with
      | .ok (some n) =>
        let (frame, _) ← cutAt? rest n
        let part ← framePart? version frame
        let parts ← walk version bs rounds (offset + n)
        return part :: parts
      | .ok none =>
        let first ← rest.head?
        return [s!"{(PacketKind.ofFirstOctet first).name} ({rest.length} bytes, incomplete)"]
      | .error e => return [s!"{rest.length} bytes of garbage ({e.message})"]
    else some []

theorem parts_frame (h : Frame.length? bs = .ok (some n)) :
    parts version bs = framePart version (bs.take n) :: parts version (bs.drop n) := by
  rw [parts, Frame.scan_frame h]
  rfl

theorem parts_rest (h : ∀ n, Frame.length? bs ≠ .ok (some n)) :
    parts version bs = tailParts bs := by
  rw [parts, Frame.scan_rest h]
  rfl

theorem parts_nil : parts version [] = [] := parts_rest fun _ => nofun

theorem cutAt?_of_le (h : n ≤ bs.length) : cutAt? bs n = some (bs.take n, bs.drop n) := if_pos h

theorem head?_eq_headD (filled : bs ≠ []) : bs.head? = some (bs.headD 0) := by
  cases bs with
  | nil => exact absurd rfl filled
  | cons b bs => rfl

/-- A frame takes two octets at least, so there are rounds enough, and no access is out of range. -/
theorem walk_eq {offset : Nat} (rounds : Nat) (within : offset ≤ bs.length)
    (enough : bs.length - offset ≤ rounds) :
    walk version bs rounds offset = some (parts version (bs.drop offset)) := by
  induction rounds generalizing offset with
  | zero =>
    have ended : bs.length ≤ offset := by omega
    rw [walk, if_neg (Nat.not_lt.mpr ended), List.drop_of_length_le ended, parts_nil]
  | succ rounds ih =>
    rw [walk]
    split
    · rename_i more
      have left : bs.drop offset ≠ [] := by
        intro empty
        have := List.drop_eq_nil_iff.mp empty
        omega
      have length : (bs.drop offset).length = bs.length - offset := List.length_drop
      have rest (unframed : ∀ n, Frame.length? (bs.drop offset) ≠ .ok (some n)) :
          parts version (bs.drop offset) = [tailPart (bs.drop offset)] := by
        rw [parts_rest unframed, tailParts, if_neg (by simpa using left)]
      rw [cutAt?_of_le within]
      simp only [Option.bind_eq_bind, Option.bind_some, Option.pure_def]
      cases told : Frame.length? (bs.drop offset) with
      | error e => rw [rest (by simp [told]), tailPart, told]
      | ok read =>
        cases read with
        | none =>
          rw [rest (by simp [told]), tailPart, told, head?_eq_headD left]
          rfl
        | some n =>
          obtain ⟨two, fits⟩ := Frame.length?_bounds told
          have filled : (bs.drop offset).take n ≠ [] := (Frame.whole_take told).ne_nil
          have next := @ih (offset + n) (by omega) (by omega)
          dsimp only
          rw [cutAt?_of_le fits, parts_frame told, List.drop_drop]
          simp only [Option.bind_some, framePart?, head?_eq_headD filled, Option.map_some, next]
    · rename_i ended
      rw [List.drop_of_length_le (Nat.not_lt.mp ended), parts_nil]

/-! The summary of packets that were written. -/

/-- A packet that the summary tells by its fields. -/
inductive Packet where
  | publish (p : Publish)
  | connAck (c : ConnAck)

namespace Packet

def encode : Packet → Except WireError Bytes
  | publish p => p.encode
  | connAck c => c.encode

/-- A CONNACK is read as one of the version that the summary is made for. -/
def ReadAs (version : Version) : Packet → Prop
  | publish _ => True
  | connAck c => c.version = version

/-- How many properties are written: before version 5 none, whatever the packet has. -/
def propertyCount (c : ConnAck) : Nat := if c.version = .v5 then c.properties.length else 0

/-- What a packet says of itself, with the length of the frame that it was written as. -/
def text (length : Nat) : Packet → String
  | publish p =>
    s!"PUBLISH(qos={p.qos.level.toNat}, retain={p.retain}, topic={Text.Quoted.quote p.topic}, " ++
      s!"{length} bytes)"
  | connAck c =>
    s!"CONNACK(rc=0x{Hex.lower 2 c.reasonCode.toNat}, session_present={c.sessionPresent}, " ++
      s!"{propertyCount c} properties)"

end Packet

/-- A packet and the frame that it was written as. -/
structure Written where
  packet : Packet
  frame : Bytes
  written : packet.encode = .ok frame

def Written.text (w : Written) : String := w.packet.text w.frame.length

theorem Written.whole (w : Written) : Frame.Whole w.frame := by
  obtain ⟨packet, frame, written⟩ := w
  cases packet with
  | publish p => exact Frame.whole_of_wrap written
  | connAck c => exact Frame.whole_of_wrap written

theorem framePart_publish {p : Publish} {frame : Bytes} (h : p.encode = .ok frame) :
    framePart version frame = (Packet.publish p).text frame.length := by
  obtain ⟨topic, id, block, wrote, _, _, fits, made⟩ := Publish.encode_eq_ok.mp h
  obtain ⟨kind, _, retain, _⟩ := Publish.firstOctet_reads p
  have first : frame.headD 0 = p.firstOctet := by
    rw [made]
    rfl
  have split : Frame.split frame = .ok (p.firstOctet, topic ++ (id ++ (block ++ p.payload))) := by
    have here := (Frame.split_wrap (Frame.wrap_eq_ok.mpr ⟨fits, made⟩) []).1
    rwa [List.append_nil] at here
  have read : (Read.text (topic ++ (id ++ (block ++ p.payload)))).1 = .ok p.topic :=
    congrArg Prod.fst (Read.text_eq_ok.mpr ⟨topic, wrote, rfl⟩)
  have shown : (p.firstOctet.toNat % 2 == 1) = p.retain := retain
  unfold framePart
  dsimp only
  rw [first, kind]
  dsimp only
  unfold publishPart
  rw [split]
  dsimp only [Bind.bind, Except.bind]
  rw [read, Publish.level_firstOctet, shown]
  rfl

theorem framePart_connAck {c : ConnAck} {frame : Bytes} (h : c.encode = .ok frame) :
    framePart c.version frame = (Packet.connAck c).text frame.length := by
  obtain ⟨block, _, _, made⟩ := ConnAck.encode_eq_ok.mp h
  have first : frame.headD 0 = 0x20 := by
    rw [made]
    rfl
  have kind : PacketKind.ofFirstOctet 0x20 = .connAck := rfl
  have read := ConnAck.decode_encode h []
  rw [List.append_nil] at read
  have count : c.normal.properties.length = Packet.propertyCount c := by
    unfold ConnAck.normal Packet.propertyCount
    cases c.version <;> rfl
  unfold framePart
  dsimp only
  rw [first, kind]
  dsimp only
  rw [connAckPart, read]
  dsimp only
  rw [count]
  rfl

theorem framePart_written (w : Written) (same : w.packet.ReadAs version) :
    framePart version w.frame = w.text := by
  obtain ⟨packet, frame, written⟩ := w
  cases packet with
  | publish p => exact framePart_publish written
  | connAck c =>
    obtain rfl : c.version = version := same
    exact framePart_connAck written

theorem whole_of_written (ws : List Written) :
    ∀ frame ∈ ws.map Written.frame, Frame.Whole frame := by
  intro frame member
  obtain ⟨w, _, rfl⟩ := List.mem_map.mp member
  exact w.whole

theorem parts_written {ws : List Written} (same : ∀ w ∈ ws, w.packet.ReadAs version) :
    parts version (ws.map Written.frame).flatten = ws.map Written.text := by
  rw [parts_of_splits (Frame.splits_flatten (whole_of_written ws)), List.map_map]
  refine (List.append_nil _).trans (List.map_congr_left fun w member => ?_)
  exact framePart_written w (same w member)

/-- The summary has a part for each of the complete frames, in their order, and one for what is left
if something is left; and the loop that makes it ends and stays within range. So the summary of
frames with something after them is made of the two summaries, and packets that were written are
told one by one by what they are. -/
theorem describe_covers (version : Version) :
    (∀ bs : Bytes, bs ≠ [] → ∃ frames tail, Splits bs frames tail ∧
      (∀ frames' tail', Splits bs frames' tail' → frames' = frames ∧ tail' = tail) ∧
      walk version bs bs.length 0 = some (frames.map (framePart version) ++ tailParts tail) ∧
      describe version bs = ", ".intercalate (frames.map (framePart version) ++ tailParts tail) ∧
      ((Frame.length? tail = .ok none ∧
        tailPart tail =
          s!"{(PacketKind.ofFirstOctet (tail.headD 0)).name} ({tail.length} bytes, incomplete)") ∨
      (Frame.length? tail = .error .malformedVarInt ∧
        tailPart tail =
          s!"{tail.length} bytes of garbage ({WireError.malformedVarInt.message})"))) ∧
    (∀ (frames : List Bytes) (more : Bytes), frames ≠ [] → (∀ frame ∈ frames, Frame.Whole frame) →
      more ≠ [] → describe version (frames.flatten ++ more) =
        describe version frames.flatten ++ ", " ++ describe version more) ∧
    ∀ ws : List Written, ws ≠ [] → (∀ w ∈ ws, w.packet.ReadAs version) →
      describe version (ws.map Written.frame).flatten = ", ".intercalate (ws.map Written.text) := by
  have filled {frames : List Bytes} (present : frames ≠ [])
      (whole : ∀ frame ∈ frames, Frame.Whole frame) : frames.flatten ≠ [] := by
    obtain ⟨frame, others, rfl⟩ := List.exists_cons_of_ne_nil present
    have first := (whole frame List.mem_cons_self).ne_nil
    simp [first]
  refine ⟨?_, ?_, ?_⟩
  · intro bs present
    have split := Frame.splits_scan bs
    have found : parts version bs = _ := parts_of_splits split
    refine ⟨_, _, split, ?_, ?_, ?_, tailPart_told split.rest⟩
    · intro frames' tail' other
      rw [other.scan_eq]
      exact ⟨rfl, rfl⟩
    · rw [walk_eq bs.length (Nat.zero_le _) (Nat.le_refl _), ← found]
      rfl
    · rw [describe_eq present, found]
  · intro frames more present whole later
    exact describe_append (Frame.splits_flatten whole) (filled present whole) later
  · intro ws present same
    have frames := filled (by simpa using present) (whole_of_written ws)
    rw [describe_eq frames, parts_written same]

def news : Written where
  packet := .publish { topic := "a", payload := [1], version := .v5, retain := true }
  frame := [0x31, 0x05, 0x00, 0x01, 0x61, 0x00, 0x01]
  written := by with_unfolding_all rfl

def welcome : Written where
  packet := .connAck { sessionPresent := true, reasonCode := 5, version := .v311 }
  frame := [0x20, 0x02, 0x01, 0x05]
  written := by with_unfolding_all rfl

/-- Two packets, and a frame with another that is cut off. -/
theorem describe_covers_two :
    describe .v311 (news.frame ++ welcome.frame) =
      "PUBLISH(qos=0, retain=true, topic=\"a\", 7 bytes), " ++
        "CONNACK(rc=0x05, session_present=true, 0 properties)" ∧
    describe .v311 ([0xD0, 0x00] ++ [0x30, 0x05]) =
      "PINGRESP(flags=0x0, 2 bytes), PUBLISH (2 bytes, incomplete)" ∧
    ∃ tail, Splits [0xD0, 0x00, 0x30, 0x05] [[0xD0, 0x00]] tail ∧ tail = [0x30, 0x05] := by
  obtain ⟨covers, joins, tells⟩ := describe_covers .v311
  have two := tells [news, welcome] (by simp) (by simp [news, welcome, Packet.ReadAs])
  have ping : ∀ frame ∈ [[0xD0, 0x00]], Frame.Whole frame := List.forall_mem_singleton.mpr rfl
  have cut := joins [[0xD0, 0x00]] [0x30, 0x05] (by simp) ping (by simp)
  obtain ⟨frames, tail, split, only, _⟩ := covers [0xD0, 0x00, 0x30, 0x05] (by simp)
  have known : Splits [0xD0, 0x00, 0x30, 0x05] [[0xD0, 0x00]] [0x30, 0x05] :=
    ⟨ping, fun _ => nofun, rfl⟩
  obtain ⟨rfl, rfl⟩ := only _ _ known
  exact ⟨two.trans (by decide +kernel), cut.trans (by decide +kernel), _, split, rfl⟩

/-- Before version 5 properties are not written, so no summary tells how many a packet has. -/
theorem properties_not_told :
    ¬ ∀ (c : ConnAck) (frame : Bytes), c.encode = .ok frame →
      describe c.version frame =
        s!"CONNACK(rc=0x{Hex.lower 2 c.reasonCode.toNat}, session_present={c.sessionPresent}, " ++
          s!"{c.properties.length} properties)" := by
  intro claim
  let c : ConnAck :=
    { sessionPresent := false, reasonCode := 0, version := .v311
      properties := [.receiveMaximum 20] }
  have written : c.encode = .ok [0x20, 0x02, 0x00, 0x00] := by with_unfolding_all rfl
  exact absurd (claim c _ written) (by decide +kernel)

end Summary
end ReloadProbe.Wire
