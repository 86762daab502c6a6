import ReloadProbe.Proofs.Text.Line
import ReloadProbe.Wire.Diff

/-!
The text of a difference. It is on one line, whatever the octets hold, and they can be read back
from it. A dump ends at the first bracket, as no digit is one. What stands between the two dumps is
the summary of the first, so once that dump is read it is known, and no topic in it can stand for
what comes after.
-/
namespace ReloadProbe.Wire

open ReloadProbe.Text

theorem PacketKind.oneLine_name (kind : PacketKind) : OneLine kind.name := by
  cases kind <;> decide

theorem WireError.oneLine_message (e : WireError) : OneLine e.message := by
  cases e with
  | malformedVarInt | invalidUtf8 => decide
  | _ =>
    unfold message
    simp only [oneLine_append, oneLine_toString, oneLine_nat, oneLine_upper,
      PacketKind.oneLine_name, and_true]
    decide

namespace Summary

theorem oneLine_connAckPart (version : Version) (frame : Bytes) :
    OneLine (connAckPart version frame) := by
  unfold connAckPart
  split <;> simp only [oneLine_append, oneLine_toString, oneLine_nat, oneLine_bool, oneLine_lower,
    and_true, true_and] <;> decide

theorem oneLine_publishPart (first : UInt8) (frame : Bytes) :
    OneLine (publishPart first frame) := by
  unfold publishPart
  dsimp only
  split <;> simp only [oneLine_append, oneLine_toString, oneLine_nat, oneLine_bool, oneLine_quote,
    and_true, true_and] <;> decide

theorem oneLine_framePart (version : Version) (frame : Bytes) :
    OneLine (framePart version frame) := by
  unfold framePart
  dsimp only
  split
  · exact oneLine_connAckPart version frame
  · exact oneLine_publishPart _ frame
  · simp only [oneLine_append, oneLine_toString, oneLine_nat, oneLine_lower,
      PacketKind.oneLine_name, and_true, true_and]
    decide

theorem oneLine_tailPart (bs : Bytes) : OneLine (tailPart bs) := by
  unfold tailPart
  split <;> simp only [oneLine_append, oneLine_toString, oneLine_nat, WireError.oneLine_message,
    PacketKind.oneLine_name, and_true, true_and] <;> decide

theorem oneLine_describe (version : Version) (bs : Bytes) : OneLine (describe version bs) := by
  unfold describe
  split
  · decide
  · refine Text.oneLine_intercalate (by decide) fun part member => ?_
    rcases List.mem_append.mp member with frame | tail
    · obtain ⟨whole, _, rfl⟩ := List.mem_map.mp frame
      exact oneLine_framePart version whole
    · split at tail
      · cases tail
      · rw [List.mem_singleton.mp tail]
        exact oneLine_tailPart _

end Summary

namespace Diff

theorem oneLine_message (d : Diff) : OneLine d.message := by
  unfold message side
  split <;> simp only [oneLine_append, oneLine_toString, oneLine_nat, oneLine_spaced,
    Summary.oneLine_describe, and_true] <;> decide

/-- What follows a text that has to come first. -/
def after? (lead cs : List Char) : Option (List Char) :=
  if lead.isPrefixOf cs then some (cs.drop lead.length) else none

/-- The octets of a dump up to its closing bracket, and what follows that. -/
def dump? (cs : List Char) : Option (Bytes × List Char) :=
  let hex := cs.takeWhile (· ≠ ']')
  (Hex.octets? (hex.filter (· ≠ ' '))).map fun bs => (bs, cs.drop (hex.length + 1))

/-- The octets that a message is about. -/
def read? (version : Version) (message : String) : Option (Bytes × Bytes) := do
  let (expected, rest) ← dump? (← after? "expected [".toList message.toList)
  let between := " " ++ Summary.describe version expected ++ ", received ["
  let (received, _) ← dump? (← after? between.toList rest)
  return (expected, received)

theorem after?_append (lead rest : List Char) : after? lead (lead ++ rest) = some rest := by
  have front : lead.isPrefixOf (lead ++ rest) :=
    List.isPrefixOf_iff_prefix.mpr (List.prefix_append lead rest)
  rw [after?, if_pos front, List.drop_left]

theorem dump?_spaced (bs : Bytes) (rest : List Char) :
    dump? ((Hex.spaced bs).toList ++ ']' :: rest) = some (bs, rest) := by
  -- A dump has no bracket, so the first one is the one that closes it.
  have inside : ∀ c ∈ (Hex.spaced bs).toList, decide (c ≠ ']') = true := by
    intro c member
    refine decide_eq_true fun bracket => ?_
    exact Hex.not_mem_spaced (by decide) rfl (bracket ▸ member)
  have front : ((Hex.spaced bs).toList ++ ']' :: rest).takeWhile (· ≠ ']') =
      (Hex.spaced bs).toList := by
    rw [List.takeWhile_append_of_pos inside, List.takeWhile_cons_of_neg (by simp), List.append_nil]
  unfold dump?
  dsimp only
  rw [front, Hex.octets?_spaced, ← List.drop_drop, List.drop_left]
  rfl

theorem side_eq (version : Version) (bs : Bytes) :
    side version bs = "[" ++ Hex.spaced bs ++ "] " ++ Summary.describe version bs := rfl

theorem message_eq (d : Diff) : ∃ ending, d.message =
    "expected " ++ side d.version d.expected ++ ", received " ++ side d.version d.received ++
      ending := ⟨_, rfl⟩

theorem message_toList (d : Diff) : ∃ rest,
    d.message.toList = "expected [".toList ++ ((Hex.spaced d.expected).toList ++ ']' ::
      ((" " ++ Summary.describe d.version d.expected ++ ", received [").toList ++
        ((Hex.spaced d.received).toList ++ ']' :: rest))) := by
  obtain ⟨ending, shown⟩ := d.message_eq
  refine ⟨(" " ++ Summary.describe d.version d.received ++ ending).toList, ?_⟩
  rw [shown, side_eq, side_eq]
  simp

theorem read?_message (d : Diff) :
    read? d.version d.message = some (d.expected, d.received) := by
  obtain ⟨ending, shown⟩ := d.message_toList
  unfold read?
  rw [shown, after?_append]
  simp only [Option.bind_eq_bind, Option.bind_some, dump?_spaced, after?_append, Option.pure_def]

/-- The text of a difference tells both strings of octets: they can be read back from it, so two
differences of one version that look the same are about the same octets. -/
theorem message_unambiguous :
    (∀ d : Diff, read? d.version d.message = some (d.expected, d.received)) ∧
    ∀ d e : Diff, d.version = e.version → d.message = e.message →
      d.expected = e.expected ∧ d.received = e.received := by
  refine ⟨read?_message, fun d e version message => ?_⟩
  have same := (read?_message d).symm
  rw [version, message, read?_message e] at same
  exact Prod.mk.inj (Option.some.inj same)

/-- A packet with a topic that looks like the end of the first dump and the start of the second, by
its octets and as it is written. -/
theorem message_unambiguous_imitation :
    let news : Publish := { topic := "], received [", payload := [], version := .v311 }
    let d : Diff := ⟨(news.encode.toOption.getD []), [0xD0, 0x00], .v311⟩
    let e : Diff := ⟨[0x30, 0x0F, 0x00, 0x0D, 0x5D, 0x2C, 0x20, 0x72, 0x65, 0x63, 0x65, 0x69, 0x76,
      0x65, 0x64, 0x20, 0x5B], [0xD0, 0x00], .v311⟩
    d.version = e.version ∧ d.message = e.message ∧ d.expected = e.expected ∧
      d.received = e.received ∧
      read? .v311 ("expected [30 0f 00 0d 5d 2c 20 72 65 63 65 69 76 65 64 20 5b] " ++
        "PUBLISH(qos=0, retain=false, topic=\"], received [\", 17 bytes), " ++
        "received [d0 00] PINGRESP(flags=0x0, 2 bytes) (first difference at byte 0)") =
          some (e.expected, e.received) := by
  intro news d e
  obtain ⟨reads, tells⟩ := message_unambiguous
  have same : d.message = e.message := by decide +kernel
  obtain ⟨expected, received⟩ := tells d e rfl same
  refine ⟨rfl, same, expected, received, Eq.trans (congrArg _ ?_) (reads e)⟩
  decide +kernel

end Diff
end ReloadProbe.Wire
