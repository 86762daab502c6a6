import ReloadProbe.Bytes

/-!
Text as UTF-8 octets. Reading is strict (`decode?`) or lossy (`lossy`); the lossy reading is total
and puts U+FFFD where the octets are not well formed.
-/
namespace ReloadProbe.Utf8

def encode (s : String) : Bytes := s.toByteArray.data.toList

def decode? (bs : Bytes) : Option String := String.fromUTF8? ⟨bs.toArray⟩

theorem decode?_encode (s : String) : decode? (encode s) = some s := by
  simp [decode?, encode, String.fromUTF8?, s.isValidUTF8]
  rfl

theorem encode_of_decode? {bs : Bytes} {s : String} (h : decode? bs = some s) :
    encode s = bs := by
  unfold decode? String.fromUTF8? at h
  split at h
  · cases h; simp [encode, String.fromUTF8]
  · cases h

structure Lead where
  low : UInt8
  high : UInt8
  further : Nat
  bits : Nat

/-- The leading octets of well-formed sequences of two to four octets. The bounds of the second
octet keep out overlong forms, surrogates and what lies above U+10FFFF. -/
def lead? (b : UInt8) : Option Lead :=
  if 0xC2 ≤ b ∧ b ≤ 0xDF then some ⟨0x80, 0xBF, 0, b.toNat - 0xC0⟩
  else if b = 0xE0 then some ⟨0xA0, 0xBF, 1, 0⟩
  else if b = 0xED then some ⟨0x80, 0x9F, 1, 0xD⟩
  else if 0xE1 ≤ b ∧ b ≤ 0xEF then some ⟨0x80, 0xBF, 1, b.toNat - 0xE0⟩
  else if b = 0xF0 then some ⟨0x90, 0xBF, 2, 0⟩
  else if 0xF1 ≤ b ∧ b ≤ 0xF3 then some ⟨0x80, 0xBF, 2, b.toNat - 0xF0⟩
  else if b = 0xF4 then some ⟨0x80, 0x8F, 2, 4⟩
  else none

def continuation : (count bits : Nat) → Bytes → Option Nat × Nat
  | 0, bits, _ => (some bits, 0)
  | count + 1, bits, b :: bs =>
    if 0x80 ≤ b ∧ b ≤ 0xBF then
      let (code, taken) := continuation count (bits * 64 + (b.toNat - 0x80)) bs
      (code, taken + 1)
    else (none, 0)
  | _ + 1, _, [] => (none, 0)

def Lead.follow (l : Lead) : Bytes → Option Nat × Nat
  | b :: bs =>
    if l.low ≤ b ∧ b ≤ l.high then
      let (code, taken) := continuation l.further (l.bits * 64 + (b.toNat - 0x80)) bs
      (code, taken + 1)
    else (none, 0)
  | [] => (none, 0)

/-- The characters in order; in their places, the maximal parts of ill-formed sequences. -/
def pieces : Bytes → List (Except Bytes Char)
  | [] => []
  | b :: bs =>
    if b < 0x80 then .ok (Char.ofNat b.toNat) :: pieces bs
    else
      match lead? b with
      | none => .error [b] :: pieces bs
      | some l =>
        let (code, taken) := l.follow bs
        let piece := match code with
          | some n => .ok (Char.ofNat n)
          | none => .error (b :: bs.take taken)
        piece :: pieces (bs.drop taken)
termination_by bs => bs.length
decreasing_by all_goals simp only [List.length_cons, List.length_drop]; omega

/-- Each ill-formed part gives one U+FFFD. -/
def lossy (bs : Bytes) : String :=
  String.ofList ((pieces bs).map fun
    | .ok c => c
    | .error _ => '\uFFFD')

end ReloadProbe.Utf8
