import ReloadProbe.Bytes
import ReloadProbe.Wire.Error

/-!
Variable byte integers: seven bits to an octet, the least significant first, and the top bit set on
all octets but the last. At most four octets, so at most 268435455.
-/
namespace ReloadProbe.Wire.VarInt

def limit : Nat := 268435455

/-- The shortest form of a number, however large. -/
def octets (n : Nat) : Bytes :=
  if n < 128 then [UInt8.ofNat n]
  else UInt8.ofNat (n % 128 + 128) :: octets (n / 128)

def encode (n : Nat) : Except WireError Bytes :=
  if n ≤ limit then .ok (octets n) else .error (.remainingLengthTooLarge n)

/-- How many octets a number takes; four for all that is larger, also beyond the limit. -/
def width (n : Nat) : Nat :=
  if n < 128 then 1 else if n < 16384 then 2 else if n < 2097152 then 3 else 4

def decodeWithin : (more : Nat) → Bytes → Except WireError (Option (Nat × Nat))
  | _, [] => .ok none
  | more, b :: bs =>
    if b.toNat < 128 then .ok (some (b.toNat, 1))
    else
      match more with
      | 0 => .error .malformedVarInt
      | more + 1 =>
        match decodeWithin more bs with
        | .ok (some (n, size)) => .ok (some (b.toNat - 128 + 128 * n, size + 1))
        | .ok none => .ok none
        | .error e => .error e

/-- The number at the start of `bs` and its size in octets; nothing if `bs` ends within it. -/
def decode (bs : Bytes) : Except WireError (Option (Nat × Nat)) := decodeWithin 3 bs

theorem decodeWithin_size {more : Nat} {bs : Bytes} {n size : Nat}
    (h : decodeWithin more bs = .ok (some (n, size))) : 0 < size ∧ size ≤ bs.length := by
  induction bs generalizing more n size with
  | nil => simp [decodeWithin] at h
  | cons b bs ih =>
    unfold decodeWithin at h
    split at h
    · simp at h; simp; omega
    · cases more with
      | zero => simp at h
      | succ more =>
        cases hr : decodeWithin more bs with
        | error e => simp [hr] at h
        | ok r =>
          cases r with
          | none => simp [hr] at h
          | some p =>
            have := ih hr
            simp [hr] at h
            simp; omega

theorem decode_size {bs : Bytes} {n size : Nat} (h : decode bs = .ok (some (n, size))) :
    0 < size ∧ size ≤ bs.length :=
  decodeWithin_size h

end ReloadProbe.Wire.VarInt
