import ReloadProbe.Wire.VarInt

/-!
Frames: a first octet, the remaining length, and that many octets of body. `length?` and `split`
read the same header; the first answers only for a frame that is complete.
-/
namespace ReloadProbe.Wire.Frame

def wrap (first : UInt8) (body : Bytes) : Except WireError Bytes :=
  (VarInt.encode body.length).map fun header => first :: header ++ body

def length? (bs : Bytes) : Except WireError (Option Nat) :=
  match VarInt.decode bs.tail with
  | .error e => .error e
  | .ok none => .ok none
  | .ok (some (remaining, size)) =>
    let total := 1 + size + remaining
    .ok (if total ≤ bs.length then some total else none)

/-- The first octet and the body of the frame at the start of `bs`; what follows is ignored. -/
def split : Bytes → Except WireError (UInt8 × Bytes)
  | [] => .error (.truncated 2 0)
  | first :: rest =>
    match VarInt.decode rest with
    | .error e => .error e
    | .ok none => .error (.truncated 2 (rest.length + 1))
    | .ok (some (remaining, size)) =>
      if size + remaining ≤ rest.length then .ok (first, (rest.drop size).take remaining)
      else .error (.truncated (1 + (size + remaining)) (rest.length + 1))

theorem length?_bounds {bs : Bytes} {n : Nat} (h : length? bs = .ok (some n)) :
    2 ≤ n ∧ n ≤ bs.length := by
  unfold length? at h
  split at h
  · cases h
  · cases h
  · rename_i hd
    have := VarInt.decode_size hd
    simp only [Except.ok.injEq] at h
    split at h <;> simp at h
    omega

def scan (bs : Bytes) : List Bytes × Bytes :=
  match _h : length? bs with
  | .ok (some n) =>
    let (frames, tail) := scan (bs.drop n)
    (bs.take n :: frames, tail)
  | _ => ([], bs)
termination_by bs.length
decreasing_by
  have := length?_bounds (by assumption)
  simp only [List.length_drop]; omega

theorem scan_flatten (bs : Bytes) : (scan bs).1.flatten ++ (scan bs).2 = bs := by
  fun_induction scan bs with
  | case1 bs n h frames tail hr ih =>
    simp only [hr] at ih
    simp [List.append_assoc, ih, List.take_append_drop]
  | case2 => simp

end ReloadProbe.Wire.Frame
