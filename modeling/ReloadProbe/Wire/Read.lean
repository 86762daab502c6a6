import ReloadProbe.Text.Utf8
import ReloadProbe.Wire.VarInt

/-!
Reading a packet's fields from the unread octets of its body. A reader gives its result and what is
then unread, also when it fails: a failure may have consumed a length before it. What is unread
afterwards is always a tail of what was unread before (`Advances`).
-/
namespace ReloadProbe.Wire

def Read (α : Type) := Bytes → Except WireError α × Bytes

namespace Read

def fail {α : Type} (e : WireError) : Read α := fun bs => (.error e, bs)

instance : Monad Read where
  pure a := fun bs => (.ok a, bs)
  bind p f := fun bs =>
    match p bs with
    | (.ok a, rest) => f a rest
    | (.error e, rest) => (.error e, rest)

/-- The next `n` octets. A body that is too short stays as it is. -/
def take (n : Nat) : Read Bytes := fun bs =>
  if n ≤ bs.length then (.ok (bs.take n), bs.drop n)
  else (.error (.truncated n bs.length), bs)

def octet : Read UInt8 := do return UInt8.ofNat (Bytes.toNat (← take 1))

def uint16 : Read UInt16 := do return UInt16.ofNat (Bytes.toNat (← take 2))

def uint32 : Read UInt32 := do return UInt32.ofNat (Bytes.toNat (← take 4))

def varInt : Read Nat := fun bs =>
  match VarInt.decode bs with
  | .ok (some (n, size)) => (.ok n, bs.drop size)
  | .ok none => (.error (.truncated (bs.length + 1) bs.length), bs)
  | .error e => (.error e, bs)

def binary : Read Bytes := do take (← uint16).toNat

def text : Read String := do
  match Utf8.decode? (← binary) with
  | some s => return s
  | none => fail .invalidUtf8

def rest : Read Bytes := fun bs => (.ok bs, [])

/-- A reader only ever moves forward, and not past the end. -/
def Advances {α : Type} (p : Read α) : Prop := ∀ bs, (p bs).2 <:+ bs

theorem advances_pure {α : Type} (a : α) : Advances (pure a) := fun bs => List.suffix_refl bs

theorem advances_fail {α : Type} (e : WireError) : Advances (fail e : Read α) :=
  fun bs => List.suffix_refl bs

theorem Advances.bind {α β : Type} {p : Read α} {f : α → Read β} (hp : Advances p)
    (hf : ∀ a, Advances (f a)) : Advances (p >>= f) := by
  intro bs
  have h := hp bs
  show (match p bs with
    | (.ok a, rest) => f a rest
    | (.error e, rest) => (.error e, rest)).2 <:+ bs
  rcases hr : p bs with ⟨r, left⟩
  rw [hr] at h
  cases r with
  | ok a => exact (hf a left).trans h
  | error e => exact h

theorem Advances.map {α β : Type} {p : Read α} (g : α → β) (hp : Advances p) :
    Advances (g <$> p) :=
  hp.bind fun a => advances_pure (g a)

theorem advances_take (n : Nat) : Advances (take n) := by
  intro bs
  unfold take
  split
  · exact List.drop_suffix n bs
  · exact List.suffix_refl bs

theorem advances_octet : Advances octet := (advances_take 1).bind fun _ => advances_pure _

theorem advances_uint16 : Advances uint16 := (advances_take 2).bind fun _ => advances_pure _

theorem advances_uint32 : Advances uint32 := (advances_take 4).bind fun _ => advances_pure _

theorem advances_varInt : Advances varInt := by
  intro bs
  unfold varInt
  split
  · exact List.drop_suffix _ bs
  · exact List.suffix_refl bs
  · exact List.suffix_refl bs

theorem advances_binary : Advances binary := advances_uint16.bind fun _ => advances_take _

theorem advances_text : Advances text := by
  refine advances_binary.bind fun bs => ?_
  split
  · exact advances_pure _
  · exact advances_fail _

end Read
end ReloadProbe.Wire
