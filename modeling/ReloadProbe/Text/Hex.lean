import ReloadProbe.Bytes

/-! Hexadecimal writing of octets. -/
namespace ReloadProbe.Hex

def lower (width n : Nat) : String :=
  let digits := Nat.toDigits 16 n
  String.ofList (List.replicate (width - digits.length) '0' ++ digits)

def upper (width n : Nat) : String :=
  (lower width n).map Char.toUpper

def packed (bs : Bytes) : String :=
  String.join (bs.map fun b => lower 2 b.toNat)

def spaced (bs : Bytes) : String :=
  " ".intercalate (bs.map fun b => lower 2 b.toNat)

def digit? (c : Char) : Option Nat :=
  if '0' ≤ c ∧ c ≤ '9' then some (c.toNat - 48)
  else if 'a' ≤ c ∧ c ≤ 'f' then some (c.toNat - 87)
  else if 'A' ≤ c ∧ c ≤ 'F' then some (c.toNat - 55)
  else none

def number? (digits : List Char) : Option Nat :=
  digits.foldlM (fun n c => do return n * 16 + (← digit? c)) 0

def octets? : List Char → Option Bytes
  | [] => some []
  | [_] => none
  | a :: b :: rest => do
    return UInt8.ofNat ((← digit? a) * 16 + (← digit? b)) :: (← octets? rest)

end ReloadProbe.Hex
