import ReloadProbe.Text.Hex

/-!
Whole numbers as programs read them from their arguments: blanks, a sign, perhaps the mark of a
base, and digits up to the first character that is none. What does not fit into 64 bits is cut off
at the end of the range.
-/
namespace ReloadProbe.Rehearsal

structure Numeral where
  value : Int
  rest : List Char
  found : Bool
  cut : Bool := false

namespace Numeral

def least : Int := -9223372036854775808

def greatest : Int := 9223372036854775807

def isBlank (c : Char) : Bool := c == ' ' || (9 ≤ c.toNat && c.toNat ≤ 13)

def digit? (base : Nat) (c : Char) : Option Nat := do
  let n ← Hex.digit? c
  if n < base then some n else none

def digits (base : Nat) : Nat → List Char → Nat × List Char
  | n, [] => (n, [])
  | n, c :: cs =>
    match digit? base c with
    | some d => digits base (n * base + d) cs
    | none => (n, c :: cs)

/-- Reads a number in a base, or in the base that its first characters mark. Its value is given
as it is. -/
def readAny (base? : Option Nat) (cs : List Char) : Numeral :=
  let start := cs.dropWhile isBlank
  let (negative, body) := match start with
    | '-' :: rest => (true, rest)
    | '+' :: rest => (false, rest)
    | rest => (false, rest)
  let isHex (c : Option Char) : Bool := c.any fun c => (Hex.digit? c).isSome
  let (base, body) := match base?, body with
    | none, '0' :: x :: rest =>
      if (x == 'x' || x == 'X') && isHex rest.head? then (16, rest) else (8, body)
    | some base, _ => (base, body)
    | none, _ => (10, body)
  let (n, rest) := digits base 0 body
  let found := rest.length < body.length
  let value : Int := if negative then -n else n
  if !found then { value := 0, rest := cs, found } else { value, rest, found }

def read (base? : Option Nat) (cs : List Char) : Numeral :=
  let n := readAny base? cs
  { n with
    value := max least (min greatest n.value), cut := n.value < least || greatest < n.value }

/-- Reads a number without a sign. A minus sign takes it from the number after the greatest one. -/
def readUnsigned (base? : Option Nat) (cs : List Char) : Numeral :=
  let n := readAny base? cs
  let greatest : Int := 18446744073709551615
  if greatest < n.value.natAbs then { n with value := greatest, cut := true }
  else { n with value := n.value % 18446744073709551616 }

end Numeral
end ReloadProbe.Rehearsal
