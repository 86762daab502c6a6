import ReloadProbe.Rehearsal.Numeral
import ReloadProbe.Time.Seconds

/-!
Floating point numbers as programs read and print them: a number of significant bits is kept, and
what is printed are the digits of the kept number, rounded at the last place that is asked for.
-/
namespace ReloadProbe.Rehearsal

inductive Floating where
  | finite (negative : Bool) (magnitude : Nat) (power : Int)
  | infinite (negative : Bool)
  | noNumber (negative : Bool)

namespace Floating

structure Precision where
  bits : Nat
  least : Int
  greatest : Int

def double : Precision := { bits := 53, least := -1074, greatest := 1024 }

def extended : Precision := { bits := 64, least := -16445, greatest := 16384 }

def nearest (p : Precision) (negative : Bool) (n d : Nat) : Floating × Bool :=
  if n = 0 then (.finite negative 0 0, false)
  else
    let scaled (power : Int) : Nat × Nat :=
      if 0 ≤ power then (n, d * Nat.pow 2 power.toNat) else (n * Nat.pow 2 (-power).toNat, d)
    let guess : Int := (Nat.log2 n : Int) - Nat.log2 d - p.bits
    -- with the guess the magnitude has as many bits as are kept, or one more
    let (a, b) := scaled guess
    let power := max p.least (if a / b < Nat.pow 2 p.bits then guess else guess + 1)
    let (a, b) := scaled power
    let magnitude := Binary64.roundDiv a b
    if p.greatest < power + (Nat.log2 magnitude : Int) + 1 && magnitude ≠ 0 then
      (.infinite negative, true)
    else
      let isTiny := magnitude < Nat.pow 2 (p.bits - 1) && a % b ≠ 0
      (.finite negative magnitude power, isTiny)

def tenLimit : Nat := 20000

def ofDecimal (p : Precision) (negative : Bool) (n : Nat) (e : Int) : Floating × Bool :=
  let length : Int := (Nat.toDigits 10 n).length
  if n = 0 then (.finite negative 0 0, false)
  else if (tenLimit : Int) < length + e then (.infinite negative, true)
  else if length + e < -(tenLimit : Int) then (.finite negative 0 0, true)
  else if 0 ≤ e then nearest p negative (n * Nat.pow 10 e.toNat) 1
  else nearest p negative n (Nat.pow 10 (-e).toNat)

def exponent (letters : List Char) (cs : List Char) : Int × List Char :=
  match cs with
  | c :: rest =>
    if letters.contains c then
      let (negative, body) := match rest with
        | '-' :: body => (true, body)
        | '+' :: body => (false, body)
        | body => (false, body)
      let (n, left) := Numeral.digits 10 0 body
      let n : Int := min n 1000000
      if left.length < body.length then (if negative then -n else n, left) else (0, cs)
    else (0, cs)
  | [] => (0, cs)

def pointed (base : Nat) (cs : List Char) : Option (Nat × Nat × List Char) :=
  let (whole, rest) := Numeral.digits base 0 cs
  let (n, after) := match rest with
    | '.' :: rest => Numeral.digits base whole rest
    | rest => (whole, rest)
  let places := if rest.head? = some '.' then rest.length - 1 - after.length else 0
  if rest.length = cs.length && places = 0 then none else some (n, places, after)

def word? (negative : Bool) (cs : List Char) : Option (Floating × List Char) :=
  let lower := cs.map Char.toLower
  let starts (s : String) : Bool := s.toList.isPrefixOf lower
  if starts "infinity" then some (.infinite negative, cs.drop 8)
  else if starts "inf" then some (.infinite negative, cs.drop 3)
  else if starts "nan" then
    let rest := cs.drop 3
    let inside := (rest.drop 1).takeWhile fun c => c.isAlphanum || c == '_'
    if rest.head? = some '(' && (rest.drop (inside.length + 1)).head? = some ')' then
      some (.noNumber negative, rest.drop (inside.length + 2))
    else some (.noNumber negative, rest)
  else none

structure Reading where
  value : Floating
  rest : List Char
  found : Bool
  outOfRange : Bool := false

def read (p : Precision) (cs : List Char) : Reading :=
  let start := cs.dropWhile Numeral.isBlank
  let (negative, body) := match start with
    | '-' :: rest => (true, rest)
    | '+' :: rest => (false, rest)
    | rest => (false, rest)
  let hex? : Option Reading := do
    let '0' :: x :: digits := body | none
    if x == 'x' || x == 'X' then
      let (n, places, after) ← pointed 16 digits
      let (e, rest) := exponent ['p', 'P'] after
      let e := e - 4 * places
      let (value, outOfRange) :=
        if 0 ≤ e then nearest p negative (n * Nat.pow 2 (min e.toNat 100000)) 1
        else nearest p negative n (Nat.pow 2 (min (-e).toNat 100000))
      return { value, rest, found := true, outOfRange }
    else none
  let decimal? : Option Reading := do
    let (n, places, after) ← pointed 10 body
    let (e, rest) := exponent ['e', 'E'] after
    let (value, outOfRange) := ofDecimal p negative n (e - places)
    return { value, rest, found := true, outOfRange }
  match (word? negative body).map (fun (value, rest) => ({ value, rest, found := true } : Reading)),
    hex?, decimal? with
  | some r, _, _ | none, some r, _ | none, none, some r => r
  | none, none, none => { value := .finite false 0 0, rest := cs, found := false }

def isNegative : Floating → Bool
  | finite negative _ _ | infinite negative | noNumber negative => negative

def fraction (magnitude : Nat) (power : Int) : Nat × Nat :=
  if 0 ≤ power then (magnitude * Nat.pow 2 power.toNat, 1)
  else (magnitude, Nat.pow 2 (-power).toNat)

def withPoint (digits : List Char) (places : Nat) (keepPoint : Bool) : String :=
  let digits := List.replicate (places + 1 - digits.length) '0' ++ digits
  let whole := digits.take (digits.length - places)
  let point := if places = 0 && !keepPoint then [] else ['.']
  String.ofList (whole ++ point ++ digits.drop whole.length)

def fixed (magnitude : Nat) (power : Int) (places : Nat) (keepPoint : Bool) : String :=
  let (n, d) := fraction magnitude power
  withPoint (Nat.toDigits 10 (Binary64.roundDiv (n * Nat.pow 10 places) d)) places keepPoint

def scientificDigits (magnitude : Nat) (power : Int) (places : Nat) : List Char × Int :=
  let (n, d) := fraction magnitude power
  if n = 0 then (List.replicate (places + 1) '0', 0)
  else
    let scaled (e : Int) : Nat × Nat :=
      if 0 ≤ e then (n, d * Nat.pow 10 e.toNat) else (n * Nat.pow 10 (-e).toNat, d)
    let guess : Int := ((Nat.toDigits 10 n).length : Int) - (Nat.toDigits 10 d).length
    let (a, b) := scaled guess
    let e := if a < b then guess - 1 else guess
    let (a, b) := scaled (e - places)
    let digits := Binary64.roundDiv a b
    if Nat.pow 10 (places + 1) ≤ digits then (Nat.toDigits 10 (digits / 10), e + 1)
    else (Nat.toDigits 10 digits, e)

def exponentText (e : Int) : String :=
  let digits := Nat.toDigits 10 e.natAbs
  (if e < 0 then "-" else "+") ++ String.ofList (List.replicate (2 - digits.length) '0' ++ digits)

def scientific (magnitude : Nat) (power : Int) (places : Nat) (keepPoint : Bool) : String :=
  let (digits, e) := scientificDigits magnitude power places
  withPoint digits places keepPoint ++ "e" ++ exponentText e

def stripZeros (s : String) : String :=
  if s.contains '.' then
    let cs := s.toList.reverse.dropWhile (· == '0')
    String.ofList (if cs.head? = some '.' then cs.drop 1 else cs).reverse
  else s

def shorter (magnitude : Nat) (power : Int) (digits : Nat) (keepZeros : Bool) : String :=
  let digits := max digits 1
  let (ds, e) := scientificDigits magnitude power (digits - 1)
  let strip (s : String) : String := if keepZeros then s else stripZeros s
  if -4 ≤ e && e < digits then
    strip (fixed magnitude power ((digits : Int) - 1 - e).toNat keepZeros)
  else strip (withPoint ds (digits - 1) keepZeros) ++ "e" ++ exponentText e

def hexadecimal (p : Precision) (magnitude : Nat) (power : Int) (places? : Option Nat)
    (keepPoint : Bool) : String :=
  -- how many bits stand before the point
  let lead := if p.bits % 4 = 0 then 4 else 1
  let width := (p.bits - lead) / 4
  let shift := p.bits - 1 - (if magnitude = 0 then 0 else Nat.log2 magnitude)
  let isTiny := power = p.least
  let shift := if isTiny && lead = 1 then 0 else shift
  let n := if magnitude = 0 then 0 else magnitude * Nat.pow 2 shift
  let e : Int := if magnitude = 0 then 0 else power - shift + (4 * width : Nat)
  let (n, places) := match places? with
    | some places =>
      if places < width then (Binary64.roundDiv n (Nat.pow 16 (width - places)), places)
      else (n * Nat.pow 16 (places - width), places)
    | none => (n, width)
  let text := withPoint (Nat.toDigits 16 n) places keepPoint
  let text := if places?.isNone then stripZeros text else text
  let text := if keepPoint && !text.contains '.' then text ++ "." else text
  let sign := if e < 0 then "-" else "+"
  s!"0x{text}p{sign}{e.natAbs}"

end Floating
end ReloadProbe.Rehearsal
