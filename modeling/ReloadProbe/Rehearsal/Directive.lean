import ReloadProbe.Rehearsal.Floating

/-! Directives of formats: how a text or a number is written with a sign, a width and places. -/
namespace ReloadProbe.Rehearsal

structure Directive where
  left : Bool := false
  plus : Bool := false
  space : Bool := false
  alternate : Bool := false
  zeros : Bool := false
  width : Nat := 0
  precision? : Option Nat := none

namespace Directive

def flag? (d : Directive) (c : Char) : Option Directive :=
  match c with
  | '-' => some { d with left := true }
  | '+' => some { d with plus := true }
  | ' ' => some { d with space := true }
  | '#' => some { d with alternate := true }
  | '0' => some { d with zeros := true }
  | _ => none

def flags : Directive → List Char → Directive × List Char
  | d, [] => (d, [])
  | d, c :: cs =>
    match d.flag? c with
    | some d => flags d cs
    | none => (d, c :: cs)

/-- A width from an argument; a negative one puts the blanks after the text. -/
def withWidth (d : Directive) (n : Int) : Directive :=
  { d with width := n.natAbs, left := d.left || n < 0 }

/-- A precision from an argument; a negative one is none. -/
def withPrecision (d : Directive) (n : Int) : Directive :=
  { d with precision? := if n < 0 then none else some n.toNat }

def blanks (n : Nat) (c : Char := ' ') : String := String.ofList (List.replicate n c)

/-- A sign and a body in a field. Zeros go between the two. -/
def field (d : Directive) (sign body : String) (zeros : Bool) : String :=
  let gap := d.width - sign.length - body.length
  if d.left then sign ++ body ++ blanks gap
  else if zeros then sign ++ blanks gap '0' ++ body
  else blanks gap ++ sign ++ body

def text (d : Directive) (s : String) : String :=
  let s := match d.precision? with
    | some n => String.ofList (s.toList.take n)
    | none => s
  d.field "" s false

def char (d : Directive) (s : String) : String := d.field "" s false

def sign (d : Directive) (negative : Bool) : String :=
  if negative then "-" else if d.plus then "+" else if d.space then " " else ""

def digits (d : Directive) (base n : Nat) : String :=
  let ds := if n = 0 && d.precision? = some 0 then [] else Nat.toDigits base n
  String.ofList (List.replicate (d.precision?.getD 1 - ds.length) '0' ++ ds)

def signed (d : Directive) (n : Int) : String :=
  d.field (d.sign (n < 0)) (d.digits 10 n.natAbs) (d.zeros && d.precision?.isNone)

def unsigned (d : Directive) (letter : Char) (n : Nat) : String :=
  let zeros := d.zeros && d.precision?.isNone
  match letter with
  | 'o' =>
    let body := d.digits 8 n
    d.field "" (if d.alternate && !body.startsWith "0" then "0" ++ body else body) zeros
  | 'x' => d.field (if d.alternate && n ≠ 0 then "0x" else "") (d.digits 16 n) zeros
  | 'X' =>
    d.field (if d.alternate && n ≠ 0 then "0X" else "") ((d.digits 16 n).map Char.toUpper) zeros
  | _ => d.field "" (d.digits 10 n) zeros

def floating (d : Directive) (p : Floating.Precision) (letter : Char) (x : Floating) : String :=
  let places := d.precision?.getD 6
  let (body, zeros) := match x with
    | .infinite _ => ("inf", false)
    | .noNumber _ => ("nan", false)
    | .finite _ m e =>
      (match letter.toLower with
        | 'e' => Floating.scientific m e places d.alternate
        | 'g' => Floating.shorter m e places d.alternate
        | 'a' => Floating.hexadecimal p m e d.precision? d.alternate
        | _ => Floating.fixed m e places d.alternate, d.zeros)
  let body := if letter.isUpper then body.map Char.toUpper else body
  let sign := d.sign x.isNegative
  if letter.toLower = 'a' && zeros then
    -- the mark of the base stands before the zeros
    d.field (sign ++ String.ofList (body.toList.take 2)) (String.ofList (body.toList.drop 2)) zeros
  else d.field sign body zeros

end Directive
end ReloadProbe.Rehearsal
