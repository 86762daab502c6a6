/-!
How messages show a text that a user has given: within quotation marks, always or only where a shell
would need them, and with escapes for what cannot be shown. Texts are texts of octets.
-/
namespace ReloadProbe.Rehearsal.Utility

namespace Naming

def letter? (c : Char) : Option Char :=
  match c.toNat with
  | 7 => some 'a'
  | 8 => some 'b'
  | 9 => some 't'
  | 10 => some 'n'
  | 11 => some 'v'
  | 12 => some 'f'
  | 13 => some 'r'
  | _ => none

def isShown (c : Char) : Bool := 32 ≤ c.toNat && c.toNat < 127

/-- The escape for a character that cannot be shown. -/
def escape (c : Char) : List Char :=
  match letter? c with
  | some l => ['\\', l]
  | none =>
    let ds := Nat.toDigits 8 c.toNat
    '\\' :: List.replicate (3 - ds.length) '0' ++ ds

def isTame (c : Char) : Bool := c.isAlphanum || "%+,-./:@]_".contains c

def needsMarks (cs : List Char) : Bool :=
  match cs with
  | [] => true
  | c :: more =>
    c == '#' || c == '~' || (more.isEmpty && (c == '\x7b' || c == '\x7d')) ||
      cs.any fun c => !isShown c || " !\"$&'()*;<=>?[\\^|".contains c || c.toNat = 0x60

def within : List Char → (escaping : Bool) → List Char
  | [], _ => []
  | c :: cs, escaping =>
    if !isShown c then
      (if escaping then [] else ['\'', '$', '\'']) ++ escape c ++ within cs true
    else
      let text := if c = '\'' then ['\'', '\\', '\''] ++ ['\''] else [c]
      (if escaping then ['\'', '\''] else []) ++ text ++ within cs false

def marked (cs : List Char) : List Char :=
  if cs.contains '\'' && cs.all fun c => isTame c || c == ' ' || c == '\'' then
    '"' :: cs ++ ['"']
  else '\'' :: within cs false ++ ['\'']

end Naming

def named (s : String) : String := String.ofList (Naming.marked s.toList)

def shown (s : String) : String := if Naming.needsMarks s.toList then named s else s

def cited (s : String) : String :=
  let one (c : Char) : List Char :=
    if c = '\'' || c = '\\' then ['\\', c]
    else if Naming.isShown c then [c]
    else Naming.escape c
  String.ofList ('\'' :: s.toList.flatMap one ++ ['\''])

end ReloadProbe.Rehearsal.Utility
