/-! Escapes: characters of which a text tells by a backslash and a letter or a number. -/
namespace ReloadProbe.Rehearsal.Escape

def letter? (c : Char) : Option Char :=
  match c with
  | 'a' => some (Char.ofNat 7)
  | 'b' => some (Char.ofNat 8)
  | 'e' => some (Char.ofNat 27)
  | 'f' => some (Char.ofNat 12)
  | 'n' => some (Char.ofNat 10)
  | 'r' => some (Char.ofNat 13)
  | 't' => some (Char.ofNat 9)
  | 'v' => some (Char.ofNat 11)
  | '\\' => some '\\'
  | _ => none

def isOctal (c : Char) : Bool := '0' ≤ c && c ≤ '7'

def octal (most : Nat) (cs : List Char) : Char × List Char :=
  let digits := (cs.take most).takeWhile isOctal
  let n := digits.foldl (fun n c => n * 8 + (c.toNat - 48)) 0
  (Char.ofNat (n % 256), cs.drop digits.length)

/-- What follows a backslash, as formats have it. A backslash that begins no escape stands for
itself. -/
def inFormat : List Char → Char × List Char
  | [] => ('\\', [])
  | c :: cs =>
    if isOctal c then octal 3 (c :: cs)
    else
      match letter? c with
      | some e => (e, cs)
      | none => ('\\', c :: cs)

/-- A text with its escapes replaced, as a shell has them in arguments: octal digits may follow a
zero, and one escape ends the output. False if it does. -/
def inArgument : (limit : Nat) → List Char → List Char × Bool
  | 0, _ | _, [] => ([], true)
  | limit + 1, '\\' :: cs =>
    match cs with
    | 'c' :: _ => ([], false)
    | '0' :: d :: rest =>
      let (c, rest) := if isOctal d then inFormat (d :: rest) else inFormat cs
      let (more, goOn) := inArgument limit rest
      (c :: more, goOn)
    | cs =>
      let (c, rest) := inFormat cs
      let (more, goOn) := inArgument limit rest
      (c :: more, goOn)
  | limit + 1, c :: cs =>
    let (more, goOn) := inArgument limit cs
    (c :: more, goOn)

end ReloadProbe.Rehearsal.Escape
