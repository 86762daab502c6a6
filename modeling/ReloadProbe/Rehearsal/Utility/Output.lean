import ReloadProbe.Rehearsal.Directive
import ReloadProbe.Rehearsal.Escape
import ReloadProbe.Rehearsal.Utility.Choice

/-! The programs that write their arguments: `echo` and `printf`. -/
namespace ReloadProbe.Rehearsal.Utility

def hexCharacter? (cs : List Char) : Option (Char × List Char) :=
  let (n, rest) := Numeral.digits 16 0 (cs.take 2)
  let used := (cs.take 2).length - rest.length
  if used = 0 then none else some (Char.ofNat n, cs.drop used)

namespace Echo

/-- A text with its escapes replaced. False if one of them ends the output. -/
def unescaped : (limit : Nat) → List Char → List Char × Bool
  | 0, _ | _, [] => ([], true)
  | limit + 1, '\\' :: c :: cs =>
    let go (first : List Char) (rest : List Char) : List Char × Bool :=
      let (more, goOn) := unescaped limit rest
      (first ++ more, goOn)
    let digits : Option (List Char) :=
      if c = '0' then some cs else if Rehearsal.Escape.isOctal c then some (c :: cs) else none
    match digits, c, hexCharacter? cs with
    | some digits, _, _ =>
      let (char, rest) := Rehearsal.Escape.octal 3 digits
      go [char] rest
    | none, 'c', _ => ([], false)
    | none, 'x', some (char, rest) => go [char] rest
    | none, c, _ =>
      match Rehearsal.Escape.letter? c with
      | some char => go [char] cs
      | none => go ['\\', c] cs
  | limit + 1, c :: cs =>
    let (more, goOn) := unescaped limit cs
    (c :: more, goOn)

def options : List String → (escapes newline : Bool) → List String × Bool × Bool
  | [], escapes, newline => ([], escapes, newline)
  | arg :: args, escapes, newline =>
    match arg.toList with
    | '-' :: c :: cs =>
      if (c :: cs).all fun c => c == 'n' || c == 'e' || c == 'E' then
        let escapes := ((c :: cs).filter (· != 'n')).getLast?.elim escapes (· == 'e')
        options args escapes (newline && !(c :: cs).contains 'n')
      else (arg :: args, escapes, newline)
    | _ => (arg :: args, escapes, newline)

end Echo

def echo : Utility := fun args => do
  let (words, escapes, newline) := Echo.options args false true
  let text := " ".intercalate words
  let (cs, goOn) :=
    if escapes then Echo.unescaped (text.length + 1) text.toList else (text.toList, true)
  Tool.put (String.ofList (if newline && goOn then cs ++ ['\n'] else cs))
  return 0

namespace Printf

structure State where
  args : List String
  used : Bool := false
  code : Nat := 0

abbrev Printing := StateT State Tool

def next : Printing (Option String) := do
  let s ← get
  match s.args with
  | [] => return none
  | arg :: args =>
    set { s with args, used := true }
    return some arg

def check (arg : String) (rest : List Char) (outOfRange : Bool) : Printing Unit := do
  let complaint? : Option String :=
    if outOfRange then some "Numerical result out of range"
    else if rest.isEmpty then none
    else if rest.length = arg.length then some "expected a numeric value"
    else some "value not completely converted"
  match complaint? with
  | none => return ()
  | some complaint =>
    Tool.complain s!"{cited arg}: {complaint}"
    modify fun s => { s with code := 1 }

def character? (arg : String) : Printing (Option Nat) := do
  match arg.toList with
  | q :: c :: more =>
    if q = '"' || q = '\'' then
      if !more.isEmpty then
        let ignored := "character(s) following character constant have been ignored"
        Tool.complain s!"warning: {String.ofList more}: {ignored}"
      return some c.toNat
    else return none
  | _ => return none

def int : Printing Int := do
  match ← next with
  | none => return 0
  | some arg =>
    match ← character? arg with
    | some n => return n
    | none =>
      let n := Numeral.read none arg.toList
      check arg n.rest n.cut
      return n.value

def nat : Printing Nat := do
  match ← next with
  | none => return 0
  | some arg =>
    match ← character? arg with
    | some n => return n
    | none =>
      let n := Numeral.readUnsigned none arg.toList
      check arg n.rest n.cut
      return n.value.toNat

def float : Printing Floating := do
  match ← next with
  | none => return .finite false 0 0
  | some arg =>
    match ← character? arg with
    | some n => return .finite false n 0
    | none =>
      let n := Floating.read Floating.extended arg.toList
      check arg n.rest n.outOfRange
      return n.value

/-- The text of a character by its number; without an encoding only the first ones have one. -/
def universal (n : Nat) : String :=
  if n < 128 then (Char.ofNat n).toString
  else
    let ds := Nat.toDigits 16 n
    let width := if n < 65536 then 4 else 8
    let letter := if n < 65536 then 'u' else 'U'
    String.ofList ('\\' :: letter :: List.replicate (width - ds.length) '0' ++ ds)

/-- An escape, of which the backslash has been read. Nothing is left if it ends the output. -/
def escape (zero : Bool) (cs : List Char) : Printing (Option (List Char)) := do
  match cs with
  | [] =>
    Tool.put "\\"
    return some []
  | c :: rest =>
    if c = 'x' then
      match hexCharacter? rest with
      | some (char, rest) =>
        Tool.put char.toString
        return some rest
      | none => Tool.fail "missing hexadecimal number in escape"
    else if Rehearsal.Escape.isOctal c then
      let (char, rest) := Rehearsal.Escape.octal 3 (if zero && c = '0' then rest else cs)
      Tool.put char.toString
      return some rest
    else if c = 'c' then return none
    else if c = 'u' || c = 'U' then
      let width := if c = 'u' then 4 else 8
      let (n, left) := Numeral.digits 16 0 (rest.take width)
      if !left.isEmpty || rest.length < width then
        Tool.fail "missing hexadecimal number in escape"
      else if (n < 0xA0 && n ≠ 0x24 && n ≠ 0x40 && n ≠ 0x60) || (0xD800 ≤ n && n ≤ 0xDFFF) then
        let digits := String.ofList (rest.take width)
        Tool.fail s!"invalid universal character name \\{c}{digits}"
      else
        Tool.put (universal n)
        return some (rest.drop width)
    else
      match if c = '"' then some '"' else Rehearsal.Escape.letter? c with
      | some char => Tool.put char.toString
      | none => Tool.put (String.ofList ['\\', c])
      return some rest

/-- An argument with its escapes replaced. False if one of them ends the output. -/
def unescaped : (limit : Nat) → List Char → Printing Bool
  | 0, _ | _, [] => return true
  | limit + 1, '\\' :: cs => do
    match ← escape true cs with
    | some rest => unescaped limit rest
    | none => return false
  | limit + 1, c :: cs => do
    Tool.put c.toString
    unescaped limit cs

def size (what : String) (cs : List Char) : Printing (Option Int × List Char) := do
  match cs with
  | '*' :: cs =>
    match ← next with
    | none => return (some 0, cs)
    | some arg =>
      let n := Numeral.read none arg.toList
      check arg n.rest n.cut
      if n.value < -2147483648 || 2147483647 < n.value then
        Tool.fail s!"invalid {what}: {cited arg}"
      return (some n.value, cs)
  | cs =>
    let (n, rest) := Numeral.digits 10 0 cs
    return (if rest.length < cs.length then some n else none, rest)

def letters (flags : List Char) (hasPrecision : Bool) : List Char :=
  "aAcdeEfFgGiosuxX".toList.filter fun c =>
    !(flags.contains '\'' && "aAceEosxX".contains c) &&
      !(flags.contains '#' && "cdisu".contains c) &&
      !(flags.contains '0' && (c == 'c' || c == 's')) && !(hasPrecision && c == 'c') &&
      !(flags.contains 'I' && "aAceEosxX".contains c)

/-- What stands after a percent sign. Nothing is left if it ends the output. -/
def directive (cs : List Char) : Printing (Option (List Char)) := do
  match cs with
  | 'b' :: rest =>
    match ← next with
    | none => return some rest
    | some arg => return if ← unescaped (arg.length + 1) arg.toList then some rest else none
  | 'q' :: rest =>
    match ← next with
    | none => return some rest
    | some arg =>
      Tool.put (shown arg)
      return some rest
  | cs =>
    let marks := cs.takeWhile fun c => "'-+ #0I".contains c
    let (d, _) := Directive.flags {} (marks.filter fun c => c ≠ '\'' && c ≠ 'I')
    let (width?, rest) ← size "field width" (cs.drop marks.length)
    let d := d.withWidth (width?.getD 0)
    let hasPrecision := rest.head? = some '.'
    let (d, rest) ← match rest with
      | '.' :: rest => do
        let (n?, rest) ← size "precision" rest
        pure (d.withPrecision (n?.getD 0), rest)
      | rest => pure (d, rest)
    let rest := rest.dropWhile fun c => "lLhjtz".contains c
    let letter := rest.headD '\x00'
    if !(letters marks hasPrecision).contains letter then
      let whole := String.ofList (cs.take (cs.length - (rest.drop 1).length))
      Tool.fail s!"%{whole}: invalid conversion specification"
    else
      match letter with
      | 'c' =>
        let arg := (← next).getD ""
        Tool.put (d.char (arg.toList.headD '\x00').toString)
      | 's' => Tool.put (d.text ((← next).getD ""))
      | 'd' | 'i' => Tool.put (d.signed (← int))
      | 'o' | 'u' | 'x' | 'X' => Tool.put (d.unsigned letter (← nat))
      | _ => Tool.put (d.floating Floating.extended letter (← float))
      return some (rest.drop 1)

/-- One pass through a format. False if it ended the output. -/
def pass : (limit : Nat) → List Char → Printing Bool
  | 0, _ | _, [] => return true
  | limit + 1, '\\' :: cs => do
    match ← escape false cs with
    | some rest => pass limit rest
    | none => return false
  | limit + 1, '%' :: '%' :: cs => do
    Tool.put "%"
    pass limit cs
  | limit + 1, '%' :: cs => do
    match ← directive cs with
    | some rest => pass limit rest
    | none => return false
  | limit + 1, c :: cs => do
    Tool.put c.toString
    pass limit cs

/-- Goes through a format again as long as arguments are used and there are any. -/
def passes (format : List Char) : (limit : Nat) → Printing Bool
  | 0 => return true
  | limit + 1 => do
    modify fun s => { s with used := false }
    if ← pass (format.length + 1) format then
      let s ← get
      if s.used && !s.args.isEmpty then passes format limit else return true
    else return false

end Printf

def printf : Utility := fun args => do
  match if args.head? = some "--" then args.drop 1 else args with
  | [] => Tool.misuse "missing operand"
  | format :: args =>
    let (whole, s) ← Printf.passes format.toList (args.length + 1) { args }
    match s.args with
    | extra :: _ =>
      if whole then
        Tool.complain s!"warning: ignoring excess arguments, starting with {cited extra}"
    | [] => pure ()
    return s.code

end ReloadProbe.Rehearsal.Utility
