import ReloadProbe.Rehearsal.Shell.Reader

/-!
How the characters of a script make up a word. A word is read in levels: each says how characters
are quoted, and how many parameters in braces are open in it. What is open keeps what stood before
it, so that the parts of a word nest.
-/
namespace ReloadProbe.Rehearsal.Shell

inductive Quoting where
  | bare
  | double
  | single
  | arithmetic
  deriving DecidableEq

structure Level where
  quoting : Quoting := .bare
  /-- A backslash is special before few characters only. -/
  isDouble : Bool := false
  braces : Nat := 0
  doubleBraces : Nat := 0
  brackets : Nat := 0
  inner : Bool := false
  ofParameter : Bool := false

inductive Frame where
  | parameter (name : String) (use : Use)
  | arithmetic

structure Scan where
  level : Level := {}
  below : List Level := []
  parts : List Part := []
  frames : List (Frame × List Part) := []
  quoted : Bool := false

structure Ending where
  mark : List Char
  stripTabs : Bool

namespace Scan

def push (s : Scan) (p : Part) : Scan := { s with parts := p :: s.parts }

def char (s : Scan) (c : Char) : Scan :=
  match s.level.quoting with
  | .bare | .arithmetic => s.push (.plain c)
  | .double | .single => s.push (.quoted c)

def setLevel (s : Scan) (level : Level) : Scan := { s with level }

def pushLevel (s : Scan) (level : Level) : Scan := { s with level, below := s.level :: s.below }

def popLevel (s : Scan) : Scan :=
  match s.below with
  | level :: below => { s with level, below }
  | [] => s

def enter (s : Scan) (f : Frame) : Scan :=
  { s with parts := [], frames := (f, s.parts) :: s.frames }

def leave (s : Scan) : Scan :=
  match s.frames with
  | (.parameter name use, outer) :: frames =>
    { s with parts := .parameter name use s.parts.reverse :: outer, frames }
  | (.arithmetic, outer) :: frames =>
    { s with parts := .arithmetic s.parts.reverse :: outer, frames }
  | [] => s

/-- A quotation mark. In a document it is no part of the text. -/
def quote (s : Scan) (isDocument : Bool) : Scan := if isDocument then s else s.push .mark

def doubleQuote (s : Scan) (isDocument : Bool) : Scan :=
  let level :=
    if 0 < s.level.braces then { s.level with inner := !s.level.inner } else s.level
  (s.setLevel level).quote isDocument

def openSingle (s : Scan) (isDocument : Bool) : Scan :=
  (s.setLevel { s.level with quoting := .single }).quote isDocument

def openDouble (s : Scan) (isDocument : Bool) : Scan :=
  (s.setLevel { s.level with quoting := .double, isDouble := true }).doubleQuote isDocument

def closeQuote (s : Scan) (c : Char) (isDocument : Bool) : Scan :=
  if isDocument && s.level.braces = 0 then s.char c
  else
    let level :=
      if s.level.doubleBraces = 0 then { s.level with quoting := .bare, isDouble := false }
      else s.level
    let s := { s with level, quoted := true }
    if c = '"' then s.doubleQuote isDocument else s.quote isDocument

/-- A closing brace, which ends a parameter unless quotes within it are open. -/
def closeBrace (s : Scan) : Scan :=
  let level := s.level
  if level.inner || level.braces = 0 then s.char '\x7d'
  else
    let s := s.leave
    let braces := level.braces - 1
    if braces = 0 && level.ofParameter then s.popLevel
    else s.setLevel { level with braces, doubleBraces := level.doubleBraces - 1 }

def escaped (s : Scan) (c : Char) (isDocument : Bool) : Scan :=
  let level := s.level
  let isSpecial := c = '\\' || c.toNat = 0x60 || c = '$' ||
    (c = '"' && !(isDocument && level.braces = 0)) || (c = '\x7d' && 0 < level.braces)
  let s := if level.isDouble && !isSpecial then s.push (.quoted '\\') else s
  { s.push (.quoted c) with quoted := true }

/-- Begins a parameter in braces. Its word is quoted as the parameter is, but for a pattern. -/
def openParameter (s : Scan) (name : String) (use : Use) : Scan :=
  let quoting := match use, s.level.quoting with
    | .trim _ _, _ => .bare
    | _, .arithmetic => .double
    | _, quoting => quoting
  let s :=
    if quoting ≠ s.level.quoting || s.level.inner then
      s.pushLevel { quoting, isDouble := quoting ≠ .bare, ofParameter := true }
    else s
  let level := { s.level with
    braces := s.level.braces + 1
    doubleBraces := s.level.doubleBraces + (if s.level.isDouble then 1 else 0) }
  (s.setLevel level).enter (.parameter name use)

end Scan

def isSpecialName (c : Char) : Bool := c.isDigit || "$?!-#@*".contains c

def endsWord (c : Char) : Bool := "<>();&| \t\n".contains c

namespace Parse

def takeJoined (test : Char → Bool) :
    (limit : Nat) → Option Char → Parse (List Char × Option Char)
  | 0, c => return ([], c)
  | limit + 1, c => do
    match c with
    | some ch =>
      if test ch then
        let (more, c) ← takeJoined test limit (← nextJoined limit)
        return (ch :: more, c)
      else return ([], c)
    | none => return ([], none)

def use (limit : Nat) (c : Option Char) : Parse Use := do
  let orEmpty := c == some ':'
  let c ← if orEmpty then nextJoined limit else pure c
  let trim (atEnd : Bool) : Parse Use := do
    let d ← nextJoined limit
    if d == c then return .trim atEnd true
    else
      putBack d.toList
      return .trim atEnd false
  match c with
  | some '\x7d' => return if orEmpty then .bad else .value
  | some '-' => return .default orEmpty
  | some '+' => return .alternative orEmpty
  | some '?' => return .demand orEmpty
  | some '=' => return .assign orEmpty
  | some '%' => if orEmpty then return .bad else trim true
  | some '#' => if orEmpty then return .bad else trim false
  | _ => return .bad

def bracedParameter (limit : Nat) : Parse (String × Use) := do
  let c ← nextJoined limit
  let named (c : Option Char) : Parse (String × Option Char) := do
    let isPart := if c.any Char.isDigit then Char.isDigit else isNameChar
    let (name, c) ← takeJoined isPart limit c
    return (String.ofList name, c)
  let finish (name : String) (c : Option Char) : Parse (String × Use) :=
    return (name, ← use limit c)
  match c with
  | some '#' =>
    let d ← nextJoined limit
    if d.any fun d => d == '_' || d.isAlphanum then
      let (name, c) ← named d
      putBack c.toList
      return (name, .length)
    else
      let e ← nextJoined limit
      if d == some '\x7d' || e != some '\x7d' then
        putBack e.toList
        finish "#" d
      else
        putBack e.toList
        return if d.any isSpecialName then (String.ofList d.toList, .length) else ("", .bad)
  | some c =>
    if isNameStart c || c.isDigit then
      let (name, c) ← named (some c)
      finish name c
    else if c = '\x7d' then
      putBack [c]
      return ("", .bad)
    else
      let d ← nextJoined limit
      if isSpecialName c then finish c.toString d
      else
        putBack d.toList
        return ("", .bad)
  | none => return ("", .bad)

def oldScript (isDouble : Bool) : (limit : Nat) → Parse (List Char)
  | 0 => fail "EOF in backquote substitution"
  | limit + 1 => do
    match ← nextJoined limit with
    | none => fail "EOF in backquote substitution"
    | some '\\' =>
      let c ← next
      let isSpecial := c.any fun c => c = '\\' || c.toNat = 0x60 || c = '$' || (isDouble && c = '"')
      let rest ← oldScript isDouble limit
      return if isSpecial then c.toList ++ rest else '\\' :: c.toList ++ rest
    | some c =>
      if c.toNat = 0x60 then return []
      else
        if c = '\n' then countLine
        return c :: (← oldScript isDouble limit)

/-- The line may be the one that ends a document. Gives the first character of the line, or nothing
once the document has ended. -/
def afterMark : (mark seen : List Char) → Option Char → Parse (Option Char)
  | m :: mark, seen, some c => do
    if m = c then afterMark mark (c :: seen) (← next)
    else restore seen (some c)
  | _ :: _, seen, none => restore seen none
  | [], _, none => return none
  | [], seen, some c => do
    if c = '\n' then
      countLine
      return none
    else restore seen (some c)
where
  restore (seen : List Char) (c : Option Char) : Parse (Option Char) :=
    match seen.reverse ++ c.toList with
    | [] => return none
    | first :: more => do
      putBack more
      return some first

def skipTabs : (limit : Nat) → Option Char → Parse (Option Char)
  | 0, c => return c
  | limit + 1, c => if c == some '\t' then do skipTabs limit (← next) else return c

def lineStart (limit : Nat) (ending : Option Ending) (c : Option Char) : Parse (Option Char) := do
  match ending with
  | none => return c
  | some e =>
    let c ← if e.stripTabs then skipTabs limit c else pure c
    afterMark e.mark [] c

structure Scripts where
  upToBracket : Parse (Option Command)
  upToEnd : Parse (Option Command)

def nested (script : Parse (Option Command)) : Parse (Option Command) := do
  let r ← get
  set { r with expected := [], again := false }
  let c ← script
  modify fun r' => { r' with expected := r.expected, again := false, checks := {} }
  return c

def oldNested (scripts : Scripts) (text : List Char) : Parse (Option Command) := do
  let r ← get
  set { r with sources := [{ text }], line := 1 }
  let c ← nested scripts.upToEnd
  modify fun r' => { r' with sources := r.sources, line := r.line }
  return c

def dollar (scripts : Scripts) (limit : Nat) (s : Scan) : Parse Scan := do
  let c ← nextJoined limit
  let begins := c.any fun c => c = '(' || c = '\x7b' || isNameStart c || isSpecialName c
  match (← get).checks.endMark || !begins, c with
  | true, c =>
    putBack c.toList
    return s.char '$'
  | false, some '(' =>
    match ← nextJoined limit with
    | some '(' =>
      return (s.pushLevel { quoting := .arithmetic, isDouble := true }).enter .arithmetic
    | d =>
      putBack d.toList
      return s.push (.script (← nested scripts.upToBracket))
  | false, some '\x7b' =>
    match ← bracedParameter limit with
    | (name, .value) => return s.push (.parameter name .value [])
    | (name, use) => return s.openParameter name use
  | false, c =>
    match c with
    | some c =>
      if isNameStart c then
        let (name, d) ← takeJoined isNameChar limit (some c)
        putBack d.toList
        return s.push (.parameter (String.ofList name) .value [])
      else return s.push (.parameter c.toString .value [])
    | none => return s

/-- A closing bracket in an expression; two of them end it. -/
def closeBracket (limit : Nat) (s : Scan) : Parse Scan := do
  if 0 < s.level.brackets then
    return (s.char ')').setLevel { s.level with brackets := s.level.brackets - 1 }
  else
    match ← nextJoined limit with
    | some ')' => return s.leave.popLevel
    | c =>
      putBack c.toList
      return s.char ')'

def scanChar (scripts : Scripts) (limit : Nat) (isDocument : Bool) (s : Scan) (c : Char) :
    Parse (Option Scan) := do
  let accent : Parse (Option Scan) := do
    if (← get).checks.endMark then return some (s.char c)
    else
      let text ← oldScript s.level.isDouble limit
      return some (s.push (.script (← oldNested scripts text)))
  let backslash : Parse (Option Scan) := do
    match ← next with
    | none => return some (s.push (.quoted '\\'))
    | some d => return some (s.escaped d isDocument)
  if c.toNat = 0x60 && s.level.quoting ≠ .single then accent
  else
    match s.level.quoting, c with
    | .bare, '\\' | .double, '\\' | .arithmetic, '\\' => backslash
    | .bare, '$' | .double, '$' | .arithmetic, '$' => return some (← dollar scripts limit s)
    | .bare, '\x7d' | .double, '\x7d' | .arithmetic, '\x7d' => return some s.closeBrace
    | .bare, '\'' => return some (s.openSingle isDocument)
    | .bare, '"' => return some (s.openDouble isDocument)
    | .single, '\'' => return some (s.closeQuote c isDocument)
    | .double, '"' => return some (s.closeQuote c isDocument)
    | .arithmetic, '(' =>
      return some ((s.char c).setLevel { s.level with brackets := s.level.brackets + 1 })
    | .arithmetic, ')' => return some (← closeBracket limit s)
    | .bare, c =>
      if endsWord c && s.level.braces = 0 then return none else return some (s.char c)
    | _, c => return some (s.char c)

def scan (scripts : Scripts) (ending : Option Ending) :
    (limit : Nat) → Option Char → Scan → Parse (Scan × Option Char)
  | 0, c, s => return (s, c)
  | _ + 1, none, s => return (s, none)
  | limit + 1, some c, s => do
    match ← scanChar scripts limit ending.isSome s c with
    | none => return (s, some c)
    | some s =>
      if c = '\n' then
        countLine
        scan scripts ending limit (← lineStart limit ending (← next)) s
      else
        let c ← if s.level.quoting = .single then next else nextJoined limit
        scan scripts ending limit c s

def scanWord (scripts : Scripts) (limit : Nat) (c : Option Char) : Parse (Scan × Option Char) := do
  let (s, c) ← scan scripts none limit c {}
  if s.level.quoting = .arithmetic then fail "Missing '))'"
  else if s.level.quoting ≠ .bare then fail "Unterminated quoted string"
  else if s.level.braces ≠ 0 then fail "Missing '\x7d'"
  else return (s, c)

def scanDocument (scripts : Scripts) (limit : Nat) (e : Expected) : Parse Word := do
  let ending : Ending := { mark := e.endMark, stripTabs := e.stripTabs }
  let level : Level :=
    if e.verbatim then { quoting := .single } else { quoting := .double, isDouble := true }
  let c ← if e.verbatim then next else nextJoined limit
  let c ← lineStart limit (some ending) c
  let (s, _) ← scan scripts (some ending) limit c { level }
  if s.level.quoting = .arithmetic then fail "Missing '))'"
  else if s.level.braces ≠ 0 then fail "Missing '\x7d'"
  else return s.parts.reverse

end Parse
end ReloadProbe.Rehearsal.Shell
