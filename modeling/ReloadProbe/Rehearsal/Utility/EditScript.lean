import ReloadProbe.Rehearsal.Utility.Lines

/-!
Scripts by which lines are edited. A script is a row of commands, each for some of the lines; a
block is a command that leads past its end for all other lines.
-/
namespace ReloadProbe.Rehearsal.Utility

namespace Editing

/-- A regular expression; the one that was used last if it is left out. -/
abbrev Pattern := Option Regex

inductive Address where
  | line (n : Nat)
  | last
  | like (p : Pattern)
  | step (first step : Nat)

inductive Until where
  | line (n : Nat)
  | last
  | like (p : Pattern)
  | later (n : Nat)
  | multiple (n : Nat)

structure Selector where
  first? : Option Address := none
  until? : Option Until := none
  inverted : Bool := false

inductive Letters where
  | same
  | upper
  | lower
  deriving DecidableEq

inductive Piece where
  | text (cs : List Char)
  /-- What a group has matched; the whole match for zero. -/
  | group (n : Nat)
  | letters (l : Letters)
  | nextLetter (l : Letters)

structure Substitution where
  pattern : Pattern
  pieces : List Piece
  all : Bool := false
  which : Nat := 1
  prints : Bool := false
  file? : Option String := none

inductive Action where
  | block (past : Nat)
  | nothing
  | substitute (s : Substitution)
  | exchange (pairs : List (Char × Char))
  | print
  | printFirst
  | delete
  | deleteFirst
  | quit (code : Nat)
  | leave (code : Nat)
  | append (text : String)
  | insert (text : String)
  | change (text : String)
  | next
  | nextAppend
  | hold
  | holdAppend
  | get
  | getAppend
  | swap
  | empty
  | number
  | list (width? : Option Nat)
  | jump (label : String)
  | jumpIf (wanted : Bool) (label : String)
  | label (name : String)
  | readFile (path : String)
  | writeFile (path : String)
  | writeFirst (path : String)
  | fileName

structure Command where
  selector : Selector
  action : Action

structure Fault where
  left : Nat
  text : String
  placeless : Bool := false

abbrev Reading := StateT (List Char) (Except Fault)

namespace Reading

def fail {α : Type} (text : String) : Reading α := do
  let cs ← get
  throw { left := cs.length, text }

def next? : Reading (Option Char) := do
  match ← get with
  | [] => return none
  | c :: cs =>
    set cs
    return some c

def peek? : Reading (Option Char) := return (← get).head?

def skip (test : Char → Bool) : Reading Unit := modify (·.dropWhile test)

def isBlank (c : Char) : Bool := c == ' ' || c == '\t'

def number : Reading Nat := do
  let cs ← get
  let digits := cs.takeWhile Char.isDigit
  set (cs.drop digits.length)
  return (String.ofList digits).toNat?.getD 0

def escape? : Char → Option Char
  | 'a' => some (Char.ofNat 7)
  | 'f' => some (Char.ofNat 12)
  | 'n' => some '\n'
  | 'r' => some '\r'
  | 't' => some '\t'
  | 'v' => some (Char.ofNat 11)
  | _ => none

def coded? : List Char → Option (Char × List Char)
  | k :: cs => do
    let (base, width) ← match k with
      | 'x' => some (16, 2)
      | 'd' => some (10, 3)
      | 'o' => some (8, 3)
      | _ => none
    let (n, rest) := Numeral.digits base 0 (cs.take width)
    if rest.length = (cs.take width).length then none
    else return (Char.ofNat (n % 256), rest ++ cs.drop width)
  | [] => none

def setText : (limit : Nat) → (isFirst : Bool) → Reading (Option (List Char))
  | 0, _ => return none
  | limit + 1, isFirst => do
    match ← get with
    | [] => return none
    | '[' :: mark :: cs =>
      if mark = ':' || mark = '.' || mark = '=' then
        let name := cs.takeWhile fun c => c != mark && c != '\n'
        match cs.drop name.length with
        | m :: ']' :: rest =>
          if m = mark then
            set rest
            return (← setText limit false).map (['[', mark] ++ name ++ [mark, ']'] ++ ·)
          else return none
        | _ => return none
      else
        set (mark :: cs)
        return (← setText limit false).map ('[' :: ·)
    | '\\' :: c :: cs =>
      match escape? c with
      | some own =>
        set cs
        return (← setText limit false).map (own :: ·)
      | none =>
        set (c :: cs)
        return (← setText limit false).map ('\\' :: ·)
    | c :: cs =>
      set cs
      if c = ']' && !isFirst then return some [c]
      else return (← setText limit false).map (c :: ·)

/-- Text up to a mark. A backslash before the mark is taken away. In an expression a mark within a
set is none, and characters may be written by letters or numbers after a backslash. -/
def upTo (mark : Char) (isPattern : Bool) : (limit : Nat) → Reading (Option (List Char))
  | 0 => return none
  | limit + 1 => do
    match ← next? with
    | none => return none
    | some c =>
      if c = mark then return some []
      else if c = '\n' && isPattern then return none
      else if c = '[' && isPattern then
        let inverted := (← peek?) = some '^'
        if inverted then
          let _ ← next?
        match ← setText limit true with
        | none => return none
        | some own =>
          let own := if inverted then '^' :: own else own
          return (← upTo mark isPattern limit).map (c :: own ++ ·)
      else if c = '\\' then
        match ← get with
        | [] => return none
        | d :: rest =>
          set rest
          let own ← do
            if d = mark then pure [d]
            else if !isPattern then pure ['\\', d]
            else
              match escape? d, coded? (d :: rest) with
              | some e, _ => pure [e]
              | none, some (e, rest) =>
                set rest
                pure [e]
              | none, none => pure ['\\', d]
          return (← upTo mark isPattern limit).map (own ++ ·)
      else return (← upTo mark isPattern limit).map (c :: ·)

def pattern (extended ignoreCase : Bool) (cs : List Char) : Reading Pattern := do
  if cs.isEmpty then return none
  else
    match Regex.read { extended, ignoreCase } (String.ofList cs) with
    | .ok r => return some r
    | .error fault => fail fault.message

def flags : (limit : Nat) → Reading Bool
  | 0 => return false
  | limit + 1 => do
    match ← peek? with
    | some 'I' =>
      let _ ← next?
      let _ ← flags limit
      return true
    | some 'M' =>
      let _ ← next?
      flags limit
    | _ => return false

def patternAddress (extended : Bool) (mark : Char) : Reading Pattern := do
  match ← upTo mark true ((← get).length + 1) with
  | none => fail "unterminated address regex"
  | some cs =>
    let ignoreCase ← flags 8
    pattern extended ignoreCase cs

def address? (extended : Bool) : Reading (Option Address) := do
  match ← peek? with
  | some '$' =>
    let _ ← next?
    return some .last
  | some '/' =>
    let _ ← next?
    return some (.like (← patternAddress extended '/'))
  | some '\\' =>
    let _ ← next?
    match ← next? with
    | none => fail "unexpected \x60,'"
    | some mark => return some (.like (← patternAddress extended mark))
  | some c =>
    if c.isDigit then
      let n ← number
      if (← peek?) = some '~' then
        let _ ← next?
        return some (.step n (← number))
      else return some (.line n)
    else return none
  | none => return none

def until? (extended : Bool) : Reading (Option Until) := do
  match ← peek? with
  | some '+' =>
    let _ ← next?
    return some (.later (← number))
  | some '~' =>
    let _ ← next?
    return some (.multiple (← number))
  | _ =>
    match ← address? extended with
    | none => return none
    | some (.line n) => return some (.line n)
    | some .last => return some .last
    | some (.like p) => return some (.like p)
    | some (.step n _) => return some (.line n)

def isGap (c : Char) : Bool := Lines.isBlank c || c == ';'

def selector (extended : Bool) : Reading Selector := do
  let first? ← address? extended
  let until? ← do
    if first?.isNone then pure none
    else
      skip isBlank
      if (← peek?) = some ',' then
        let _ ← next?
        skip isBlank
        match ← until? extended with
        | none =>
          let _ ← next?
          fail "unexpected \x60,'"
        | some u => pure (some u)
      else pure none
  match first?, until? with
  | some (.line 0), some (.like _) => pure ()
  | some (.line 0), _ =>
    let _ ← next?
    fail "invalid usage of line address 0"
  | _, _ => pure ()
  skip isBlank
  let inverted := (← peek?) = some '!'
  if inverted then
    let _ ← next?
    skip isBlank
    if (← peek?) = some '!' then
      let _ ← next?
      fail "multiple \x60!'s"
  return { first?, until?, inverted }

def finish : Reading Unit := do
  skip isBlank
  match ← next? with
  | none | some '\n' | some ';' => return ()
  | some '}' => modify ('}' :: ·)
  | some '#' => modify ('#' :: ·)
  | some _ => fail "extra characters after command"

def fileName : Reading String := do
  skip isBlank
  let cs ← get
  let name := cs.takeWhile (· != '\n')
  set (cs.drop (name.length + 1))
  if name.isEmpty then fail "missing filename in r/R/w/W commands"
  else return String.ofList name

def labelName : Reading String := do
  skip isBlank
  let cs ← get
  let name := cs.takeWhile fun c => !(Lines.isBlank c || c == ';' || c == '\x7d')
  set (cs.drop name.length)
  return String.ofList name

/-- The text of a command up to the end of the line. A backslash keeps the character after it. -/
def text : (limit : Nat) → Reading (List Char)
  | 0 => return []
  | limit + 1 => do
    match ← next? with
    | none | some '\n' => return []
    | some '\\' =>
      match ← next? with
      | none => return []
      | some c => return (escape? c).getD c :: (← text limit)
    | some c => return c :: (← text limit)

def givenText : Reading String := do
  skip isBlank
  let cs ← get
  match cs with
  | ['\\'] =>
    set ([] : List Char)
    return ""
  | [] => fail "expected \\ after \x60a', \x60c' or \x60i'"
  | '\\' :: rest =>
    match rest.dropWhile isBlank with
    | '\n' :: rest => set rest
    | rest => set (if rest.length < cs.length - 1 then '\\' :: cs.drop 1 else rest)
  | _ => pure ()
  let cs ← get
  if cs.isEmpty then fail "expected \\ after \x60a', \x60c' or \x60i'"
  return String.ofList (← text (cs.length + 1)) ++ "\n"

def letterChange? : Char → Option Piece
  | 'U' => some (.letters .upper)
  | 'L' => some (.letters .lower)
  | 'E' => some (.letters .same)
  | 'u' => some (.nextLetter .upper)
  | 'l' => some (.nextLetter .lower)
  | _ => none

def pieces : (limit : Nat) → List Char → List Piece
  | 0, _ | _, [] => []
  | limit + 1, '&' :: cs => .group 0 :: pieces limit cs
  | limit + 1, '\\' :: c :: cs =>
    if c.isDigit then .group (c.toNat - 48) :: pieces limit cs
    else
      match letterChange? c, coded? (c :: cs), cs with
      | some piece, _, _ => piece :: pieces limit cs
      | none, some (own, rest), _ => .text [own] :: pieces limit rest
      | none, none, k :: rest =>
        if c = 'c' then .text [Char.ofNat (k.toUpper.toNat ^^^ 64)] :: pieces limit rest
        else .text [(escape? c).getD c] :: pieces limit cs
      | none, none, [] => [.text [(escape? c).getD c]]
  | limit + 1, c :: cs => .text [c] :: pieces limit cs

def groups : Regex → Nat
  | .group n r => max n (groups r)
  | .sequence a b | .choice a b => max (groups a) (groups b)
  | .times r _ _ => groups r
  | _ => 0

structure SubstitutionFlags where
  all : Bool := false
  which? : Option Nat := none
  prints : Bool := false
  ignoreCase : Bool := false
  file? : Option String := none

def substitutionFlags (f : SubstitutionFlags) : (limit : Nat) → Reading SubstitutionFlags
  | 0 => return f
  | limit + 1 => do
    match ← next? with
    | some 'g' =>
      if f.all then fail "multiple \x60g' options to \x60s' command"
      else substitutionFlags { f with all := true } limit
    | some 'p' =>
      if f.prints then fail "multiple \x60p' options to \x60s' command"
      else substitutionFlags { f with prints := true } limit
    | some 'i' | some 'I' => substitutionFlags { f with ignoreCase := true } limit
    | some 'm' | some 'M' | some 'e' => substitutionFlags f limit
    | some 'w' => return { f with file? := some (← fileName) }
    | none | some '\n' | some ';' => return f
    | some '}' =>
      modify ('}' :: ·)
      return f
    | some '#' =>
      modify ('#' :: ·)
      return f
    | some c =>
      if c.isDigit then
        modify (c :: ·)
        let n ← number
        if f.which?.isSome then fail "multiple number options to \x60s' command"
        else if n = 0 then fail "number option to \x60s' command may not be zero"
        else substitutionFlags { f with which? := some n } limit
      else if isBlank c then substitutionFlags f limit
      else fail "unknown option to \x60s'"

def substitution (extended : Bool) : Reading Action := do
  let unended {α : Type} : Reading α := fail "unterminated \x60s' command"
  let some mark ← next? | unended
  let limit := (← get).length + 1
  let some cs ← upTo mark true limit | unended
  let some new ← upTo mark false limit | unended
  let f ← substitutionFlags {} limit
  let p ← pattern extended f.ignoreCase cs
  let pieces := pieces (new.length + 1) new
  let most := pieces.foldl (fun most piece => match piece with
    | .group n => max most n
    | _ => most) 0
  match p with
  | some r =>
    if groups r < most then
      fail s!"invalid reference \\{most} on \x60s' command's RHS"
  | none => pure ()
  return .substitute { pattern := p, pieces, all := f.all, which := f.which?.getD 1
                       prints := f.prints, file? := f.file? }

def exchange : Reading Action := do
  let unended {α : Type} : Reading α := fail "unterminated \x60y' command"
  let some mark ← next? | unended
  let limit := (← get).length + 1
  let some old ← upTo mark false limit | unended
  let some new ← upTo mark false limit | unended
  let rec plain : List Char → List Char
    | '\\' :: '\\' :: cs => '\\' :: plain cs
    | '\\' :: c :: cs =>
      match escape? c with
      | some own => own :: plain cs
      | none => '\\' :: c :: plain cs
    | c :: cs => c :: plain cs
    | [] => []
  let (old, new) := (plain old, plain new)
  if old.length ≠ new.length then fail "strings for \x60y' command are different lengths"
  finish
  return .exchange (old.zip new)

def optionalNumber : Reading (Option Nat) := do
  skip isBlank
  match ← peek? with
  | some c => if c.isDigit then return some (← number) else return none
  | none => return none

def action (extended : Bool) (c : Char) : Reading Action := do
  let plain (a : Action) : Reading Action := do
    finish
    return a
  match c with
  | 's' => substitution extended
  | 'y' => exchange
  | 'p' => plain .print
  | 'P' => plain .printFirst
  | 'd' => plain .delete
  | 'D' => plain .deleteFirst
  | 'n' => plain .next
  | 'N' => plain .nextAppend
  | 'h' => plain .hold
  | 'H' => plain .holdAppend
  | 'g' => plain .get
  | 'G' => plain .getAppend
  | 'x' => plain .swap
  | 'z' => plain .empty
  | '=' => plain .number
  | 'F' => plain .fileName
  | 'l' => do
    let n? ← optionalNumber
    plain (.list n?)
  | 'q' => do
    let n? ← optionalNumber
    plain (.quit (n?.getD 0))
  | 'Q' => do
    let n? ← optionalNumber
    plain (.leave (n?.getD 0))
  | 'a' => return .append (← givenText)
  | 'i' => return .insert (← givenText)
  | 'c' => return .change (← givenText)
  | 'v' => do
    let _ ← labelName
    return .nothing
  | 'b' => return .jump (← labelName)
  | 't' => return .jumpIf true (← labelName)
  | 'T' => return .jumpIf false (← labelName)
  | 'r' => return .readFile (← fileName)
  | 'w' => return .writeFile (← fileName)
  | 'W' => return .writeFirst (← fileName)
  | c =>
    let shown := c.toString
    fail s!"unknown command: \x60{shown}'"

/-- All commands. The blocks that are open are given by where they begin. -/
def commands (extended : Bool) : (limit : Nat) → (opened : List Nat) → Array Command →
    Reading (Array Command)
  | 0, _, done => return done
  | limit + 1, opened, done => do
    skip isGap
    if (← get).isEmpty then
      if opened.isEmpty then return done
      else throw { left := 0, text := "unmatched \x60\x7b'", placeless := true }
    else
      let s ← selector extended
      let addressed := s.first?.isSome
      match ← next? with
      | none => fail "missing command"
      | some '#' =>
        if addressed then fail "comments don't accept any addresses"
        skip (· != '\n')
        commands extended limit opened done
      | some '{' =>
        commands extended limit (done.size :: opened) (done.push ⟨s, .block 0⟩)
      | some '}' =>
        if addressed then fail "\x7d doesn't want any addresses"
        match opened with
        | [] => fail "unexpected \x60\x7d'"
        | start :: opened =>
          finish
          let done := done.modify start fun c => { c with action := .block done.size }
          commands extended limit opened done
      | some ':' =>
        if addressed then fail ": doesn't want any addresses"
        skip isBlank
        let name ← labelName
        if name.isEmpty then fail "\":\" lacks a label"
        commands extended limit opened (done.push ⟨s, .label name⟩)
      | some c =>
        if (c = '\n' || c = ';') then fail "missing command"
        let a ← action extended c
        match a, s.until? with
        | .quit _, some _ | .leave _, some _ => fail "command only uses one address"
        | _, _ => pure ()
        commands extended limit opened (done.push ⟨s, a⟩)

end Reading

end Editing

end ReloadProbe.Rehearsal.Utility
