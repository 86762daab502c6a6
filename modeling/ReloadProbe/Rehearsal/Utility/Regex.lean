import ReloadProbe.Rehearsal.Utility.Naming

/-!
Regular expressions, basic and extended. A match begins as early as it can, and is the longest there
is; within it, what comes first takes as much as it can.
-/
namespace ReloadProbe.Rehearsal.Utility

inductive Regex where
  | empty
  | char (c : Char)
  | set (test : Char → Bool)
  | start
  | finish
  | edge (isThere : Bool)
  | wordStart
  | wordEnd
  | group (n : Nat) (r : Regex)
  | sequence (a b : Regex)
  | choice (a b : Regex)
  | times (r : Regex) (least : Nat) (most? : Option Nat)
  | again (n : Nat)

namespace Regex

structure Dialect where
  extended : Bool := false
  ignoreCase : Bool := false
  lenient : Bool := false

inductive Fault where
  | unmatchedBracket
  | unmatchedParenthesis
  | unmatchedClose
  | badInterval
  | unmatchedBrace
  | trailingBackslash
  | badRepeat
  | badBackReference
  | badClass
  | badRange
  | badExpression
  | classAlone

def Fault.message : Fault → String
  | unmatchedBracket => "Unmatched [, [^, [:, [., or [="
  | unmatchedParenthesis => "Unmatched ( or \\("
  | unmatchedClose => "Unmatched ) or \\)"
  | badInterval => "Invalid content of \\\x7b\\\x7d"
  | unmatchedBrace => "Unmatched \\\x7b"
  | trailingBackslash => "Trailing backslash"
  | badRepeat => "Invalid preceding regular expression"
  | badBackReference => "Invalid back reference"
  | badClass => "Invalid character class name"
  | badRange => "Invalid range end"
  | badExpression => "Invalid regular expression"
  | classAlone => "character class syntax is [[:space:]], not [:space:]"

def isWord (c : Char) : Bool := c.isAlphanum || c == '_'

def isSpace (c : Char) : Bool := c == ' ' || (9 ≤ c.toNat && c.toNat ≤ 13)

def class? : String → Option (Char → Bool)
  | "alpha" => some Char.isAlpha
  | "digit" => some Char.isDigit
  | "alnum" => some Char.isAlphanum
  | "upper" => some Char.isUpper
  | "lower" => some Char.isLower
  | "space" => some isSpace
  | "blank" => some fun c => c == ' ' || c == '\t'
  | "punct" => some fun c => 33 ≤ c.toNat && c.toNat < 127 && !c.isAlphanum
  | "print" => some fun c => 32 ≤ c.toNat && c.toNat < 127
  | "graph" => some fun c => 33 ≤ c.toNat && c.toNat < 127
  | "cntrl" => some fun c => c.toNat < 32 || c.toNat = 127
  | "xdigit" => some fun c => c.isDigit || "abcdefABCDEF".contains c
  | _ => none

def setItems : (limit : Nat) → (isFirst : Bool) → List Char →
    Except Fault (List (Char → Bool) × List Char)
  | 0, _, _ => .error .unmatchedBracket
  | _ + 1, isFirst, [] => .error (if isFirst then .badExpression else .unmatchedBracket)
  | limit + 1, isFirst, c :: cs =>
    if c = ']' && !isFirst then .ok ([], cs)
    else
      match c, cs with
      | '[', ':' :: rest =>
        let name := rest.takeWhile (· ≠ ':')
        match rest.drop name.length with
        | ':' :: ']' :: rest =>
          match class? (String.ofList name) with
          | none => .error .badClass
          | some test => do
            let (tests, rest) ← setItems limit false rest
            return (test :: tests, rest)
        | _ => .error .unmatchedBracket
      | _, _ =>
        -- a character may be written as an element of its own
        let element : Char × List Char := match c, cs with
          | '[', mark :: d :: mark' :: ']' :: rest =>
            if (mark = '.' || mark = '=') && mark' = mark then (d, rest) else (c, cs)
          | _, _ => (c, cs)
        let (first, rest) := element
        match rest with
        | '-' :: last :: more =>
          if last = ']' then do
            let (tests, rest) ← setItems limit false rest
            return ((· == first) :: tests, rest)
          else if last.toNat < first.toNat then .error .badRange
          else do
            let (tests, rest) ← setItems limit false more
            return ((fun x => first.toNat ≤ x.toNat && x.toNat ≤ last.toNat) :: tests, rest)
        | rest => do
          let (tests, rest) ← setItems limit false rest
          return ((· == first) :: tests, rest)

def readSet (d : Dialect) (cs : List Char) : Except Fault (Regex × List Char) := do
  let (negative, body) := match cs with
    | '^' :: rest => (true, rest)
    | rest => (false, rest)
  let (tests, rest) ← setItems (body.length + 1) true body
  let own := body.take (body.length - rest.length - 1)
  if d.lenient && 1 < own.length && own.head? = some ':' && own.getLast? = some ':' then
    throw .classAlone
  let holds (c : Char) : Bool :=
    tests.any fun test => test c || (d.ignoreCase && (test c.toLower || test c.toUpper))
  return (.set fun c => holds c != negative, rest)

def literal (d : Dialect) (c : Char) : Regex :=
  if d.ignoreCase && c.isAlpha then .set fun x => x.toLower == c.toLower else .char c

def bounds (d : Dialect) (cs : List Char) : Except Fault ((Nat × Option Nat) × List Char) :=
  let digits := cs.takeWhile Char.isDigit
  let number (cs : List Char) : Option Nat := (String.ofList cs).toNat?
  let rest := cs.drop digits.length
  let close (bounds : Nat × Option Nat) (rest : List Char) :
      Except Fault ((Nat × Option Nat) × List Char) :=
    if bounds.2.any (· < bounds.1) then .error .badInterval
    else
      match d.extended, rest with
      | true, '\x7d' :: rest => .ok (bounds, rest)
      | false, '\\' :: '\x7d' :: rest => .ok (bounds, rest)
      | _, [] => .error .unmatchedBrace
      | _, _ => .error .badInterval
  match rest with
  | ',' :: rest =>
    let more := rest.takeWhile Char.isDigit
    close ((number digits).getD 0, number more) (rest.drop more.length)
  | rest =>
    match number digits with
    | some n => close (n, some n) rest
    | none => .error (if rest.isEmpty then .unmatchedBrace else .badInterval)

def suffix? (d : Dialect) : List Char → Option (List Char × Char)
  | '*' :: cs => some (cs, '*')
  | '\\' :: c :: cs =>
    if !d.extended && (c = '+' || c = '?' || c = '\x7b') then some (cs, c) else none
  | c :: cs => if d.extended && (c = '+' || c = '?' || c = '\x7b') then some (cs, c) else none
  | [] => none

def suffixes (d : Dialect) : (limit : Nat) → Regex → List Char → Except Fault (Regex × List Char)
  | 0, r, cs => .ok (r, cs)
  | limit + 1, r, cs =>
    match suffix? d cs with
    | none => .ok (r, cs)
    | some (rest, '*') => suffixes d limit (.times r 0 none) rest
    | some (rest, '+') => suffixes d limit (.times r 1 none) rest
    | some (rest, '?') => suffixes d limit (.times r 0 (some 1)) rest
    | some (rest, _) =>
      match bounds d rest with
      | .ok ((least, most?), rest) => suffixes d limit (.times r least most?) rest
      | .error fault => if d.lenient && d.extended then .ok (r, cs) else .error fault

def mark? (d : Dialect) : List Char → Option (Char × List Char)
  | '\\' :: c :: cs =>
    if !d.extended && (c = '(' || c = ')' || c = '|') then some (c, cs) else none
  | c :: cs => if d.extended && (c = '(' || c = ')' || c = '|') then some (c, cs) else none
  | [] => none

mutual

def alternatives (d : Dialect) : (limit depth groups : Nat) → List Char →
    Except Fault (Regex × Nat × List Char)
  | 0, _, groups, cs => .ok (.empty, groups, cs)
  | limit + 1, depth, groups, cs => do
    let (r, groups, cs) ← branch d limit depth groups true cs
    match mark? d cs with
    | some ('|', rest) =>
      let (other, groups, rest) ← alternatives d limit depth groups rest
      return (.choice r other, groups, rest)
    | _ => return (r, groups, cs)

def branch (d : Dialect) : (limit depth groups : Nat) → (isFirst : Bool) → List Char →
    Except Fault (Regex × Nat × List Char)
  | 0, _, groups, _, cs => .ok (.empty, groups, cs)
  | limit + 1, depth, groups, isFirst, cs => do
    match cs, mark? d cs with
    | [], _ => return (.empty, groups, [])
    | _, some ('|', _) => return (.empty, groups, cs)
    | _, some (')', rest) =>
      if 0 < depth then return (.empty, groups, cs)
      else if d.extended && d.lenient then
        -- a parenthesis that closes nothing stands for itself
        let (more, groups, rest) ← branch d limit depth groups false rest
        return (.sequence (.char ')') more, groups, rest)
      else .error .unmatchedClose
    | _, _ =>
      let (r, groups, rest) ← operand d limit depth groups isFirst cs
      match r, d.extended, rest with
      | .start, false, '*' :: rest =>
        -- an asterisk after the mark of the start stands for itself
        let (star, rest) ← suffixes d (rest.length + 1) (.char '*') rest
        let (more, groups, rest) ← branch d limit depth groups false rest
        return (.sequence r (.sequence star more), groups, rest)
      | _, _, _ =>
        let (r, rest) ← suffixes d (rest.length + 1) r rest
        let (more, groups, rest) ← branch d limit depth groups false rest
        return (.sequence r more, groups, rest)

def operand (d : Dialect) : (limit depth groups : Nat) → (isFirst : Bool) → List Char →
    Except Fault (Regex × Nat × List Char)
  | 0, _, groups, _, cs => .ok (.empty, groups, cs)
  | limit + 1, depth, groups, isFirst, cs => do
    match cs, mark? d cs with
    | _, some ('(', rest) =>
      let n := groups + 1
      let (r, groups, rest) ← alternatives d limit (depth + 1) n rest
      match mark? d rest with
      | some (')', rest) => return (.group n r, groups, rest)
      | _ => .error .unmatchedParenthesis
    | [], _ => return (.empty, groups, [])
    | '[' :: rest, _ =>
      let (r, rest) ← readSet d rest
      return (r, groups, rest)
    | '.' :: rest, _ => return (.set fun _ => true, groups, rest)
    | '^' :: rest, _ =>
      return (if d.extended || isFirst then .start else .char '^', groups, rest)
    | '$' :: rest, _ =>
      let isLast := rest.isEmpty || (mark? d rest).any fun (c, _) => c ≠ '('
      return (if d.extended || isLast then .finish else .char '$', groups, rest)
    | '*' :: rest, _ =>
      if !d.extended then return (.char '*', groups, rest)
      else if d.lenient then return (.empty, groups, rest)
      else .error .badRepeat
    | '\\' :: [], _ => .error .trailingBackslash
    | '\\' :: c :: rest, _ =>
      let r ← match c with
        | 'w' => pure (.set isWord)
        | 'W' => pure (.set fun c => !isWord c)
        | 's' => pure (.set isSpace)
        | 'S' => pure (.set fun c => !isSpace c)
        | 'b' => pure (.edge true)
        | 'B' => pure (.edge false)
        | '<' => pure .wordStart
        | '>' => pure .wordEnd
        | 'n' => pure (.char '\n')
        | 't' => pure (.char '\t')
        | c =>
          if '1' ≤ c && c ≤ '9' then
            if groups < c.toNat - 48 then .error .badBackReference
            else pure (.again (c.toNat - 48))
          else pure (literal d c)
      return (r, groups, rest)
    | c :: rest, _ =>
      if d.extended && (c = '+' || c = '?' || c = '\x7b') then
        if d.lenient then
          return (if c = '\x7b' then literal d c else .empty, groups, rest)
        else .error .badRepeat
      else return (literal d c, groups, rest)

end

def read (d : Dialect) (text : String) : Except Fault Regex := do
  let (r, _, _) ← alternatives d (8 * text.length + 16) 0 0 text.toList
  return r

def hasChoice : Regex → Bool
  | .choice _ _ => true
  | .group _ r | .times r _ _ => hasChoice r
  | .sequence a b => hasChoice a || hasChoice b
  | _ => false

structure Point where
  before : List Char
  after : List Char
  length : Nat := 0
  groups : List (Nat × List Char) := []

/-- The longer of two matches, the first one if there is no longer one. -/
def longer (whole : Bool) (a : Option Point) (b : Unit → Option Point) : Option Point :=
  match a with
  | none => b ()
  | some p =>
    if !whole then some p
    else
      match b () with
      | some q => if p.length < q.length then some q else some p
      | none => some p

def isWordAt : List Char → Bool
  | [] => false
  | c :: _ => isWord c

def go (whole : Bool) : (limit : Nat) → Regex → Point → (Point → Option Point) → Option Point
  | 0, _, _, _ => none
  | limit + 1, r, p, next =>
    let one (test : Char → Bool) : Option Point :=
      match p.after with
      | c :: cs =>
        if test c then
          next { p with before := c :: p.before, after := cs, length := p.length + 1 }
        else none
      | [] => none
    let only (b : Bool) : Option Point := if b then next p else none
    match r with
    | .empty => next p
    | .char c => one (· == c)
    | .set test => one test
    | .start => only p.before.isEmpty
    | .finish => only p.after.isEmpty
    | .edge isThere => only ((isWordAt p.before != isWordAt p.after) == isThere)
    | .wordStart => only (!isWordAt p.before && isWordAt p.after)
    | .wordEnd => only (isWordAt p.before && !isWordAt p.after)
    | .group n r => go whole limit r p fun q =>
        let text := (q.before.take (q.length - p.length)).reverse
        next { q with groups := (n, text) :: q.groups.filter fun (k, _) => k ≠ n }
    | .sequence a b => go whole limit a p fun q => go whole limit b q next
    | .choice a b => longer whole (go whole limit a p next) fun _ => go whole limit b p next
    | .times r least most? =>
      let more : Option Point :=
        if most? = some 0 then none
        else go whole limit r p fun q =>
          if q.length = p.length && least = 0 then none
          else go whole limit (.times r (least - 1) (most?.map (· - 1))) q next
      if least = 0 then longer whole more fun _ => next p else more
    | .again n =>
      match p.groups.lookup n with
      | none => none
      | some text =>
        if text.isPrefixOf p.after then
          next { p with
            before := text.reverse ++ p.before, after := p.after.drop text.length
            length := p.length + text.length }
        else none

def stepLimit : Nat := 1000000

def matchAt (r : Regex) (before after : List Char) (accept : Point → Bool := fun _ => true) :
    Option Point :=
  go r.hasChoice stepLimit r { before, after } fun p => if accept p then some p else none

def find (r : Regex) (accept : Point → Bool := fun _ => true) :
    (before after : List Char) → Option (List Char × Point)
  | before, after =>
    match matchAt r before after accept with
    | some p => some (before, p)
    | none =>
      match after with
      | [] => none
      | c :: cs => find r accept (c :: before) cs

end Regex

end ReloadProbe.Rehearsal.Utility
