import ReloadProbe.Rehearsal.Shell.Pattern

/-!
Words that have been expanded, and how they fall apart into fields. What came out of a parameter or
a script without quotes is parted at separators; what came out of all arguments within quotes is
parted between the arguments.
-/
namespace ReloadProbe.Rehearsal.Shell

structure Cell where
  char : Char
  literal : Bool

inductive Parting where
  | nowhere
  | atSeparators
  | atNuls
  deriving DecidableEq

/-- A piece of a word; a mark is a piece without characters that keeps an empty field. -/
structure Segment where
  cells : List Cell
  parting : Parting := .nowhere
  isMark : Bool := false

abbrev Field := List Cell

namespace Field

def text (f : Field) : String := String.ofList (f.map Cell.char)

/-- The field as a pattern. A backslash that is not quoted quotes the character after it. -/
def pattern (f : Field) : List Char :=
  let rec go : Field → (afterBackslash : Bool) → List Char
    | [], _ => []
    | c :: f, afterBackslash =>
      if c.literal && !afterBackslash then '\\' :: c.char :: go f false
      else c.char :: go f (c.char == '\\' && !c.literal)
  go f false

end Field

structure Cutting where
  fields : List Field := []
  current : Field := []
  marked : Bool := false
  afterBlank : Bool := false
  left? : Option Nat := none
  keep? : Option Nat := none
  wereArguments : Bool := false

namespace Cutting

def isUsualBlank (c : Char) : Bool := c == ' ' || c == '\t' || c == '\n' || c.toNat = 0

def isAtStart (s : Cutting) : Bool := s.current.isEmpty && !s.marked

def restart (s : Cutting) : Cutting := { s with current := [], marked := false }

def push (s : Cutting) (c : Cell) : Cutting := { s with current := c :: s.current }

def cut (s : Cutting) : Cutting := { s.restart with fields := s.current.reverse :: s.fields }

def last (s : Cutting) (c : Cell) (isSeparator isBlank : Bool) : Cutting :=
  let length := s.current.length
  let pushed := s.push c
  if isBlank then { pushed with keep? := some (s.keep?.getD length) }
  else
    { pushed with
      keep? := if isSeparator && s.afterBlank then s.keep? else none, afterBlank := false }

def char (separators : List Char) (betweenArguments : Bool) (s : Cutting) (c : Cell) : Cutting :=
  let isSeparator := c.char.toNat = 0 || (!betweenArguments && separators.contains c.char)
  let isBlank := isSeparator && isUsualBlank c.char
  let plain (s : Cutting) : Cutting := { s.push c with afterBlank := false }
  let separate (s : Cutting) : Cutting :=
    let s := if s.wereArguments || betweenArguments then s else { s with afterBlank := isBlank }
    if s.isAtStart && s.afterBlank then { s with afterBlank := false }
    else
      match s.left? with
      | some n =>
        if n ≤ 1 then { s.push c with left? := some 0, keep? := some s.current.length }
        else { s.cut with left? := some (n - 1) }
      | none => s.cut
  if s.left? = some 0 then s.last c isSeparator isBlank
  else if s.afterBlank then
    let s := s.restart
    if isBlank then s
    else if isSeparator then { s with afterBlank := false }
    else plain s
  else if isSeparator then separate s
  else plain s

def segment (separators : List Char) (s : Cutting) (p : Segment) : Cutting :=
  match p.parting with
  | .nowhere =>
    { s with current := p.cells.reverse ++ s.current, marked := s.marked || p.isMark }
  | parting =>
    let betweenArguments := parting = .atNuls
    let s := p.cells.foldl (char separators betweenArguments) { s with afterBlank := false }
    { s with wereArguments := betweenArguments }

/-- All fields. The last one is dropped if nothing stands in it, unless it is an argument. -/
def finish (s : Cutting) : List Field :=
  let field := match s.keep? with
    | some n => s.current.reverse.take n
    | none => s.current.reverse
  let isDropped := !s.wereArguments && field.isEmpty && !s.marked
  (if isDropped then s.fields else field :: s.fields).reverse

end Cutting

def fieldsOf (separators : List Char) (word : List Segment) (most? : Option Nat := none) :
    List Field :=
  (word.foldl (Cutting.segment separators) { left? := most? }).finish

end ReloadProbe.Rehearsal.Shell
