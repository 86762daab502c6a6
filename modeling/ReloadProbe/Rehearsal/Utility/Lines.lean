import ReloadProbe.Rehearsal.Utility.Contents
import ReloadProbe.Rehearsal.Utility.Regex

/-! Programs that cut up lines, number them and put them together. -/
namespace ReloadProbe.Rehearsal.Utility

namespace Lines

def ofText (ending : Char) (text : String) : List String :=
  let parts := text.splitOn ending.toString
  if parts.getLast? = some "" then parts.dropLast else parts

/-- The lines of all files. A file that cannot be read is told of. -/
def ofFiles (ending : Char) (paths : List String) (what : String → Refusal → String) :
    Tool (List String × Nat) := do
  let paths := if paths.isEmpty then ["-"] else paths
  let (pieces, code) ← paths.foldlM (fun (pieces, code) path => do
    match ← Tool.contentsOf path with
    | .ok text => return (ofText ending text :: pieces, code)
    | .error r =>
      Tool.complain (what path r)
      return (pieces, 1)) (([] : List (List String)), 0)
  return (pieces.reverse.flatten, code)

def plainFault (path : String) (r : Refusal) : String := s!"{shown path}: {r.reason}"

def isBlank (c : Char) : Bool := c == ' ' || c == '\t' || c == '\n'

end Lines

namespace Cut

/-- Places from one to another, both counted; the end may be open. -/
abbrev Range := Nat × Option Nat

structure Part where
  first? : Option Nat := none
  isOpen : Bool := false
  last? : Option Nat := none

structure Terms where
  numbered : String
  range : String
  value : String

def Terms.ofFields : Terms :=
  { numbered := "fields are numbered from 1", range := "invalid field range"
    value := "invalid field value" }

def Terms.ofPositions : Terms :=
  { numbered := "byte/character positions are numbered from 1"
    range := "invalid byte or character range"
    value := "invalid byte/character position" }

def Part.range (terms : Terms) (p : Part) : Tool Range := do
  match p.isOpen, p.first?, p.last? with
  | false, some n, _ => if n = 0 then Tool.misuse terms.numbered else return (n, some n)
  | false, none, _ => Tool.misuse terms.numbered
  | true, none, none => Tool.misuse "invalid range with no endpoint: -"
  | true, first?, none => return (first?.getD 1, none)
  | true, first?, some last =>
    if last < first?.getD 1 then Tool.misuse "invalid decreasing range"
    else return (first?.getD 1, some last)

def ranges (terms : Terms) : Part → List Char → Tool (List Range)
  | p, [] => return [← p.range terms]
  | p, c :: cs =>
    if c = '-' then
      if p.isOpen then Tool.misuse terms.range
      else if p.first? = some 0 then Tool.misuse terms.numbered
      else ranges terms { p with isOpen := true } cs
    else if c = ',' || c = ' ' || c = '\t' then do
      let range ← p.range terms
      return range :: (← ranges terms {} cs)
    else if c.isDigit then
      let add (n? : Option Nat) : Option Nat := some (n?.getD 0 * 10 + (c.toNat - 48))
      if p.isOpen then ranges terms { p with last? := add p.last? } cs
      else ranges terms { p with first? := add p.first? } cs
    else Tool.misuse s!"{terms.value} {cited (String.ofList (c :: cs))}"

def isIn (rs : List Range) (n : Nat) : Bool :=
  rs.any fun (first, last?) => first ≤ n && last?.all (n ≤ ·)

def characters (keep : Nat → Bool) (starts : Nat → Bool) (between? : Option String)
    (line : String) : String :=
  let (out, _, _) := line.toList.foldl (fun (out, n, before) c =>
    if keep n then
      let gap := match between? with
        | some text => if !out.isEmpty && (!before || starts n) then text else ""
        | none => ""
      ((gap ++ c.toString) :: out, n + 1, true)
    else (out, n + 1, false)) (([] : List String), 1, false)
  String.join out.reverse

end Cut

def cut : Utility := fun args => do
  let choice ← choose
    { letters := "b:c:d:f:nsz"
      words := [("bytes", .value, 'b'), ("characters", .value, 'c'), ("fields", .value, 'f'),
        ("delimiter", .value, 'd'), ("only-delimited", .nothing, 's'),
        ("output-delimiter", .value, 'o'), ("complement", .nothing, 'C'),
        ("zero-terminated", .nothing, 'z')] } args
  let lists := choice.options.filter fun (l, _) => l = 'b' || l = 'c' || l = 'f'
  let (letter, list) ← match lists with
    | [] => Tool.misuse "you must specify a list of bytes, characters, or fields"
    | [one] => pure one
    | _ => Tool.misuse "only one list may be specified"
  let fields := letter = 'f'
  let delimiter ← match choice.value? 'd' with
    | none => pure '\t'
    | some text =>
      if !fields then
        Tool.misuse "an input delimiter may be specified only when operating on fields"
      else if text.isEmpty then pure '\x00'
      else if text.length = 1 then pure (text.toList.headD '\t')
      else Tool.misuse "the delimiter must be a single character"
  if choice.has 's' && !fields then
    Tool.misuse
      "suppressing non-delimited lines makes sense\n\tonly when operating on fields"
  let ranges ← Cut.ranges (if fields then .ofFields else .ofPositions) {} list.toList
  let keep (n : Nat) : Bool := Cut.isIn ranges n != choice.has 'C'
  let starts (n : Nat) : Bool := !choice.has 'C' && ranges.any fun (first, _) => first = n
  let ending := if choice.has 'z' then '\x00' else '\n'
  let (lines, code) ← Lines.ofFiles ending choice.others Lines.plainFault
  let ofParts (parts : List String) : Tool Unit := do
    if parts.length ≤ 1 then
      if !choice.has 's' then Tool.put (String.join parts ++ ending.toString)
    else
      let kept := (parts.zipIdx.filter fun (_, i) => keep (i + 1)).map Prod.fst
      let between := (choice.value? 'o').getD delimiter.toString
      Tool.put (between.intercalate kept ++ ending.toString)
  if fields && delimiter = ending then
    if !lines.isEmpty then ofParts lines
    return code
  for line in lines do
    if fields then ofParts (line.splitOn delimiter.toString)
    else Tool.put (Cut.characters keep starts (choice.value? 'o') line ++ ending.toString)
  return code

def tee : Utility := fun args => do
  let choice ← choose
    { letters := "aip", words := [("append", .nothing, 'a'), ("ignore-interrupts", .nothing, 'i')] }
    args
  let access : Access :=
    { write := true, create := true, append := choice.has 'a', truncate := !choice.has 'a' }
  let (fds, code) ← choice.others.foldlM (fun (fds, code) path => do
    match ← Tool.openFile path access with
    | .ok fd => return ((path, fd) :: fds, code)
    | .error r =>
      Tool.complain (Lines.plainFault path r)
      return (fds, 1)) (([] : List (String × Nat)), 0)
  let targets := ("standard output", 1) :: fds.reverse
  let rec go : Nat → List (String × Nat) → (code : Nat) → Tool Nat
    | 0, _, code => return code
    | limit + 1, targets, code => do
      match ← Tool.read 0 Tool.readSize with
      | .ok "" => return code
      | .error r =>
        Tool.complain s!"read error: {r.reason}"
        return 1
      | .ok piece =>
        let (targets, code) ← targets.foldlM (fun (left, code) (name, fd) => do
          match ← Tool.writeTo fd piece with
          | .ok () => return (left ++ [(name, fd)], code)
          | .error r =>
            let name := if name = "standard output" then s!"'{name}'" else shown name
            Tool.complain s!"{name}: {r.reason}"
            return (left, 1)) (([] : List (String × Nat)), code)
        go limit targets code
  go Tool.readLimit targets code

def tac : Utility := fun args => do
  let choice ← choose
    { letters := "brs:", words := [("before", .nothing, 'b'), ("separator", .value, 's')] } args
  let separator := (choice.value? 's').getD "\n"
  let paths := if choice.others.isEmpty then ["-"] else choice.others
  Tool.each paths fun path => do
    match ← Tool.contentsOf path with
    | .error r =>
      let doing := match r with
        | .isDirectory => s!"read error"
        | _ => s!"failed to open {named path} for reading"
      Tool.complain (if r = .isDirectory then s!"{shown path}: {doing}: {r.reason}"
        else s!"{doing}: {r.reason}")
      return 1
    | .ok text =>
      let parts := text.splitOn separator
      let whole := if parts.getLast? = some "" then parts.dropLast.map (· ++ separator)
        else parts.dropLast.map (· ++ separator) ++ parts.getLast?.toList
      Tool.put (String.join whole.reverse)
      return 0

def rev : Utility := fun args => do
  let words ← noOptions args
  let paths := if words.isEmpty then ["-"] else words
  Tool.each paths fun path => do
    match ← Tool.contentsOf path with
    | .error r =>
      Tool.complain s!"cannot open {path}: {r.reason}"
      return 1
    | .ok text =>
      let parts := text.splitOn "\n"
      Tool.put ("\n".intercalate (parts.map fun line => String.ofList line.toList.reverse))
      return 0

namespace Number

inductive Style where
  | all
  | some
  | none
  | like (r : Regex)

def style (part text : String) : Tool Style := do
  let invalid {α : Type} : Tool α := Tool.misuse s!"invalid {part} numbering style: {cited text}"
  match text.toList with
  | 'p' :: pattern =>
    match Regex.read {} (String.ofList pattern) with
    | .ok r => return .like r
    | .error fault => Tool.fail fault.message
  | ['a'] => return .all
  | ['t'] => return .some
  | ['n'] => return .none
  | _ => invalid

def isCounted (line : String) : Style → Bool
  | .all => true
  | .some => !line.isEmpty
  | .none => false
  | .like r => (Regex.find r (fun _ => true) [] line.toList).isSome

def field (format : String) (width : Nat) (n : Int) : String :=
  let digits := toString n.natAbs
  let sign := if n < 0 then "-" else ""
  let gap (c : Char) : String :=
    String.ofList (List.replicate (width - digits.length - sign.length) c)
  if format = "ln" then sign ++ digits ++ gap ' '
  else if format = "rz" then sign ++ gap '0' ++ digits
  else gap ' ' ++ sign ++ digits

structure State where
  n : Int
  style : Style
  blanks : Int := 0

end Number

def nl : Utility := fun args => do
  let choice ← choose
    { letters := "b:d:f:h:i:l:n:ps:v:w:"
      words := [("body-numbering", .value, 'b'), ("section-delimiter", .value, 'd'),
        ("footer-numbering", .value, 'f'), ("header-numbering", .value, 'h'),
        ("line-increment", .value, 'i'), ("join-blank-lines", .value, 'l'),
        ("number-format", .value, 'n'), ("no-renumber", .nothing, 'p'),
        ("number-separator", .value, 's'), ("starting-line-number", .value, 'v'),
        ("number-width", .value, 'w')] } args
  let number (letter : Char) (what : String) (least greatest other : Int) : Tool Int := do
    match choice.value? letter with
    | none => return other
    | some text => bounded s!"invalid {what}" least greatest text
  let start ← number 'v' "starting line number" Numeral.least Numeral.greatest 1
  let step ← number 'i' "line number increment" Numeral.least Numeral.greatest 1
  let join ← number 'l' "line number of blank lines" 1 Numeral.greatest 1
  let width := (← number 'w' "line number field width" 1 2147483647 6).toNat
  let header ← Number.style "header" ((choice.value? 'h').getD "n")
  let body ← Number.style "body" ((choice.value? 'b').getD "t")
  let footer ← Number.style "footer" ((choice.value? 'f').getD "n")
  let format := (choice.value? 'n').getD "rn"
  if ["ln", "rn", "rz"].all (· ≠ format) then
    Tool.misuse s!"invalid line numbering format: {cited format}"
  let separator := (choice.value? 's').getD "\t"
  let mark := match choice.value? 'd' with
    | none => "\\:"
    | some text => if text.length = 1 then text ++ ":" else text
  let (lines, code) ← Lines.ofFiles '\n' choice.others Lines.plainFault
  let unnumbered := String.ofList (List.replicate (width + separator.length) ' ')
  let section? (line : String) : Option Number.Style :=
    if mark.isEmpty then none
    else if line = mark ++ mark ++ mark then some header
    else if line = mark ++ mark then some body
    else if line = mark then some footer
    else none
  let _ ← lines.foldlM (fun (s : Number.State) line => do
    match section? line with
    | some style =>
      Tool.put "\n"
      return { s with style, n := if choice.has 'p' then s.n else start }
    | none =>
      let isPassed := match s.style with
        | .all => line.isEmpty && s.blanks + 1 < join
        | _ => false
      if Number.isCounted line s.style && !isPassed then
        Tool.put (Number.field format width s.n ++ separator ++ line ++ "\n")
        return { s with n := s.n + step, blanks := 0 }
      else
        Tool.put (unnumbered ++ line ++ "\n")
        return { s with blanks := if isPassed then s.blanks + 1 else s.blanks })
    ({ n := start, style := body } : Number.State)
  return code

def paste : Utility := fun args => do
  let choice ← choose
    { letters := "d:sz", words := [("delimiters", .value, 'd'), ("serial", .nothing, 's')] } args
  let rec delimiters : Nat → List Char → List String
    | 0, _ | _, [] => []
    | limit + 1, '\\' :: c :: cs =>
      (match c with
        | 'n' => "\n"
        | 't' => "\t"
        | '0' => ""
        | c => c.toString) :: delimiters limit cs
    | limit + 1, c :: cs => c.toString :: delimiters limit cs
  let given := (choice.value? 'd').getD "\t"
  if (given.toList.reverse.takeWhile (· == '\\')).length % 2 = 1 then
    Tool.fail s!"delimiter list ends with an unescaped backslash: {given}"
  let marks := delimiters (given.length + 1) given.toList
  let mark (i : Nat) : String := if marks.isEmpty then "" else (marks[i % marks.length]?).getD ""
  let paths := if choice.others.isEmpty then ["-"] else choice.others
  let contents ← paths.mapM fun path => do
    match ← Tool.contentsOf path with
    | .ok text => return Lines.ofText '\n' text
    | .error r => Tool.fail (Lines.plainFault path r)
  let join (fields : List String) : String :=
    String.join (fields.zipIdx.map fun (f, i) => if i = 0 then f else mark (i - 1) ++ f) ++ "\n"
  if choice.has 's' then
    for lines in contents do Tool.put (join lines)
  else
    -- standard input that is named more than once gives its lines in turn
    let dashes := (paths.filter (· = "-")).length
    let first := ((paths.zip contents).find? fun (p, _) => p = "-").map Prod.snd
    let (columns, _) := (paths.zip contents).foldl (fun (columns, seen) (path, lines) =>
      if path = "-" && 1 < dashes then
        let own := (first.getD []).zipIdx.filterMap fun (l, i) =>
          if i % dashes = seen then some l else none
        (own :: columns, seen + 1)
      else (lines :: columns, seen)) (([] : List (List String)), 0)
    let columns := columns.reverse
    let height := (columns.map List.length).foldl max 0
    for i in List.range height do
      Tool.put (join (columns.map fun lines => (lines[i]?).getD ""))
  return 0

namespace Fold

structure Manner where
  width : Nat
  atBlanks : Bool
  isPlain : Bool

def Manner.after (m : Manner) (column : Nat) (c : Char) : Nat :=
  if m.isPlain then column + 1
  else if c.toNat = 8 then column - 1
  else if c = '\r' then 0
  else if c = '\t' then column + 8 - column % 8
  else column + 1

/-- Puts a character on a line, which is given backwards with its column. The pieces before it are
given back if it does not fit. A new line is begun twice at most. -/
def Manner.add (m : Manner) : (limit : Nat) → (line : List Char) → (column : Nat) → Char →
    List (List Char) × List Char × Nat
  | 0, line, column, c => ([], c :: line, m.after column c)
  | limit + 1, line, column, c =>
    let next := m.after column c
    if next ≤ m.width || line.isEmpty then ([], c :: line, next)
    else
      let last := if m.atBlanks then line.takeWhile (!Lines.isBlank ·) else line
      let full := line.drop last.length
      let (full, last) := if full.isEmpty then (last, []) else (full, last)
      let (pieces, line, column) := m.add limit last (last.reverse.foldl m.after 0) c
      (full :: pieces, line, column)

def Manner.pieces (m : Manner) (line : List Char) : List String :=
  let (pieces, last, _) := line.foldl (fun (pieces, line, column) c =>
    let (more, line, column) := m.add 2 line column c
    (more.reverse ++ pieces, line, column)) (([] : List (List Char)), ([] : List Char), 0)
  (last :: pieces).reverse.map fun piece => String.ofList piece.reverse

end Fold

def fold : Utility := fun args => do
  let choice ← choose
    { letters := "bsw:0::1::2::3::4::5::6::7::8::9::"
      words := [("bytes", .nothing, 'b'), ("spaces", .nothing, 's'), ("width", .value, 'w')] } args
  let widths := choice.options.filterMap fun (l, text) =>
    if l.isDigit then some (l.toString ++ text) else if l = 'w' then some text else none
  let widths ← widths.mapM (bounded "invalid number of columns" 1 18446744073709551606)
  let m : Fold.Manner :=
    { width := (widths.getLastD 80).toNat, atBlanks := choice.has 's', isPlain := choice.has 'b' }
  let paths := if choice.others.isEmpty then ["-"] else choice.others
  Tool.each paths fun path => do
    match ← Tool.contentsOf path with
    | .error r =>
      Tool.complain (Lines.plainFault path r)
      return 1
    | .ok text =>
      let folded := (text.splitOn "\n").map fun line => "\n".intercalate (m.pieces line.toList)
      Tool.put ("\n".intercalate folded)
      return 0

end ReloadProbe.Rehearsal.Utility
