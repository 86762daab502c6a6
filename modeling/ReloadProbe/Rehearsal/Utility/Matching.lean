import ReloadProbe.Rehearsal.Utility.Lines

/-! A program that shows the lines in which a pattern is found. -/
namespace ReloadProbe.Rehearsal.Utility

namespace Matching

inductive Place where
  | anywhere
  | words
  | wholeLine
  deriving DecidableEq

structure Manner where
  pattern : Regex
  place : Place
  inverted : Bool
  counts : Bool
  numbered : Bool
  names? : Option Bool
  titled : Bool
  onlyMatches : Bool
  quiet : Bool
  silent : Bool
  asText : Bool
  most? : Option Nat
  before : Nat
  after : Nat
  ending : Char

def Manner.accepts (m : Manner) (before : List Char) (p : Regex.Point) : Bool :=
  match m.place with
  | .anywhere => true
  | .words => !Regex.isWordAt before && !Regex.isWordAt p.after
  | .wholeLine => before.isEmpty && p.after.isEmpty

def Manner.find (m : Manner) : (before after : List Char) → Option (List Char × Regex.Point)
  | before, after =>
    match Regex.matchAt m.pattern before after (m.accepts before) with
    | some p => some (before, p)
    | none =>
      match after with
      | [] => none
      | c :: cs => m.find (c :: before) cs

def Manner.matches (m : Manner) : (limit : Nat) → (before after : List Char) → List String
  | 0, _, _ => []
  | limit + 1, before, after =>
    match m.find before after with
    | none => []
    | some (_, p) =>
      if p.length = 0 then
        match p.after with
        | [] => []
        | c :: cs => m.matches limit (c :: p.before) cs
      else
        String.ofList (p.before.take p.length).reverse :: m.matches limit p.before p.after

structure Progress where
  held : List (Nat × String) := []
  left : Nat := 0
  chosen : Nat := 0
  last : Nat := 0

def Manner.showLine (m : Manner) (name : String) (mark : Char) (n : Nat) (text : String) :
    Tool Unit :=
  let title := if m.titled then name ++ mark.toString else ""
  let number := if m.numbered then toString n ++ mark.toString else ""
  Tool.put (title ++ number ++ text ++ m.ending.toString)

def Manner.setApart (m : Manner) (p : Progress) (first : Nat) : Tool Unit := do
  if (0 < m.before || 0 < m.after) && 0 < p.last && p.last + 1 < first then Tool.put "--\n"

def Manner.line (m : Manner) (name : String) (p : Progress) (n : Nat) (text : String) :
    Tool Progress := do
  let isChosen := (m.find [] text.toList).isSome != m.inverted
  let isDone := m.most?.any (· ≤ p.chosen)
  let isShown := !(m.counts || m.names?.isSome || m.quiet)
  if isChosen && !isDone then
    if isShown then
      if m.onlyMatches then
        if !m.inverted then
          for found in m.matches (text.length + 1) [] text.toList do
            m.showLine name ':' n found
      else
        let held := p.held.reverse
        m.setApart p ((held.head?.map Prod.fst).getD n)
        for (k, line) in held do m.showLine name '-' k line
        m.showLine name ':' n text
    return { held := [], left := m.after, chosen := p.chosen + 1, last := n }
  else if 0 < p.left then
    if isShown && !m.onlyMatches then m.showLine name '-' n text
    return { p with left := p.left - 1, last := n }
  else return { p with held := ((n, text) :: p.held).take m.before }

/-- Shows what there is to show of a text. The answer says whether any line was chosen. -/
def Manner.file (m : Manner) (name text : String) : Tool Bool := do
  let lines := Lines.ofText m.ending text
  let isBinary := !m.asText && m.ending = '\n' && text.toList.contains '\x00'
  let quiet := if isBinary && !m.counts && m.names?.isNone then { m with quiet := true } else m
  let (p, _) ← lines.foldlM (fun ((p, n) : Progress × Nat) line => do
    if m.most?.any (· ≤ p.chosen) && p.left = 0 then return (p, n + 1)
    else return (← quiet.line name p n line, n + 1)) (({} : Progress), 1)
  let found := 0 < p.chosen
  if m.quiet then return found
  match m.names? with
  | some wanted => if found = wanted then Tool.put (name ++ "\n")
  | none =>
    if m.counts then
      Tool.put ((if m.titled then name ++ ":" else "") ++ toString p.chosen ++ "\n")
    else if isBinary && found then Tool.complain s!"{name}: binary file matches"
  return found

def literal (d : Regex.Dialect) (text : String) : Regex :=
  text.toList.foldr (fun c r => .sequence (Regex.literal d c) r) .empty

end Matching

/-- Looks for patterns. What kind of patterns they are may be settled by how it is called. -/
def grepWith (usual : Char) : Utility := fun args => do
  modify fun d => { d with
    failure := 2, usage := s!"Usage: {d.name} [OPTION]... PATTERNS [FILE]...\n" }
  let choice ← choose
    { letters := "A:B:C:EFGHLPUae:cf:hilm:noqrRsTuvwxyz0::1::2::3::4::5::6::7::8::9::"
      words := [("extended-regexp", .nothing, 'E'), ("fixed-strings", .nothing, 'F'),
        ("basic-regexp", .nothing, 'G'), ("regexp", .value, 'e'), ("file", .value, 'f'),
        ("ignore-case", .nothing, 'i'), ("invert-match", .nothing, 'v'), ("count", .nothing, 'c'),
        ("line-number", .nothing, 'n'), ("files-with-matches", .nothing, 'l'),
        ("files-without-match", .nothing, 'L'), ("no-filename", .nothing, 'h'),
        ("with-filename", .nothing, 'H'), ("only-matching", .nothing, 'o'),
        ("quiet", .nothing, 'q'), ("silent", .nothing, 'q'), ("no-messages", .nothing, 's'),
        ("word-regexp", .nothing, 'w'), ("line-regexp", .nothing, 'x'),
        ("max-count", .value, 'm'), ("after-context", .value, 'A'),
        ("before-context", .value, 'B'), ("context", .value, 'C'), ("text", .nothing, 'a'),
        ("null-data", .nothing, 'z'), ("color", .maybe, 'K'), ("colour", .maybe, 'K')] } args 2
  let given := choice.options.filter fun (l, _) => l = 'e' || l = 'f'
  let (texts, paths) ← match given, choice.others with
    | [], [] => Tool.sendAway 2
    | [], text :: paths => pure ([text], paths)
    | given, paths => do
      let texts ← given.mapM fun (l, text) => do
        if l = 'e' then return some text
        else
          match ← Tool.contentsOf text with
          | .ok whole =>
            return if whole.isEmpty then none
              else some ("\n".intercalate (Lines.ofText '\n' whole))
          | .error r => Tool.fail (Lines.plainFault text r) 2
      pure (texts.filterMap id, paths)
  let kind := (choice.lastOf? ['E', 'F', 'G', 'P']).getD usual
  let dialect : Regex.Dialect :=
    { extended := kind = 'E' || kind = 'P', ignoreCase := choice.has 'i' || choice.has 'y'
      lenient := true }
  let patterns ← (texts.flatMap (·.splitOn "\n")).mapM fun text => do
    if kind = 'F' then return Matching.literal dialect text
    else
      if dialect.extended && text.startsWith "*" then
        Tool.complain "warning: * at start of expression"
      match Regex.read dialect text with
      | .ok r => return r
      | .error fault => Tool.fail fault.message 2
  let nowhere : Regex := .set fun _ => false
  let pattern := match patterns with
    | [] => nowhere
    | first :: more => more.foldl Regex.choice first
  let length (letter : Char) : Tool (Option Nat) := (choice.value? letter).mapM fun text => do
    match text.toNat? with
    | some n => return n
    | none => Tool.fail s!"{text}: invalid context length argument" 2
  let around := choice.options.filterMap fun (l, text) =>
    if l.isDigit then (l.toString ++ String.ofList (text.toList.takeWhile Char.isDigit)).toNat?
    else none
  let both? := (← length 'C') <|> around.getLast?
  let before := ((← length 'B') <|> both?).getD 0
  let after := ((← length 'A') <|> both?).getD 0
  let most? : Option Int ← (choice.value? 'm').mapM fun text => do
    match text.toInt? with
    | some (n : Int) => return n
    | none => Tool.fail "invalid max count" 2
  let several := 1 < paths.length
  let m : Matching.Manner :=
    { pattern
      place := if choice.has 'x' then .wholeLine else if choice.has 'w' then .words else .anywhere
      inverted := choice.has 'v', counts := choice.has 'c', numbered := choice.has 'n'
      names? := (choice.lastOf? ['l', 'L']).map (· = 'l')
      titled := match choice.lastOf? ['h', 'H'] with
        | some 'h' => false
        | some _ => true
        | none => several
      onlyMatches := choice.has 'o', quiet := choice.has 'q', silent := choice.has 's'
      asText := choice.has 'a'
      most? := most?.bind fun n => if n < 0 then none else some n.toNat
      before, after, ending := if choice.has 'z' then '\x00' else '\n' }
  let paths := if paths.isEmpty then ["-"] else paths
  let (found, failed) ← paths.foldlM (fun (found, failed) path => do
    match ← Tool.contentsOf path with
    | .error r =>
      if !m.silent then Tool.complain s!"{path}: {r.reason}"
      return (found, true)
    | .ok text =>
      let name := if path = "-" then "(standard input)" else path
      return (found || (← m.file name text), failed)) (false, false)
  return if failed && !(m.quiet && found) then 2 else if found then 0 else 1

def grep : Utility := grepWith 'G'

end ReloadProbe.Rehearsal.Utility
