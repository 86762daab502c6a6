import ReloadProbe.Rehearsal.Utility.Links
import ReloadProbe.Rehearsal.Utility.Rights

/-! Programs that tell which files there are, and what they are. -/
namespace ReloadProbe.Rehearsal.Utility

namespace Listing

def size (node : Node) : Nat :=
  match node.kind with
  | .file contents => contents.length
  | .program _ => Node.binary.length
  | .link target => target.length
  | .directory => 4096
  | _ => 0

inductive Order where
  | byName
  | bySize
  | byTime
  | asFound
  deriving DecidableEq

inductive Layout where
  | lines
  | commas
  | columns (byLines : Bool)
  deriving DecidableEq

structure Style where
  hidden : Bool
  dots : Bool
  order : Order
  reverse : Bool
  recursive : Bool
  /-- Marks for kinds of files: all, or only for directories. -/
  marks : Bool
  slashes : Bool
  quoted : Bool
  layout : Layout
  width : Nat

abbrev Entry := String × Node

def mark (s : Style) (node : Node) : String :=
  if node.isDirectory then (if s.marks || s.slashes then "/" else "")
  else if !s.marks then ""
  else
    match node.kind with
    | .link _ => "@"
    | .pipe => "|"
    | .device _ => ""
    | _ => if node.isExecutable then "*" else ""

def sorted (s : Style) (es : List Entry) : List Entry :=
  let before (a b : Entry) : Bool := match s.order with
    | .byName | .asFound => a.1 ≤ b.1
    | .bySize => size b.2 < size a.2 || (size a.2 = size b.2 && a.1 ≤ b.1)
    | .byTime => b.2.modified < a.2.modified || (a.2.modified = b.2.modified && a.1 ≤ b.1)
  let es := if s.order = .asFound then es else es.mergeSort before
  if s.reverse && s.order ≠ .asFound then es.reverse else es

def withCommas (width : Nat) (names : List String) : String :=
  let (text, _) := names.foldl (fun (text, column) name =>
    if text.isEmpty then (name, name.length)
    else if width = 0 || column + name.length + 2 < width then
      (text ++ ", " ++ name, column + name.length + 2)
    else (text ++ ",\n" ++ name, name.length)) ("", 0)
  if names.isEmpty then "" else text ++ "\n"

def widths (byLines : Bool) (names : List String) (count : Nat) : List Nat :=
  let rows := (names.length + count - 1) / count
  (List.range count).map fun i =>
    let own := names.zipIdx.filterMap fun (name, k) =>
      if (if byLines then k % count else k / rows) = i then some name.length else none
    own.foldl max 0 + 2

def inColumns (byLines : Bool) (width : Nat) (names : List String) : String :=
  let n := names.length
  let fits (count : Nat) : Bool :=
    let ws := widths byLines names count
    count ≤ 1 || (ws.foldl (· + ·) 0) - (if ws.getLastD 0 = 0 then 0 else 2) < width
  let most := max 1 (min n (width / 3))
  let count := ((List.range most).map (most - ·)).find? fits |>.getD 1
  let rows := (n + count - 1) / count
  -- with fewer rows some columns may be left over
  let ws := widths byLines names count
  let line (r : Nat) : String :=
    let cells := (List.range count).filterMap fun i =>
      let k := if byLines then r * count + i else i * rows + r
      (names[k]?).map fun name => (name, i)
    let (text, _) := cells.zipIdx.foldl (fun (text, column) ((name, i), k) =>
      if k + 1 = cells.length then (text ++ name, column)
      else
        let next := column + (ws[i]?).getD 0
        (text ++ name ++ spaces (column + name.length) next, next)) ("", 0)
    text ++ "\n"
  String.join ((List.range rows).map line)
where
  spaces (start stop : Nat) : String :=
    let rec go : Nat → Nat → List Char
      | 0, _ => []
      | limit + 1, column =>
        if stop ≤ column then []
        else if (column + 1) / 8 < stop / 8 then '\t' :: go limit (column / 8 * 8 + 8)
        else ' ' :: go limit (column + 1)
    String.ofList (go (stop + 1) start)

def write (s : Style) (es : List Entry) : Tool Unit :=
  let names := es.map fun (name, node) =>
    (if s.quoted then "\"" ++ name ++ "\"" else name) ++ mark s node
  Tool.put <| match s.layout with
    | .lines => String.join (names.map (· ++ "\n"))
    | .commas => withCommas s.width names
    | .columns byLines => inColumns byLines s.width names

/-- Lists a directory, and those in it if that is wanted. Each is told of with its name if several
are listed. -/
def directory (s : Style) (titled : Bool) : (limit : Nat) → (isFirst : Bool) → String → Tool Nat
  | 0, _, _ => return 1
  | limit + 1, isFirst, path => do
    let found : Except Refusal (List String) ← Tool.call (.list path)
    match found with
    | .error r =>
      Tool.complain s!"cannot open directory {named path}: {r.reason}"
      return 2
    | .ok names =>
      if !isFirst then Tool.put "\n"
      if titled then Tool.put s!"{path}:\n"
      let names := names.filter fun name => s.hidden || !name.startsWith "."
      let names := if s.dots then "." :: ".." :: names else names
      let es ← names.filterMapM fun name => do
        return (← Tool.examine (inside path name) false).toOption.map fun (_, _, node) =>
          (name, node)
      let es := sorted s es
      write s es
      if s.recursive then
        let below := es.filter fun (name, node) => node.isDirectory && name ≠ "." && name ≠ ".."
        Tool.each below fun (name, _) => directory s titled limit false (inside path name)
      else return 0

end Listing

def ls : Utility := fun args => do
  let choice ← choose
    { letters := "abcdfghiklmnopqrstuvw:xABCDFGHI:LNQRST:UXZ1"
      words := [("all", .nothing, 'a'), ("almost-all", .nothing, 'A'), ("directory", .nothing, 'd'),
        ("classify", .maybe, 'F'), ("recursive", .nothing, 'R'), ("reverse", .nothing, 'r'),
        ("width", .value, 'w'), ("quote-name", .nothing, 'Q'), ("color", .maybe, 'K')] } args 2
  let layout : Listing.Layout := match choice.lastOf? ['1', 'm', 'C', 'x', 'l'] with
    | some 'm' => .commas
    | some 'C' => .columns false
    | some 'x' => .columns true
    | _ => .lines
  let order : Listing.Order := match choice.lastOf? ['S', 't', 'U', 'f'] with
    | some 'S' => .bySize
    | some 't' => .byTime
    | some _ => .asFound
    | none => .byName
  let s : Listing.Style :=
    { hidden := choice.has 'a' || choice.has 'A' || choice.has 'f'
      dots := choice.lastOf? ['a', 'A', 'f'] = some 'a' || choice.has 'f'
      order, reverse := choice.has 'r', recursive := choice.has 'R', marks := choice.has 'F'
      slashes := choice.has 'p', quoted := choice.has 'Q', layout
      width := ((choice.value? 'w').bind String.toNat?).getD 80 }
  let paths := if choice.others.isEmpty then ["."] else choice.others
  -- a link that is named leads to a directory, unless the link itself is shown
  let follow := !(choice.has 'd' || choice.has 'F' || choice.has 'l')
  let (found, code) ← paths.foldlM (fun (found, code) path => do
    let target ← Tool.examine path follow
    let target ← match target with
      | .ok t => pure (.ok t)
      | .error _ => Tool.examine path false
    match target with
    | .ok (_, _, node) => return ((path, node) :: found, code)
    | .error r =>
      Tool.complain s!"cannot access {named path}: {r.reason}"
      return (found, 2)) (([] : List Listing.Entry), 0)
  let isShown (e : Listing.Entry) : Bool := choice.has 'd' || !e.2.isDirectory
  let files := Listing.sorted s (found.reverse.filter isShown)
  let directories := Listing.sorted s (found.reverse.filter (!isShown ·))
  Listing.write s files
  if !files.isEmpty && !directories.isEmpty then Tool.put "\n"
  let titled := 1 < paths.length || s.recursive
  let (worst, _) ← directories.foldlM (fun (worst, isFirst) (path, _) => do
    return (max worst (← Listing.directory s titled 4096 isFirst path), false)) (code, true)
  return worst

namespace Description

def kind (node : Node) : String :=
  match node.kind with
  | .directory => "directory"
  | .file [] => "regular empty file"
  | .file _ | .program _ => "regular file"
  | .link _ => "symbolic link"
  | .device _ => "character special file"
  | .pipe => "fifo"

def letter (node : Node) : String :=
  match node.kind with
  | .directory => "d"
  | .file _ | .program _ => "-"
  | .link _ => "l"
  | .device _ => "c"
  | .pipe => "p"

def octal (n : Nat) : String := String.ofList (Nat.toDigits 8 n)

def field (path : String) (number : Nat) (node : Node) : Char → String
  | 'a' => octal node.mode
  | 'A' => letter node ++ Rights.letters node.mode
  | 'F' => kind node
  | 'g' | 'u' => "0"
  | 'G' | 'U' => "root"
  | 'i' => toString number
  | 'n' => path
  | 'N' =>
    match node.kind with
    | .link target => s!"{named path} -> {named target}"
    | _ => named path
  | 's' => toString (Listing.size node)
  | '%' => "%"
  | _ => "?"

def expand (escapes : Bool) (path : String) (number : Nat) (node : Node) : List Char → String
  | '%' :: c :: cs => field path number node c ++ expand escapes path number node cs
  | '\\' :: c :: cs =>
    if escapes then
      let one := match c with
        | 'n' => "\n"
        | 't' => "\t"
        | c => c.toString
      one ++ expand escapes path number node cs
    else "\\" ++ c.toString ++ expand escapes path number node cs
  | c :: cs => c.toString ++ expand escapes path number node cs
  | [] => ""

end Description

def stat : Utility := fun args => do
  let choice ← choose
    { letters := "c:fLt"
      words := [("format", .value, 'c'), ("printf", .value, 'P'), ("dereference", .nothing, 'L'),
        ("terse", .nothing, 't')] } args
  demand 1 choice.others
  Tool.each choice.others fun path => do
    match ← Tool.examine path (choice.has 'L') with
    | .error r =>
      Tool.complain s!"cannot statx {named path}: {r.reason}"
      return 1
    | .ok (_, number, node) =>
      match choice.value? 'P', choice.value? 'c' with
      | some format, _ => Tool.put (Description.expand true path number node format.toList)
      | none, some format =>
        Tool.put (Description.expand false path number node format.toList ++ "\n")
      | none, none => Tool.put s!"  File: {path}\n  Size: {Listing.size node}\n"
      return 0

end ReloadProbe.Rehearsal.Utility
