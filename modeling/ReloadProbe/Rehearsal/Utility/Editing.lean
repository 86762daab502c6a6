import ReloadProbe.Rehearsal.Utility.EditScript
import ReloadProbe.Rehearsal.Utility.Surroundings

/-!
A program that edits lines by a script. For each line all commands of the script are done in turn,
and then the line is written. A line is read only when it is known whether another one follows.
-/
namespace ReloadProbe.Rehearsal.Utility

namespace Editing

structure Source where
  ready : List (String × Bool) := []
  begun : String := ""
  fd? : Option Nat := none
  paths : List String
  failed : Bool := false

inductive Extent where
  | closed
  | opened
  | upTo (n : Nat)

inductive Later where
  | text (t : String)
  | file (path : String)

structure State where
  source : Source
  lineNumber : Nat := 0
  pattern : String := ""
  ended : Bool := true
  held : String := ""
  later : List Later := []
  replaced : Bool := false
  extents : List (Nat × Extent) := []
  lastPattern? : Option Regex := none
  unended : Bool := false
  files : List (String × Nat) := []
  path : String := "-"
  /-- What would have been written, if it is to become the contents of a file; the last piece
  first. -/
  collected? : Option (List String) := none

structure Settings where
  commands : Array Command
  silent : Bool
  ending : Char
  width : Nat := 70

abbrev Edit := StateT State Tool

namespace Edit

def tool {α : Type} (a : Tool α) : Edit α := StateT.lift a

def fill (ending : Char) : (limit : Nat) → Edit Unit
  | 0 => return ()
  | limit + 1 => do
    let s ← get
    let source := s.source
    if 2 ≤ source.ready.length then return ()
    match source.fd?, source.paths with
    | none, [] => return ()
    | none, path :: paths =>
      if path = "-" then set { s with source := { source with fd? := some 0, paths }, path }
      else
        match ← tool (Tool.openFile path) with
        | .ok fd => set { s with source := { source with fd? := some fd, paths }, path }
        | .error r =>
          tool (Tool.complain s!"can't read {path}: {r.reason}")
          set { s with source := { source with paths, failed := true } }
      fill ending limit
    | some fd, _ =>
      match ← tool (Tool.read fd Tool.readSize) with
      | .error r =>
        tool (Tool.fail s!"read error on {s.path}: {r.reason}" 4)
      | .ok "" =>
        if fd ≠ 0 then tool (Tool.close fd)
        let lines := if source.begun.isEmpty then [] else [(source.begun, false)]
        set { s with source := { source with
          fd? := none, begun := "", ready := source.ready ++ lines } }
      | .ok piece =>
        let parts := (source.begun ++ piece).splitOn ending.toString
        let lines := parts.dropLast.map fun line => (line, true)
        set { s with source := { source with
          ready := source.ready ++ lines, begun := parts.getLastD "" } }
      fill ending limit

def emit (settings : Settings) (text : String) (ended : Bool) : Edit Unit := do
  let s ← get
  let text := (if s.unended then settings.ending.toString else "") ++ text
  match s.collected? with
  | some texts => set { s with collected? := some (text :: texts), unended := !ended }
  | none =>
    tool (Tool.put text)
    set { s with unended := !ended }

def put (settings : Settings) (text : String) (ended : Bool) : Edit Unit :=
  emit settings (if ended then text ++ settings.ending.toString else text) ended

def putTo (settings : Settings) (path text : String) (ended : Bool) : Edit Unit := do
  if path = "/dev/stdout" then put settings text ended
  else
    let ending := if ended then settings.ending.toString else ""
    if path = "/dev/stderr" then tool (Tool.say (text ++ ending))
    else
      match (← get).files.lookup path with
      | some fd =>
        let _ ← tool (Tool.writeTo fd (text ++ ending))
      | none => return ()

def putLater (settings : Settings) : Edit Unit := do
  for item in (← get).later do
    match item with
    | .text text => if !text.isEmpty then emit settings text true
    | .file path =>
      match ← tool (Tool.contentsOf path) with
      | .error _ => pure ()
      | .ok text => if !text.isEmpty then emit settings text true
  modify fun s => { s with later := [] }

def isLast (settings : Settings) : Edit Bool := do
  fill settings.ending Tool.readLimit
  return (← get).source.ready.isEmpty

def take? (settings : Settings) : Edit (Option (String × Bool)) := do
  fill settings.ending Tool.readLimit
  let s ← get
  match s.source.ready with
  | [] => return none
  | line :: ready =>
    set { s with source := { s.source with ready }, lineNumber := s.lineNumber + 1 }
    return some line

def meant (p : Pattern) : Edit Regex := do
  match p, (← get).lastPattern? with
  | some r, _ =>
    modify fun s => { s with lastPattern? := some r }
    return r
  | none, some r => return r
  | none, none => tool (Tool.fail "-e expression #1, char 0: no previous regular expression")

def isLike (p : Pattern) : Edit Bool := do
  let r ← meant p
  return (Regex.find r (fun _ => true) [] (← get).pattern.toList).isSome

def isAt (settings : Settings) (a : Address) : Edit Bool := do
  let n := (← get).lineNumber
  match a with
  | .line k => return n = k
  | .last => isLast settings
  | .like p => isLike p
  | .step first step =>
    return if step = 0 then n = first else first ≤ n && (n - first) % step = 0

def extend (settings : Settings) (u : Until) (isFirst : Bool) : Edit Extent := do
  let n := (← get).lineNumber
  match u with
  | .line k => return if k ≤ n then .closed else .upTo k
  | .later k => return if isFirst then (if k = 0 then .closed else .upTo (n + k)) else .opened
  | .multiple k =>
    return if k = 0 then .closed else if isFirst then .upTo (n + (k - n % k)) else .opened
  | .last => return if ← isLast settings then .closed else .opened
  | .like p =>
    if isFirst then return .opened
    else return if ← isLike p then .closed else .opened

def setExtent (i : Nat) (e : Extent) : Edit Unit := modify fun s =>
  { s with extents := (i, e) :: s.extents.filter fun (k, _) => k ≠ i }

def isSelected (settings : Settings) (i : Nat) (sel : Selector) : Edit Bool := do
  let n := (← get).lineNumber
  let matched ← match sel.first?, sel.until? with
    | none, _ => pure true
    | some a, none => isAt settings a
    | some a, some u => do
      let fromStart : Bool := match a with
        | .line 0 => true
        | _ => false
      let extent := ((← get).extents.lookup i).getD (if fromStart then .opened else .closed)
      match extent with
      | .closed =>
        if ← isAt settings a then
          setExtent i (← extend settings u true)
          pure true
        else pure false
      | .upTo k =>
        if k ≤ n then setExtent i .closed
        pure (n ≤ k)
      | .opened =>
        setExtent i (← extend settings u false)
        pure true
  return matched != sel.inverted

def isRangeEnd (i : Nat) (sel : Selector) : Edit Bool := do
  if sel.until?.isNone || sel.inverted then return true
  else
    match (← get).extents.lookup i with
    | some .closed | none => return true
    | _ => return false

end Edit

structure Casing where
  all : Letters := .same
  next : Letters := .same
  out : List Char := []

def Letters.apply : Letters → Char → Char
  | same, c => c
  | upper, c => c.toUpper
  | lower, c => c.toLower

def Casing.put (k : Casing) (cs : List Char) : Casing :=
  match cs with
  | [] => k
  | c :: cs =>
    let first := (if k.next = .same then k.all else k.next).apply c
    { k with next := .same, out := (first :: cs.map k.all.apply).reverse ++ k.out }

def replacement (pieces : List Piece) (whole : List Char) (p : Regex.Point) (k : Casing) :
    Casing :=
  pieces.foldl (fun k piece => match piece with
    | .text cs => k.put cs
    | .group 0 => k.put whole
    | .group n => k.put ((p.groups.lookup n).getD [])
    | .letters l => { k with all := l, next := .same }
    | .nextLetter l => { k with next := l }) k

/-- Replaces matches, the one of a number and perhaps all after it. The answer says whether there
was one. -/
def substituted (s : Substitution) (r : Regex) : (limit count : Nat) → (before after : List Char) →
    (isAfterMatch : Bool) → List Char × Bool
  | 0, _, _, after, _ => (after, false)
  | limit + 1, count, before, after, isAfterMatch =>
    match Regex.find r (fun _ => true) before after with
    | none => (after, false)
    | some (start, p) =>
      let skipped := after.take (start.length - before.length)
      -- nothing is matched just after a match
      if p.length = 0 && skipped.isEmpty && isAfterMatch then
        match after with
        | [] => ([], false)
        | c :: cs =>
          let (rest, found) := substituted s r limit count (c :: before) cs false
          (c :: rest, found)
      else
        let whole := (p.before.take p.length).reverse
        let isWanted := count = s.which || (s.all && s.which < count)
        let new := if isWanted then (replacement s.pieces whole p {}).out.reverse else whole
        if isWanted && !s.all then (skipped ++ new ++ p.after, true)
        else
          let (rest, found) :=
            if p.length = 0 then
              match p.after with
              | [] => ([], false)
              | c :: cs =>
                let (rest, found) := substituted s r limit (count + 1) (c :: p.before) cs false
                (c :: rest, found)
            else substituted s r limit (count + 1) p.before p.after true
          (skipped ++ new ++ rest, isWanted || found)

def listed (width : Nat) (text : String) : String :=
  let escaped (c : Char) : String :=
    match c.toNat with
    | 7 => "\\a"
    | 8 => "\\b"
    | 9 => "\\t"
    | 10 => "\\n"
    | 11 => "\\v"
    | 12 => "\\f"
    | 13 => "\\r"
    | 92 => "\\\\"
    | n =>
      if 32 ≤ n && n < 127 then c.toString
      else
        let ds := Nat.toDigits 8 n
        "\\" ++ String.ofList (List.replicate (3 - ds.length) '0' ++ ds)
  let (out, _) := text.toList.foldl (fun ((out, column) : List String × Nat) c =>
    let shown := escaped c
    if 0 < width && width - 1 < column + shown.length then (shown :: "\\\n" :: out, shown.length)
    else (shown :: out, column + shown.length)) ([], 0)
  String.join out.reverse ++ "$"

inductive Onward where
  | next
  | to (i : Nat)
  | done
  | dropped
  /-- The script begins again with what is left of the line. -/
  | again
  | quit (code : Nat) (writes : Bool)
  | ended

def place (commands : Array Command) (name : String) : Nat :=
  if name.isEmpty then commands.size
  else
    (commands.findIdx? fun c => match c.action with
      | .label other => other = name
      | _ => false).getD commands.size

def firstLine (text : String) : List Char := text.toList.takeWhile (· ≠ '\n')

def perform (settings : Settings) (i : Nat) (command : Command) : Edit Onward := do
  let s ← get
  let put (text : String) : Edit Unit := Edit.put settings text true
  match command.action with
  | .block _ | .nothing | .label _ => return .next
  | .substitute sub =>
    let r ← Edit.meant sub.pattern
    let cs := s.pattern.toList
    let (new, found) := substituted sub r (2 * cs.length + 4) 1 [] cs false
    if found then
      modify fun s => { s with pattern := String.ofList new, replaced := true }
      if sub.prints then Edit.put settings (String.ofList new) s.ended
      match sub.file? with
      | some path => Edit.putTo settings path (String.ofList new) s.ended
      | none => pure ()
    return .next
  | .exchange pairs =>
    let new := s.pattern.toList.map fun c => (pairs.lookup c).getD c
    set { s with pattern := String.ofList new }
    return .next
  | .print =>
    Edit.put settings s.pattern s.ended
    return .next
  | .printFirst =>
    put (String.ofList (firstLine s.pattern))
    return .next
  | .delete => return .dropped
  | .deleteFirst =>
    let first := firstLine s.pattern
    if first.length = s.pattern.length then return .dropped
    else
      set { s with pattern := String.ofList (s.pattern.toList.drop (first.length + 1)) }
      return .again
  | .quit code => return .quit code true
  | .leave code => return .quit code false
  | .append text =>
    set { s with later := s.later ++ [Later.text text] }
    return .next
  | .insert text =>
    Edit.put settings (String.ofList (text.toList.take (text.length - 1))) true
    return .next
  | .change text =>
    if ← Edit.isRangeEnd i command.selector then
      put (String.ofList (text.toList.take (text.length - 1)))
    return .dropped
  | .next =>
    if ← Edit.isLast settings then return .ended
    else
      if !settings.silent then Edit.put settings s.pattern s.ended
      Edit.putLater settings
      match ← Edit.take? settings with
      | none => return .dropped
      | some (pattern, ended) =>
        modify fun s => { s with pattern, ended }
        return .next
  | .nextAppend =>
    if ← Edit.isLast settings then return .ended
    else
      Edit.putLater settings
      match ← Edit.take? settings with
      | none => return .dropped
      | some (line, ended) =>
        modify fun s => { s with pattern := s.pattern ++ "\n" ++ line, ended }
        return .next
  | .hold =>
    set { s with held := s.pattern }
    return .next
  | .holdAppend =>
    set { s with held := s.held ++ "\n" ++ s.pattern }
    return .next
  | .get =>
    set { s with pattern := s.held }
    return .next
  | .getAppend =>
    set { s with pattern := s.pattern ++ "\n" ++ s.held }
    return .next
  | .swap =>
    set { s with pattern := s.held, held := s.pattern }
    return .next
  | .empty =>
    set { s with pattern := "" }
    return .next
  | .number =>
    put (toString s.lineNumber)
    return .next
  | .list width? =>
    put (listed (width?.getD settings.width) s.pattern)
    return .next
  | .jump label => return .to (place settings.commands label)
  | .jumpIf wanted label =>
    set { s with replaced := false }
    return if s.replaced = wanted then .to (place settings.commands label) else .next
  | .readFile path =>
    set { s with later := s.later ++ [Later.file path] }
    return .next
  | .writeFile path =>
    Edit.putTo settings path s.pattern s.ended
    return .next
  | .writeFirst path =>
    Edit.putTo settings path (String.ofList (firstLine s.pattern)) true
    return .next
  | .fileName =>
    put s.path
    return .next

def script (settings : Settings) : (limit i : Nat) → Edit Onward
  | 0, _ => return .quit 4 false
  | limit + 1, i => do
    match settings.commands[i]? with
    | none => return .done
    | some command =>
      if ← Edit.isSelected settings i command.selector then
        match ← perform settings i command with
        | .next => script settings limit (i + 1)
        | .to k => script settings limit k
        | o => return o
      else
        match command.action with
        | .block past => script settings limit past
        | _ => script settings limit (i + 1)

def stepLimit : Nat := 1000000000

/-- Edits all lines. The answer is a code if a command has ended the work. -/
def cycles (settings : Settings) : (limit : Nat) → (keeps : Bool) → Edit (Option Nat)
  | 0, _ => return some 4
  | limit + 1, keeps => do
    let more ← do
      if keeps then pure true
      else
        match ← Edit.take? settings with
        | none => pure false
        | some (pattern, ended) =>
          modify fun s => { s with pattern, ended, replaced := false }
          pure true
    if !more then return none
    let write : Edit Unit := do
      let s ← get
      if !settings.silent then Edit.put settings s.pattern s.ended
    match ← script settings stepLimit 0 with
    | .done | .next | .to _ =>
      write
      Edit.putLater settings
      cycles settings limit false
    | .dropped =>
      Edit.putLater settings
      cycles settings limit false
    | .again =>
      Edit.putLater settings
      cycles settings limit true
    | .ended =>
      write
      Edit.putLater settings
      return none
    | .quit code writes =>
      if writes then
        write
        Edit.putLater settings
      return some code

structure Part where
  text : String
  path? : Option String := none

/-- Reads the script. A fault is told of with the part that it is in. -/
def read (extended : Bool) (parts : List Part) : Tool (Array Command) := do
  let whole := "\n".intercalate (parts.map Part.text)
  match Reading.commands extended (whole.length + 2) [] #[] whole.toList with
  | .ok (commands, _) => return commands
  | .error fault =>
    let position := if fault.placeless then 0 else whole.length - fault.left
    let rec locate (n position : Nat) : List Part → String
      | [] => s!"-e expression #{n}, char {position}"
      | part :: parts =>
        if part.text.length < position && !parts.isEmpty then
          locate (if part.path?.isSome then n else n + 1) (position - part.text.length - 1) parts
        else
          match part.path? with
          | none => s!"-e expression #{n}, char {position}"
          | some path =>
            let line := (part.text.toList.take (position - 1)).count '\n' + 1
            s!"file {path} line {line}"
    Tool.fail s!"{locate 1 position parts}: {fault.text}"

def filesOf (commands : Array Command) : List String :=
  commands.toList.filterMap fun c => match c.action with
    | .writeFile path | .writeFirst path => some path
    | .substitute s => s.file?
    | _ => none

end Editing

namespace Editing

def backup (suffix path : String) : String :=
  let name := lastName path
  let start := path.toList.take (path.length - name.length)
  if suffix.contains '*' then String.ofList start ++ name.intercalate (suffix.splitOn "*")
  else path ++ suffix

def separately (settings : Settings) (inPlace? : Option String) (files : List (String × Nat)) :
    List String → (held : String) → (failed : Bool) → Tool Nat
  | [], _, failed => return if failed then 2 else 0
  | path :: paths, held, failed => do
    let start : State :=
      { source := { paths := [path] }, files, held, collected? := inPlace?.map fun _ => [] }
    let fine ← match inPlace?, ← Tool.examine path with
      | none, _ => pure true
      | some _, .error r =>
        Tool.complain s!"can't read {path}: {r.reason}"
        pure false
      | some _, .ok (_, _, node) =>
        if node.isDirectory then
          Tool.fail s!"couldn't edit {path}: not a regular file" 4
        else pure true
    if !fine then separately settings inPlace? files paths held true
    else
      let old ← match inPlace? with
        | none => pure (.ok "")
        | some _ => Tool.contentsOf path
      let (code?, s) ← (cycles settings stepLimit false).run start
      let write (path text : String) : Tool Unit := do
        match ← Tool.openFile path { write := true, create := true, truncate := true } with
        | .error r => Tool.fail s!"couldn't open file {path}: {r.reason}" 4
        | .ok fd =>
          let _ ← Tool.writeTo fd text
          Tool.close fd
      match inPlace?, s.collected? with
      | some suffix, some texts =>
        if !suffix.isEmpty then write (backup suffix path) (old.toOption.getD "")
        write path (String.join texts.reverse)
      | _, _ => if s.unended && !paths.isEmpty then Tool.put settings.ending.toString
      match code? with
      | some code => return code
      | none => separately settings inPlace? files paths s.held (failed || s.source.failed)

end Editing

def sed : Utility := fun args => do
  modify fun d => { d with failure := 4 }
  let choice ← choose
    { letters := "bsnrzuEe:f:l:i::V:h"
      words := [("quiet", .nothing, 'n'), ("silent", .nothing, 'n'), ("expression", .value, 'e'),
        ("file", .value, 'f'), ("regexp-extended", .nothing, 'E'), ("null-data", .nothing, 'z'),
        ("posix", .nothing, 'p'), ("unbuffered", .nothing, 'u'), ("line-length", .value, 'l'),
        ("separate", .nothing, 's'), ("in-place", .maybe, 'i')] } args
  let given := choice.options.filter fun (l, _) => l = 'e' || l = 'f'
  let (parts, paths) ← match given, choice.others with
    | [], [] =>
      let name := (← get).name
      Tool.say (s!"Usage: {name} [OPTION]... \x7bscript-only-if-no-other-script\x7d " ++
        "[input-file]...\n")
      Tool.exit 1
    | [], script :: paths => pure ([({ text := script } : Editing.Part)], paths)
    | given, paths => do
      let parts ← given.mapM fun (l, text) => do
        if l = 'e' then return ({ text } : Editing.Part)
        else
          match ← Tool.contentsOf text with
          | .ok whole =>
            let lines := "\n".intercalate (Lines.ofText '\n' whole)
            return { text := lines, path? := some text }
          | .error r => Tool.fail s!"couldn't open file {text}: {r.reason}" 4
      pure (parts, paths)
  let commands ← Editing.read (choice.has 'E' || choice.has 'r') parts
  for c in commands do
    match c.action with
    | .jump name | .jumpIf _ name =>
      if !name.isEmpty && Editing.place commands name = commands.size then
        Tool.fail s!"can't find label for jump to \x60{name}'" 4
    | _ => pure ()
  let files ← (Editing.filesOf commands).foldlM (fun (files : List (String × Nat)) path => do
    if path = "/dev/stdout" || path = "/dev/stderr" || (files.lookup path).isSome then return files
    else
      match ← Tool.openFile path { write := true, create := true, truncate := true } with
      | .ok fd => return (path, fd) :: files
      | .error r => Tool.fail s!"couldn't open file {path}: {r.reason}" 4) []
  let first := (parts.head?.map Editing.Part.text).getD ""
  let settings : Editing.Settings :=
    { commands, silent := choice.has 'n' || first = "#n" || first.startsWith "#n\n"
      ending := if choice.has 'z' then '\x00' else '\n'
      width := ((choice.value? 'l').bind String.toNat?).getD 70 }
  let inPlace? := choice.value? 'i'
  if inPlace?.isSome && paths.isEmpty then Tool.fail "no input files" 4
  if inPlace?.isSome || choice.has 's' then
    Editing.separately settings inPlace? files (if paths.isEmpty then ["-"] else paths) "" false
  else
    let source : Editing.Source := { paths := if paths.isEmpty then ["-"] else paths }
    let (code?, s) ← (Editing.cycles settings Editing.stepLimit false).run { source, files }
    return code?.getD (if s.source.failed then 2 else 0)

end ReloadProbe.Rehearsal.Utility
