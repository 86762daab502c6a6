import ReloadProbe.Rehearsal.Floating
import ReloadProbe.Rehearsal.Utility.Choice

/-! Programs that write what stands in files, all of it or a part, or count it. -/
namespace ReloadProbe.Rehearsal.Utility

namespace Show

structure Style where
  numbers : Bool := false
  someNumbers : Bool := false
  squeeze : Bool := false
  ends : Bool := false
  tabs : Bool := false
  controls : Bool := false

structure State where
  line : Nat := 0
  atStart : Bool := true
  blanks : Nat := 0
  returned : Bool := false

/-- A character that cannot be seen, in a way that can. -/
def visible (c : Char) : String :=
  let low (n : Nat) : String :=
    if n < 32 then "^" ++ (Char.ofNat (n + 64)).toString
    else if n = 127 then "^?"
    else (Char.ofNat n).toString
  if 128 ≤ c.toNat then "M-" ++ low (c.toNat - 128) else low c.toNat

def Style.isPlain (s : Style) : Bool :=
  !(s.numbers || s.squeeze || s.ends || s.tabs || s.controls)

def numbered (n : Nat) : String :=
  let ds := toString n
  String.ofList (List.replicate (6 - ds.length) ' ') ++ ds ++ "\t"

def char (style : Style) (s : State) (c : Char) : String × State :=
  let held := if s.returned then (if style.ends && c = '\n' then "^M" else "\r") else ""
  if c = '\n' then
    let isBlank := s.atStart && !s.returned
    if isBlank && style.squeeze && 1 ≤ s.blanks then ("", s)
    else
      let hasNumber := isBlank && style.numbers && !style.someNumbers
      let line := if hasNumber then s.line + 1 else s.line
      let number := if hasNumber then numbered line else ""
      (number ++ held ++ (if style.ends then "$" else "") ++ "\n",
        { line, atStart := true, blanks := if isBlank then s.blanks + 1 else 0 })
  else
    let line := if s.atStart && style.numbers then s.line + 1 else s.line
    let number := if s.atStart && style.numbers then numbered line else ""
    if c = '\r' && style.ends && !style.controls then
      (held ++ number, { line, atStart := false, returned := true })
    else
      let text :=
        if c = '\t' then (if style.tabs then "^I" else "\t")
        else if style.controls then visible c
        else c.toString
      (held ++ number ++ text, { line, atStart := false })

def text (style : Style) (s : State) (cs : List Char) : String × State :=
  let (pieces, s) := cs.foldl (fun (pieces, s) c =>
    let (piece, s) := char style s c
    (piece :: pieces, s)) (([] : List String), s)
  (String.join pieces.reverse, s)

def copy (style : Style) (name : String) (fd : Nat) : (limit : Nat) → State → Tool (Nat × State)
  | 0, s => return (0, s)
  | limit + 1, s => do
    match ← Tool.read fd Tool.readSize with
    | .error r =>
      Tool.complain s!"{shown name}: {r.reason}"
      return (1, s)
    | .ok "" => return (0, s)
    | .ok piece =>
      let (out, s) := if style.isPlain then (piece, s) else text style s piece.toList
      Tool.put out
      Tool.flush
      if (← get).refused?.isSome then Tool.exit 1 else copy style name fd limit s

end Show

def closeInput : Tool Unit := do
  let r : Except Refusal Unit ← Tool.call (.close 0)
  match r with
  | .ok () => return ()
  | .error r => Tool.fail s!"closing standard input: {r.reason}"

def cat : Utility := fun args => do
  let choice ← choose
    { letters := "benstuvAET"
      words := [("number-nonblank", .nothing, 'b'), ("number", .nothing, 'n'),
        ("squeeze-blank", .nothing, 's'), ("show-nonprinting", .nothing, 'v'),
        ("show-ends", .nothing, 'E'), ("show-tabs", .nothing, 'T'),
        ("show-all", .nothing, 'A')] } args
  let has (letters : String) : Bool := letters.toList.any choice.has
  let style : Show.Style :=
    { numbers := has "nb", someNumbers := has "b", squeeze := has "s", ends := has "eAE"
      tabs := has "tAT", controls := has "vetA" }
  let step (state : Nat × Show.State) (path : String) : Tool (Nat × Show.State) := do
    let (code, s) := state
    if path = "-" then
      let (more, s) ← Show.copy style path 0 Tool.readLimit s
      return (max code more, s)
    else
      match ← Tool.openFile path with
      | .error r =>
        Tool.complain s!"{shown path}: {r.reason}"
        return (1, s)
      | .ok fd =>
        let (more, s) ← Show.copy style path fd Tool.readLimit s
        Tool.close fd
        return (max code more, s)
  let paths := if choice.others.isEmpty then ["-"] else choice.others
  let (code, s) ← paths.foldlM step (0, {})
  if s.returned then Tool.put "\r"
  if paths.contains "-" then closeInput
  return code

namespace Part

def amount? (text : String) : Option Nat :=
  let digits := text.toList.takeWhile Char.isDigit
  let n := (String.ofList digits).toNat?
  let unit? : Option Nat :=
    let powers := "KMGTPEZYRQ".toList
    let power (c : Char) : Nat := (powers.idxOf c) + 1
    match text.toList.drop digits.length with
    | [] => some 1
    | ['b'] => some 512
    | 'k' :: rest | 'K' :: rest => scale 1 rest
    | 'm' :: rest => scale 2 rest
    | c :: rest => if powers.contains c then scale (power c) rest else none
  match n, unit? with
  | some n, some unit => some (n * unit)
  | none, some unit => if digits.isEmpty && text.length = 1 then some unit else none
  | _, none => none
where
  scale (power : Nat) : List Char → Option Nat
    | [] | ['i', 'B'] => some (Nat.pow 1024 power)
    | ['B'] => some (Nat.pow 1000 power)
    | _ => none

structure Wanted where
  octets : Bool := false
  count : Nat := 10
  other : Bool := false
  ending : Char := '\n'

def line (ending : Char) (cs : List Char) : List Char × List Char :=
  let body := cs.takeWhile (· != ending)
  (cs.take (body.length + 1), cs.drop (body.length + 1))

def lines (ending : Char) : (count : Nat) → List Char → List Char × List Char
  | 0, cs => ([], cs)
  | _, [] => ([], [])
  | count + 1, cs =>
    let (first, rest) := line ending cs
    let (more, rest) := lines ending count rest
    (first ++ more, rest)

def lineCount (ending : Char) (cs : List Char) : Nat :=
  let ends := cs.count ending
  if cs.isEmpty || cs.getLast? = some ending then ends else ends + 1

def Wanted.start (w : Wanted) (cs : List Char) : List Char :=
  if w.octets then cs.take (if w.other then cs.length - w.count else w.count)
  else
    let n := if w.other then lineCount w.ending cs - w.count else w.count
    (lines w.ending n cs).1

def Wanted.rest (w : Wanted) (cs : List Char) : List Char :=
  if w.octets then cs.drop (if w.other then w.count - 1 else cs.length - w.count)
  else
    let n := if w.other then w.count - 1 else lineCount w.ending cs - w.count
    (lines w.ending n cs).2

/-- Enough has been read of a file of which only the beginning is wanted. -/
def Wanted.isEnough (w : Wanted) (cs : List Char) : Bool :=
  !w.other && (if w.octets then w.count ≤ cs.length else w.count ≤ cs.count w.ending)

def readStart (w : Wanted) (fd : Nat) : (limit : Nat) → List Char →
    Tool (List Char × Option Refusal)
  | 0, cs => return (cs, none)
  | limit + 1, cs => do
    if w.isEnough cs then return (cs, none)
    else
      let most := if w.octets && !w.other then min 1024 (w.count - cs.length) else 1024
      match ← Tool.read fd most with
      | .error r => return (cs, some r)
      | .ok "" => return (cs, none)
      | .ok piece => readStart w fd limit (cs ++ piece.toList)

def files (paths : List String) (titles : Bool)
    (part : (fd : Nat) → Tool (String × Option Refusal)) : Tool Nat := do
  let step (state : Bool × Nat) (path : String) : Tool (Bool × Nat) := do
    let (isFirst, code) := state
    let name := if path = "-" then "standard input" else path
    let fd? ← if path = "-" then pure (.ok 0) else Tool.openFile path
    match fd? with
    | .error r =>
      Tool.complain s!"cannot open {named name} for reading: {r.reason}"
      return (isFirst, 1)
    | .ok fd =>
      if titles then
        let gap := if isFirst then "" else "\n"
        Tool.put s!"{gap}==> {name} <==\n"
      let (text, fault?) ← part fd
      Tool.put text
      if path ≠ "-" then Tool.close fd
      match fault? with
      | none => return (false, code)
      | some r =>
        Tool.complain s!"error reading {named name}: {r.reason}"
        return (false, 1)
  let (_, code) ← paths.foldlM step (true, 0)
  return code

def oldStyle (args : List String) : List String :=
  match args with
  | [] => []
  | arg :: more =>
    match arg.toList with
    | '-' :: c :: cs =>
      if c.isDigit then
        let digits := (c :: cs).takeWhile Char.isDigit
        let letters := (c :: cs).drop digits.length
        let unit := letters.filter fun l => "bkm".contains l
        let kind := if letters.contains 'c' || !unit.isEmpty then "-c" else "-n"
        let flags := letters.filter fun l => "qvz".contains l
        (kind ++ String.ofList (digits ++ unit.take 1)) ::
          (flags.map fun l => String.ofList ['-', l]) ++ more
      else args
    | _ => args

def known : Known :=
  { letters := "c:n:qvzfF"
    words := [("bytes", .value, 'c'), ("lines", .value, 'n'), ("quiet", .nothing, 'q'),
      ("silent", .nothing, 'q'), ("verbose", .nothing, 'v'), ("zero-terminated", .nothing, 'z'),
      ("follow", .maybe, 'f')] }

/-- What the options ask for. A count with the sign means what is left out. -/
def wanted (choice : Choice) (sign : Char) : Tool Wanted := do
  let ending := if choice.has 'z' then '\x00' else '\n'
  match choice.lastOf? ['c', 'n'] with
  | none => return { ending }
  | some letter =>
    let value := (choice.value? letter).getD ""
    let other := value.toList.head? = some sign
    let bare := value.toList.head?.any fun c => c == '+' || c == '-'
    let body := if bare then String.ofList (value.toList.drop 1) else value
    match amount? body with
    | some count => return { octets := letter = 'c', count, other, ending }
    | none =>
      let what := if letter = 'c' then "bytes" else "lines"
      Tool.fail s!"invalid number of {what}: {cited value}"

def titled (choice : Choice) : Bool :=
  match choice.lastOf? ['q', 'v'] with
  | some 'q' => false
  | some _ => true
  | none => 1 < choice.others.length

end Part

def head : Utility := fun args => do
  let choice ← choose Part.known (Part.oldStyle args)
  let wanted ← Part.wanted choice '-'
  let paths := if choice.others.isEmpty then ["-"] else choice.others
  Part.files paths (Part.titled choice) fun fd => do
    let (cs, fault?) ← Part.readStart wanted fd Tool.readLimit []
    return (String.ofList (wanted.start cs), fault?)

def tail : Utility := fun args => do
  let args := match args with
    | [] => []
    | arg :: more =>
      match arg.toList with
      | '+' :: c :: cs =>
        if c.isDigit && more.length ≤ 1 then
          let digits := (c :: cs).takeWhile Char.isDigit
          let kind := match (c :: cs).drop digits.length with
            | [] | ['l'] => some "-n+"
            | ['c'] => some "-c+"
            | _ => none
          match kind with
          | some kind => (kind ++ String.ofList digits) :: more
          | none => args
        else args
      | _ => Part.oldStyle args
  let choice ← choose Part.known args
  let wanted ← Part.wanted choice '+'
  let paths := if choice.others.isEmpty then ["-"] else choice.others
  Part.files paths (Part.titled choice) fun fd => do
    match ← Tool.readAll fd with
    | .ok text => return (String.ofList (wanted.rest text.toList), none)
    | .error r => return ("", some r)

namespace Count

structure Totals where
  lines : Nat := 0
  words : Nat := 0
  octets : Nat := 0
  longest : Nat := 0

def isSpace (c : Char) : Bool := c == ' ' || (9 ≤ c.toNat && c.toNat ≤ 13)

def longest : List Char → (column most : Nat) → Nat
  | [], column, most => max column most
  | c :: cs, column, most =>
    if c = '\n' || c = '\r' || c = '\x0c' then longest cs 0 (max column most)
    else if c = '\t' then longest cs (column + 8 - column % 8) most
    else if 32 ≤ c.toNat && c.toNat < 127 then longest cs (column + 1) most
    else longest cs column most

def words (cs : List Char) : Nat :=
  let step (state : Nat × Bool) (c : Char) : Nat × Bool :=
    let (n, inWord) := state
    if isSpace c then (n, false)
    else if inWord || c.toNat ≤ 32 || 127 ≤ c.toNat then state
    else (n + 1, true)
  (cs.foldl step (0, false)).1

def ofText (text : String) : Totals :=
  let cs := text.toList
  { lines := cs.count '\n', words := words cs, octets := cs.length
    longest := longest cs 0 0 }

def add (a b : Totals) : Totals :=
  { lines := a.lines + b.lines, words := a.words + b.words, octets := a.octets + b.octets
    longest := max a.longest b.longest }

def line (wanted : List Char) (width : Nat) (t : Totals) (name? : Option String) : String :=
  let numbers := "lwmcL".toList.filterMap fun letter =>
    if !wanted.contains letter then none
    else some (match letter with
      | 'l' => t.lines
      | 'w' => t.words
      | 'L' => t.longest
      | _ => t.octets)
  let padded (n : Nat) : String :=
    let ds := toString n
    String.ofList (List.replicate (width - ds.length) ' ') ++ ds
  let name := match name? with
    | some name => " " ++ name
    | none => ""
  " ".intercalate (numbers.map padded) ++ name ++ "\n"

end Count

def wc : Utility := fun args => do
  let choice ← choose
    { letters := "clLmw"
      words := [("bytes", .nothing, 'c'), ("chars", .nothing, 'm'), ("lines", .nothing, 'l'),
        ("words", .nothing, 'w'), ("max-line-length", .nothing, 'L')] } args
  let wanted := "lwmcL".toList.filter choice.has
  let wanted := if wanted.isEmpty then ['l', 'w', 'c'] else wanted
  let paths := choice.others
  let files := if paths.isEmpty then ["-"] else paths
  let nodes ← files.mapM fun path => do
    match ← Tool.examine (if path = "-" then "/dev/stdin" else path) with
    | .ok (_, _, node) => return some (match node.kind with
        | .file contents => some contents.length
        | .program _ => some Node.binary.length
        | _ => none)
    | .error _ => return none
  let known := nodes.filterMap id
  let least := if known.any Option.isNone then 7 else 1
  let width :=
    if files.length = 1 && wanted.length = 1 then 1
    else max least (toString ((known.filterMap id).foldl (· + ·) 0)).length
  let step (state : Nat × Count.Totals) (path : String) : Tool (Nat × Count.Totals) := do
    let (code, totals) := state
    let name? := if paths.isEmpty then none else some path
    let fd? ← if path = "-" then pure (.ok 0) else Tool.openFile path
    match fd? with
    | .error r =>
      Tool.complain s!"{shown path}: {r.reason}"
      return (1, totals)
    | .ok fd =>
      let (text, fault?) ← do
        match ← Tool.readAll fd with
        | .ok text => pure (text, none)
        | .error r => pure ("", some r)
      if path ≠ "-" then Tool.close fd
      match fault? with
      | some r => Tool.complain s!"{shown path}: {r.reason}"
      | none => pure ()
      let count := Count.ofText text
      Tool.put (Count.line wanted width count name?)
      return (if fault?.isSome then 1 else code, Count.add totals count)
  let (code, totals) ← files.foldlM step (0, {})
  if 1 < files.length then Tool.put (Count.line wanted width totals (some "total"))
  return code

end ReloadProbe.Rehearsal.Utility
