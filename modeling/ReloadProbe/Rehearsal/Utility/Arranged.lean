import ReloadProbe.Rehearsal.Utility.Lines

/-! Programs that put lines in order and compare neighbours. -/
namespace ReloadProbe.Rehearsal.Utility

namespace Arranged

structure Manner where
  numeric : Bool := false
  general : Bool := false
  human : Bool := false
  month : Bool := false
  version : Bool := false
  fold : Bool := false
  dictionary : Bool := false
  ignoreControls : Bool := false
  reverse : Bool := false
  blanksBefore : Bool := false
  blanksAfter : Bool := false

def Manner.set? (m : Manner) (c : Char) : Option Manner :=
  match c with
  | 'n' => some { m with numeric := true }
  | 'g' => some { m with general := true }
  | 'h' => some { m with human := true }
  | 'M' => some { m with month := true }
  | 'V' => some { m with version := true }
  | 'f' => some { m with fold := true }
  | 'd' => some { m with dictionary := true }
  | 'i' => some { m with ignoreControls := true }
  | 'r' => some { m with reverse := true }
  | 'b' => some { m with blanksBefore := true, blanksAfter := true }
  | _ => none

def Manner.isPlain (m : Manner) : Bool :=
  !(m.numeric || m.general || m.human || m.month || m.version || m.fold || m.dictionary ||
    m.ignoreControls || m.reverse || m.blanksBefore || m.blanksAfter)

/-- A part of a line: fields and characters, counted from one; a character of number zero is the
last one of its field. -/
structure Key where
  startField : Nat
  startChar : Nat := 1
  last? : Option (Nat × Nat) := none
  manner : Manner := {}

def fields (separator? : Option Char) (line : List Char) : List (List Char) :=
  match separator? with
  | some c => line.splitOn c
  | none =>
    let rec go : Nat → List Char → List (List Char)
      | 0, _ | _, [] => []
      | limit + 1, cs =>
        let blanks := cs.takeWhile Lines.isBlank
        let rest := cs.drop blanks.length
        let word := rest.takeWhile (!Lines.isBlank ·)
        (blanks ++ word) :: go limit (rest.drop word.length)
    go (line.length + 1) line

def offset (separator? : Option Char) (fs : List (List Char)) (n : Nat) : Nat :=
  (fs.take (n - 1)).foldl (fun sum f => sum + f.length + (if separator?.isSome then 1 else 0)) 0

def Key.text (k : Key) (separator? : Option Char) (line : List Char) : List Char :=
  let fs := fields separator? line
  let skip (blanks : Bool) (at' : Nat) : Nat :=
    if blanks then at' + ((line.drop at').takeWhile Lines.isBlank).length else at'
  let start := if fs.length < k.startField then line.length
    else skip k.manner.blanksBefore (offset separator? fs k.startField) + (k.startChar - 1)
  let finish := match k.last? with
    | none => line.length
    | some (field, char) =>
      if fs.length < field then line.length
      else if char = 0 then
        offset separator? fs field + ((fs[field - 1]?).getD []).length
      else skip k.manner.blanksAfter (offset separator? fs field) + char
  (line.take (max start (min finish line.length))).drop start

def number (cs : List Char) : Bool × List Char × List Char × List Char :=
  let cs := cs.dropWhile Lines.isBlank
  let (negative, body) := match cs with
    | '-' :: rest => (true, rest)
    | rest => (false, rest)
  let whole := body.takeWhile Char.isDigit
  let rest := body.drop whole.length
  let fraction := match rest with
    | '.' :: rest => rest.takeWhile Char.isDigit
    | _ => []
  let after := rest.drop (if fraction.isEmpty then 0 else fraction.length + 1)
  let whole := whole.dropWhile (· = '0')
  let fraction := (fraction.reverse.dropWhile (· = '0')).reverse
  (negative && !(whole.isEmpty && fraction.isEmpty), whole, fraction, after)

def compareNumbers (a b : List Char) : Ordering :=
  let (m, aw, af, _) := number a
  let (n, bw, bf, _) := number b
  let size : Ordering := ((compare aw.length bw.length).then
    (compare (String.ofList aw) (String.ofList bw))).then
      (compare (String.ofList af) (String.ofList bf))
  match m, n with
  | true, false => .lt
  | false, true => .gt
  | true, true => size.swap
  | false, false => size

def months : List String :=
  ["JAN", "FEB", "MAR", "APR", "MAY", "JUN", "JUL", "AUG", "SEP", "OCT", "NOV", "DEC"]

def monthOf (cs : List Char) : Nat :=
  let name := String.ofList (((cs.dropWhile Lines.isBlank).take 3).map Char.toUpper)
  match months.findIdx? (· == name) with
  | some i => i + 1
  | none => 0

def scale (cs : List Char) : Nat :=
  let (_, _, _, after) := number cs
  match after.head? with
  | some c => ("KMGTPEZYRQ".toList.findIdx? (· == (if c = 'k' then 'K' else c))).elim 0 (· + 1)
  | none => 0

def compareHuman (a b : List Char) : Ordering :=
  let order (cs : List Char) : Int :=
    let (negative, whole, fraction, _) := number cs
    let s : Int := if whole.isEmpty && fraction.isEmpty then 0 else scale cs
    if negative then -s else s
  (compare (order a) (order b)).then (compareNumbers a b)

def generalOf (cs : List Char) : Nat × Int × Nat :=
  let r := Floating.read Floating.extended cs
  match r.found, r.value with
  | false, _ => (0, 0, 1)
  | true, .noNumber _ => (1, 0, 1)
  | true, .infinite true => (2, 0, 1)
  | true, .infinite false => (4, 0, 1)
  | true, .finite negative m e =>
    let (n, d) := Floating.fraction m e
    (3, if negative then -n else n, d)

def compareGeneral (a b : List Char) : Ordering :=
  let (i, m, c) := generalOf a
  let (j, n, d) := generalOf b
  (compare i j).then (compare (m * d) (n * c))

def compareVersions : (limit : Nat) → List Char → List Char → Ordering
  | 0, _, _ => .eq
  | limit + 1, a, b =>
    let rank (c : Option Char) : Int := match c with
      | none => 0
      | some c => if c.isDigit then 0 else if c = '~' then -1
        else if c.isAlpha then c.toNat else c.toNat + 256
    let x := a.takeWhile (!Char.isDigit ·)
    let y := b.takeWhile (!Char.isDigit ·)
    let places := List.range (max x.length y.length)
    let texts := places.foldl (fun (o : Ordering) i =>
      o.then (compare (rank x[i]?) (rank y[i]?))) .eq
    let a := a.drop x.length
    let b := b.drop y.length
    let m := a.takeWhile Char.isDigit
    let n := b.takeWhile Char.isDigit
    let value (cs : List Char) : Nat := (String.ofList cs).toNat?.getD 0
    let order := texts.then (compare (value m) (value n))
    if order ≠ .eq || (a.isEmpty && b.isEmpty) then order
    else compareVersions limit (a.drop m.length) (b.drop n.length)

def Manner.compare (m : Manner) (a b : List Char) : Ordering :=
  let order :=
    if m.numeric then compareNumbers a b
    else if m.general then compareGeneral a b
    else if m.human then compareHuman a b
    else if m.month then Ord.compare (monthOf a) (monthOf b)
    else
      let prepare (cs : List Char) : List Char :=
        let cs := if m.dictionary then cs.filter fun c => c.isAlphanum || Lines.isBlank c
          else if m.ignoreControls then cs.filter fun c => 32 ≤ c.toNat && c.toNat < 127 else cs
        if m.fold then cs.map Char.toUpper else cs
      if m.version then compareVersions (a.length + b.length + 2) (prepare a) (prepare b)
      else Ord.compare (String.ofList (prepare a)) (String.ofList (prepare b))
  if m.reverse then order.swap else order

def key (text : String) : Tool Key := do
  let invalid {α : Type} (what : String) : Tool α :=
    Tool.fail s!"{what}: invalid field specification {cited text}" 2
  let number (cs : List Char) : Tool (Nat × List Char) := do
    let digits := cs.takeWhile Char.isDigit
    match (String.ofList digits).toNat? with
    | some n => return (n, cs.drop digits.length)
    | none =>
      let rest := String.ofList cs
      Tool.fail s!"invalid number at field start: invalid count at start of {cited rest}" 2
  let rec manners (m : Manner) (atEnd : Bool) : List Char → Manner × List Char
    | [] => (m, [])
    | c :: cs =>
      if c = 'b' then
        manners (if atEnd then { m with blanksAfter := true } else { m with blanksBefore := true })
          atEnd cs
      else
        match m.set? c with
        | some m => manners m atEnd cs
        | none => (m, c :: cs)
  let (startField, rest) ← number text.toList
  if startField = 0 then invalid "field number is zero"
  let (startChar, rest) ← match rest with
    | '.' :: rest => do
      let (n, rest) ← number rest
      if n = 0 then invalid "character offset is zero"
      pure (n, rest)
    | rest => pure (1, rest)
  let (manner, rest) := manners {} false rest
  match rest with
  | [] => return { startField, startChar, manner }
  | ',' :: rest =>
    let (field, rest) ← number rest
    if field = 0 then invalid "field number is zero"
    let (char, rest) ← match rest with
      | '.' :: rest => number rest
      | rest => pure (0, rest)
    let (manner, rest) := manners manner true rest
    if rest.isEmpty then return { startField, startChar, last? := some (field, char), manner }
    else invalid "stray character in field spec"
  | _ => invalid "stray character in field spec"

end Arranged

def sort : Utility := fun args => do
  modify fun d => { d with failure := 2 }
  let choice ← choose
    { letters := "bdfghik:mMno:rRsS:t:T:uVzcC"
      words := [("ignore-leading-blanks", .nothing, 'b'), ("dictionary-order", .nothing, 'd'),
        ("ignore-case", .nothing, 'f'), ("general-numeric-sort", .nothing, 'g'),
        ("human-numeric-sort", .nothing, 'h'), ("key", .value, 'k'), ("merge", .nothing, 'm'),
        ("month-sort", .nothing, 'M'), ("numeric-sort", .nothing, 'n'), ("output", .value, 'o'),
        ("reverse", .nothing, 'r'), ("stable", .nothing, 's'), ("field-separator", .value, 't'),
        ("unique", .nothing, 'u'), ("version-sort", .nothing, 'V'),
        ("zero-terminated", .nothing, 'z'), ("check", .maybe, 'c')] } args 2
  let manner := choice.options.foldl (fun (m : Arranged.Manner) (l, _) => (m.set? l).getD m) {}
  let separator? ← (choice.value? 't').mapM fun text => do
    match text.toList with
    | [c] => return c
    | ['\\', '0'] => return '\x00'
    | [] => Tool.fail "empty tab" 2
    | _ => Tool.fail s!"multi-character tab {cited text}" 2
  let keys ← (choice.options.filter fun (l, _) => l = 'k').mapM fun (_, text) => Arranged.key text
  let keys := keys.map fun k => if k.manner.isPlain then { k with manner } else k
  let ending := if choice.has 'z' then '\x00' else '\n'
  let paths := if choice.others.isEmpty then ["-"] else choice.others
  let texts ← paths.mapM fun path => do
    match ← Tool.contentsOf path with
    | .ok text => return Lines.ofText ending text
    | .error .isDirectory => Tool.fail s!"read failed: {shown path}: Is a directory" 2
    | .error r => Tool.fail s!"cannot read: {shown path}: {r.reason}" 2
  let lines := texts.flatten
  let byKeys (a b : String) : Ordering :=
    if keys.isEmpty then
      if manner.isPlain then .eq else
        let strip (cs : List Char) : List Char :=
          if manner.blanksBefore then cs.dropWhile Lines.isBlank else cs
        manner.compare (strip a.toList) (strip b.toList)
    else keys.foldl (fun (o : Ordering) k =>
      o.then (k.manner.compare (k.text separator? a.toList) (k.text separator? b.toList))) .eq
  let isStable := choice.has 's' || choice.has 'u'
  let usual (a b : String) : Ordering :=
    let o := compare a b
    if manner.reverse then o.swap else o
  let isBare := keys.isEmpty && { manner with reverse := false }.isPlain
  let order (a b : String) : Ordering :=
    if isBare then usual a b
    else (byKeys a b).then (if isStable then .eq else usual a b)
  if choice.has 'c' || choice.has 'C' then
    let rec check : Nat → List String → Tool Nat
      | n, a :: b :: rest => do
        let o := order a b
        if o == .gt || (choice.has 'u' && o == .eq) then
          let name := paths.headD "-"
          if choice.has 'c' then Tool.say s!"{(← get).name}: {name}:{n + 2}: disorder: {b}\n"
          return 1
        else check (n + 1) (b :: rest)
      | _, _ => return 0
    check 0 lines
  else
    let sorted :=
      if choice.has 'm' then
        texts.foldl (fun merged own => merged.merge own fun a b => order a b != .gt) []
      else lines.mergeSort fun a b => order a b != .gt
    let rec distinct : List String → List String
      | a :: b :: rest =>
        if order a b == .eq then distinct (a :: rest) else a :: distinct (b :: rest)
      | rest => rest
    termination_by lines => lines.length
    let kept := if choice.has 'u' then distinct sorted else sorted
    let text := String.join (kept.map (· ++ ending.toString))
    match choice.value? 'o' with
    | none => Tool.put text
    | some path =>
      match ← Tool.openFile path { write := true, create := true, truncate := true } with
      | .error r => Tool.fail s!"open failed: {shown path}: {r.reason}" 2
      | .ok fd =>
        let _ ← Tool.writeTo fd text
        Tool.close fd
    return 0

def uniq : Utility := fun args => do
  let choice ← choose
    { letters := "cdDf:is:uw:z"
      words := [("count", .nothing, 'c'), ("repeated", .nothing, 'd'),
        ("all-repeated", .maybe, 'D'), ("skip-fields", .value, 'f'),
        ("ignore-case", .nothing, 'i'), ("skip-chars", .value, 's'), ("unique", .nothing, 'u'),
        ("check-chars", .value, 'w'), ("zero-terminated", .nothing, 'z')] } args
  allow 2 choice.others
  let number (letter : Char) (what : String) : Tool (Option Nat) :=
    (choice.value? letter).mapM fun text => do
      match text.toNat? with
      | some n => return n
      | none => Tool.fail s!"{text}: invalid number of {what}"
  let skipFields ← number 'f' "fields to skip"
  let skipChars ← number 's' "bytes to skip"
  let width ← number 'w' "bytes to compare"
  let ending := if choice.has 'z' then '\x00' else '\n'
  let path := choice.others.headD "-"
  let lines ← match ← Tool.contentsOf path with
    | .ok text => pure (Lines.ofText ending text)
    | .error r =>
      if r = .isDirectory then Tool.fail s!"error reading {named path}: {r.reason}"
      else Tool.fail s!"{shown path}: {r.reason}"
  let rec skip : Nat → List Char → List Char
    | 0, cs => cs
    | n + 1, cs => skip n ((cs.dropWhile Lines.isBlank).dropWhile (!Lines.isBlank ·))
  let key (line : String) : List Char :=
    let cs := (skip (skipFields.getD 0) line.toList).drop (skipChars.getD 0)
    let cs := match width with
      | some n => cs.take n
      | none => cs
    if choice.has 'i' then cs.map Char.toUpper else cs
  let groups := lines.foldl (fun (groups : List (List String)) line =>
    match groups with
    | (first :: more) :: rest =>
      if key first = key line then (first :: more ++ [line]) :: rest else [line] :: groups
    | _ => [line] :: groups) []
  let out := groups.reverse.flatMap fun group =>
    let count := group.length
    let wanted := (!choice.has 'd' || 1 < count) && (!choice.has 'u' || count = 1)
    if choice.has 'D' then (if 1 < count then group else [])
    else if !wanted then []
    else
      let digits := toString count
      let padding := String.ofList (List.replicate (7 - digits.length) ' ')
      let before := if choice.has 'c' then s!"{padding}{digits} " else ""
      (group.take 1).map (before ++ ·)
  let text := String.join (out.map (· ++ ending.toString))
  match choice.others[1]? with
  | none | some "-" => Tool.put text
  | some path =>
    match ← Tool.openFile path { write := true, create := true, truncate := true } with
    | .error r => Tool.fail s!"{shown path}: {r.reason}"
    | .ok fd =>
      let _ ← Tool.writeTo fd text
      Tool.close fd
  return 0

namespace Common

structure Side where
  previous? : Option String := none
  lines : List String
  isTold : Bool := false

structure State where
  left : Side
  right : Side
  /-- A line has been seen that only one file has. -/
  isApart : Bool := false
  totals : Nat × Nat × Nat := (0, 0, 0)

inductive Check where
  | always
  | ifApart
  | never
  deriving DecidableEq

def inspect (check : Check) (isApart : Bool) (n : Nat) (side : Side) (a? b? : Option String) :
    Tool Side := do
  match a?, b? with
  | some a, some b =>
    if b < a && !side.isTold && (check = .always || (check = .ifApart && isApart)) then
      Tool.complain s!"file {n} is not in sorted order"
      if check = .always then Tool.exit 1
      return { side with isTold := true }
    else return side
  | _, _ => return side

/-- Goes on to the next line of a file. At its end the last two lines are looked at once more. -/
def Side.next (side : Side) (check : Check) (isApart : Bool) (n : Nat) : Tool Side := do
  match side.lines with
  | a :: b :: rest =>
    let side := { side with previous? := some a, lines := b :: rest }
    inspect check isApart n side (some a) (some b)
  | [a] => inspect check isApart n { side with lines := [] } side.previous? (some a)
  | [] => return side

end Common

def comm : Utility := fun args => do
  let choice ← choose
    { letters := "123z"
      words := [("check-order", .nothing, 'c'), ("nocheck-order", .nothing, 'n'),
        ("output-delimiter", .value, 'd'), ("total", .nothing, 't'),
        ("zero-terminated", .nothing, 'z')] } args
  demand 2 choice.others
  allow 2 choice.others
  let check : Common.Check := match choice.lastOf? ['c', 'n'] with
    | some 'c' => .always
    | some _ => .never
    | none => .ifApart
  let ending := if choice.has 'z' then '\x00' else '\n'
  let delimiter := match choice.value? 'd' with
    | none => "\t"
    | some "" => "\x00"
    | some text => text
  let read (path : String) : Tool (List String) := do
    match ← Tool.contentsOf path with
    | .ok text => return Lines.ofText ending text
    | .error r => Tool.fail (Lines.plainFault path r)
  let a ← read (choice.others.headD "")
  let b ← read ((choice.others[1]?).getD "")
  let before (n : Nat) : String :=
    String.join (((List.range n).filter fun i => !choice.has (Char.ofNat (49 + i))).map
      fun _ => delimiter)
  let line (n : Nat) (text : String) : Tool Unit :=
    if choice.has (Char.ofNat (49 + n)) then return ()
    else Tool.put (before n ++ text ++ ending.toString)
  let rec go : Nat → Common.State → Tool Common.State
    | 0, s => return s
    | limit + 1, s => do
      let order? : Option Ordering := match s.left.lines, s.right.lines with
        | [], [] => none
        | [], _ => some .gt
        | _, [] => some .lt
        | a :: _, b :: _ => some (compare a b)
      let (m, n, both) := s.totals
      match order? with
      | none => return s
      | some .eq =>
        line 2 (s.left.lines.headD "")
        let left ← s.left.next check s.isApart 1
        let right ← s.right.next check s.isApart 2
        go limit { s with left, right, totals := (m, n, both + 1) }
      | some .lt =>
        line 0 (s.left.lines.headD "")
        let left ← s.left.next check true 1
        go limit { s with left, isApart := true, totals := (m + 1, n, both) }
      | some .gt =>
        line 1 (s.right.lines.headD "")
        let right ← s.right.next check true 2
        go limit { s with right, isApart := true, totals := (m, n + 1, both) }
  let s ← go (a.length + b.length + 1) { left := { lines := a }, right := { lines := b } }
  if choice.has 't' then
    let (m, n, both) := s.totals
    Tool.put (delimiter.intercalate [toString m, toString n, toString both, "total"]
      ++ ending.toString)
  if s.left.isTold || s.right.isTold then Tool.fail "input is not in sorted order"
  return 0

end ReloadProbe.Rehearsal.Utility
