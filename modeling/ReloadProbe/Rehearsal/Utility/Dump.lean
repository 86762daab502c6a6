import ReloadProbe.Rehearsal.Utility.Lines

/-!
A program that shows octets as numbers or characters, a row for each way of showing them. Rows of
the same octets line up.
-/
namespace ReloadProbe.Rehearsal.Utility

namespace Dump

inductive Form where
  | signed
  | unsigned
  | octal
  | hex
  | char
  | named
  deriving DecidableEq

structure Way where
  form : Form
  size : Nat
  withText : Bool := false

def Way.width (w : Way) : Nat :=
  let pick (a b c d : Nat) : Nat :=
    if w.size = 1 then a else if w.size = 2 then b else if w.size = 4 then c else d
  match w.form with
  | .signed => pick 4 6 11 20
  | .unsigned => pick 3 5 10 20
  | .octal => pick 3 6 11 22
  | .hex => pick 2 4 8 16
  | .char | .named => 3

def controlNames : List String :=
  ["nul", "soh", "stx", "etx", "eot", "enq", "ack", "bel", "bs", "ht", "nl", "vt", "ff", "cr", "so",
    "si", "dle", "dc1", "dc2", "dc3", "dc4", "nak", "syn", "etb", "can", "em", "sub", "esc", "fs",
    "gs", "rs", "us", "sp"]

def padded (fill : Char) (width : Nat) (s : String) : String :=
  String.ofList (List.replicate (width - s.length) fill) ++ s

def Way.text (w : Way) (octets : List Nat) : String :=
  let n := octets.foldr (fun b n => n * 256 + b) 0
  let range := Nat.pow 256 w.size
  match w.form with
  | .signed => toString (if range / 2 ≤ n then (n : Int) - range else n)
  | .unsigned => toString n
  | .octal => padded '0' w.width (String.ofList (Nat.toDigits 8 n))
  | .hex => padded '0' w.width (String.ofList (Nat.toDigits 16 n))
  | .named =>
    let n := n % 128
    match controlNames[n]? with
    | some name => name
    | none => if n = 127 then "del" else (Char.ofNat n).toString
  | .char =>
    if 32 ≤ n && n < 127 then (Char.ofNat n).toString
    else
      match n with
      | 0 => "\\0"
      | 7 => "\\a"
      | 8 => "\\b"
      | 9 => "\\t"
      | 10 => "\\n"
      | 11 => "\\v"
      | 12 => "\\f"
      | 13 => "\\r"
      | n => padded '0' 3 (String.ofList (Nat.toDigits 8 n))

def Way.gap (w : Way) (rowLength rowWidth : Nat) : Nat :=
  rowWidth - w.width * (rowLength / w.size)

/-- The values of a row. The last row may be short; its last value is then filled up with zeros. -/
def Way.row (w : Way) (rowLength rowWidth : Nat) (octets : List Nat) : String :=
  let fields := rowLength / w.size
  let gap := w.gap rowLength rowWidth
  let rec go : (limit i : Nat) → (left : Nat) → List Nat → List String
    | 0, _, _, _ | _, _, _, [] => []
    | limit + 1, i, left, octets =>
      let next := gap * (i - 1) / fields
      let own := octets.take w.size
      let own := own ++ List.replicate (w.size - own.length) 0
      padded ' ' (left - next + w.width) (w.text own) :: go limit (i - 1) next (octets.drop w.size)
  String.join (go fields fields gap octets)

def asText (octets : List Nat) : String :=
  let shown := octets.map fun n => if 32 ≤ n && n < 127 then Char.ofNat n else '.'
  "  >" ++ String.ofList shown ++ "<"

structure Address where
  base? : Option Nat := some 8
  width : Nat := 7

def Address.text (a : Address) (n : Nat) : String :=
  match a.base? with
  | none => ""
  | some base => padded '0' a.width (String.ofList (Nat.toDigits base n))

def Address.blanks (a : Address) : String :=
  match a.base? with
  | none => ""
  | some _ => String.ofList (List.replicate a.width ' ')

structure Manner where
  ways : List Way
  address : Address
  rowLength : Nat
  all : Bool

def Manner.rowWidth (m : Manner) : Nat :=
  m.ways.foldl (fun most w => max most ((w.width + 1) * (m.rowLength / w.size))) 0

def Manner.block (m : Manner) (position : Nat) (octets : List Nat) : String :=
  let rows := m.ways.zipIdx.map fun (w, i) =>
    let start := if i = 0 then m.address.text position else m.address.blanks
    let row := w.row m.rowLength m.rowWidth octets
    let fields := m.rowLength / w.size
    let given := (octets.length + w.size - 1) / w.size
    -- text stands where it would stand after a full row
    let missing := m.rowWidth - row.length
    let fill := if given < fields then String.ofList (List.replicate missing ' ') else ""
    start ++ row ++ (if w.withText then fill ++ asText octets else "") ++ "\n"
  String.join rows

/-- All rows. A row like the one before it is left out, and a star stands for all of those. -/
def Manner.blocks (m : Manner) : (limit position : Nat) → (before? : Option (List Nat)) →
    (starred : Bool) → List Nat → List String
  | 0, _, _, _, _ => []
  | limit + 1, position, before?, starred, octets =>
    match octets with
    | [] =>
      match m.address.base? with
      | none => []
      | some _ => [m.address.text position ++ "\n"]
    | octets =>
      let own := octets.take m.rowLength
      let rest := octets.drop m.rowLength
      let next := position + own.length
      if !m.all && before? = some own && own.length = m.rowLength then
        (if starred then "" else "*\n") :: m.blocks limit next before? true rest
      else m.block position own :: m.blocks limit next (some own) false rest

def size? (form : Form) (cs : List Char) : Option (Nat × List Char) :=
  match form, cs with
  | .char, cs | .named, cs => some (1, cs)
  | _, 'C' :: cs => some (1, cs)
  | _, 'S' :: cs => some (2, cs)
  | _, 'I' :: cs => some (4, cs)
  | _, 'L' :: cs => some (8, cs)
  | _, cs =>
    let digits := cs.takeWhile Char.isDigit
    match (String.ofList digits).toNat? with
    | none => some (4, cs)
    | some n => if [1, 2, 4, 8].contains n then some (n, cs.drop digits.length) else none

def form? : Char → Option Form
  | 'a' => some .named
  | 'c' => some .char
  | 'd' => some .signed
  | 'o' => some .octal
  | 'u' => some .unsigned
  | 'x' => some .hex
  | _ => none

def ways (text : String) : (limit : Nat) → List Char → Tool (List Way)
  | 0, _ | _, [] => return []
  | limit + 1, c :: cs => do
    match form? c with
    | none =>
      let bad := c.toString
      Tool.fail s!"invalid character {cited bad} in type string {cited text}"
    | some form =>
      match size? form cs with
      | none =>
        let n := String.ofList (cs.takeWhile Char.isDigit)
        Tool.fail (s!"invalid type string {cited text};\nthis system doesn't provide a {n}-byte " ++
          "integral type")
      | some (size, rest) =>
        let withText := rest.head? = some 'z'
        let rest := if withText then rest.drop 1 else rest
        return { form, size, withText } :: (← ways text limit rest)

def letterWay? : Char → Option Way
  | 'a' => some { form := .named, size := 1 }
  | 'b' => some { form := .octal, size := 1 }
  | 'c' => some { form := .char, size := 1 }
  | 'd' => some { form := .unsigned, size := 2 }
  | 'i' => some { form := .signed, size := 4 }
  | 'l' => some { form := .signed, size := 8 }
  | 'o' | 'B' => some { form := .octal, size := 2 }
  | 's' => some { form := .signed, size := 2 }
  | 'x' | 'h' => some { form := .hex, size := 2 }
  | 'I' | 'L' => some { form := .signed, size := 8 }
  | 'X' | 'H' => some { form := .hex, size := 4 }
  | 'D' => some { form := .unsigned, size := 4 }
  | 'O' => some { form := .octal, size := 4 }
  | _ => none

end Dump

def od : Utility := fun args => do
  let choice ← choose
    { letters := "A:j:N:S:t:vw::abcdDfFhHiIlLoOsxXeB"
      words := [("address-radix", .value, 'A'), ("skip-bytes", .value, 'j'),
        ("read-bytes", .value, 'N'), ("format", .value, 't'), ("output-duplicates", .nothing, 'v'),
        ("width", .maybe, 'w')] } args
  let address : Dump.Address ← match choice.value? 'A' with
    | none => pure {}
    | some text =>
      match text.toList.headD ' ' with
      | 'o' => pure {}
      | 'd' => pure { base? := some 10 }
      | 'x' => pure { base? := some 16, width := 6 }
      | 'n' => pure { base? := none }
      | c =>
        let bad := c.toString
        Tool.fail s!"invalid output address radix {named bad}; it must be one character from [doxn]"
  let ways ← choice.options.foldlM (fun (ways : List Dump.Way) (l, text) => do
    if l = 't' then return ways ++ (← Dump.ways text (text.length + 1) text.toList)
    else return ways ++ (Dump.letterWay? l).toList) []
  let ways := if ways.isEmpty then [{ form := .octal, size := 2 }] else ways
  let count (letter : Char) : Tool (Option Nat) := (choice.value? letter).mapM fun text => do
    match text.toNat? with
    | some n => return n
    | none => Tool.fail s!"invalid -{letter} argument {cited text}"
  let skip := (← count 'j').getD 0
  let most? ← count 'N'
  let unit := ways.foldl (fun unit w => Nat.lcm unit w.size) 1
  let rowLength ← match choice.value? 'w' with
    | none => pure 16
    | some "" => pure 32
    | some text =>
      match text.toNat? with
      | none => Tool.fail s!"invalid -w argument {cited text}"
      | some n =>
        if n = 0 || n % unit ≠ 0 then
          Tool.complain s!"warning: invalid width {n}; using {unit} instead"
          pure unit
        else pure n
  let paths := if choice.others.isEmpty then ["-"] else choice.others
  let (pieces, code) ← paths.foldlM (fun (pieces, code) path => do
    match ← Tool.contentsOf path with
    | .ok text => return (text :: pieces, code)
    | .error r =>
      Tool.complain (Lines.plainFault path r)
      return (pieces, 1)) (([] : List String), 0)
  let octets := (String.join pieces.reverse).toList.map Char.toNat
  if octets.length < skip then Tool.fail "cannot skip past end of combined input"
  let octets := octets.drop skip
  let octets := match most? with
    | some n => octets.take n
    | none => octets
  let m : Dump.Manner := { ways, address, rowLength, all := choice.has 'v' }
  (m.blocks (octets.length + 2) skip none false octets).forM Tool.put
  return code

end ReloadProbe.Rehearsal.Utility
