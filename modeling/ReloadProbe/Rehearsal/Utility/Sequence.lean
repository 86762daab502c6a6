import ReloadProbe.Rehearsal.Directive
import ReloadProbe.Rehearsal.Utility.Choice

/-! The program that counts. Numbers are kept exactly, as fractions of which the denominator is a
power of ten or two. -/
namespace ReloadProbe.Rehearsal.Utility

namespace Sequence

structure Term where
  numerator : Int
  denominator : Nat
  places? : Option Nat
  width : Int

def decimal? (cs : List Char) : Option (Int × Nat) := do
  let (negative, body) := match cs with
    | '-' :: rest => (true, rest)
    | '+' :: rest => (false, rest)
    | rest => (false, rest)
  let (n, places, after) ← Floating.pointed 10 body
  let (e, rest) := Floating.exponent ['e', 'E'] after
  if !rest.isEmpty then none
  else
    let e : Int := max (-5000) (min 5000 (e - places))
    let n : Int := if negative then -n else n
    return if 0 ≤ e then (n * Nat.pow 10 e.toNat, 1) else (n, Nat.pow 10 (-e).toNat)

def value? (arg : String) : Option (Int × Nat × Bool) :=
  let cs := arg.toList.dropWhile Numeral.isBlank
  match decimal? cs with
  | some (n, d) => some (n, d, true)
  | none =>
    let r := Floating.read Floating.extended cs
    if !r.found || !r.rest.isEmpty then none
    else
      match r.value with
      | .finite negative m e =>
        let (n, d) := Floating.fraction m e
        some (if negative then -n else n, d, true)
      | .infinite negative => some (if negative then -1 else 1, 0, false)
      | .noNumber _ => none

def shape (arg : String) (isFinite : Bool) : Option Nat × Int :=
  let cs := arg.toList.dropWhile fun c => Numeral.isBlank c || c == '+'
  let hasPoint := cs.contains '.'
  let first? : Option Nat := if hasPoint || cs.contains 'p' then none else some 0
  if (cs.any fun c => c == 'x' || c == 'X') || !isFinite then (first?, 0)
  else
    let whole := cs.takeWhile (· != '.')
    let fraction := (cs.drop (whole.length + 1)).takeWhile fun c => c != 'e' && c != 'E'
    let fractionLength := if hasPoint then fraction.length else 0
    let endsInDigit := whole.getLast?.any Char.isDigit
    let width : Int := cs.length
    let width := if !hasPoint then width
      else width + (if fractionLength = 0 then -1 else if endsInDigit then 0 else 1)
    let places : Nat := if hasPoint then fractionLength else 0
    let mantissa := cs.takeWhile fun c => c != 'e' && c != 'E'
    if mantissa.length = cs.length then (some places, width)
    else
      let e := (Numeral.read (some 10) (cs.drop (mantissa.length + 1))).value
      let width := width - (cs.length - mantissa.length : Int)
      if e < 0 then
        let width := if !hasPoint || mantissa.getLast? = some '.' then width + 1 else width
        (some (places + e.natAbs), width + e.natAbs)
      else
        let left := places - min places e.toNat
        let width := if hasPoint && left = 0 && fractionLength ≠ 0 then width - 1 else width
        (some left, width + (e.toNat - min fractionLength e.toNat : Nat))

def term (arg : String) : Tool Term := do
  match value? arg with
  | some (numerator, denominator, isFinite) =>
    let (places?, width) := shape arg isFinite
    return { numerator, denominator, places?, width }
  | none =>
    let r := Floating.read Floating.extended arg.toList
    match r.value, r.rest with
    | .noNumber _, [] => Tool.misuse s!"invalid 'not-a-number' argument: {cited arg}"
    | _, _ => Tool.misuse s!"invalid floating point argument: {cited arg}"

structure Format where
  before : String
  after : String
  directive : Directive
  letter : Char

def format (text : String) : Tool Format := do
  let rec plain : (limit : Nat) → List Char → List Char × List Char
    | 0, cs => ([], cs)
    | _, [] => ([], [])
    | limit + 1, '%' :: '%' :: cs =>
      let (text, rest) := plain limit cs
      ('%' :: text, rest)
    | _ + 1, '%' :: cs => ([], '%' :: cs)
    | limit + 1, c :: cs =>
      let (text, rest) := plain limit cs
      (c :: text, rest)
  let (before, rest) := plain (text.length + 1) text.toList
  match rest with
  | [] => Tool.fail s!"format {cited text} has no % directive"
  | _ :: rest =>
    let marks := rest.takeWhile fun c => "-+#0 '".contains c
    let (directive, _) := Directive.flags {} (marks.filter (· ≠ '\''))
    let (width, rest) := Numeral.digits 10 0 (rest.drop marks.length)
    let directive := { directive with width }
    let (directive, rest) := match rest with
      | '.' :: rest =>
        let (n, rest) := Numeral.digits 10 0 rest
        ({ directive with precision? := some n }, rest)
      | rest => (directive, rest)
    let rest := match rest with
      | 'L' :: rest => rest
      | rest => rest
    match rest with
    | [] => Tool.fail s!"format {cited text} ends in %"
    | letter :: rest =>
      if !"aAeEfFgG".contains letter then
        Tool.fail s!"format {cited text} has unknown %{letter} directive"
      else
        let (after, more) := plain (text.length + 1) rest
        if !more.isEmpty then Tool.fail s!"format {cited text} has too many % directives"
        else return { before := .ofList before, after := .ofList after, directive, letter }

def Format.text (f : Format) (numerator : Int) (denominator : Nat) : String :=
  let (x, _) :=
    Floating.nearest Floating.extended (numerator < 0) numerator.natAbs (max denominator 1)
  f.before ++ f.directive.floating Floating.extended f.letter x ++ f.after

def usualFormat (first step last : Term) (equal : Bool) : Format :=
  let plain (directive : Directive) (letter : Char) : Format :=
    { before := "", after := "", directive, letter }
  match first.places?, step.places?, last.places? with
  | some a, some b, some c =>
    let places := max a b
    let width :=
      if equal then
        let first := first.width + (places - a : Int) + (if a = 0 && places ≠ 0 then 1 else 0)
        let last := last.width + (places - c : Int) -
          (if c ≠ 0 && places = 0 then 1 else 0) + (if c = 0 && places ≠ 0 then 1 else 0)
        (max first last).toNat
      else 0
    plain { zeros := equal, width, precision? := some places } 'f'
  | _, _, _ => plain {} 'g'

def count (f : Format) (separator : String) (step last : Int) (endless : Bool) (denominator : Nat) :
    (limit : Nat) → (first : Bool) → Int → Tool Nat
  | 0, _, _ => return 0
  | limit + 1, first, n => do
    if !endless && (if step < 0 then n < last else last < n) then
      if !first then Tool.put "\n"
      return 0
    else
      if !first then Tool.put separator
      Tool.put (f.text n denominator)
      if (← get).refused?.isSome then return 1
      count f separator step last endless denominator limit false (n + step)

def splitAtNumber : List String → List String × List String
  | [] => ([], [])
  | arg :: args =>
    match arg.toList with
    | '-' :: c :: _ =>
      if c = '.' || c.isDigit then ([], arg :: args)
      else
        let isBare := arg = "-s" || arg = "-f" || arg = "--separator" || arg = "--format"
        match isBare, args with
        | true, value :: rest =>
          let (options, others) := splitAtNumber rest
          (arg :: value :: options, others)
        | _, args =>
          let (options, others) := splitAtNumber args
          (arg :: options, others)
    | _ => ([], arg :: args)

end Sequence

def seq : Utility := fun args => do
  let (options, numbers) := Sequence.splitAtNumber args
  let choice ← choose
    { letters := "f:s:w", inOrder := true
      words := [("equal-width", .nothing, 'w'), ("format", .value, 'f'),
        ("separator", .value, 's')] } options
  let numbers := choice.others ++ numbers
  demand 1 numbers
  allow 3 numbers
  let one : Sequence.Term := { numerator := 1, denominator := 1, places? := some 0, width := 1 }
  let terms ← numbers.mapM Sequence.term
  let format? ← (choice.value? 'f').mapM Sequence.format
  if format?.isSome && choice.has 'w' then
    Tool.misuse "format string may not be specified when printing equal width strings"
  let (first, step, last) := match terms with
    | [last] => (one, one, last)
    | [first, last] => (first, one, last)
    | [first, step, last] => (first, step, last)
    | _ => (one, one, one)
  if step.numerator = 0 then
    let value := cited ((numbers[1]?).getD "")
    Tool.misuse s!"invalid Zero increment value: {value}"
  let common := max 1 first.denominator * max 1 step.denominator * max 1 last.denominator
  let scaled (t : Sequence.Term) : Int := t.numerator * (common / max 1 t.denominator : Nat)
  let format := format?.getD (Sequence.usualFormat first step last (choice.has 'w'))
  let endless := last.denominator = 0 && (last.numerator < 0) == (step.numerator < 0)
  let isNever := last.denominator = 0 && !endless
  if isNever then return 0
  else
    Sequence.count format ((choice.value? 's').getD "\n") (scaled step) (scaled last) endless common
      Tool.readLimit true (scaled first)

end ReloadProbe.Rehearsal.Utility
