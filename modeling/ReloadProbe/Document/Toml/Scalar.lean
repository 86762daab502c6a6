import ReloadProbe.Document.Value
import ReloadProbe.Document.Toml.Quoted

/-! Truth values, numbers and moments of TOML, each from the word in which it is written. -/
namespace ReloadProbe.Toml

def digits? (isDigit : Char → Bool) : List Char → Option (List Char)
  | [] => none
  | [c] => if isDigit c then some [c] else none
  | c :: '_' :: rest => if isDigit c then (digits? isDigit rest).map (c :: ·) else none
  | c :: rest => if isDigit c then (digits? isDigit rest).map (c :: ·) else none

def ofDigits (base : Nat) (ds : List Char) : Nat :=
  ds.foldl (fun n c => n * base + (Hex.digit? c).getD 0) 0

/-- The digits of a whole number in base ten, which begin with zero only for zero itself. -/
def decimal? (word : List Char) : Option (List Char) := do
  let ds ← digits? Char.isDigit word
  if word.length > 1 && word.head? = some '0' then none else some ds

def unsigned (word : List Char) : List Char :=
  match word with
  | '+' :: rest | '-' :: rest => rest
  | word => word

/-- A whole number of 64 bits. Only one in base ten may have a sign. -/
def int? (word : List Char) : Option Int := do
  let n : Int ← match word with
    | '0' :: 'x' :: rest => do
      let ds ← digits? (fun c => (Hex.digit? c).isSome) rest
      pure (ofDigits 16 ds : Int)
    | '0' :: 'o' :: rest => do
      let ds ← digits? (fun c => '0' ≤ c && c ≤ '7') rest
      pure (ofDigits 8 ds : Int)
    | '0' :: 'b' :: rest => do
      let ds ← digits? (fun c => c == '0' || c == '1') rest
      pure (ofDigits 2 ds : Int)
    | word => do
      let n := ofDigits 10 (← decimal? (unsigned word))
      pure (if word.head? = some '-' then -(n : Int) else n)
  if -9223372036854775808 ≤ n ∧ n ≤ 9223372036854775807 then some n else none

def isExponent (word : List Char) : Bool := (digits? Char.isDigit (unsigned word)).isSome

def exponent (word : List Char) : Int :=
  let n : Int := ofDigits 10 (word.filter Char.isDigit)
  if word.head? = some '-' then -n else n

/-- Half a unit beyond the greatest number of double precision. What is not below it is infinite. -/
def leastInfinite : Nat := Nat.pow 2 1024 - Nat.pow 2 970

/-- `n * 10 ^ e` is too large for double precision. Its length alone settles most cases. -/
def overflows (n : Nat) (e : Int) : Bool :=
  let length := (Nat.toDigits 10 n).length + e
  if n = 0 || length < 309 then false
  else if 309 < length then true
  else if 0 ≤ e then leastInfinite ≤ n * Nat.pow 10 e.toNat
  else leastInfinite * Nat.pow 10 (-e).toNat ≤ n

/-- A whole number with a fraction, an exponent or both, which is not too large if it has no minus
sign; or an infinity, or no number. -/
def isReal (word : List Char) : Bool :=
  let body := unsigned word
  let isE (c : Char) : Bool := c == 'e' || c == 'E'
  if body == ['i', 'n', 'f'] || body == ['n', 'a', 'n'] then true
  else
    let whole := body.takeWhile fun c => c != '.' && !isE c
    let fraction := ((body.drop whole.length).takeWhile (!isE ·)).drop 1
    let power := (body.dropWhile (!isE ·)).drop 1
    let isPoint := (body.drop whole.length).head? == some '.'
    let isScaled := body.any isE
    (decimal? whole).isSome && (isPoint || isScaled) &&
      (!isPoint || (digits? Char.isDigit fraction).isSome) && (!isScaled || isExponent power) &&
      (word.head? == some '-' ||
        !overflows (ofDigits 10 ((whole ++ fraction).filter Char.isDigit))
          (exponent power - (fraction.filter Char.isDigit).length))

def fixed? (n : Nat) (word : List Char) : Option (Nat × List Char) :=
  let ds := word.take n
  if ds.length = n ∧ ds.all Char.isDigit then some (ofDigits 10 ds, word.drop n) else none

def after? (c : Char) : List Char → Option (List Char)
  | [] => none
  | d :: rest => if d = c then some rest else none

def isLeapYear (y : Nat) : Bool := y % 4 == 0 && (y % 100 != 0 || y % 400 == 0)

def daysInMonth (y m : Nat) : Nat :=
  match m with
  | 1 | 3 | 5 | 7 | 8 | 10 | 12 => 31
  | 4 | 6 | 9 | 11 => 30
  | 2 => if isLeapYear y then 29 else 28
  | _ => 0

def date? (word : List Char) : Option (List Char) := do
  let (y, word) ← fixed? 4 word
  let (m, word) ← fixed? 2 (← after? '-' word)
  let (d, word) ← fixed? 2 (← after? '-' word)
  if 1 ≤ d ∧ d ≤ daysInMonth y m then some word else none

def clock? (word : List Char) : Option (List Char) := do
  let (h, word) ← fixed? 2 word
  let (m, word) ← fixed? 2 (← after? ':' word)
  if h ≤ 23 ∧ m ≤ 59 then some word else none

def secondsFraction (digits : List Char) : List Char :=
  match ((digits.take 9).reverse.dropWhile (· == '0')).reverse with
  | [] => []
  | ds => '.' :: ds

def time? (word : List Char) : Option (List Char × List Char) := do
  let (s, rest) ← fixed? 2 (← after? ':' (← clock? word))
  let whole := word.take 8
  if s > 60 then none
  else
    match rest with
    | '.' :: rest =>
      let digits := rest.takeWhile Char.isDigit
      if digits.isEmpty then none
      else some (whole ++ secondsFraction digits, rest.drop digits.length)
    | rest => some (whole, rest)

/-- Nothing, or a difference from universal time. One of zero is written with a plus. -/
def offset? (word : List Char) : Option (List Char) :=
  match word with
  | [] => some []
  | ['Z'] | ['z'] => some ['Z']
  | sign :: rest =>
    if (sign == '+' || sign == '-') && clock? rest == some [] then
      some (if rest.all (fun c => c == '0' || c == ':') then '+' :: rest else word)
    else none

def timeAndOffset? (word : List Char) : Option (List Char) := do
  let (time, rest) ← time? word
  return time ++ (← offset? rest)

/-- A date, a time of day, or both with `T` between them; in the one form that each has. -/
def moment? (word : List Char) : Option (List Char) :=
  match date? word with
  | some [] => some word
  | some (c :: rest) =>
    if c == 'T' || c == 't' then do return word.take 10 ++ 'T' :: (← timeAndOffset? rest)
    else none
  | none =>
    match time? word with
    | some (time, []) => some time
    | _ => none

def isWordChar (c : Char) : Bool :=
  c.isAlphanum || c == '_' || c == '+' || c == '-' || c == '.' || c == ':'

/-- A value that is no text, list or table, and what follows it. A date and a time may have a
blank between them. -/
def scalarValue? (s : List Char) : Option (Value × List Char) :=
  let word := s.takeWhile isWordChar
  let rest := s.drop word.length
  if word == ['t', 'r', 'u', 'e'] then some (.bool true, rest)
  else if word == ['f', 'a', 'l', 's', 'e'] then some (.bool false, rest)
  else
    match int? word with
    | some n => some (.int n, rest)
    | none =>
      if isReal word then some (.real (String.ofList word), rest)
      else do
        let moment ← moment? word
        let more := rest.drop 1
        if date? word == some [] && rest.head? == some ' ' && (more.head?.any Char.isDigit) then
          let time := more.takeWhile isWordChar
          let text := moment ++ 'T' :: (← timeAndOffset? time)
          return (.moment (String.ofList text), more.drop time.length)
        else return (.moment (String.ofList moment), rest)

end ReloadProbe.Toml
