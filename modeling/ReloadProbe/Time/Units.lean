import ReloadProbe.Text.Blank
import ReloadProbe.Time.Duration

/-!
Lengths of time as people write them: numbers with units, such as `1m 30s`. Reading takes each unit
under several names and an exact decimal fraction; writing uses one name for each unit, the largest
first. A second form, `brief`, is one decimal number in the largest fitting unit.
-/
namespace ReloadProbe.Duration

inductive TimeUnit where
  | nanosecond | microsecond | millisecond | second | minute | hour | day | week | month | year
  deriving DecidableEq

namespace TimeUnit

def ofName? (name : String) : Option TimeUnit :=
  if name ∈ ["nanos", "nsec", "ns"] then some nanosecond
  else if name ∈ ["usec", "us", "µs"] then some microsecond
  else if name ∈ ["millis", "msec", "ms"] then some millisecond
  else if name ∈ ["seconds", "second", "secs", "sec", "s"] then some second
  else if name ∈ ["minutes", "minute", "min", "mins", "m"] then some minute
  else if name ∈ ["hours", "hour", "hr", "hrs", "h"] then some hour
  else if name ∈ ["days", "day", "d"] then some day
  else if name ∈ ["weeks", "week", "wk", "wks", "w"] then some week
  else if name ∈ ["months", "month", "M"] then some month
  else if name ∈ ["years", "year", "yr", "yrs", "y"] then some year
  else none

def seconds : TimeUnit → Nat
  | nanosecond | microsecond | millisecond => 0
  | second => 1
  | minute => 60
  | hour => 3600
  | day => 86400
  | week => 604800
  | month => 2630016
  | year => 31557600

def nanos : TimeUnit → Nat
  | nanosecond => 1
  | microsecond => 1000
  | millisecond => 1000000
  | _ => 0

end TimeUnit

/-- A number that does not fit in 64 bits is refused wherever it arises. -/
def bounded (n : Nat) : Option Nat :=
  if n < 18446744073709551616 then some n else none

def extend (d : Duration) (seconds nanos : Nat) : Option Duration := do
  let nanos ← bounded (d.nanos + nanos)
  let seconds ← bounded (seconds + nanos / 1000000000)
  let total ← bounded (d.seconds.toNat + seconds)
  return ⟨UInt64.ofNat total, nanos % 1000000000, rest_lt nanos⟩

structure Fraction where
  digits : Nat
  scale : Nat

def Fraction.of (f : Fraction) (length : Nat) : Option Nat := do
  let n ← bounded (f.digits * length)
  if n % f.scale = 0 then some (n / f.scale) else none

/-- The seconds and nanoseconds of a fraction of a unit. It comes out even in nanoseconds up to the
minute and in seconds above it; a nanosecond has no fractions. -/
def Fraction.ofUnit (f : Fraction) : TimeUnit → Option (Nat × Nat)
  | .nanosecond => none
  | .microsecond => do return (0, ← f.of 1000)
  | .millisecond => do return (0, ← f.of 1000000)
  | .second => do return (0, ← f.of 1000000000)
  | .minute => do return (0, ← f.of 60000000000)
  | unit => do return (← f.of unit.seconds, 0)

def addUnits (d : Duration) (unit : TimeUnit) (whole : Nat) (fraction : Option Fraction) :
    Option Duration := do
  let d ← d.extend (← bounded (whole * unit.seconds)) (← bounded (whole * unit.nanos))
  match fraction with
  | none => return d
  | some f =>
    let (seconds, nanos) ← f.ofUnit unit
    d.extend seconds nanos

inductive Reading where
  /-- Before a number. -/
  | gap
  | whole (n : Nat)
  /-- After the point. -/
  | fraction (n : Nat) (f : Fraction)
  /-- Within the name of a unit, of which the letters so far stand last first. -/
  | unit (n : Nat) (f : Option Fraction) (letters : List Char)

def isUnitLetter (c : Char) : Bool :=
  ('a' ≤ c && c ≤ 'z') || ('A' ≤ c && c ≤ 'Z') || c == 'µ'

def digit? (c : Char) : Option Nat :=
  if '0' ≤ c ∧ c ≤ '9' then some (c.toNat - 48) else none

def addItem (total : Option Duration) (n : Nat) (f : Option Fraction) (letters : List Char) :
    Option (Option Duration) := do
  let unit ← TimeUnit.ofName? (String.ofList letters.reverse)
  return some (← (total.getD zero).addUnits unit n f)

/-- One character further. The total is none until the first item is complete. -/
def Reading.step : Option Duration × Reading → Char → Option (Option Duration × Reading)
  | (total, gap), c =>
    match digit? c with
    | some d => some (total, whole d)
    | none => if Text.isBlank c then some (total, gap) else none
  | (total, whole n), c =>
    match digit? c with
    | some d => do return (total, whole (← bounded (n * 10 + d)))
    | none =>
      if Text.isBlank c then some (total, whole n)
      else if isUnitLetter c then some (total, unit n none [c])
      else if c = '.' then some (total, fraction n ⟨0, 1⟩)
      else none
  | (total, fraction n f), c =>
    match digit? c with
    | some d => do
      return (total, fraction n ⟨← bounded (f.digits * 10 + d), ← bounded (f.scale * 10)⟩)
    | none =>
      if Text.isBlank c then some (total, fraction n f)
      else if isUnitLetter c ∧ f.scale ≠ 1 then some (total, unit n (some f) [c])
      else none
  | (total, unit n f letters), c =>
    match digit? c with
    | some d => do return (← addItem total n f letters, whole d)
    | none =>
      if Text.isBlank c then do return (← addItem total n f letters, gap)
      else if isUnitLetter c then some (total, unit n f (c :: letters))
      else none

def Reading.finish : Option Duration × Reading → Option Duration
  | (total, gap) => total
  | (total, unit n f letters) => (addItem total n f letters).join
  | (_, whole _) | (_, fraction _ _) => none

/-- Numbers with units. The text `0` needs no unit. -/
def parse? (s : String) : Option Duration :=
  if s = "0" then some zero
  else (s.toList.foldlM Reading.step (none, Reading.gap)).bind Reading.finish

/-- A count of a unit, if there is any. Long names take an `s` in the plural. -/
def item (n : Nat) (name : String) (plural : Bool) : List String :=
  if n = 0 then [] else [s!"{n}{name}" ++ if plural && n > 1 then "s" else ""]

def write (d : Duration) : String :=
  let s := d.seconds.toNat
  let items :=
    item (s / 31557600) "year" true ++
    item (s % 31557600 / 2630016) "month" true ++
    item (s % 31557600 % 2630016 / 86400) "day" true ++
    item (s % 31557600 % 2630016 % 86400 / 3600) "h" false ++
    item (s % 31557600 % 2630016 % 86400 % 3600 / 60) "m" false ++
    item (s % 31557600 % 2630016 % 86400 % 60) "s" false ++
    item (d.nanos / 1000000) "ms" false ++
    item (d.nanos / 1000 % 1000) "us" false ++
    item (d.nanos % 1000) "ns" false
  if items.isEmpty then "0s" else " ".intercalate items

def fractionText (places n : Nat) : String :=
  let digits := Nat.toDigits 10 n
  let padded := List.replicate (places - digits.length) '0' ++ digits
  if n = 0 then "" else
    String.ofList ('.' :: (padded.reverse.dropWhile (· == '0')).reverse)

def brief (d : Duration) : String :=
  if d.seconds ≠ 0 then s!"{d.seconds.toNat}{fractionText 9 d.nanos}s"
  else if d.nanos ≥ 1000000 then s!"{d.nanos / 1000000}{fractionText 6 (d.nanos % 1000000)}ms"
  else if d.nanos ≥ 1000 then s!"{d.nanos / 1000}{fractionText 3 (d.nanos % 1000)}µs"
  else s!"{d.nanos}ns"

end ReloadProbe.Duration
