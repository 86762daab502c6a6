/-!
Lengths of time: whole seconds in 64 bits, and nanoseconds below a second. `toNanos` is the length
as one number.
-/
namespace ReloadProbe

structure Duration where
  seconds : UInt64
  nanos : Nat
  nanos_lt : nanos < 1000000000 := by decide
  deriving DecidableEq

namespace Duration

def ofSeconds (n : UInt64) : Duration := ⟨n, 0, by decide⟩

def ofMillis (n : Nat) : Duration :=
  ⟨UInt64.ofNat (n / 1000), n % 1000 * 1000000, by omega⟩

def zero : Duration := ofSeconds 0

def longest : Duration := ⟨18446744073709551615, 999999999, by decide⟩

def toNanos (d : Duration) : Nat := d.seconds.toNat * 1000000000 + d.nanos

def toMillis (d : Duration) : Nat := d.seconds.toNat * 1000 + d.nanos / 1000000

theorem rest_lt (n : Nat) : n % 1000000000 < 1000000000 := Nat.mod_lt n (by decide)

/-- The length of so many nanoseconds, unless its seconds need more than 64 bits. -/
def ofNanos? (n : Nat) : Option Duration :=
  if n / 1000000000 < 18446744073709551616 then
    some ⟨UInt64.ofNat (n / 1000000000), n % 1000000000, rest_lt n⟩
  else none

def times (d : Duration) (k : Nat) : Duration :=
  let nanos := d.nanos * k
  let seconds := d.seconds.toNat * k + nanos / 1000000000
  if seconds < 18446744073709551616 then
    ⟨UInt64.ofNat seconds, nanos % 1000000000, rest_lt nanos⟩
  else longest

def shorter (a b : Duration) : Bool :=
  a.seconds < b.seconds || (a.seconds == b.seconds && a.nanos < b.nanos)

def min (a b : Duration) : Duration := if b.shorter a then b else a

end Duration
end ReloadProbe
