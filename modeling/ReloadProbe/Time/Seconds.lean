import ReloadProbe.Time.Duration

/-!
A length of time in seconds, to two places. The seconds are first taken as a binary64 number, the
sum of the whole seconds and of the nanoseconds over a billion, each rounded; the digits are then
those of that number, exactly.
-/
namespace ReloadProbe.Binary64

/-- `n / d` to the nearest whole number; a half goes to the even neighbour. -/
def roundDiv (n d : Nat) : Nat :=
  let q := n / d
  let r := n % d
  if 2 * r < d then q else if d < 2 * r then q + 1 else q + q % 2

def nearest (n d : Nat) : Nat × Nat :=
  if n = 0 then (0, 1)
  else
    let drop := Nat.log2 n
    let lift := 52 + Nat.log2 d
    -- `n / d * 2 ^ (lift - drop)` is below `2 ^ 53`, and at least half as large as it should be
    let below := n * Nat.pow 2 lift < d * Nat.pow 2 drop * Nat.pow 2 52
    let lift := if below then lift + 1 else lift
    (roundDiv (n * Nat.pow 2 lift) (d * Nat.pow 2 drop) * Nat.pow 2 drop, Nat.pow 2 lift)

def add (a b : Nat × Nat) : Nat × Nat :=
  nearest (a.1 * b.2 + b.1 * a.2) (a.2 * b.2)

end ReloadProbe.Binary64

namespace ReloadProbe.Duration

def inSeconds (d : Duration) : Nat × Nat :=
  Binary64.add (Binary64.nearest d.seconds.toNat 1) (Binary64.nearest d.nanos 1000000000)

def secondsText (d : Duration) : String :=
  let (n, den) := d.inSeconds
  let hundredths := Binary64.roundDiv (100 * n) den
  s!"{hundredths / 100}.{hundredths / 10 % 10}{hundredths % 10}"

end ReloadProbe.Duration
