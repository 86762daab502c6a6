import ReloadProbe.Text.Utf8

/-! How a process ended, and what it left behind. -/
namespace ReloadProbe

/-- A process ends with a code or by a signal; a status that is neither has none of the two. -/
structure ExitState where
  code : Option Int := none
  signal : Option Int := none
  deriving DecidableEq

namespace ExitState

def ofCode (n : Int) : ExitState := { code := some n }

def ofSignal (n : Int) : ExitState := { signal := some n }

/-- The ending that a raw wait status stands for. The low seven bits are zero for a code, which the
next octet holds, and 127 for a process that was only stopped. -/
def ofWaitStatus (status : UInt32) : ExitState :=
  let low := status.toNat % 128
  if low = 0 then ofCode (status.toNat / 256 % 256)
  else if low = 127 then {}
  else ofSignal low

def success (e : ExitState) : Bool := e.code == some 0

def message (e : ExitState) : String :=
  match e.code, e.signal with
  | some code, _ => s!"exit code {code}"
  | none, some signal => s!"killed by signal {signal}"
  | none, none => "unknown exit status"

end ExitState

structure Output where
  exit : Option ExitState := none
  stdout : Bytes := []
  stderr : Bytes := []
  deriving DecidableEq

end ReloadProbe
