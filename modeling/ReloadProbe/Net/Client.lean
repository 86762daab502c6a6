import ReloadProbe.Failure
import ReloadProbe.Net.Link
import ReloadProbe.Net.Storage
import ReloadProbe.Wire.Ping

/-!
A connection on which the bytes that arrive are compared with those expected. Bytes that arrive are
kept until an expectation takes them, so a packet may come in any number of pieces, and what comes
after it is there for the next expectation.
-/
namespace ReloadProbe.Net

structure Client where
  connected : Bool := true
  /-- What arrived and was not yet taken. -/
  buffer : Bytes := []
  storage : Storage := {}
  version : Wire.Version

inductive Verdict where
  | matched
  | unmet (reason : Mismatch)
  /-- The network failed in some other way. -/
  | broken (reason : String)
  deriving DecidableEq

namespace Client

/-- Reads until the buffer begins with `expected` or cannot come to. The expected bytes are taken
from the buffer if all are there; otherwise it stays as it is. -/
def await (c : Client) (expected : Bytes) (deadline : Nat) :
    Interaction link (Verdict × Client) :=
  let compared := min c.buffer.length expected.length
  if c.buffer.take compared ≠ expected.take compared then .done (.unmet .differs, c)
  else if _h : expected.length ≤ c.buffer.length then
    .done (.matched, { c with
      buffer := c.buffer.drop expected.length, storage := c.storage.pass expected.length })
  else if !c.connected then .done (.unmet .closed, c)
  else
    let storage := c.storage.reserve c.buffer.length
    .ask (Call.receive deadline (storage.room c.buffer.length)) fun
      | .bytes chunk arrived =>
        have : 0 < chunk.length := List.length_pos_iff.mpr arrived
        await { c with buffer := c.buffer ++ chunk, storage } expected deadline
      | .ended | .reset => .done (.unmet .closed, { c with connected := false })
      | .timedOut => .done (.unmet .timedOut, { c with storage })
      | .failed reason => .done (.broken reason, { c with storage })
termination_by expected.length - c.buffer.length
decreasing_by simp only [List.length_append]; omega

def awaitFor (c : Client) (expected : Bytes) (timeout : Duration) :
    Interaction link (Verdict × Client) := do
  match deadline? (← now) timeout with
  | some deadline => c.await expected deadline
  | none => .crash overflow

/-- Expected bytes against those that arrived: the first packet of the buffer if it is complete, and
all of the buffer otherwise. -/
def diff (c : Client) (expected : Bytes) : Wire.Diff :=
  let received := match Wire.Frame.length? c.buffer with
    | .ok (some n) => c.buffer.take n
    | _ => c.buffer
  { expected, received, version := c.version }

def send (c : Client) (data : Bytes) : Interaction link (Except Failure Unit) := do
  if c.connected then return (← Net.send data).mapError .connection
  else return .error (.connection "connection already closed")

/-- The next bytes must be `expected`. The label names the awaited message in the failure. -/
def expect (c : Client) (expected : Bytes) (timeout : Duration) (label : String) :
    Interaction link (Except Failure Unit × Client) := do
  let (verdict, c) ← c.awaitFor expected timeout
  match verdict with
  | .matched => return (.ok (), c)
  | .unmet reason => return (.error (.unexpectedMessage label reason (c.diff expected)), c)
  | .broken reason => return (.error (.connection reason), c)

def pingLabel : String := "pingresp"

def ping (c : Client) (timeout : Duration) : Interaction link (Except Failure Unit × Client) := do
  match ← c.send Wire.pingReq with
  | .ok () => c.expect Wire.pingResp timeout pingLabel
  | .error e => return (.error e, c)

/-- Does nothing if the connection is closed already. -/
def close (c : Client) : Interaction link Client := do
  if c.connected then
    hangUp
    return { c with connected := false }
  else return c

def drop (c : Client) : Interaction link Unit := do
  let _ ← c.close

def dial (address : Address) (version : Wire.Version) :
    Interaction link (Except Failure Client) := do
  match ← Net.dial address with
  | .opened => return .ok { version }
  | .refused => return .error (.refused address 1)
  | .failed reason => return .error (.connection reason)

def welcomeFailure (c : Client) (welcome : Bytes) (timeout : Duration) : Verdict → Option Failure
  | .matched => none
  | .unmet .timedOut => some (.handshakeTimeout timeout (c.diff welcome))
  | .unmet reason => some (.handshakeMismatch reason (c.diff welcome))
  | .broken reason => some (.connection reason)

/-- Sends `hello` and wants exactly `welcome` for an answer. -/
def greet (c : Client) (hello welcome : Bytes) (timeout : Duration) :
    Interaction link (Except Failure Unit × Client) := do
  match ← c.send hello with
  | .error e => return (.error e, c)
  | .ok () =>
    let (verdict, c) ← c.awaitFor welcome timeout
    match c.welcomeFailure welcome timeout verdict with
    | none => return (.ok (), c)
    | some e => return (.error e, c)

/-- Opens a connection and greets the peer. A connection on which this fails is closed. -/
def handshake (address : Address) (version : Wire.Version) (hello welcome : Bytes)
    (timeout : Duration) : Interaction link (Except Failure Client) := do
  match ← dial address version with
  | .error e => return .error e
  | .ok c =>
    match ← (c.greet hello welcome timeout).unwinding c.drop with
    | (.ok (), c) => return .ok c
    | (.error e, c) =>
      let _ ← c.close
      return .error e

end Client
end ReloadProbe.Net
