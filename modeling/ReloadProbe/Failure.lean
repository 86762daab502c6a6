import ReloadProbe.Broker.Exit
import ReloadProbe.Broker.Signal
import ReloadProbe.Net.Address
import ReloadProbe.Path
import ReloadProbe.Time.Units
import ReloadProbe.Wire.Diff

/-! Why a run fails. -/
namespace ReloadProbe

inductive Mismatch where
  /-- A byte differs from the one expected at its offset. -/
  | differs
  /-- The time was up before enough bytes came. -/
  | timedOut
  /-- The peer closed the connection before enough bytes came. -/
  | closed
  deriving DecidableEq

def Mismatch.message : Mismatch → String
  | differs => "bytes differ"
  | timedOut => "timed out"
  | closed => "connection closed"

inductive Failure where
  | configLoad (path : Path) (reason : String)
  | invalidConfig (reason : String)
  | configWrite (source : String)
  | portsExhausted (base : UInt16)
  | spawn (program source : String)
  | notRunning
  | status (source : String)
  | signal (signal : Signal) (pid : UInt32) (reason : String)
  | refused (address : Address) (attempts : UInt32)
  | connection (source : String)
  | handshakeMismatch (reason : Mismatch) (diff : Wire.Diff)
  | handshakeTimeout (timeout : Duration) (diff : Wire.Diff)
  | unexpectedMessage (label : String) (reason : Mismatch) (diff : Wire.Diff)
  | exitedEarly (exit : ExitState)
  | wire (error : Wire.WireError)
  deriving DecidableEq

namespace Failure

def message : Failure → String
  | configLoad path reason =>
    s!"Failed to load harness configuration {Text.Quoted.quoteBytes path.octets}: {reason}"
  | invalidConfig reason => s!"Invalid harness configuration: {reason}"
  | configWrite source => s!"Failed to write broker configuration: {source}"
  | portsExhausted base => s!"No free port at or above {base.toNat}"
  | spawn program source => s!"Failed to spawn broker {Text.Quoted.quote program}: {source}"
  | notRunning => "Broker process is not running"
  | status source => s!"Failed to query broker process status: {source}"
  | signal sig pid reason => s!"Failed to deliver {sig.name} to broker pid {pid.toNat}: {reason}"
  | refused address attempts =>
    s!"Connection refused by {address.write} after {attempts.toNat} attempt(s)"
  | connection source => s!"Connection I/O error: {source}"
  | handshakeMismatch reason diff => s!"Handshake mismatch ({reason.message}): {diff.message}"
  | handshakeTimeout timeout diff =>
    s!"Handshake timed out after {timeout.brief}: {diff.message}"
  | unexpectedMessage label reason diff =>
    s!"Unexpected message while waiting for {label} ({reason.message}): {diff.message}"
  | exitedEarly exit => s!"Broker exited early ({exit.message})"
  | wire error => s!"Packet encoding failed: {error.message}"

def source? : Failure → Option String
  | configWrite source | spawn _ source | status source | connection source => some source
  | wire error => some error.message
  | _ => none

def kind : Failure → String
  | configLoad _ _ => "config_load"
  | invalidConfig _ => "invalid_config"
  | configWrite _ => "config_write"
  | portsExhausted _ => "ports_exhausted"
  | spawn _ _ => "process_spawn"
  | notRunning => "process_not_running"
  | status _ => "process_status"
  | signal _ _ _ => "signal"
  | refused _ _ => "connection_refused"
  | connection _ => "connection_io"
  | handshakeMismatch _ _ => "handshake_mismatch"
  | handshakeTimeout _ _ => "handshake_timeout"
  | unexpectedMessage _ _ _ => "unexpected_message"
  | exitedEarly _ => "process_exited_early"
  | wire _ => "wire"

def isTimeout : Failure → Bool
  | handshakeTimeout _ _ => true
  | unexpectedMessage _ reason _ => reason = .timedOut
  | _ => false

/-- The cause may be that the broker died. Wrong bytes that did arrive never have that cause. -/
def mayHideExit : Failure → Bool
  | notRunning | refused _ _ | connection _ | handshakeTimeout _ _ | signal _ _ _ => true
  | handshakeMismatch reason _ | unexpectedMessage _ reason _ => reason ≠ .differs
  | _ => false

def lostConnection : Failure → Bool
  | connection _ | notRunning => true
  | handshakeMismatch reason _ | unexpectedMessage _ reason _ => reason = .closed
  | _ => false

end Failure
end ReloadProbe
