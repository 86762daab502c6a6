import ReloadProbe.Broker.Arguments
import ReloadProbe.Broker.Child
import ReloadProbe.Failure

/-!
A broker that runs as a child of this process. How it ended is kept once it has been seen, and so is
what it left behind, and from then on nothing is sent to its number, which another process may have
by then.
-/
namespace ReloadProbe

open Child

structure Subprocess where
  pid : Option UInt32
  /-- How long a broker that was told to stop may take before it is killed, and how long its
  output is waited for. -/
  grace : Duration
  exit : Option ExitState := none
  output : Option Output := none

namespace Subprocess

def spawn (command : Config.BrokerCommand) (grace : Duration) (config : Path) (port : UInt16) :
    Interaction child (Except Failure Subprocess) := do
  let spawned ← Child.spawn
    { program := command.program, args := command.renderArgs config port
      env := command.env, workingDir := command.workingDir }
  match spawned with
  | .ok pid => return .ok { pid, grace }
  | .error source => return .error (.spawn command.program source)

def exitState (p : Subprocess) :
    Interaction child (Except Failure (Option ExitState) × Subprocess) := do
  match p.exit with
  | some exit => return (.ok (some exit), p)
  | none =>
    match ← poll with
    | .ok exit => return (.ok exit, { p with exit })
    | .error source => return (.error (.status source), p)

/-- Numbers of processes are signed where signals are sent. -/
def send (pid : UInt32) (s : Signal) : Interaction child (Except Failure Unit) := do
  if pid.toNat < 2147483648 then
    match ← kill pid s with
    | .delivered => return .ok ()
    | .nobody => return .error .notRunning
    | .failed reason => return .error (.signal s pid reason)
  else return .error (.signal s pid "pid out of range")

def signal (p : Subprocess) (s : Signal) :
    Interaction child (Except Failure Unit × Subprocess) := do
  let (state, p) ← p.exitState
  match state, p.pid with
  | .error e, _ => return (.error e, p)
  | .ok (some _), _ | .ok none, none => return (.error .notRunning, p)
  | .ok none, some pid => return (← send pid s, p)

/-- Tells the broker to stop, and kills it if it cannot be told. Does nothing once it has exited. -/
def terminate (p : Subprocess) : Interaction child Subprocess := do
  let (state, p) ← p.exitState
  match state, p.pid with
  | .ok (some _), _ | _, none => return p
  | _, some pid =>
    match ← send pid .terminate with
    | .ok () | .error .notRunning => return p
    | .error _ =>
      let _ ← killChild
      return p

def reap (p : Subprocess) : Interaction child (Option ExitState) := do
  match ← await (some p.grace) with
  | .exited exit => return some exit
  | .failed _ => return none
  | .timedOut =>
    let _ ← killChild
    match ← await none with
    | .exited exit => return some exit
    | .failed _ | .timedOut => return none

/-- What the broker left behind. The first answer is the answer for good. -/
def wait (p : Subprocess) : Interaction child (Output × Subprocess) := do
  match p.output with
  | some output => return (output, p)
  | none =>
    let status ← p.reap
    let exit := p.exit.orElse fun _ => status
    let stdout ← drain .stdout p.grace
    let stderr ← drain .stderr p.grace
    let output : Output := { exit, stdout, stderr }
    return (output, { p with exit, output := some output })

/-- A broker that was not seen to exit is killed. -/
def drop (p : Subprocess) : Interaction child Unit := do
  if p.exit.isNone then
    let _ ← killChild

end Subprocess
end ReloadProbe
