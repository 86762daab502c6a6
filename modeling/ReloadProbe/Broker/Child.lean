import ReloadProbe.Broker.Exit
import ReloadProbe.Broker.Signal
import ReloadProbe.Interaction
import ReloadProbe.Path
import ReloadProbe.Time.Duration

/-! What launching a broker asks of the operating system, with one child at a time. -/
namespace ReloadProbe.Child

inductive Sent where
  | delivered
  /-- There is no process of that number. -/
  | nobody
  | failed (reason : String)

inductive Waited where
  | exited (exit : ExitState)
  | timedOut
  | failed (reason : String)

inductive Stream where
  | stdout
  | stderr
  deriving DecidableEq

structure Launch where
  program : String
  args : List String
  env : List (String × String)
  workingDir : Option Path

inductive Call where
  /-- Answers with the number of the process, if it has one. -/
  | spawn (launch : Launch)
  /-- How the child ended, if it did. -/
  | poll
  | kill (pid : UInt32) (signal : Signal)
  /-- Kills the child, whatever its number is. -/
  | killChild
  /-- Waits for the child to end, for so long at most. -/
  | await (limit : Option Duration)
  /-- What the child wrote, once it can write no more or the time is up. -/
  | drain (stream : Stream) (limit : Duration)

def Reply : Call → Type
  | .spawn _ => Except String (Option UInt32)
  | .poll => Except String (Option ExitState)
  | .kill _ _ => Sent
  | .killChild => Except String Unit
  | .await _ => Waited
  | .drain _ _ => Bytes

def child : Interface := ⟨Call, Reply⟩

def spawn (launch : Launch) : Interaction child (Except String (Option UInt32)) :=
  Interaction.ask (Call.spawn launch) .done

def poll : Interaction child (Except String (Option ExitState)) := Interaction.ask Call.poll .done

def kill (pid : UInt32) (signal : Signal) : Interaction child Sent :=
  Interaction.ask (Call.kill pid signal) .done

def killChild : Interaction child (Except String Unit) := Interaction.ask Call.killChild .done

def await (limit : Option Duration) : Interaction child Waited :=
  Interaction.ask (Call.await limit) .done

def drain (stream : Stream) (limit : Duration) : Interaction child Bytes :=
  Interaction.ask (Call.drain stream limit) .done

end ReloadProbe.Child
