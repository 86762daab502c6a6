import ReloadProbe.Broker.ConfigFile
import ReloadProbe.Broker.Ports
import ReloadProbe.Net.Link

/-!
What a run asks of its surroundings: ports, files, one broker at a time, one connection at a time,
and time. A broker is started from a configuration file; calls that come after concern the broker
started last.
-/
namespace ReloadProbe.Host

inductive Call where
  /-- A mark for a new run. -/
  | newId
  /-- Whether a port is free. -/
  | probe (port : UInt16)
  /-- Writes a fresh file into a directory, or into the system's for temporary files. -/
  | writeConfig (directory : Option Path) (contents : String)
  | removeConfig (file : Path)
  | start (config : Path) (port : UInt16)
  | signal (signal : Signal)
  /-- How the broker ended, if it did. -/
  | exitState
  | terminate
  /-- Waits for the broker to exit, and ends it if that takes too long. -/
  | wait
  /-- Lets go of a broker that was not waited for. -/
  | abandon
  | sleep (length : Duration)
  | net (call : Net.Call)

def Reply : Call → Type
  | .newId => String
  | .probe _ => Bool
  | .writeConfig _ _ => Except String Path
  | .removeConfig _ => Except String Unit
  | .start _ _ => Except Failure Unit
  | .signal _ => Except Failure Unit
  | .exitState => Except Failure (Option ExitState)
  | .terminate => Unit
  | .wait => Output
  | .abandon => Unit
  | .sleep _ => Unit
  | .net call => Net.Reply call

def host : Interface := ⟨Call, Reply⟩

def newId : Interaction host String := Interaction.ask Call.newId .done

def start (config : Path) (port : UInt16) : Interaction host (Except Failure Unit) :=
  Interaction.ask (Call.start config port) .done

def signal (s : Signal) : Interaction host (Except Failure Unit) :=
  Interaction.ask (Call.signal s) .done

def exitState : Interaction host (Except Failure (Option ExitState)) :=
  Interaction.ask Call.exitState .done

def terminate : Interaction host Unit := Interaction.ask Call.terminate .done

def wait : Interaction host Output := Interaction.ask Call.wait .done

def abandon : Interaction host Unit := Interaction.ask Call.abandon .done

def sleep (length : Duration) : Interaction host Unit := Interaction.ask (Call.sleep length) .done

def allocate (p : Ports) : Interaction host (Except Failure UInt16 × Ports) :=
  p.allocate.embed Call.probe fun _ reply => reply

def fileCall : ConfigFile.Call → Call
  | .write directory contents => .writeConfig directory contents
  | .unlink file => .removeConfig file

def fileReply : (c : ConfigFile.Call) → Reply (fileCall c) → ConfigFile.Reply c
  | .write _ _, reply => reply
  | .unlink _, reply => reply

def disk {α : Type} (p : Interaction ConfigFile.disk α) : Interaction host α :=
  p.embed fileCall fileReply

/-- What a client does, on this host. -/
def net {α : Type} (p : Interaction Net.link α) : Interaction host α :=
  p.embed Call.net fun _ reply => reply

end ReloadProbe.Host
