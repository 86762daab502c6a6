import ReloadProbe.Broker.Subprocess
import ReloadProbe.Rehearsal.Parent
import ReloadProbe.Run.Host
import ReloadProbe.Wire.Ping

/-!
A host on which brokers are programs of the model machine. Every port is free, and a connection is
opened by a model broker that listens there.
-/
namespace ReloadProbe.Rehearsal

structure Site where
  parent : Parent := {}
  command : Config.BrokerCommand
  grace : Duration
  broker : Option Subprocess := none
  peer : Nat := 0
  written : Nat := 0

namespace ModelBroker

def welcome : Bytes := [0x20, 0x09, 0x00, 0x00, 0x06, 0x22, 0x00, 0x0A, 0x21, 0x00, 0x14]

def answers (b : ModelBroker) (packets : List Bytes) : Bytes × ModelBroker :=
  packets.foldl (fun (sent, b) packet =>
    if !b.greeted then (sent ++ welcome, { b with greeted := true })
    else if packet = Wire.pingReq then (sent ++ Wire.pingResp, b)
    else (sent, b)) ([], b)

end ModelBroker

namespace Site

def machine (s : Site) : Machine := s.parent.machine

def withMachine (s : Site) (machine : Machine) : Site :=
  { s with parent := { s.parent with machine } }

def broker? (s : Site) (wanted : Task → ModelBroker → Bool) : Option (Task × ModelBroker) :=
  s.machine.tasks.findSome? fun t =>
    match t.work with
    | .broker b => if wanted t b then some (t, b) else none
    | _ => none

def answer (s : Site) (t : Task) (b : ModelBroker) : Site :=
  let m := s.machine
  let (packets, rest) := Wire.Frame.scan m.line.outbound
  let (sent, b) := b.answers packets
  let line := { m.line with outbound := rest }
  s.withMachine { m.put { t with work := .broker b } with line := line.peerWrite sent }

def dial (s : Site) (port : UInt16) : Net.Dialled × Site :=
  match s.broker? fun t b => b.listening && b.port = port.toNat && t.pid ≠ s.peer with
  | some (t, _) =>
    let m := match s.machine.write t 2 (Utf8.encode "broker up\n") with
      | .answered _ m => m
      | _ => s.machine
    (.opened, { s.withMachine { m with line := {} } with peer := t.pid })
  | none => (.refused, s)

def net : (c : Net.Call) → Site → Net.Reply c × Site
  | .dial address, s =>
    match address with
    | .v4 _ port => s.dial port
    | .v6 _ _ _ => (.refused, s)
  | .send data, s =>
    let (sent, line) := s.machine.line.write data
    let s := s.withMachine { s.machine with line }
    match s.broker? fun t _ => t.pid = s.peer with
    | some (t, b) => (sent, s.answer t b)
    | none => (sent, s)
  | .receive deadline room, s =>
    let machine :=
      s.machine.advance library (fun m => (m.line.read? room).isSome) deadline Parent.stepLimit
    match machine.line.read? room with
    | some (arrival, line) => (arrival, s.withMachine { machine with line })
    | none => (.timedOut, s.withMachine machine)
  | .hangUp, s => ((), s.withMachine { s.machine with line := s.machine.line.hangUp })
  | .now, s => (s.machine.clock, s)

def ask {α : Type} (s : Site) (other : α)
    (question : Subprocess → Interaction Child.child (α × Subprocess)) : α × Site :=
  match s.broker with
  | none => (other, s)
  | some broker =>
    match (question broker).run Parent.serve s.parent with
    | (.ok (a, broker), parent) => (a, { s with parent, broker := some broker })
    | (.error _, parent) => (other, { s with parent })

def pathOf (path : Path) : String := Octets.ofBytes path.octets

def writeConfig (s : Site) (directory : Option Path) (contents : String) :
    Except String Path × Site :=
  let directory := (directory.map pathOf).getD "/tmp"
  let files := s.machine.files
  match files.directoryAt "/" directory with
  | .error r => (.error r.message, s)
  | .ok place =>
    let name := s!"plugin-reload-{s.written}.conf"
    let above := if place = "/" then "" else place
    let files := files.addFile s!"{above}/{name}" (Utf8.encode contents)
    let s := s.withMachine { s.machine with files }
    (.ok ⟨Octets.toBytes s!"{directory}/{name}"⟩, { s with written := s.written + 1 })

def removeConfig (s : Site) (file : Path) : Except String Unit × Site :=
  let m := s.machine
  match m.files.find "/" (pathOf file) false with
  | .ok (place, _, _) => (.ok (), s.withMachine { m with files := m.files.unlink place })
  | .error r => (.error r.message, s)

def serve : (c : Host.Call) → Site → Host.Reply c × Site
  | .newId, s => ("RUN", s)
  | .probe _, s => (true, s)
  | .writeConfig directory contents, s => s.writeConfig directory contents
  | .removeConfig file, s => s.removeConfig file
  | .start config port, s =>
    match (Subprocess.spawn s.command s.grace config port).run Parent.serve s.parent with
    | (.ok (.ok broker), parent) => (.ok (), { s with parent, broker := some broker })
    | (.ok (.error e), parent) => (.error e, { s with parent })
    | (.error reason, parent) => (.error (.spawn s.command.program reason), { s with parent })
  | .signal signal, s => s.ask (.error .notRunning) fun broker => broker.signal signal
  | .exitState, s => s.ask (.ok none) Subprocess.exitState
  | .terminate, s => s.ask () fun broker => return ((), ← broker.terminate)
  | .wait, s => s.ask {} Subprocess.wait
  | .abandon, s =>
    s.ask () fun broker => do
      broker.drop
      return ((), broker)
  | .sleep length, s =>
    ((), { s with parent := s.parent.pass (fun _ => false) length.toNanos })
  | .net call, s => s.net call

end Site
end ReloadProbe.Rehearsal
