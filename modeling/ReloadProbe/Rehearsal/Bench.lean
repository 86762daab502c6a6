import ReloadProbe.Rehearsal.Line
import ReloadProbe.Rehearsal.Script
import ReloadProbe.Run.Host

/-!
A host on which brokers follow scripts. Its clock only moves while something waits, so a rehearsal
takes no time and gives the same result each time. Every port is free, and every directory is there
except those under `/nonexistent`.
-/
namespace ReloadProbe.Rehearsal

structure Tally where
  starts : Nat := 0
  signals : Nat := 0
  terminates : Nat := 0
  waits : Nat := 0
  connects : List Bytes := []
  configs : List String := []

structure Actor where
  script : Script
  port : UInt16
  born : Nat
  exit : Option ExitState := none
  greeted : Bool := false
  reloads : Nat := 0

structure Bench where
  packets : Packets
  scripts : List Script
  clock : Nat := 0
  files : List (Path × String) := []
  written : Nat := 0
  actor : Option Actor := none
  line : Line := {}
  tally : Tally := {}

namespace Bench

def isMissing (directory : Path) : Bool := directory.display.startsWith "/nonexistent"

def act (b : Bench) (who : Actor) (a : Action) : Bench :=
  if b.line.peerGone then { b with actor := some who }
  else
    let line := b.line.peerWrite (a.content b.packets)
    { b with
      actor := some { who with exit := a.exit.orElse fun _ => who.exit }
      line := if a.exit.isSome || a.close then line.peerHangUp else line }

def answer (b : Bench) : (limit : Nat) → Bench
  | 0 => b
  | limit + 1 =>
    match b.actor, Wire.Frame.length? b.line.outbound with
    | some who, .ok (some n) =>
      let (packet, line) := b.line.peerRead n
      let b := { b with line }
      if !who.greeted then
        let tally := { b.tally with connects := packet :: b.tally.connects }
        (act { b with tally } { who with greeted := true } who.script.onConnect).answer limit
      else if packet = Wire.pingReq then (b.act who who.script.onPing).answer limit
      else b.answer limit
    | _, _ => b

def listens (b : Bench) (port : UInt16) : Bool :=
  match b.actor with
  | some who =>
    who.exit.isNone && who.script.listen && who.port == port &&
      who.born + who.script.listenDelay ≤ b.clock
  | none => false

def start (b : Bench) (config : Path) (port : UInt16) : Except Failure Unit × Bench :=
  let script := nthOrLast b.scripts b.tally.starts {}
  let contents := (b.files.lookup config).getD ""
  let tally :=
    { b.tally with starts := b.tally.starts + 1, configs := contents :: b.tally.configs }
  match script.startError with
  | some e => (.error e, { b with tally })
  | none =>
    let who : Actor := { script, port, born := b.clock, exit := script.exitOnStart }
    (.ok (), { b with tally, actor := some who })

def signal (b : Bench) (s : Signal) : Except Failure Unit × Bench :=
  let b := { b with tally := { b.tally with signals := b.tally.signals + 1 } }
  match b.actor with
  | none => (.error .notRunning, b)
  | some who =>
    match who.script.signalError with
    | some e => (.error e, b)
    | none =>
      if who.exit.isSome then (.error .notRunning, b)
      else
        match s with
        | .reload =>
          let action := who.script.reloadAction who.reloads
          (.ok (), b.act { who with reloads := who.reloads + 1 } action)
        | .terminate => (.ok (), b.act who { exit := some (.ofCode 0) })
        | .kill => (.ok (), b.act who { exit := some (.ofSignal 9) })

def exitState (b : Bench) : Except Failure (Option ExitState) :=
  match b.actor with
  | none => .ok none
  | some who =>
    match who.script.statusError with
    | some e => .error e
    | none => .ok who.exit

def terminate (b : Bench) : Bench :=
  { b with
    tally := { b.tally with terminates := b.tally.terminates + 1 }
    actor := b.actor.map fun who => { who with exit := some (who.exit.getD (.ofCode 0)) }
    line := b.line.peerHangUp }

def abandon (b : Bench) : Bench :=
  { b with
    actor := b.actor.map fun who => { who with exit := some (who.exit.getD (.ofSignal 9)) }
    line := b.line.peerHangUp }

def wait (b : Bench) : Output × Bench :=
  let output : Output := match b.actor with
    | some who => { exit := who.exit, stderr := who.script.stderr }
    | none => {}
  (output, { b with tally := { b.tally with waits := b.tally.waits + 1 } })

def net : (c : Net.Call) → Bench → Net.Reply c × Bench
  | .dial address, b =>
    match address with
    | .v4 _ port => if b.listens port then (.opened, { b with line := {} }) else (.refused, b)
    | .v6 _ _ _ => (.refused, b)
  | .send data, b =>
    let (sent, line) := b.line.write data
    (sent, answer { b with line } (line.outbound.length + 1))
  | .receive deadline room, b =>
    match b.line.read? room with
    | some (arrival, line) => (arrival, { b with line })
    | none => (.timedOut, { b with clock := max b.clock deadline })
  | .hangUp, b => ((), { b with line := b.line.hangUp })
  | .now, b => (b.clock, b)

def serve : (c : Host.Call) → Bench → Host.Reply c × Bench
  | .newId, b => ("RUN", b)
  | .probe _, b => (true, b)
  | .writeConfig directory contents, b =>
    let directory := directory.getD (.ofText "/tmp")
    if isMissing directory then (.error "No such file or directory (os error 2)", b)
    else
      let file := Path.ofText s!"{directory.display}/plugin-reload-{b.written}.conf"
      (.ok file, { b with files := (file, contents) :: b.files, written := b.written + 1 })
  | .removeConfig file, b => (.ok (), { b with files := b.files.filter fun (p, _) => p ≠ file })
  | .start config port, b => b.start config port
  | .signal s, b => b.signal s
  | .exitState, b => (b.exitState, b)
  | .terminate, b => ((), b.terminate)
  | .wait, b => b.wait
  | .abandon, b => ((), b.abandon)
  | .sleep length, b => ((), { b with clock := b.clock + length.toNanos })
  | .net call, b => b.net call

end Bench
end ReloadProbe.Rehearsal
