import ReloadProbe.Broker.ConfigFile
import ReloadProbe.Net.Client
import ReloadProbe.Run.Host
import ReloadProbe.Run.Packets
import ReloadProbe.Run.Report

/-!
The run of a scenario: a broker is started, a session opened, the broker told to reload as often as
wanted, each time with its notification, and pinged at last. Whatever fails, the connection is
closed, the broker stopped and its configuration file removed before the run ends. A run that
crashes only drops what it holds.
-/
namespace ReloadProbe

open Host Net

/-- Settings that have been checked, with the packets that they ask for. -/
structure Plan where
  settings : Config.Settings
  version : Wire.Version
  packets : Packets

namespace Plan

def ofSettings (s : Config.Settings) : Except Failure Plan := do
  s.validate.mapError fun fault => .invalidConfig fault.message
  let version ← s.version.mapError fun fault => .invalidConfig fault.message
  let packets ← Packets.build s
  return { settings := s, version, packets }

def notificationLabel : String := "reload notification"

/-- Given to the system to notice the end of a broker that just dropped the connection. -/
def settle : Duration := .ofMillis 100

/-- Opens a session, at an attempt that is not the first if `attempt` is above one, with `left` more
to come. Only refusals are tried again, and none once the broker has exited. -/
def connectFrom (p : Plan) (s : Scenario) (attempt left : Nat) :
    Interaction host (Except Failure Client) := do
  let opened ← net (Client.handshake s.address p.version p.packets.connect p.packets.connack
    p.settings.timeouts.handshake)
  match opened with
  | .error (.refused _ _) =>
    match ← exitState with
    | .error e => return .error e
    | .ok (some exit) => return .error (.exitedEarly exit)
    | .ok none =>
      match left with
      | 0 => return .error (.refused s.address (UInt32.ofNat attempt))
      | left + 1 =>
        sleep (p.settings.startup.backoff (attempt - 1))
        p.connectFrom s (attempt + 1) left
  | opened => return opened

def connect (p : Plan) (s : Scenario) : Interaction host (Except Failure Client) :=
  p.connectFrom s 1 (p.settings.startup.attempts.toNat - 1)

structure Progress where
  result : Except Failure Unit := .ok ()
  stage : Stage
  /-- There is a broker to stop. -/
  started : Bool := true
  client : Option Client := none

/-- A call on a client, which is dropped if the call crashes. -/
def holding {α : Type} (client : Client) (call : Interaction link α) : Interaction host α :=
  net (call.unwinding client.drop)

def cycles (p : Plan) :
    (n : Nat) → Client → Stage → Interaction host (Except Failure Unit × Client × Stage)
  | 0, client, stage => return (.ok (), client, stage)
  | n + 1, client, stage => do
    match ← signal .reload with
    | .error e => return (.error e, client, stage)
    | .ok () =>
      let (met, client) ← holding client (client.expect p.packets.notification
        p.settings.timeouts.notification notificationLabel)
      match met with
      | .error e => return (.error e, client, .reloadTriggered)
      | .ok () => p.cycles n client .notificationVerified

def converse (p : Plan) (client : Client) : Interaction host Progress := do
  let (reloaded, client, stage) ← p.cycles p.settings.reloadCycles.toNat client .connected
  match reloaded with
  | .error e => return { result := .error e, stage, client := some client }
  | .ok () =>
    let (alive, client) ← holding client (client.ping p.settings.timeouts.ping)
    match alive with
    | .error e => return { result := .error e, stage, client := some client }
    | .ok () => return { stage := .livenessVerified, client := some client }

def attend (p : Plan) (s : Scenario) : Interaction host Progress := do
  match ← p.connect s with
  | .error e => return { result := .error e, stage := .processStarted }
  | .ok client => p.converse client

def drive (p : Plan) (s : Scenario) (config : Path) : Interaction host Progress := do
  match ← start config s.port with
  | .error e => return { result := .error e, stage := .configWritten, started := false }
  | .ok () => (p.attend s).unwinding abandon

/-- The end of the broker, if that is what a failure may come from and if the broker did end; the
failure otherwise. -/
def classify (e : Failure) : Interaction host Failure := do
  if e.mayHideExit then
    if e.lostConnection then sleep settle else pure ()
    match ← exitState with
    | .ok (some exit) => return .exitedEarly exit
    | .ok none | .error _ => return e
  else return e

/-- Closes the connection, stops the broker and removes its file, in this order. -/
def tearDown (progress : Progress) (file : ConfigFile) :
    Interaction host (Option Output × ConfigFile) := do
  match progress.client with
  | some client =>
    let _ ← net client.close
  | none => pure ()
  let output ←
    if progress.started then do
      terminate
      some <$> wait
    else pure none
  let (_, file) ← disk file.remove
  return (output, file)

/-- The result of a run whose broker has not been stopped yet. -/
def verdict (progress : Progress) : Interaction host (Except Failure Unit) := do
  match progress.result, progress.started with
  | .error e, true => return .error (← classify e)
  | result, _ => return result

def perform (p : Plan) (id : String) (ports : Ports) (perListenerSettings : Bool) :
    Interaction host (Outcome × Ports) := do
  let (port, ports) ← allocate ports
  match port with
  | .error e => return ({ id, perListenerSettings, reached := .init, result := .error e }, ports)
  | .ok port =>
    let s : Scenario :=
      { perListenerSettings, version := p.version, keepalive := p.settings.client.keepalive, port }
    let contents := brokerConfig perListenerSettings port p.settings.pluginPath
    match ← disk (ConfigFile.write p.settings.configDir contents) with
    | .error source =>
      return ({ id, perListenerSettings, scenario := some s, reached := .init
                result := .error (.configWrite source) }, ports)
    | .ok file =>
      let progress ← (p.drive s file.path).unwinding (disk file.drop)
      let result ← verdict progress
      let (output, file) ← tearDown progress file
      disk file.drop
      return ({ id, perListenerSettings, scenario := some s, reached := progress.stage, result
                output }, ports)

def run (p : Plan) (ports : Ports) (perListenerSettings : Bool) :
    Interaction host (Outcome × Ports) := do
  let id ← newId
  let begun ← net now
  let (outcome, ports) ← p.perform id ports perListenerSettings
  let ended ← net now
  let elapsed := (Duration.ofNanos? (ended - begun)).getD .longest
  return ({ outcome with elapsed }, ports)

/-- Runs variants in order; after a failure the others are skipped if the settings want that. -/
def runAll (p : Plan) (ports : Ports) : List Bool → Interaction host Report
  | [] => return {}
  | variant :: more => do
    let (outcome, ports) ← p.run ports variant
    if !outcome.passed && p.settings.failFast then
      return { outcomes := [outcome], skipped := more }
    else
      let report ← p.runAll ports more
      return { report with outcomes := outcome :: report.outcomes }

def suite (p : Plan) : Interaction host Report :=
  p.runAll (.new p.settings.basePort) p.settings.variants

end Plan
end ReloadProbe
