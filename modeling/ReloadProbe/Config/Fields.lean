import ReloadProbe.Config.Settings
import ReloadProbe.Document.Value
import ReloadProbe.Time.Units

/-!
Settings read from a document and written as one. A table of settings may leave fields out, and
then they keep their defaults; it may not hold fields of other names. A list stands for a table
whose first fields it gives in order.
-/
namespace ReloadProbe.Config

abbrev Lookup := String → Option Value

/-- The fields of `v`, which may have only these names. Items of a list beyond the names are
refused unless `surplus` lets them be. -/
def lookup? (surplus : Bool) (names : List String) (v : Value) : Option Lookup :=
  match v with
  | .table fields =>
    if fields.all fun (name, _) => names.contains name then some fun name => fields.lookup name
    else none
  | .list items =>
    if surplus || items.length ≤ names.length then some fun name => (names.zip items).lookup name
    else none
  | _ => none

def Lookup.get {α : Type} (f : Lookup) (name : String) (read : Value → Option α) (default : α) :
    Option α :=
  match f name with
  | none => some default
  | some v => read v

def readText : Value → Option String
  | .text s => some s
  | _ => none

def readBool : Value → Option Bool
  | .bool b => some b
  | _ => none

def readPath (v : Value) : Option Path := (readText v).map Path.ofText

def readDuration (v : Value) : Option Duration := readText v >>= Duration.parse?

def readNat (most : Nat) : Value → Option Nat
  | .int n => if 0 ≤ n ∧ n ≤ most then some n.toNat else none
  | _ => none

def readUInt8 (v : Value) : Option UInt8 := (readNat 255 v).map UInt8.ofNat

def readUInt16 (v : Value) : Option UInt16 := (readNat 65535 v).map UInt16.ofNat

def readUInt32 (v : Value) : Option UInt32 := (readNat 4294967295 v).map UInt32.ofNat

def readList {α : Type} (read : Value → Option α) : Value → Option (List α)
  | .list items => items.mapM read
  | _ => none

def readOption {α : Type} (read : Value → Option α) : Value → Option (Option α)
  | .null => some none
  | v => (read v).map some

def momentField : String := "$__toml_private_datetime"

def readTexts : Value → Option (List (String × String))
  | .moment text => some [(momentField, text)]
  | .table fields => fields.mapM fun (name, v) => do return (name, ← readText v)
  | _ => none

def readBroker (surplus : Bool) (v : Value) : Option BrokerCommand := do
  let f ← lookup? surplus ["program", "args", "env", "working_dir"] v
  let d : BrokerCommand := {}
  return { program := ← f.get "program" readText d.program
           args := ← f.get "args" (readList readText) d.args
           env := ← f.get "env" readTexts d.env
           workingDir := ← f.get "working_dir" (readOption readPath) d.workingDir }

def readClient (surplus : Bool) (v : Value) : Option ClientSettings := do
  let f ← lookup? surplus ["client_id", "keepalive", "protocol_version", "clean_session"] v
  let d : ClientSettings := {}
  return { clientId := ← f.get "client_id" readText d.clientId
           keepalive := ← f.get "keepalive" readUInt16 d.keepalive
           protocolVersion := ← f.get "protocol_version" readUInt8 d.protocolVersion
           cleanSession := ← f.get "clean_session" readBool d.cleanSession }

def readHandshake (surplus : Bool) (v : Value) : Option HandshakeSettings := do
  let f ← lookup? surplus
    ["reason_code", "session_present", "topic_alias_maximum", "receive_maximum"] v
  let d : HandshakeSettings := {}
  return { reasonCode := ← f.get "reason_code" readUInt8 d.reasonCode
           sessionPresent := ← f.get "session_present" readBool d.sessionPresent
           topicAliasMaximum :=
             ← f.get "topic_alias_maximum" (readOption readUInt16) d.topicAliasMaximum
           receiveMaximum := ← f.get "receive_maximum" (readOption readUInt16) d.receiveMaximum }

def readNotification (surplus : Bool) (v : Value) : Option NotificationSettings := do
  let f ← lookup? surplus ["topic", "payload", "qos", "retain"] v
  let d : NotificationSettings := {}
  return { topic := ← f.get "topic" readText d.topic
           payload := ← f.get "payload" readText d.payload
           qos := ← f.get "qos" readUInt8 d.qos
           retain := ← f.get "retain" readBool d.retain }

def readTimeouts (surplus : Bool) (v : Value) : Option Timeouts := do
  let f ← lookup? surplus ["handshake", "notification", "ping", "shutdown_grace"] v
  let d : Timeouts := {}
  return { handshake := ← f.get "handshake" readDuration d.handshake
           notification := ← f.get "notification" readDuration d.notification
           ping := ← f.get "ping" readDuration d.ping
           shutdownGrace := ← f.get "shutdown_grace" readDuration d.shutdownGrace }

def readStartup (surplus : Bool) (v : Value) : Option StartupRetry := do
  let f ← lookup? surplus ["attempts", "initial_backoff", "max_backoff"] v
  let d : StartupRetry := {}
  return { attempts := ← f.get "attempts" readUInt32 d.attempts
           initialBackoff := ← f.get "initial_backoff" readDuration d.initialBackoff
           maxBackoff := ← f.get "max_backoff" readDuration d.maxBackoff }

namespace Settings

def ofValue? (surplus : Bool) (v : Value) : Option Settings := do
  let f ← lookup? surplus
    ["broker", "plugin_path", "base_port", "config_dir", "client", "handshake", "notification",
      "timeouts", "startup", "reload_cycles", "fail_fast", "variants"] v
  let d : Settings := {}
  return { broker := ← f.get "broker" (readBroker surplus) d.broker
           pluginPath := ← f.get "plugin_path" readPath d.pluginPath
           basePort := ← f.get "base_port" readUInt16 d.basePort
           configDir := ← f.get "config_dir" (readOption readPath) d.configDir
           client := ← f.get "client" (readClient surplus) d.client
           handshake := ← f.get "handshake" (readHandshake surplus) d.handshake
           notification := ← f.get "notification" (readNotification surplus) d.notification
           timeouts := ← f.get "timeouts" (readTimeouts surplus) d.timeouts
           startup := ← f.get "startup" (readStartup surplus) d.startup
           reloadCycles := ← f.get "reload_cycles" readUInt32 d.reloadCycles
           failFast := ← f.get "fail_fast" readBool d.failFast
           variants := ← f.get "variants" (readList readBool) d.variants }

def number (n : Nat) : Value := .int n

def path (p : Path) : Value := .text p.display

def toValue (s : Settings) : Value :=
  .table [
    ("broker", .table [
      ("program", .text s.broker.program),
      ("args", .list (s.broker.args.map .text)),
      ("env", .table (s.broker.env.map fun (name, v) => (name, .text v))),
      ("working_dir", .ofOption path s.broker.workingDir)]),
    ("plugin_path", path s.pluginPath),
    ("base_port", number s.basePort.toNat),
    ("config_dir", .ofOption path s.configDir),
    ("client", .table [
      ("client_id", .text s.client.clientId),
      ("keepalive", number s.client.keepalive.toNat),
      ("protocol_version", number s.client.protocolVersion.toNat),
      ("clean_session", .bool s.client.cleanSession)]),
    ("handshake", .table [
      ("reason_code", number s.handshake.reasonCode.toNat),
      ("session_present", .bool s.handshake.sessionPresent),
      ("topic_alias_maximum",
        .ofOption (fun (n : UInt16) => number n.toNat) s.handshake.topicAliasMaximum),
      ("receive_maximum",
        .ofOption (fun (n : UInt16) => number n.toNat) s.handshake.receiveMaximum)]),
    ("notification", .table [
      ("topic", .text s.notification.topic),
      ("payload", .text s.notification.payload),
      ("qos", number s.notification.qos.toNat),
      ("retain", .bool s.notification.retain)]),
    ("timeouts", .table [
      ("handshake", .text s.timeouts.handshake.write),
      ("notification", .text s.timeouts.notification.write),
      ("ping", .text s.timeouts.ping.write),
      ("shutdown_grace", .text s.timeouts.shutdownGrace.write)]),
    ("startup", .table [
      ("attempts", number s.startup.attempts.toNat),
      ("initial_backoff", .text s.startup.initialBackoff.write),
      ("max_backoff", .text s.startup.maxBackoff.write)]),
    ("reload_cycles", number s.reloadCycles.toNat),
    ("fail_fast", .bool s.failFast),
    ("variants", .list (s.variants.map .bool))]

end Settings
end ReloadProbe.Config
