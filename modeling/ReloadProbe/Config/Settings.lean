import ReloadProbe.Path
import ReloadProbe.Text.Blank
import ReloadProbe.Time.Duration
import ReloadProbe.Wire.Version

/-!
What a run is to do: the broker to launch, the session to open, the packets to expect and the times
to wait. Each field has a default, so that no settings at all describe a complete run.
-/
namespace ReloadProbe.Config

/-- How the broker is launched. In the arguments `\x7bconfig\x7d` and `\x7bport\x7d` stand for the
broker's configuration file and its listener port. -/
structure BrokerCommand where
  program : String := "mosquitto"
  args : List String := ["-c", "\x7bconfig\x7d"]
  env : List (String × String) := []
  workingDir : Option Path := none

structure ClientSettings where
  clientId : String := "plugin-reload-test"
  keepalive : UInt16 := 10
  /-- A protocol level, which need not be that of a known version. -/
  protocolVersion : UInt8 := 5
  cleanSession : Bool := false

/-- The CONNACK that the broker must answer with. Only version 5 has the two maxima. -/
structure HandshakeSettings where
  reasonCode : UInt8 := 0
  sessionPresent : Bool := false
  topicAliasMaximum : Option UInt16 := some 10
  receiveMaximum : Option UInt16 := some 20

structure NotificationSettings where
  topic : String := "topic/reload"
  payload : String := "test-message"
  /-- A QoS level, which need not be a valid one. -/
  qos : UInt8 := 0
  retain : Bool := false

structure Timeouts where
  handshake : Duration := .ofSeconds 20
  notification : Duration := .ofSeconds 10
  ping : Duration := .ofSeconds 10
  /-- How long the broker may take to exit before it is killed. -/
  shutdownGrace : Duration := .ofSeconds 5

/-- How often and how slowly a refused connection is tried again. -/
structure StartupRetry where
  attempts : UInt32 := 50
  initialBackoff : Duration := .ofMillis 50
  maxBackoff : Duration := .ofMillis 500

/-- The delay after an attempt, counted from zero: it doubles sixteen times at most, up to the
longest allowed. -/
def StartupRetry.backoff (r : StartupRetry) (attempt : Nat) : Duration :=
  (r.initialBackoff.times (Nat.pow 2 (min attempt 16))).min r.maxBackoff

structure Settings where
  broker : BrokerCommand := {}
  pluginPath : Path := .ofText "c/plugin_evt_reload.so"
  basePort : UInt16 := 1888
  /-- The directory of the broker's configuration files; the system's if there is none. -/
  configDir : Option Path := none
  client : ClientSettings := {}
  handshake : HandshakeSettings := {}
  notification : NotificationSettings := {}
  timeouts : Timeouts := {}
  startup : StartupRetry := {}
  /-- How often the broker is told to reload in one run. -/
  reloadCycles : UInt32 := 1
  /-- Stop after the first variant that fails. -/
  failFast : Bool := true
  /-- The values of `per_listener_settings` to run with, in order. -/
  variants : List Bool := [false, true]

inductive Fault where
  | noProgram
  | noAttempts
  | noCycles
  | badQoS
  | noVariants
  | badVersion (level : UInt8)
  deriving DecidableEq

def Fault.message : Fault → String
  | noProgram => "broker.program must not be empty"
  | noAttempts => "startup.attempts must be greater than 0"
  | noCycles => "reload_cycles must be greater than 0"
  | badQoS => "notification.qos must be 0, 1, or 2"
  | noVariants => "variants must name at least one per_listener_settings value"
  | badVersion level => s!"client.protocol_version {level.toNat} is not 3, 4 or 5"

namespace Settings

def version (s : Settings) : Except Fault Wire.Version :=
  match Wire.Version.ofLevel s.client.protocolVersion with
  | .ok v => .ok v
  | .error _ => .error (.badVersion s.client.protocolVersion)

/-- The first fault, in the order of the checks. -/
def validate (s : Settings) : Except Fault Unit :=
  if Text.isAllBlank s.broker.program then .error .noProgram
  else if s.startup.attempts = 0 then .error .noAttempts
  else if s.reloadCycles = 0 then .error .noCycles
  else if s.notification.qos > 2 then .error .badQoS
  else if s.variants.isEmpty then .error .noVariants
  else s.version.map fun _ => ()

end Settings
end ReloadProbe.Config
