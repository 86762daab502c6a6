import ReloadProbe.CommandLine.Setup
import ReloadProbe.Run.Plan

/-!
The whole program: its arguments are read, its settings put together, the suite run, and the report
told. A suite that passes says nothing unless it is asked for its report.
-/
namespace ReloadProbe.CommandLine

structure Ending where
  stdout : String := ""
  stderr : String := ""
  code : Nat
  deriving DecidableEq

def name : String := "plugin-reload-test"

def synopsis : String := s!"Usage: {name} [OPTIONS]\n"

def manual : String :=
  "Verifies that a broker plugin publishes its reload notification on SIGHUP\n\n" ++ synopsis ++
  "
Options:
  -c, --config <CONFIG>
          Harness configuration file (TOML); defaults apply to missing fields
      --broker <BROKER>
          Broker executable to launch
      --plugin <PLUGIN>
          Plugin shared object loaded by the broker
      --base-port <BASE_PORT>
          First listener port to try
      --protocol-version <PROTOCOL_VERSION>
          MQTT protocol version (3, 4 or 5)
      --variant <VARIANTS>
          per_listener_settings value to run (repeatable; default: false, then true)
      --reload-cycles <RELOAD_CYCLES>
          Reload signal / notification cycles per run
      --notification-timeout <NOTIFICATION_TIMEOUT>
          How long to wait for the notification (e.g., 10s, 500ms)
      --json
          Print the report as JSON on stdout
      --no-fail-fast
          Run every variant even after a failure
  -v, --verbose
          Enable info logging
      --debug
          Enable debug logging
  -h, --help
          Print help
  -V, --version
          Print version
"

def Usage.message : Usage → String
  | .unknownArgument => "unexpected argument"
  | .invalidValue => "a value is missing, or it is none of those allowed"
  | .valueValidation => "a value cannot be read"
  | .argumentConflict => "an argument cannot be used multiple times"
  | .tooManyValues => "an argument takes no value"
  | .help | .version => ""

def Usage.ending (u : Usage) : Ending :=
  match u with
  | .help => { stdout := manual, code := u.exitCode }
  | .version => { stdout := s!"{name} 0.1.0\n", code := u.exitCode }
  | _ => { stderr := s!"error: {u.message}\n\n{synopsis}", code := u.exitCode }

def SetupError.ending (e : SetupError) : Ending :=
  { stderr := s!"Error: {e.message}\n", code := 2 }

/-- The report for people is only told of a suite that did not pass. -/
def Options.ending (o : Options) (r : Report) : Ending :=
  { stdout := if o.json then r.json ++ "\n" else ""
    stderr := if o.json || r.passed then "" else r.text
    code := if r.passed then 0 else 1 }

/-- The plan of a command line, or the ending if there is none. `read` gives the contents of
files. -/
def prepare (read : Path → Except String Bytes) (arguments : List String) :
    Except Ending (Options × Plan) := do
  let o ← (parse arguments).mapError Usage.ending
  let plan ← (o.plan read).mapError SetupError.ending
  return (o, plan)

def crashed (reason : String) : Ending :=
  { stderr := s!"thread main panicked: {reason}\n", code := 101 }

def perform (o : Options) (plan : Plan) : Interaction Host.host Ending := do
  return o.ending (← plan.suite)

end ReloadProbe.CommandLine
