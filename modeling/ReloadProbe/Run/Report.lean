import ReloadProbe.Failure
import ReloadProbe.Run.Scenario
import ReloadProbe.Run.Stage
import ReloadProbe.Text.Blank
import ReloadProbe.Time.Seconds

/-! What came of the runs, told to people and to machines. -/
namespace ReloadProbe

structure Outcome where
  id : String
  perListenerSettings : Bool
  /-- None if the run failed before it had a port. -/
  scenario : Option Scenario := none
  /-- The stage that the run was at before it was torn down. -/
  reached : Stage
  result : Except Failure Unit
  /-- What the broker left behind, if one was started. -/
  output : Option Output := none
  elapsed : Duration := .zero

namespace Outcome

def failure? (o : Outcome) : Option Failure :=
  match o.result with
  | .ok () => none
  | .error e => some e

def passed (o : Outcome) : Bool := o.failure?.isNone

def headline (o : Outcome) : String :=
  let marker := if o.passed then "PASS" else "FAIL"
  let port := match o.scenario with
    | some s => toString s.port.toNat
    | none => "-"
  s!"[{marker}] per_listener_settings={o.perListenerSettings} port={port} " ++
    s!"({o.elapsed.secondsText}s) run={o.id}"

def outputLines (output : Output) : List String :=
  let errors := Utf8.lossy output.stderr
  (output.exit.map fun exit => s!"  broker: {exit.message}").toList ++
    if Text.isAllBlank errors then ["  broker stderr: (empty)"]
    else
      let lines := (Text.lines errors.toList).map String.ofList
      "  broker stderr:" :: lines.map ("    " ++ ·)

def details (o : Outcome) : List String :=
  match o.failure? with
  | none => []
  | some e =>
    [s!"  reached: {o.reached.name}", s!"  error [{e.kind}]: {e.message}"] ++
      match o.output with
      | some output => outputLines output
      | none => []

def toValue (o : Outcome) : Value :=
  let exit (e : ExitState) : Value :=
    .table [("code", .ofOption .int e.code), ("signal", .ofOption .int e.signal)]
  .table ([
    ("run_id", .text o.id),
    ("per_listener_settings", .bool o.perListenerSettings),
    ("port", .ofOption (fun s => .int s.port.toNat) o.scenario),
    ("protocol_version", .ofOption (fun s => .int s.version.level.toNat) o.scenario),
    ("passed", .bool o.passed),
    ("reached", .text o.reached.name),
    ("elapsed_ms", .int (min o.elapsed.toMillis 18446744073709551615)),
    ("error_kind", .ofOption (fun e => .text e.kind) o.failure?),
    ("error", .ofOption (fun e => .text e.message) o.failure?),
    ("broker_exit", .ofOption exit (o.output.bind Output.exit))] ++
    match o.failure?, o.output with
    | some _, some output => [("broker_stderr", .text (Utf8.lossy output.stderr))]
    | _, _ => [])

end Outcome

structure Report where
  outcomes : List Outcome := []
  /-- The variants that did not run. -/
  skipped : List Bool := []

namespace Report

/-- At least one variant ran, and none failed or was skipped. -/
def passed (r : Report) : Bool :=
  !r.outcomes.isEmpty && r.skipped.isEmpty && r.outcomes.all Outcome.passed

def failed (r : Report) : Nat := r.outcomes.countP fun o => !o.passed

def header (r : Report) : String :=
  s!"Plugin reload conformance: {r.outcomes.length - r.failed} passed, {r.failed} failed, " ++
    s!"{r.skipped.length} skipped"

def lines (r : Report) : List String :=
  r.header :: r.outcomes.flatMap (fun o => o.headline :: o.details) ++
    r.skipped.map fun variant => s!"[SKIP] per_listener_settings={variant}"

def text (r : Report) : String := String.join (r.lines.map (· ++ "\n"))

def toValue (r : Report) : Value :=
  .table [
    ("passed", .bool r.passed),
    ("failed", .int r.failed),
    ("skipped", .list (r.skipped.map .bool)),
    ("scenarios", .list (r.outcomes.map Outcome.toValue))]

def json (r : Report) : String := Json.write Json.pretty 0 r.toValue

end Report
end ReloadProbe
