import ReloadProbe.CommandLine.Options
import ReloadProbe.Config.Load
import ReloadProbe.Run.Plan

/-! The settings that a command line asks for: those of its file, or the defaults, with its options
put in their places. -/
namespace ReloadProbe.CommandLine

open Config

inductive SetupError where
  | load (path : Path) (cause : Failure)
  | invalid (cause : Failure)
  /-- The packets that the settings ask for cannot be written. -/
  | packets (cause : Failure)

namespace SetupError

def context? : SetupError → Option String
  | load path _ => some s!"Failed to load config from {path.display}"
  | invalid _ => some "Invalid configuration"
  | packets _ => none

def cause : SetupError → Failure
  | load _ cause | invalid cause | packets cause => cause

def message (e : SetupError) : String :=
  ": ".intercalate (e.context?.toList ++ [e.cause.message] ++ e.cause.source?.toList)

end SetupError

def Options.override (o : Options) (s : Settings) : Settings :=
  { s with
    broker := { s.broker with program := o.broker.getD s.broker.program }
    pluginPath := o.plugin.getD s.pluginPath
    basePort := o.basePort.getD s.basePort
    client := { s.client with protocolVersion := o.protocolVersion.getD s.client.protocolVersion }
    variants := if o.variants.isEmpty then s.variants else o.variants
    reloadCycles := o.reloadCycles.getD s.reloadCycles
    timeouts :=
      { s.timeouts with notification := o.notificationTimeout.getD s.timeouts.notification }
    failFast := !o.noFailFast && s.failFast }

/-- The settings. `read` gives the contents of files. -/
def Options.settings (o : Options) (read : Path → Except String Bytes) :
    Except SetupError Settings := do
  let base ← match o.config with
    | some path => (Settings.load path (read path)).mapError (.load path)
    | none => .ok {}
  let s := o.override base
  s.validate.mapError fun fault => .invalid (.invalidConfig fault.message)
  return s

def Options.plan (o : Options) (read : Path → Except String Bytes) : Except SetupError Plan := do
  (Plan.ofSettings (← o.settings read)).mapError .packets

end ReloadProbe.CommandLine
