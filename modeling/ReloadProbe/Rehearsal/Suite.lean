import ReloadProbe.CommandLine.Program
import ReloadProbe.Rehearsal.Site

/-! The whole program, rehearsed on a model machine. -/
namespace ReloadProbe.Rehearsal

/-- The contents of a file of a machine, or why it cannot be read. -/
def Machine.contentsAt (m : Machine) (path : Path) : Except String Bytes :=
  if path.octets.contains 0 then .error "file name contained an unexpected NUL byte"
  else (m.files.read "/" (Site.pathOf path)).mapError Refusal.message

def rehearse (machine : Machine) (read : Path → Except String Bytes) (arguments : List String) :
    CommandLine.Ending :=
  match CommandLine.prepare read arguments with
  | .error ending => ending
  | .ok (options, plan) =>
    let site : Site :=
      { parent := { machine }, command := plan.settings.broker
        grace := plan.settings.timeouts.shutdownGrace }
    match ((CommandLine.perform options plan).run Site.serve site).1 with
    | .ok ending => ending
    | .error reason => CommandLine.crashed reason

end ReloadProbe.Rehearsal
