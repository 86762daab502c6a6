import ReloadProbe.Rehearsal.Suite

/-! The command line. Suites are rehearsed: brokers are programs of a model machine, and of the
world around only the configuration file is read. -/
namespace ReloadProbe.CommandLine

open Rehearsal (Refusal)

/-- Why a file cannot be read. -/
def reasonOf : IO.Error → String
  | .noFileOrDirectory _ code reason | .permissionDenied _ code reason
  | .inappropriateType _ code reason | .invalidArgument _ code reason =>
    s!"{reason} (os error {code})"
  | e => toString e

/-- The contents of a file, or why it cannot be read. -/
def contentsOf (path : Path) : IO (Except String Bytes) := do
  try
    let contents ← IO.FS.readBinFile path.display
    return .ok contents.toList
  catch e => return .error (reasonOf e)

def filesOf (arguments : List String) : IO (List (Path × Except String Bytes)) := do
  match parse arguments with
  | .ok { config := some path, .. } => return [(path, ← contentsOf path)]
  | _ => return []

def endingWith (files : List (Path × Except String Bytes)) (arguments : List String) : Ending :=
  let read (path : Path) : Except String Bytes :=
    (files.lookup path).getD (.error Refusal.noEntry.message)
  Rehearsal.rehearse .first read arguments

end ReloadProbe.CommandLine

open ReloadProbe CommandLine in
def main (arguments : List String) : IO UInt32 := do
  let ending := endingWith (← filesOf arguments) arguments
  IO.print ending.stdout
  IO.eprint ending.stderr
  return UInt32.ofNat ending.code
