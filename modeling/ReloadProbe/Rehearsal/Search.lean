import ReloadProbe.Rehearsal.Refusal

/-! How a program is looked for by its name, and which fault counts if it cannot be run. -/
namespace ReloadProbe.Rehearsal.Search

def usualPath : String := "/bin:/usr/bin"

def candidates (path program : String) : List String :=
  if program.contains '/' then [program]
  else
    (path.splitOn ":").map fun directory =>
      if directory.isEmpty then program else directory ++ "/" ++ program

/-- Runs the first of some paths that can be run. It is kept in mind if one could not be run for
want of the right to do so. -/
def runFirst {m : Type → Type} [Monad m] {α : Type} (run : String → m (Except Refusal α)) :
    List String → (last : Refusal) → (denied : Bool) → m (Except Refusal α)
  | [], last, denied => return .error (if denied then .denied else last)
  | path :: more, _, denied => do
    match ← run path with
    | .error .denied => runFirst run more .denied true
    | .error .noEntry => runFirst run more .noEntry denied
    | .error .notDirectory => runFirst run more .notDirectory denied
    | r => return r

def run {m : Type → Type} [Monad m] {α : Type} (path? : Option String) (program : String)
    (run : String → m (Except Refusal α)) : m (Except Refusal α) :=
  if program.isEmpty then return .error .noEntry
  else runFirst run (candidates (path?.getD usualPath) program) .noEntry false

end ReloadProbe.Rehearsal.Search
