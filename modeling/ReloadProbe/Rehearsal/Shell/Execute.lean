import ReloadProbe.Rehearsal.Shell.Builtin.Names
import ReloadProbe.Rehearsal.Shell.Builtin.Output
import ReloadProbe.Rehearsal.Shell.Builtin.Places
import ReloadProbe.Rehearsal.Shell.Builtin.Processes
import ReloadProbe.Rehearsal.Shell.Redirect

/-!
What a shell does with a command whose words have been expanded: it runs a program, in its own place
or in a process of its own, or one of its own commands.
-/
namespace ReloadProbe.Rehearsal.Shell.Act

def scriptShell : String := "/bin/sh"

def attempt (path : String) (args : List String) : Act Refusal := do
  let environment := (← get).environment
  match ← exec path args environment with
  | .noProgram =>
    if path = scriptShell then return .noProgram
    else exec scriptShell (scriptShell :: path :: args.drop 1) environment
  | r => return r

/-- A program that cannot be run at all is one that has not been found. -/
def isAbsence (r : Refusal) : Bool :=
  [.noEntry, .notDirectory, .tooManyLinks, .nameTooLong].contains r

def become {α : Type} (path : String) (args : List String) : Act α := do
  let name := args.headD ""
  let rec go : List String → Refusal → Act Refusal
    | [], r => return r
    | candidate :: more, r => do
      match ← attempt candidate args with
      | .noEntry | .notDirectory => go more r
      | r => go more r
  let r ← if name.contains '/' then attempt name args else go (candidates path name) .noEntry
  complain s!"{name}: {programFault r}"
  setStatus (if isAbsence r then 127 else 126)
  throw .finished

def plumb : Plumbing → Act Unit
  | .close fd => close fd
  | .move source target =>
    if source = target then return ()
    else do
      let _ ← redirect source target
      close source
  | .dry fd => do
    close fd
    let _ ← openFile "/dev/null" { read := true }
  | .release signal => handle signal none
  | .ignore signal => handle signal (some .ignored)

def leaveLoops (args : List String) (skip : Skip) : Act Nat := do
  let n ← match args with
    | [] => pure 1
    | arg :: _ => do
      let n ← number arg
      if n = 0 then fail s!"Illegal number: {arg}" else pure n
  modify fun s =>
    let n := min n s.loops
    if n = 0 then s else { s with skip, skipCount := n }
  return 0

def exit (args : List String) : Act Nat := do
  match args with
  | [] => pure ()
  | arg :: _ =>
    let n ← number arg
    modify fun s => { s with statusBefore := some n }
  throw .exit

def returnWith (args : List String) : Act Nat := do
  match args with
  | [] =>
    modify fun s => { s with skip := .toReturn true }
    return (← get).status
  | arg :: _ =>
    let n ← number arg
    modify fun s => { s with skip := .toReturn false }
    return n

def replace (args : List String) : Act Nat := do
  if args.isEmpty then return 0 else become (← path) args

def builtin (name : String) (args : List String) : Act Nat :=
  match name with
  | ":" | "true" => return 0
  | "false" => return 1
  | "[" => Builtin.bracket args
  | "alias" => Builtin.nickname args
  | "bg" | "fg" => Builtin.move args
  | "break" => leaveLoops args .toEndOfLoop
  | "cd" | "chdir" => Builtin.cd args
  | "command" => Builtin.command args
  | "continue" => leaveLoops args .toNextRound
  | "echo" => Builtin.echo args
  | "exec" => replace args
  | "exit" => exit args
  | "export" | "readonly" => Builtin.markVariables name args
  | "getopts" => Builtin.getopts args
  | "hash" => Builtin.hash args
  | "jobs" => Builtin.jobs args
  | "kill" => Builtin.kill args
  | "local" => Builtin.makeLocals args
  | "printf" => Builtin.printf args
  | "pwd" => Builtin.pwd args
  | "read" => Builtin.read args
  | "return" => returnWith args
  | "set" => Builtin.setOptions args
  | "shift" => Builtin.shift args
  | "test" => Builtin.test args
  | "times" => Builtin.times
  | "trap" => Builtin.trap args
  | "type" => Builtin.type args
  | "ulimit" => Builtin.ulimit args
  | "umask" => Builtin.umask args
  | "unalias" => Builtin.unalias args
  | "unset" => Builtin.unset args
  | "wait" => Builtin.wait args
  | _ => return 127

def loopSkip : Act Skip := do
  let s ← get
  match s.skip with
  | .toEndOfLoop | .toNextRound =>
    if s.skipCount ≤ 1 then
      set { s with skip := .nothing }
      return s.skip
    else
      set { s with skipCount := s.skipCount - 1 }
      return .toEndOfLoop
  | skip => return skip

def readAll (fd : Nat) : Act Bytes := do
  let rec go : Nat → List Bytes → Act (List Bytes)
    | 0, pieces => return pieces
    | limit + 1, pieces => do
      match ← read fd 65536 false with
      | .ok [] | .error _ => return pieces
      | .ok piece => go limit (piece :: pieces)
  return (← go 1000000000 []).reverse.flatten

def scriptText (path : String) : Act String := do
  let fd ← openPath path { read := true }
  let bytes ← readAll fd
  close fd
  return Octets.ofBytes bytes

def sourceFile (name : String) : Act String := do
  if name.contains '/' then return name
  else
    match ← locate (← path) name with
    | .ok place => return place
    | .error _ => fail s!"{name}: not found"

end ReloadProbe.Rehearsal.Shell.Act
