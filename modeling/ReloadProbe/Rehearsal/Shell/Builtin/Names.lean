import ReloadProbe.Rehearsal.Shell.Builtin.Test
import ReloadProbe.Rehearsal.Shell.Builtin.Variables
import ReloadProbe.Rehearsal.Shell.Grammar

/-! What the names of commands stand for: words of the grammar, functions, commands of the shell
itself, and programs in the directories of a path. -/
namespace ReloadProbe.Rehearsal.Shell

def regularBuiltins : List String :=
  ["[", "alias", "bg", "cd", "chdir", "command", "echo", "false", "fg", "getopts", "hash", "jobs",
    "kill", "printf", "pwd", "read", "test", "true", "type", "ulimit", "umask", "unalias", "wait"]

def isSpecial (name : String) : Bool := specialBuiltins.contains name || name = "local"

def isBuiltin (name : String) : Bool := isSpecial name || regularBuiltins.contains name

def takesAssignments (name : String) : Bool :=
  ["alias", "export", "local", "readonly"].contains name

namespace Act

def candidates (path name : String) : List String :=
  (path.splitOn ":").map fun directory =>
    if directory.isEmpty then name else directory ++ "/" ++ name

def locate (path name : String) : Act (Except Refusal String) :=
  let rec go : List String → Refusal → Act (Except Refusal String)
    | [], r => return .error r
    | candidate :: more, r => do
      match ← examine candidate with
      | .error .noEntry | .error .notDirectory => go more r
      | .error r => go more r
      | .ok (_, _, node) =>
        if Builtin.Condition.isRegular node then return .ok candidate else go more .denied
  go (candidates path name) .noEntry

/-- Where the program of a name is. One that has been found in the usual directories is not looked
for again. -/
def findProgram (path? : Option String) (name : String) : Act (Except Refusal String) := do
  if name.contains '/' then return .ok name
  else
    match path?, (← get).found.lookup name with
    | some path, _ => locate path name
    | none, some place => return .ok place
    | none, none =>
      let r ← locate (← path) name
      match r with
      | .ok place => modify fun s => { s with found := s.found ++ [(name, place)] }
      | .error _ => pure ()
      return r

/-- What a message says of a program that cannot be run. -/
def programFault (r : Refusal) : String := reason r "not found"

end Act

namespace Builtin

inductive Meaning where
  | keyword
  | nickname (value : String)
  | function
  | builtin
  /-- A program that has been looked for before, or that was only found now. -/
  | program (place : String) (known : Bool)
  | nothing

def meaning (path? : Option String) (name : String) : Act Meaning := do
  let s ← get
  if keywords.contains name then return .keyword
  else
    match s.aliases.lookup name with
    | some value => return .nickname value
    | none =>
      if (s.functions.lookup name).isSome then return .function
      else if name.contains '/' then
        match ← Act.examine name with
        | .ok _ => return .program name false
        | .error _ => return .nothing
      else if isBuiltin name then return .builtin
      else
        match path?, s.found.lookup name with
        | none, some place => return .program place true
        | path?, _ =>
          match ← Act.locate (path?.getD (← Act.path)) name with
          | .ok place => return .program place false
          | .error _ => return .nothing

def sentence (path? : Option String) (name : String) : Act (String × Nat) := do
  let about (text : String) : Act (String × Nat) := return (s!"{name}{text}\n", 0)
  match ← meaning path? name with
  | .keyword => about " is a shell keyword"
  | .nickname value => about s!" is an alias for {value}"
  | .function => about " is a shell function"
  | .builtin =>
    about (if isSpecial name then " is a special shell builtin" else " is a shell builtin")
  | .program place known =>
    about (if known then s!" is a tracked alias for {place}" else s!" is {place}")
  | .nothing => return (s!"{name}: not found\n", 127)

/-- How a name could be written instead. -/
def brief (path? : Option String) (name : String) : Act (String × Nat) := do
  match ← meaning path? name with
  | .nickname value => return ("alias " ++ shownAlias name value, 0)
  | .program place _ => return (place ++ "\n", 0)
  | .nothing => return ("", 127)
  | _ => return (name ++ "\n", 0)

def type (args : List String) : Act Nat := do
  let (out, status) ← args.foldlM (fun (out, status) name => do
    let (more, s) ← sentence none name
    return (out ++ more, status ||| s)) ("", 0)
  Act.emit out status

def command (args : List String) : Act Nat := do
  let (options, args) ← Act.options "pvV" args
  let has (c : Char) : Bool := options.any fun (k, _) => k = c
  let path? := if has 'p' then some Act.usualPath else none
  match args.head? with
  | none => return 0
  | some name =>
    if has 'V' then
      let (out, status) ← sentence path? name
      Act.emit out status
    else if has 'v' then
      let (out, status) ← brief path? name
      Act.emit out status
    else return 0

/-- Shows which programs have been found, or looks for some again. -/
def hash (args : List String) : Act Nat := do
  let (options, args) ← Act.options "r" args
  if !options.isEmpty then
    modify fun s => { s with found := [] }
    return 0
  else if args.isEmpty then
    let found := Session.inRows 31 (← get).found
    Act.emit (String.join (found.map fun (_, place) => place ++ "\n"))
  else
    args.foldlM (fun status name => do
      modify fun s => { s with found := s.found.filter fun (k, _) => k ≠ name }
      let s ← get
      if (s.functions.lookup name).isSome || isBuiltin name then return status
      else
        match ← Act.findProgram none name with
        | .ok _ => return status
        | .error r =>
          Act.complain s!"{name}: {Act.programFault r}"
          return 1) 0

end Builtin
end ReloadProbe.Rehearsal.Shell
