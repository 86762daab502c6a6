import ReloadProbe.Rehearsal.Shell.Syntax

/-! What a shell keeps while it runs. All texts in it are texts of octets. -/
namespace ReloadProbe.Rehearsal.Shell

structure Variable where
  value? : Option String
  exported : Bool := false
  readonly : Bool := false

structure Function where
  line : Nat
  body : Command

inductive Progress where
  | running
  | exited (code : Nat)
  | killed (signal : Nat)
  deriving DecidableEq

structure Job where
  number : Nat
  processes : List (Nat × Progress)
  told : Bool := false

inductive Skip where
  | nothing
  | toEndOfLoop
  | toNextRound
  /-- To the end of a function or of a file; `plain` if no status was given. -/
  | toReturn (plain : Bool)
  deriving DecidableEq

def Skip.afterReturn : Skip → Skip
  | .toReturn _ => .nothing
  | skip => skip

inductive Saved where
  | closed
  | copied (fd : Nat)

structure Scope where
  vars : List (String × Option Variable) := []
  options? : Option (List Char) := none

structure Session where
  self : Nat
  name : String
  args : List String := []
  vars : List (String × Variable) := []
  scopes : List Scope := []
  functions : List (String × Function) := []
  aliases : List (String × String) := []
  /-- The letters of the options that are on; a long option without a letter is not kept. -/
  options : List Char := []
  status : Nat := 0
  statusBefore : Option Nat := none
  scriptStatus : Nat := 0
  background : Option Nat := none
  /-- What to do at a signal, by its number; the empty text ignores it. -/
  traps : List (Nat × String) := []
  pending : List Nat := []
  jobs : List Job := []
  documents : Documents := []
  nextDocument : Nat := 0
  line : Nat := 1
  command? : Option String := none
  skip : Skip := .nothing
  skipCount : Nat := 0
  loops : Nat := 0
  calls : Nat := 0
  redirections : List (List (Nat × Saved)) := []
  directory : String := "/"
  optionIndex : Nat := 1
  optionOffset : Option Nat := none
  means : List (Char × String) := []
  found : List (String × String) := []
  trace : Nat := 2
  tracing : Bool := false
  isSubshell : Bool := false

namespace Session

def has (s : Session) (option : Char) : Bool := s.options.contains option

def lookup? (s : Session) (name : String) : Option String :=
  (s.vars.lookup name).bind Variable.value?

/-- The place of a name in a table of so many rows. Rows are gone through one after the other. -/
def row (rows : Nat) (name : String) : Nat :=
  let first := (name.toList.head?.map Char.toNat).getD 0
  (16 * first + name.toList.foldl (fun sum c => sum + c.toNat) 0) % rows

def inRows {α : Type} (rows : Nat) (entries : List (String × α)) : List (String × α) :=
  (List.range rows).flatMap fun i => entries.filter fun (name, _) => row rows name = i

def environment (s : Session) : List (String × String) :=
  inRows 39 (s.vars.filterMap fun (name, v) =>
    if v.exported then v.value?.map fun value => (name, value) else none)

def setVariable (s : Session) (name : String) (v : Variable) : Session :=
  if (s.vars.lookup name).isSome then
    { s with vars := s.vars.map fun (k, old) => (k, if k = name then v else old) }
  else { s with vars := s.vars ++ [(name, v)] }

def removeVariable (s : Session) (name : String) : Session :=
  { s with vars := s.vars.filter fun (k, _) => k ≠ name }

def job? (s : Session) (number : Nat) : Option Job := s.jobs.find? fun j => j.number = number

end Session

inductive Plumbing where
  | close (fd : Nat)
  | move (source target : Nat)
  | dry (fd : Nat)
  | release (signal : Nat)
  | ignore (signal : Nat)

inductive Aim where
  | file (fd : Nat) (opening : Opening) (path : String)
  | copy (fd : Nat) (source? : Option Nat)
  | document (fd : Nat) (number : Nat)

inductive Errand where
  /-- Commands, after redirections. If they are tested, their failure ends nothing. -/
  | commands (s : Session) (plumbing : List Plumbing) (aims : List Aim) (tested : Bool)
      (c : Command)
  | program (s : Session) (path : String) (arguments : List String)

end ReloadProbe.Rehearsal.Shell
