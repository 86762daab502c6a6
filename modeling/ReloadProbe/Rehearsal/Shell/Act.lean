import ReloadProbe.Rehearsal.Call
import ReloadProbe.Rehearsal.Numeral
import ReloadProbe.Text.Octets

/-!
What a shell does: it asks the machine, changes its session, and may leave off what it is doing.
A message has been written by the time that a command is left because of a fault.
-/
namespace ReloadProbe.Rehearsal.Shell

open Kernel (Call Reply)

inductive Leave where
  /-- A fault. Unless something stands in between, the shell ends with its status. -/
  | fault
  | exit
  | finished
  deriving DecidableEq

abbrev Act := ExceptT Leave (StateT Session Process)

namespace Act

def call (c : Call) : Act (Reply c) :=
  ExceptT.lift (StateT.lift (@Interaction.call Kernel.kernel c))

def read (fd most : Nat) (interruptible : Bool) : Act (Except Refusal Bytes) :=
  call (.read fd most interruptible)

def writeBytes (fd : Nat) (data : Bytes) : Act (Except Refusal Unit) := call (.write fd data)

def write (fd : Nat) (text : String) : Act (Except Refusal Unit) :=
  if text.isEmpty then return .ok () else writeBytes fd (Octets.toBytes text)

def openFile (path : String) (access : Access) : Act (Except Refusal Nat) :=
  call (.openFile path access)

def close (fd : Nat) : Act Unit := do
  let _ ← (call (.close fd) : Act (Except Refusal Unit))

def duplicate (fd least : Nat) : Act (Except Refusal Nat) := call (.duplicate fd least)

def redirect (source target : Nat) : Act (Except Refusal Unit) := call (.redirect source target)

def pipe : Act (Nat × Nat) := call .pipe

def fork (e : Errand) : Act Nat := call (.fork (.errand e))

/-- Answers only if the program cannot be run. -/
def exec (path : String) (arguments : List String) (environment : List (String × String)) :
    Act Refusal :=
  call (.exec path arguments environment)

def wait (pid : Option Nat) (block interruptible : Bool) : Act Waited :=
  call (.wait pid block interruptible)

def examine (path : String) : Act (Except Refusal (String × Nat × Node)) :=
  call (.examine path true)

/-- What is at a path, even if it is only a name for another path. -/
def examineName (path : String) : Act (Except Refusal (String × Nat × Node)) :=
  call (.examine path false)

def here : Act String := call .here

def enter (path : String) : Act (Except Refusal String) := call (.enter path)

def mask (new : Option Nat) : Act Nat := call (.mask new)

def kill (pid : Int) (signal : Nat) : Act (Except Refusal Unit) := call (.kill pid signal)

def handle (signal : Nat) (d : Option Disposition) : Act Unit := call (.handle signal d)

def isIgnored (signal : Nat) : Act Bool := call (.isIgnored signal)

def list (path : String) : Act (Except Refusal (List String)) := call (.list path)

def pause : Act (List Nat) := call .pause

def complain (text : String) : Act Unit := do
  let s ← get
  let command := match s.command? with
    | some c => s!"{c}: "
    | none => ""
  let _ ← write 2 s!"{s.name}: {s.line}: {command}{text}\n"

def emit (text : String) (status : Nat := 0) : Act Nat := do
  match ← write 1 text with
  | .ok () => return status
  | .error _ =>
    complain (((← get).command?).getD "" ++ ": I/O error")
    return status ||| 1

def setStatus (status : Nat) : Act Unit := modify fun s => { s with status }

def fail {α : Type} (text : String) (status : Nat := 2) : Act α := do
  complain text
  setStatus status
  throw .fault

def reason (r : Refusal) (notFound : String) : String :=
  match r with
  | .noEntry | .notDirectory => notFound
  | r => r.reason

/-- What follows an option among those that are known. A colon after one belongs to it. -/
def afterOption? (c : Char) : List Char → Option (List Char)
  | [] => none
  | k :: known =>
    if k = c then some known
    else
      match known with
      | ':' :: known => afterOption? c known
      | known => afterOption? c known

def optionsOf (known : String) : (limit : Nat) → List String →
    Act (List (Char × String) × List String)
  | 0, args => return ([], args)
  | _ + 1, [] => return ([], [])
  | limit + 1, arg :: args => do
    match arg.toList with
    | ['-', '-'] => return ([], args)
    | '-' :: c :: cs => do
      match afterOption? c known.toList with
      | none => fail s!"Illegal option -{c}"
      | some (':' :: _) =>
        match cs, args with
        | [], [] => fail s!"No arg for -{c} option"
        | [], value :: args =>
          let (more, args) ← optionsOf known limit args
          return ((c, value) :: more, args)
        | cs, args =>
          let (more, args) ← optionsOf known limit args
          return ((c, String.ofList cs) :: more, args)
      | some _ =>
        let rest := if cs.isEmpty then args else String.ofList ('-' :: cs) :: args
        let (more, args) ← optionsOf known limit rest
        return ((c, "") :: more, args)
    | _ => return ([], arg :: args)

def options (known : String) (args : List String) : Act (List (Char × String) × List String) :=
  optionsOf known (args.foldl (fun sum arg => sum + arg.length + 1) 1) args

def number? (s : String) : Option Nat :=
  let n := Numeral.read (some 10) s.toList
  if n.found && n.rest.all Numeral.isBlank && 0 ≤ n.value && n.value < 2147483648 then
    some n.value.toNat
  else none

def number (s : String) : Act Nat := do
  match number? s with
  | some n => return n
  | none => fail s!"Illegal number: {s}"

/-- The characters that part fields unless another choice is made. -/
def usualSeparators : String := " \t\n"

/-- Sets a variable, unless it may not be changed. -/
def setVariable (name : String) (value? : Option String) (exported : Bool := false)
    (readonly : Bool := false) : Act Unit := do
  let s ← get
  let old := (s.vars.lookup name).getD { value? := none }
  if old.readonly then fail s!"{name}: is read only"
  else
    let exported := exported || old.exported || s.has 'a'
    let s := s.setVariable name { value?, exported, readonly }
    set s
    if name = "PATH" then set { s with found := [] }
    if name = "OPTIND" then
      let n ← number (value?.getD "")
      set { s with optionIndex := max n 1, optionOffset := none }

def putVariable (name : String) (v : Variable) : Act Unit := modify fun s => s.setVariable name v

def assign (name value : String) (exported : Bool := false) : Act Unit := do
  if isName name then setVariable name (some value) exported
  else fail s!"{name}: bad variable name"

/-- Puts a variable aside, to be set again when the function or the command has ended. -/
def putAside (name : String) : Act Unit := modify fun s =>
  match s.scopes with
  | scope :: scopes =>
    if scope.vars.any fun (k, _) => k = name then s
    else
      let vars := (name, s.vars.lookup name) :: scope.vars
      { s with scopes := { scope with vars } :: scopes }
  | [] => s

def putOptionsAside : Act Unit := modify fun s =>
  match s.scopes with
  | scope :: scopes =>
    { s with scopes := { scope with options? := some (scope.options?.getD s.options) } :: scopes }
  | [] => s

def pushScope : Act Unit := modify fun s => { s with scopes := {} :: s.scopes }

def popScope : Act Unit := modify fun s =>
  match s.scopes with
  | scope :: scopes =>
    let options := scope.options?.getD s.options
    scope.vars.foldl (fun s (name, old) =>
      match old with
      | some v => s.setVariable name v
      | none => s.removeVariable name) { s with scopes, options }
  | [] => s

/-- An action, and what it came to: nothing if it was left because of a fault. -/
def guarded {α : Type} (a : Act α) : Act (Except Leave α) := fun s => do
  let (r, s) ← a s
  return (.ok r, s)

def usualPath : String :=
  "/usr/local/sbin:/usr/local/bin:/usr/sbin:/usr/bin:/sbin:/bin"

def path : Act String := return ((← get).lookup? "PATH").getD ""

end Act
end ReloadProbe.Rehearsal.Shell
