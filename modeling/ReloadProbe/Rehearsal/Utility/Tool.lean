import ReloadProbe.Rehearsal.Call
import ReloadProbe.Rehearsal.Utility.Naming
import ReloadProbe.Text.Octets

/-!
What small programs are made of. A program holds back what it writes until there is much of it,
until it complains or until it ends; what could not be written is told of at its end. All texts are
texts of octets.
-/
namespace ReloadProbe.Rehearsal

open Kernel (Call Reply)

structure Desk where
  name : String
  environment : List (String × String)
  usage : String := ""
  held : List String := []
  heldLength : Nat := 0
  refused? : Option Refusal := none
  failure : Nat := 1

/-- A small program. It may end early with a code. -/
abbrev Tool := ExceptT Nat (StateT Desk Process)

namespace Tool

def call (c : Call) : Tool (Reply c) :=
  ExceptT.lift (StateT.lift (@Interaction.call Kernel.kernel c))

def exit {α : Type} (code : Nat) : Tool α := throw code

def writeTo (fd : Nat) (text : String) : Tool (Except Refusal Unit) :=
  call (.write fd (Octets.toBytes text))

def flush : Tool Unit := do
  let d ← get
  if d.held.isEmpty then return ()
  else
    set { d with held := [], heldLength := 0 }
    match ← writeTo 1 (String.join d.held.reverse) with
    | .ok () => return ()
    | .error r => modify fun d => { d with refused? := d.refused? <|> some r }

def room : Nat := 4096

def put (text : String) : Tool Unit := do
  if !text.isEmpty then
    modify fun d => { d with held := text :: d.held, heldLength := d.heldLength + text.length }
    if room ≤ (← get).heldLength then flush

def say (text : String) : Tool Unit := do
  flush
  let _ ← writeTo 2 text

def complain (text : String) : Tool Unit := do say s!"{(← get).name}: {text}\n"

def fail {α : Type} (text : String) (code : Nat := 1) : Tool α := do
  complain text
  exit code

def sendAway {α : Type} (code : Nat := 1) : Tool α := do
  say s!"{(← get).usage}Try '{(← get).name} --help' for more information.\n"
  exit code

def misuse {α : Type} (text : String) (code : Nat := 1) : Tool α := do
  complain text
  sendAway code

def lookup? (name : String) : Tool (Option String) := return (← get).environment.lookup name

def read (fd most : Nat) : Tool (Except Refusal String) := do
  let r : Except Refusal Bytes ← call (.read fd most false)
  return r.map Octets.ofBytes

def readLimit : Nat := 1000000000

def readSize : Nat := 131072

def readAll (fd : Nat) : Tool (Except Refusal String) := do
  let rec go : Nat → List String → Tool (Except Refusal String)
    | 0, pieces => return .ok (String.join pieces.reverse)
    | limit + 1, pieces => do
      match ← read fd readSize with
      | .ok "" => return .ok (String.join pieces.reverse)
      | .ok piece => go limit (piece :: pieces)
      | .error r => return .error r
  go readLimit []

def openFile (path : String) (access : Access := { read := true }) : Tool (Except Refusal Nat) :=
  call (.openFile path access)

def close (fd : Nat) : Tool Unit := do
  let _ ← (call (.close fd) : Tool (Except Refusal Unit))

def examine (path : String) (follow : Bool := true) :
    Tool (Except Refusal (String × Nat × Node)) :=
  call (.examine path follow)

def isDirectory (path : String) : Tool Bool := do
  match ← examine path with
  | .ok (_, _, node) => return node.isDirectory
  | .error _ => return false

def contentsOf (path : String) : Tool (Except Refusal String) := do
  if path = "-" then readAll 0
  else
    match ← openFile path with
    | .error r => return .error r
    | .ok fd =>
      let r ← readAll fd
      close fd
      return r

/-- Does something for each of some things. The code is the greatest of all. -/
def each {α : Type} (things : List α) (f : α → Tool Nat) : Tool Nat :=
  things.foldlM (fun code a => do return max code (← f a)) 0

def finish (code : Nat) : Tool Nat := do
  flush
  let d ← get
  match d.refused? with
  | none => return code
  | some r =>
    let _ ← writeTo 2 s!"{d.name}: write error: {r.reason}\n"
    return d.failure

def process (d : Desk) (a : Tool Nat) : Process Nat := do
  let (code?, d) ← a d
  let code := match code? with
    | .ok code | .error code => code
  let (code?, _) ← finish code d
  match code? with
  | .ok code | .error code => return code

end Tool

abbrev Utility := (arguments : List String) → Tool Nat

end ReloadProbe.Rehearsal
