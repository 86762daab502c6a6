import ReloadProbe.Interaction
import ReloadProbe.Rehearsal.Files
import ReloadProbe.Rehearsal.Shell.Session

/-! What programs ask of the model machine that they run on. -/
namespace ReloadProbe.Rehearsal

/-- What a process does with a signal, unless it lets the machine decide. -/
inductive Disposition where
  | ignored
  | caught
  deriving DecidableEq

structure Access where
  read : Bool := false
  write : Bool := false
  append : Bool := false
  create : Bool := false
  truncate : Bool := false
  fresh : Bool := false

inductive Waited where
  | exited (pid code : Nat)
  | killed (pid signal : Nat)
  | notYet
  | interrupted
  | noChild

inductive Child where
  | errand (e : Shell.Errand)
  /-- A program, looked for by the first of its arguments, in an environment. If it cannot be run,
  the message begins with a text. -/
  | program (message : String) (arguments : List String) (environment : List (String × String))

namespace Kernel

inductive Call where
  /-- Lets others go on. Answers with the signals that were caught since. -/
  | pause
  | read (fd most : Nat) (interruptible : Bool)
  | write (fd : Nat) (data : Bytes)
  | openFile (path : String) (access : Access)
  | close (fd : Nat)
  | duplicate (fd least : Nat)
  | redirect (source target : Nat)
  | pipe
  | fork (child : Child)
  /-- Answers only if the program cannot be run. -/
  | exec (path : String) (arguments : List String) (environment : List (String × String))
  | wait (pid : Option Nat) (block interruptible : Bool)
  | kill (pid : Int) (signal : Nat)
  | handle (signal : Nat) (disposition : Option Disposition)
  | isIgnored (signal : Nat)
  | sleep (nanos : Nat)
  | examine (path : String) (follow : Bool)
  | list (path : String)
  | enter (path : String)
  | here
  | unlink (path : String)
  | makeDirectory (path : String)
  | removeDirectory (path : String)
  | rename (old new : String)
  | link (old new : String)
  | symlink (target path : String)
  | changeMode (path : String) (mode : Nat)
  | touch (path : String)
  | mask (new : Option Nat)
  | self
  | parent
  | clock

def Reply : Call → Type
  | .pause => List Nat
  | .read _ _ _ => Except Refusal Bytes
  | .write _ _ => Except Refusal Unit
  | .openFile _ _ => Except Refusal Nat
  | .close _ => Except Refusal Unit
  | .duplicate _ _ => Except Refusal Nat
  | .redirect _ _ => Except Refusal Unit
  | .pipe => Nat × Nat
  | .fork _ => Nat
  | .exec _ _ _ => Refusal
  | .wait _ _ _ => Waited
  | .kill _ _ => Except Refusal Unit
  | .handle _ _ => Unit
  | .isIgnored _ => Bool
  | .sleep _ => Unit
  | .examine _ _ => Except Refusal (String × Nat × Node)
  | .list _ => Except Refusal (List String)
  | .enter _ => Except Refusal String
  | .here => String
  | .unlink _ | .makeDirectory _ | .removeDirectory _ => Except Refusal Unit
  | .rename _ _ | .link _ _ | .symlink _ _ => Except Refusal Unit
  | .changeMode _ _ | .touch _ => Except Refusal Unit
  | .mask _ => Nat
  | .self | .parent | .clock => Nat

def kernel : Interface := ⟨Call, Reply⟩

def Call.length : Call → Nat
  | .fork _ => 200000
  | .exec _ _ _ => 500000
  | .sleep nanos => nanos
  | .pause => 1000
  | _ => 500

end Kernel

/-- A program of the machine. Its result is the code that it exits with. -/
abbrev Process := Interaction Kernel.kernel

end ReloadProbe.Rehearsal
