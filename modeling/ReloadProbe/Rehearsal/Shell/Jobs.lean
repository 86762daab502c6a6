import ReloadProbe.Rehearsal.Shell.Act
import ReloadProbe.Rehearsal.Signals

/-!
The processes that a shell starts: how it leaves work to them, and how it learns of their end.
-/
namespace ReloadProbe.Rehearsal.Shell

def Progress.status : Progress → Nat
  | running => 0
  | exited code => code
  | killed signal => 128 + signal

namespace Job

def progress (j : Job) : Progress :=
  if j.processes.any fun (_, p) => p = .running then .running
  else ((j.processes.getLast?).map Prod.snd).getD (.exited 0)

def isRunning (j : Job) : Bool := j.progress = .running

def record (j : Job) (pid : Nat) (p : Progress) : Job :=
  { j with processes := j.processes.map fun (k, old) => (k, if k = pid then p else old) }

end Job

namespace Session

def caught (s : Session) : List Nat :=
  (s.traps.filter fun (n, action) => n ≠ 0 && !action.isEmpty).map Prod.fst

def hasTraps (s : Session) : Bool := s.traps.any fun (_, action) => !action.isEmpty

def child (s : Session) : Session :=
  { s with
    traps := s.traps.filter fun (_, action) => action.isEmpty
    pending := [], jobs := [], redirections := [], isSubshell := true }

def releases (s : Session) : List Plumbing := s.caught.map .release

/-- The least number that no job has; jobs that have ended and been told of count no more. -/
def freeJob (s : Session) : Nat × Session :=
  let isFree (n : Nat) : Bool := s.jobs.all fun j => j.number ≠ n || (!j.isRunning && j.told)
  let n := ((List.range (s.jobs.length + 1)).map (· + 1)).find? isFree
  let number := n.getD 1
  (number, { s with jobs := s.jobs.filter fun j => j.number ≠ number })

end Session

namespace Act

def notice? : Progress → Option String
  | .killed signal =>
    if signal = 2 || signal = 13 then none else some s!"{Signals.description signal}\n"
  | _ => none

def reported? : Waited → Option (Nat × Progress)
  | .exited pid code => some (pid, .exited code)
  | .killed pid signal => some (pid, .killed signal)
  | _ => none

def record (pid : Nat) (p : Progress) : Act Unit :=
  modify fun s => { s with jobs := s.jobs.map fun j => j.record pid p }

def childLimit : Nat := 1000000

def reap : Act Unit := do
  let rec go : Nat → Act Unit
    | 0 => return ()
    | limit + 1 => do
      match reported? (← wait none false false) with
      | some (pid, p) =>
        record pid p
        go limit
      | none => return ()
  if (← get).jobs.any Job.isRunning then go childLimit

def await (pids : List Nat) : Act Nat := do
  let rec go : Nat → List (Nat × Progress) → Act (List (Nat × Progress))
    | 0, ended => return ended
    | limit + 1, ended => do
      if pids.all fun pid => (ended.lookup pid).isSome then return ended
      else
        match reported? (← wait none true false) with
        | some (pid, p) =>
          if pids.contains pid then
            let _ ← write 2 ((notice? p).getD "")
            go limit ((pid, p) :: ended)
          else
            record pid p
            go limit ended
        | none => return ended
  let ended ← go childLimit []
  return (((pids.getLast?).bind fun pid => ended.lookup pid).map Progress.status).getD 0

def addJob (pids : List Nat) : Act Unit := modify fun s =>
  let (number, s) := s.freeJob
  let job : Job := { number, processes := pids.map fun pid => (pid, .running) }
  { s with jobs := job :: s.jobs, background := pids.getLast? }

def watch : Act Unit := do
  let signals ← pause
  modify fun s => { s with pending := s.pending ++ signals.filter fun n => !s.pending.contains n }

def output (c : Command) : Act Bytes := do
  let (source, sink) ← pipe
  let s ← get
  let plumbing := s.releases ++ [.close source, .move sink 1]
  let pid ← fork (.commands s.child plumbing [] false c)
  close sink
  let rec go : Nat → List Bytes → Act (List Bytes)
    | 0, pieces => return pieces
    | limit + 1, pieces => do
      match ← read source 65536 false with
      | .ok [] | .error _ => return pieces
      | .ok piece => go limit (piece :: pieces)
  let pieces ← go 1000000000 []
  close source
  let status ← await [pid]
  modify fun s => { s with scriptStatus := status }
  return pieces.reverse.flatten

end Act
end ReloadProbe.Rehearsal.Shell
