import ReloadProbe.Rehearsal.Shell.Jobs
import ReloadProbe.Rehearsal.Shell.Quotation

/-! The commands of a shell that tell of processes, wait for them and send signals. -/
namespace ReloadProbe.Rehearsal.Shell.Builtin

/-- A signal by its number or its name. The least number has a name of its own. -/
def signal? (least : Nat) (s : String) : Option Nat :=
  if !s.isEmpty && s.toList.all Char.isDigit then s.toNat?.filter (· ≤ 64)
  else
    (Signals.names.zipIdx.find? fun (name, n) =>
      least ≤ n && name == s.map Char.toUpper).map Prod.snd

def job (sign? : Option String) : Act Job := do
  let s ← get
  let refuse (what : String) : Act Job := Act.fail what
  let present : Act Job := match s.jobs.head? with
    | some j => return j
    | none => refuse "No current job"
  match sign?.map String.toList with
  | none | some ['%'] | some ['%', '+'] | some ['%', '%'] => present
  | some ['%', '-'] =>
    match s.jobs[1]? with
    | some j => return j
    | none => refuse "No previous job"
  | some ('%' :: cs) =>
    match (String.ofList cs).toNat?.bind s.job? with
    | some j => return j
    | none => refuse ("No such job: " ++ sign?.getD "")
  | some sign => refuse ("No such job: " ++ String.ofList sign)

def killUsage : String :=
  "Usage: kill [-s sigspec | -signum | -sigspec] [pid | job]... or\nkill -l [exitstatus]"

def signalNames (args : List String) : Act Nat := do
  match args with
  | [] => Act.emit ("0\n" ++ String.join ((Signals.names.drop 1).map (· ++ "\n")))
  | arg :: _ =>
    let n ← Act.number arg
    let n := if 128 < n then n - 128 else n
    match if n = 0 then none else Signals.names[n]? with
    | some name => Act.emit (name ++ "\n")
    | none => Act.fail s!"invalid signal number or exit status: {arg}"

def send (signal : Nat) (args : List String) : Act Nat :=
  args.foldlM (fun status arg => do
    let pid : Int ←
      if arg.startsWith "%" then
        let j ← job (some arg)
        pure (-(((j.processes.head?).map Prod.fst).getD 0 : Int))
      else if arg.startsWith "-" then
        pure (-(← Act.number (String.ofList (arg.toList.drop 1)) : Int))
      else pure (← Act.number arg : Int)
    match ← Act.kill pid signal with
    | .ok () => return status
    | .error r =>
      Act.complain s!"{r.reason}\n"
      return 1) 0

def kill (args : List String) : Act Nat := do
  let first := args.headD ""
  let direct? :=
    if first.startsWith "-" then signal? 1 (String.ofList (first.toList.drop 1)) else none
  match direct? with
  | some signal => if args.length < 2 then Act.fail killUsage else send signal (args.drop 1)
  | none =>
    let (options, rest) ← if args.isEmpty then Act.fail killUsage else Act.options "ls:" args
    let signals ← (options.filter fun (c, _) => c = 's').mapM fun (_, name) =>
      match signal? 1 name with
      | some n => pure n
      | none => Act.fail s!"invalid signal number or name: {name}"
    if options.any fun (c, _) => c = 'l' then signalNames rest
    else if rest.isEmpty then Act.fail killUsage
    else send (signals.getLastD 15) rest

def state (p : Progress) : String :=
  match p with
  | .running => "Running"
  | .exited 0 => "Done"
  | .exited code => s!"Done({code})"
  | .killed signal => Signals.description signal

def shown (jobs : List Job) (withNumbers : Bool) (j : Job) : String :=
  let mark :=
    if (jobs[0]?).any fun k => k.number = j.number then "+"
    else if (jobs[1]?).any fun k => k.number = j.number then "-"
    else " "
  let start := s!"[{j.number}] {mark} "
  let padded (s : String) (length : Nat) : String :=
    s ++ String.ofList (List.replicate (max 1 (33 - length)) ' ')
  let state := state j.progress
  match j.processes with
  | [] => ""
  | (pid, _) :: more =>
    if withNumbers then
      let first := s!"{start}{pid} {state}"
      let next (pid : Nat) : String :=
        let gap := String.ofList (List.replicate start.length ' ')
        let s := s!" |\n{gap}{pid} "
        padded s (s.length - 3)
      padded first first.length ++ String.join (more.map fun (pid, _) => next pid) ++ "\n"
    else
      let first := start ++ state
      padded first first.length ++ String.join (more.map fun _ => " | ") ++ "\n"

def jobs (args : List String) : Act Nat := do
  let (options, args) ← Act.options "lp" args
  let has (c : Char) : Bool := options.any fun (k, _) => k = c
  let wanted ← args.mapM fun arg => job (some arg)
  Act.reap
  let s ← get
  let wanted := if args.isEmpty then s.jobs else
    wanted.map fun j => (s.job? j.number).getD j
  -- a job that is over is forgotten once that has been told
  let step (state : String × List Job) (j : Job) : String × List Job :=
    let (out, jobs) := state
    if has 'p' then (out ++ s!"{((j.processes.head?).map Prod.fst).getD 0}\n", jobs)
    else
      let left := if j.isRunning then jobs else jobs.filter fun k => k.number ≠ j.number
      (out ++ shown jobs (has 'l') j, left)
  let (out, left) := wanted.foldl step ("", s.jobs)
  set { s with jobs := left }
  Act.emit out

/-- A job cannot be moved to the foreground or the background. -/
def move (args : List String) : Act Nat := do
  let (_, args) ← Act.options "" args
  let _ ← job args.head?
  let sign := args.head?.getD "(null)"
  Act.fail s!"job {sign} not created under job control"

/-- Waits until a job has ended, or until a signal is caught. False in the latter case. -/
def awaitJob (number : Nat) : (limit : Nat) → Act Bool
  | 0 => return true
  | limit + 1 => do
    match (← get).job? number with
    | none => return true
    | some j =>
      if !j.isRunning then return true
      else
        match ← Act.wait none true true with
        | .interrupted => return false
        | w =>
          match Act.reported? w with
          | some (pid, p) =>
            Act.record pid p
            if (j.processes.lookup pid).isSome then
              let _ ← Act.write 2 ((Act.notice? p).getD "")
            awaitJob number limit
          | none => return true

/-- Waits for one child to end. False if a signal is caught first. -/
def awaitOne : Act Bool := do
  match ← Act.wait none true true with
  | .interrupted => return false
  | w =>
    match Act.reported? w with
    | some (pid, p) => Act.record pid p
    | none =>
      -- nothing is left to wait for
      modify fun s => { s with jobs := s.jobs.filter fun j => !j.isRunning }
    return true

def markTold (wanted : Job → Bool) : Act Unit :=
  modify fun s => { s with jobs := s.jobs.map fun j => { j with told := j.told || wanted j } }

def interrupted : Act Nat := do
  Act.watch
  return 128 + (← get).pending.getLastD 0

def awaitAll : (limit : Nat) → Act Nat
  | 0 => return 0
  | limit + 1 => do
    markTold fun j => !j.isRunning
    if (← get).jobs.any Job.isRunning then
      if ← awaitOne then awaitAll limit else interrupted
    else return 0

def awaitEach : List String → (status : Nat) → Act Nat
  | [], status => return status
  | arg :: args, status => do
    let j? ←
      if arg.startsWith "%" then some <$> job (some arg)
      else
        let pid ← Act.number arg
        pure ((← get).jobs.find? fun j => (j.processes.getLast?).any fun (k, _) => k = pid)
    match j? with
    | none => awaitEach args status
    | some j =>
      if ← awaitJob j.number Act.childLimit then
        markTold fun k => k.number = j.number
        let ended := ((← get).job? j.number).getD j
        awaitEach args ended.progress.status
      else interrupted

def wait (args : List String) : Act Nat := do
  let (_, args) ← Act.options "" args
  if args.isEmpty then awaitAll Act.childLimit else awaitEach args 127

def applyTrap (signal : Nat) (action? : Option String) : Act Unit :=
  if signal = 0 then return ()
  else
    Act.handle signal (action?.map fun action => if action.isEmpty then .ignored else .caught)

def trap (args : List String) : Act Nat := do
  let (_, args) ← Act.options "" args
  match args with
  | [] =>
    let traps := (← get).traps.mergeSort fun a b => a.1 ≤ b.1
    Act.emit (String.join (traps.map fun (n, action) =>
      s!"trap -- {quoted action} " ++ (Signals.names[n]?).getD "" ++ "\n"))
  | first :: more =>
    let isSignal := !first.isEmpty && first.toList.all Char.isDigit && (signal? 0 first).isSome
    let (action?, names) := if more.isEmpty || isSignal then (none, args) else (some first, more)
    let action? := if action? = some "-" then none else action?
    let rec setAll : List String → Act Nat
      | [] => return 0
      | name :: names => do
        match signal? 0 name with
        | none =>
          let _ ← Act.write 2 s!"trap: {name}: bad trap\n"
          return 1
        | some n =>
          let s ← get
          -- what was ignored when the shell began is not set
          let isFixed ← if (s.traps.lookup n).isSome || n = 0 then pure false else Act.isIgnored n
          let others := s.traps.filter fun (k, _) => k ≠ n
          set { s with traps := (action?.map fun action => (n, action)).toList ++ others }
          if !isFixed then applyTrap n action?
          setAll names
    setAll names

def times : Act Nat := Act.emit "0m0.000000s 0m0.000000s\n0m0.000000s 0m0.000000s\n"

end ReloadProbe.Rehearsal.Shell.Builtin
