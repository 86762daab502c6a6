import ReloadProbe.Rehearsal.Search
import ReloadProbe.Rehearsal.Signals
import ReloadProbe.Rehearsal.Utility.Surroundings

/-! Programs that run other programs. -/
namespace ReloadProbe.Rehearsal

class Calls (m : Type → Type) extends Monad m where
  call : (c : Kernel.Call) → m (Kernel.Reply c)

instance : Calls Process where
  call := @Interaction.call Kernel.kernel

instance : Calls Tool where
  call := Tool.call

namespace Search

/-- Runs a program in the place of the present one. A file that is no program is a script. -/
def become {m : Type → Type} [Calls m] (arguments : List String)
    (environment : List (String × String)) : m Refusal := do
  let attempt (path : String) (arguments : List String) : m Refusal :=
    Calls.call (.exec path arguments environment)
  let program := arguments.headD ""
  let r : Except Refusal Unit ← run (environment.lookup "PATH") program fun path => do
    match ← attempt path arguments with
    | .noProgram => return .error (← attempt "/bin/sh" ("/bin/sh" :: path :: arguments.drop 1))
    | r => return .error r
  return match r with
    | .ok () => .noEntry
    | .error r => r

def code (r : Refusal) : Nat := if r = .noEntry then 127 else 126

def process (message : String) (arguments : List String) (environment : List (String × String)) :
    Process Nat := do
  let r ← become arguments environment
  let text := s!"{message}{r.reason}\n"
  let _ ← (Calls.call (.write 2 (Octets.toBytes text)) : Process (Except Refusal Unit))
  return code r

end Search

namespace Utility

def become (what : String) (arguments : List String) : Tool Nat := do
  Tool.flush
  let r ← Search.become arguments (← get).environment
  Tool.complain s!"{what}{r.reason}"
  return Search.code r

namespace Surroundings

def set (name value : String) (environment : List (String × String)) : List (String × String) :=
  if (environment.lookup name).isSome then
    environment.map fun (k, v) => (k, if k = name then value else v)
  else environment ++ [(name, value)]

def words (s : String) : List String :=
  ((s.toList.map fun c => if Numeral.isBlank c then ' ' else c).splitOn ' ').filterMap fun w =>
    if w.isEmpty then none else some (String.ofList w)

end Surroundings

def env : Utility := fun args => do
  modify fun d => { d with failure := 125 }
  let known : Known :=
    { letters := "iu:0C:S:v", inOrder := true
      words := [("ignore-environment", .nothing, 'i'), ("null", .nothing, '0'),
        ("unset", .value, 'u'), ("chdir", .value, 'C'), ("split-string", .value, 'S'),
        ("debug", .nothing, 'v')] }
  let args := args.flatMap fun arg =>
    if arg.startsWith "-S" && 2 < arg.length then Surroundings.words (.ofList (arg.toList.drop 2))
    else [arg]
  let choice ← choose known args 125
  let bare := choice.others.head? = some "-"
  let others := if bare then choice.others.drop 1 else choice.others
  if choice.has 'i' || bare then modify fun d => { d with environment := [] }
  for (letter, name) in choice.options do
    if letter = 'u' then
      if name.isEmpty || name.contains '=' then
        Tool.fail s!"cannot unset {cited name}: Invalid argument" 125
      modify fun d => { d with environment := d.environment.filter fun (k, _) => k ≠ name }
  let settings := others.takeWhile fun arg => arg.contains '='
  for setting in settings do
    let name := setting.toList.takeWhile (· != '=')
    let value := String.ofList (setting.toList.drop (name.length + 1))
    modify fun d =>
      { d with environment := Surroundings.set (.ofList name) value d.environment }
  let command := others.drop settings.length
  let ending := if choice.has '0' then "\x00" else "\n"
  if command.isEmpty then
    if choice.has 'C' then Tool.misuse "must specify command with --chdir (-C)" 125
    for (name, value) in (← get).environment do Tool.put s!"{name}={value}{ending}"
    return 0
  else
    if choice.has '0' then Tool.misuse "cannot specify --null (-0) with command" 125
    match choice.value? 'C' with
    | none => pure ()
    | some place =>
      let r : Except Refusal String ← Tool.call (.enter place)
      match r with
      | .ok _ => pure ()
      | .error r => Tool.fail s!"cannot change directory to {named place}: {r.reason}" 125
    become (cited (command.headD "") ++ ": ") command

def nohup : Utility := fun args => do
  let choice ← choose { inOrder := true } args 125
  demand 1 choice.others 125
  Tool.call (.handle 1 (some .ignored))
  let name := named (choice.others.headD "")
  become s!"failed to run command {name}: " choice.others

def nice : Utility := fun args => do
  let args := match args with
    | [] => []
    | arg :: more =>
      match arg.toList with
      | '-' :: c :: cs =>
        if c.isDigit || ((c = '-' || c = '+') && cs.head?.any Char.isDigit) then
          s!"-n{String.ofList (c :: cs)}" :: more
        else args
      | _ => args
  let choice ← choose
    { letters := "n:", words := [("adjustment", .value, 'n')], inOrder := true } args 125
  match choice.value? 'n' with
  | none => pure ()
  | some text =>
    let n := Numeral.read (some 10) text.toList
    if !n.found || !n.rest.isEmpty then Tool.fail s!"invalid adjustment {cited text}" 125
  match choice.others with
  | [] =>
    if choice.has 'n' then Tool.misuse "a command must be given with an adjustment" 125
    Tool.put "0\n"
    return 0
  | program :: _ => become s!"{cited program}: " choice.others

def start (message : String) (arguments : List String) : Tool Nat := do
  Tool.flush
  let pid : Nat ← Tool.call (.fork (.program message arguments (← get).environment))
  return pid

def awaitFor (pid : Nat) (deadline? : Option Nat) : (limit : Nat) → Tool (Option Waited)
  | 0 => return none
  | limit + 1 => do
    match deadline? with
    | none => return some (← Tool.call (.wait (some pid) true false))
    | some deadline =>
      let w : Waited ← Tool.call (.wait (some pid) false false)
      match w with
      | .notYet =>
        let now : Nat ← Tool.call .clock
        if deadline ≤ now then return none
        else
          Tool.call (.sleep (min 1000000 (deadline - now)))
          awaitFor pid deadline? limit
      | w => return some w

def signal? (text : String) : Option Nat :=
  let name := text.map Char.toUpper
  let name := if name.startsWith "SIG" then String.ofList (name.toList.drop 3) else name
  match name.toNat? with
  | some n => if n ≤ 64 then some n else none
  | none => Signals.names.findIdx? (· == name)

def timeout : Utility := fun args => do
  modify fun d => { d with failure := 125 }
  let choice ← choose
    { letters := "k:s:vfp", inOrder := true
      words := [("kill-after", .value, 'k'), ("signal", .value, 's'), ("verbose", .nothing, 'v'),
        ("foreground", .nothing, 'f'), ("preserve-status", .nothing, 'p')] } args 125
  let signal ← match choice.value? 's' with
    | none => pure 15
    | some text =>
      match signal? text with
      | some n => pure n
      | none => Tool.misuse s!"{cited text}: invalid signal" 125
  let length (text : String) : Tool Nat := do
    match interval? text with
    | some n => return n
    | none => Tool.misuse s!"invalid time interval {cited text}" 125
  let killAfter? ← (choice.value? 'k').mapM length
  match choice.others with
  | [] | [_] =>
    match choice.others with
    | [] => Tool.misuse "missing operand" 125
    | [arg] => Tool.misuse s!"missing operand after {cited arg}" 125
    | _ => return 125
  | time :: command =>
    let nanos ← length time
    let name := named (command.headD "")
    let shownName := cited (command.headD "")
    let me := (← get).name
    let pid ← start s!"{me}: failed to run command {name}: " command
    let now : Nat ← Tool.call .clock
    let deadline? := if nanos = 0 then none else some (now + nanos)
    let send (signal : Nat) : Tool Unit := do
      if choice.has 'v' then
        let signalName := (Signals.names[signal]?).getD ""
        Tool.complain s!"sending signal {signalName} to command {shownName}"
      let _ ← (Tool.call (.kill pid signal) : Tool (Except Refusal Unit))
      if signal ≠ 9 then
        let _ ← (Tool.call (.kill pid 18) : Tool (Except Refusal Unit))
    let ending (timedOut : Bool) (w : Waited) : Tool Nat := do
      match w with
      | .exited _ code => return if timedOut && !choice.has 'p' then 124 else code
      | .killed _ signal =>
        if timedOut then
          return if choice.has 'p' || signal = 9 then 128 + signal else 124
        else
          let self : Nat ← Tool.call .self
          Tool.flush
          let _ ← (Tool.call (.kill self signal) : Tool (Except Refusal Unit))
          return 128 + signal
      | _ => return 125
    match ← awaitFor pid deadline? Tool.readLimit with
    | some w => ending false w
    | none =>
      send signal
      let now : Nat ← Tool.call .clock
      match ← awaitFor pid (killAfter?.map (now + ·)) Tool.readLimit with
      | some w => ending true w
      | none =>
        send 9
        match ← awaitFor pid none 1 with
        | some w => ending true w
        | none => return 125

namespace Arguments

def words (cs : List Char) : List String :=
  let (done, current?, _) := cs.foldl
    (fun (done, current?, quote) c =>
      let add (c : Char) : Option (List Char) := some (c :: current?.getD [])
      match quote with
      | some '\\' => (done, add c, none)
      | some q => if c = q then (done, current?, none) else (done, add c, some q)
      | none =>
        if c = '"' || c = '\'' || c = '\\' then (done, some (current?.getD []), some c)
        else if Numeral.isBlank c then
          match current? with
          | some cs => (String.ofList cs.reverse :: done, none, none)
          | none => (done, none, none)
        else (done, add c, none))
    (([] : List String), (none : Option (List Char)), (none : Option Char))
  (match current? with
    | some cs => String.ofList cs.reverse :: done
    | none => done).reverse

def chunks (size : Nat) : (limit : Nat) → List String → List (List String)
  | 0, _ | _, [] => []
  | limit + 1, xs => xs.take (max 1 size) :: chunks size limit (xs.drop (max 1 size))

end Arguments

def xargs : Utility := fun args => do
  let choice ← choose
    { letters := "0rtn:I:L:P:d:a:s:x", inOrder := true
      words := [("null", .nothing, '0'), ("no-run-if-empty", .nothing, 'r'),
        ("verbose", .nothing, 't'), ("max-args", .value, 'n'), ("replace", .maybe, 'I'),
        ("delimiter", .value, 'd'), ("max-procs", .value, 'P'), ("arg-file", .value, 'a')] } args
  let input ← match ← Tool.contentsOf ((choice.value? 'a').getD "-") with
    | .ok text => pure text
    | .error r =>
      let name := cited ((choice.value? 'a').getD "")
      Tool.fail s!"Cannot open input file {name}: {r.reason}"
  let separated (c : Char) : List String :=
    let parts := input.splitOn c.toString
    if parts.getLast? = some "" then parts.dropLast else parts
  let lines := (separated '\n').filterMap fun line =>
    let cs := line.toList.dropWhile Numeral.isBlank
    if cs.isEmpty then none else some (String.ofList cs)
  let items :=
    if choice.has '0' then separated '\x00'
    else match choice.value? 'd' with
      | some d => separated (match d with
          | "\\n" => '\n'
          | "\\t" => '\t'
          | "\\0" => '\x00'
          | d => d.toList.headD '\n')
      | none => if choice.has 'I' then lines else Arguments.words input.toList
  let command := if choice.others.isEmpty then ["echo"] else choice.others
  let batches : List (List String) :=
    match choice.value? 'I', (choice.value? 'n').bind String.toNat? with
    | some mark, _ =>
      let mark := if mark.isEmpty then "\x7b\x7d" else mark
      items.map fun item => command.map fun arg => arg.replace mark item
    | none, some n => (Arguments.chunks n items.length items).map (command ++ ·)
    | none, none => [command ++ items]
  let batches := if items.isEmpty && (choice.has 'r' || choice.has 'I') then [] else
    if items.isEmpty then [command] else batches
  let me := (← get).name
  let rec go : List (List String) → (code : Nat) → Tool Nat
    | [], code => return code
    | batch :: more, code => do
      if choice.has 't' then Tool.say (" ".intercalate (batch.map shown) ++ "\n")
      let name := batch.headD ""
      let pid ← start s!"{me}: {name}: " batch
      match ← awaitFor pid none 1 with
      | some (.exited _ 0) => go more code
      | some (.exited _ 255) => Tool.fail s!"{name}: exited with status 255; aborting" 124
      | some (.exited _ n) => if n = 126 || n = 127 then return n else go more 123
      | some (.killed _ signal) => Tool.fail s!"{name}: terminated by signal {signal}" 125
      | _ => return 1
  go batches 0

def which : Utility := fun args => do
  let choice ← choose { letters := "a", inOrder := true } args 2
  let path := ((← Tool.lookup? "PATH").getD "")
  Tool.each choice.others fun name => do
    let rec find : List String → (found : Bool) → Tool Bool
      | [], found => return found
      | candidate :: more, found => do
        match ← Tool.examine candidate with
        | .ok (_, _, node) =>
          if !node.isDirectory && node.isExecutable then
            Tool.put (candidate ++ "\n")
            if choice.has 'a' then find more true else return true
          else find more found
        | .error _ => find more found
    let found ← find (Search.candidates path name) false
    return if found && !name.isEmpty then 0 else 1

end Utility
end ReloadProbe.Rehearsal
