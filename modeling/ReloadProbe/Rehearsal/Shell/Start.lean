import ReloadProbe.Rehearsal.Shell.Evaluate

/-!
How a shell begins and how it ends. It begins with variables of its own, those of its environment
and the options among its arguments; whatever ends it, what is to be done at its end is done last.
-/
namespace ReloadProbe.Rehearsal.Shell

namespace Act

def conclude (left? : Except Leave Unit) : Act Unit := modify fun s =>
  let status := match left?, s.skip with
    | .error .exit, _ | _, .toReturn true => s.statusBefore.getD s.status
    | _, _ => s.status
  { s with status, statusBefore := none, skip := .nothing, loops := 0 }

def toEnd (a : Act Unit) : Act Nat := do
  conclude (← guarded a)
  let s ← get
  match s.traps.lookup 0 with
  | none => return s.status
  | some action =>
    set { s with traps := s.traps.filter fun (n, _) => n ≠ 0, statusBefore := some s.status }
    let left? ← guarded do
      let _ ← text run false action
      modify fun s => { s with skip := .toReturn true }
    conclude left?
    return (← get).status

def firstVariables : List (String × Variable) :=
  [("IFS", some usualSeparators), ("PATH", some usualPath), ("PS1", some "# "), ("PS2", some "> "),
    ("PS4", some "+ "), ("OPTIND", some "1")].map fun (name, value?) => (name, { value? })

def begunAt : Act String := do
  let here ← here
  match (← get).lookup? "PWD" with
  | some path =>
    if !path.startsWith "/" then return here
    else
      match ← examine path, ← examine "." with
      | .ok (_, m, _), .ok (_, n, _) => return if m = n then path else here
      | _, _ => return here
  | none => return here

def begin (environment : List (String × String)) : Act Unit := do
  let set (name : String) (value : String) (exported : Bool) : Act Unit := do
    let old? := (← get).vars.lookup name
    putVariable name { value? := some value, exported := exported || old?.any Variable.exported }
  modify fun s => { s with vars := firstVariables }
  for (name, value) in environment do
    if isName name then set name value true
  set "IFS" usualSeparators false
  set "OPTIND" "1" false
  let parent : Nat ← call .parent
  set "PPID" (toString parent) false
  let directory ← begunAt
  modify fun s => { s with directory }
  set "PWD" directory true

def runInput : Act Unit := do
  let script ← readAll 0
  let _ ← text run false (Octets.ofBytes script) true

def main (arguments : List String) : Act Unit := do
  let chosen ← choose true (arguments.length + 1) false (arguments.drop 1)
  if (← get).has 'i' then modify fun s => s.setOption 'm' true
  match chosen.isScript, chosen.rest with
  | true, [] => fail "-c requires an argument"
  | true, script :: rest =>
    modify fun s => { s with name := rest.headD s.name, args := rest.drop 1 }
    settleOptions
    let _ ← text run false script
    if (← get).has 's' then runInput
  | false, rest =>
    if rest.isEmpty || (← get).has 's' then
      modify fun s => { s.setOption 's' true with args := rest }
      settleOptions
      runInput
    else
      let file := rest.headD ""
      let script ← scriptText file
      modify fun s => { s with name := file, args := rest.drop 1 }
      settleOptions
      let _ ← text run false script true

def errand : Errand → Act Unit
  | .commands _ plumbing aims tested c => do
    plumbing.forM plumb
    aims.forM (apply false)
    let _ ← run tested true c
  | .program _ path arguments => become path arguments

def process (s : Session) (a : Act Unit) : Process Nat := do
  let (left?, s) ← toEnd a s
  match left? with
  | .ok status => return status
  | .error _ => return s.status

end Act

def Errand.session : Errand → Session
  | commands s _ _ _ _ => s
  | program s _ _ => s.child

def Errand.process (e : Errand) : Process Nat := Act.process e.session (Act.errand e)

def process (arguments : List String) (environment : List (String × String)) : Process Nat := do
  let self : Nat ← @Interaction.call Kernel.kernel .self
  let first : Session := { self, name := arguments.headD "sh", line := 0 }
  Act.process first do
    Act.begin environment
    Act.main arguments

end ReloadProbe.Rehearsal.Shell
