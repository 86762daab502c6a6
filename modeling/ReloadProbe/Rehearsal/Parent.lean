import ReloadProbe.Broker.Child
import ReloadProbe.Rehearsal.Program
import ReloadProbe.Rehearsal.Search

/-!
A process outside of the model machine that launches programs on it, one at a time, and reads what
they write through two pipes.
-/
namespace ReloadProbe.Rehearsal

structure Parent where
  machine : Machine := .first
  child : Nat := 0
  stdout : Nat := 0
  stderr : Nat := 0

def startTime : Nat := 1000000

namespace Parent

def environment : List (String × String) :=
  [("HOME", "/root"), ("PATH", "/usr/local/sbin:/usr/local/bin:/usr/sbin:/usr/bin:/sbin:/bin")]

def binding (entry : String × String) : String × String :=
  let text := (entry.1 ++ "=" ++ entry.2).toList
  let name := text.takeWhile (· != '=')
  (.ofList name, .ofList (text.drop (name.length + 1)))

def environmentOf (given : List (String × String)) : List (String × String) :=
  if given.isEmpty then environment
  else
    let inherited := environment.filter fun (name, _) => (given.lookup name).isNone
    let octets (entry : String × String) : String × String :=
      (Octets.ofText entry.1, Octets.ofText entry.2)
    let all := (given ++ inherited).map octets
    (all.mergeSort fun a b => a.1 ≤ b.1).map binding

/-- Something that cannot be passed on is among the texts of a launch. -/
def hasNul (l : Child.Launch) : Bool :=
  let texts := l.program :: l.args ++ l.env.flatMap fun (name, value) => [name, value]
  (texts.any fun s => s.toList.any fun c => c.toNat = 0) ||
    l.workingDir.any fun path => path.octets.contains 0

def launch (p : Parent) (l : Child.Launch) : Except Refusal Parent := do
  if hasNul l then .error .nulInside
  else
    let directory ← match l.workingDir with
      | none => .ok "/"
      | some path => p.machine.files.directoryAt "/" (Octets.ofBytes path.octets)
    let arguments := (l.program :: l.args).map Octets.ofText
    let environment := environmentOf l.env
    let (stdout, m) := p.machine.addPipe true
    let (stderr, m) := m.addPipe true
    let child := m.nextPid
    let task : Task :=
      { pid := child, parent := 1, work := .process (.done 0)
        wake := .clock (m.clock + startTime), directory }
    let m := { m with tasks := m.tasks ++ [task], nextPid := child + 1 }
    let add (m : Machine) (fd : Nat) (o : Opened) : Machine :=
      m.addOpened ((m.find? child).getD task) fd o
    let m := match m.files.find "/" "/dev/null" with
      | .ok (place, number, _) => add m 0 { endpoint := .node number place, readable := true }
      | .error _ => m
    let m := add m 1 { endpoint := .sink stdout, writable := true }
    let m := add m 2 { endpoint := .sink stderr, writable := true }
    let task := (m.find? child).getD task
    let program := arguments.headD ""
    let run (path : String) : Except Refusal Machine :=
      m.exec library task path arguments environment
    let machine ← Search.run (m := Id) (environment.lookup "PATH") program run
    let machine := match machine.find? child with
      | some t => machine.put { t with wake := .clock (m.clock + startTime) }
      | none => machine
    return { machine, child, stdout, stderr }

def pipe (p : Parent) : Child.Stream → Nat
  | .stdout => p.stdout
  | .stderr => p.stderr

def captured (p : Parent) (stream : Child.Stream) : Bytes := p.machine.contents (p.pipe stream)

def exit? (p : Parent) : Option ExitState := p.machine.endOf p.child

def stepLimit : Nat := 1000000000000

def pass (p : Parent) (wanted : Parent → Bool) (limit : Nat) : Parent :=
  let machine := p.machine.advance library (fun machine => wanted { p with machine })
    (p.machine.clock + limit) stepLimit
  { p with machine }

def glance : Nat := 5000000

/-- Lets time pass until the parent has seen that it is as wanted, for so many nanoseconds at most.
What it sees may have come about while it looked away. -/
def watch (p : Parent) (wanted : Parent → Bool) (limit : Nat) : Parent :=
  (p.pass wanted limit).pass (fun _ => false) glance

def serve : (c : Child.Call) → Parent → Child.Reply c × Parent
  | .spawn l, p =>
    match p.launch l with
    | .ok p => (.ok (some (UInt32.ofNat p.child)), p)
    | .error r => (.error r.message, p)
  | .poll, p => (.ok p.exit?, p)
  | .kill pid signal, p =>
    let (isThere, machine) := p.machine.deliver pid.toNat signal.number
    (if isThere then .delivered else .nobody, { p with machine })
  | .killChild, p => (.ok (), { p with machine := (p.machine.deliver p.child 9).2 })
  | .await limit, p =>
    let p := p.pass (fun p => p.exit?.isSome) (limit.getD .longest).toNanos
    (match p.exit? with
      | some exit => .exited exit
      | none => .timedOut, p)
  | .drain stream limit, p =>
    let p := p.pass (fun p => !p.machine.hasWriter (p.pipe stream)) limit.toNanos
    (p.captured stream, p)

end Parent
end ReloadProbe.Rehearsal
