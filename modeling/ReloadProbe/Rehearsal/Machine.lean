import ReloadProbe.Broker.Exit
import ReloadProbe.Rehearsal.Call
import ReloadProbe.Rehearsal.Line
import ReloadProbe.Rehearsal.Signals

/-!
A machine in memory: processes, files, pipes and a clock. A process does something only when the
clock comes to the time at which it wakes, so the machine does the same each time.
-/
namespace ReloadProbe.Rehearsal

open Kernel (Call Reply)

inductive Manner where
  | good
  | bad
  | crash
  | silent
  deriving DecidableEq

structure ModelBroker where
  manner : Manner
  port : Nat
  listening : Bool := false
  greeted : Bool := false

inductive Work where
  | process (p : Process Nat)
  | broker (b : ModelBroker)
  | dying (exit : ExitState)

inductive Wake where
  | clock (instant : Nat)
  | call
  | never

inductive Endpoint where
  | node (number : Nat) (place : String)
  | source (pipe : Nat)
  | sink (pipe : Nat)

/-- An open file. Several descriptors may share one, and with it its offset. -/
structure Opened where
  endpoint : Endpoint
  offset : Nat := 0
  readable : Bool := false
  writable : Bool := false
  append : Bool := false

structure Descriptor where
  opened : Nat
  isPrivate : Bool := false

structure Task where
  pid : Nat
  parent : Nat
  work : Work
  wake : Wake
  fds : List (Nat × Descriptor) := []
  directory : String := "/"
  dispositions : List (Nat × Disposition) := []
  caught : List Nat := []
  stopped : Bool := false
  /-- Signals that came while the process was stopped, the first one first. -/
  queued : List Nat := []
  mask : Nat := 0o022

structure Pipe where
  pieces : List Bytes := []
  size : Nat := 0
  isWatched : Bool := false

structure Ended where
  pid : Nat
  parent : Nat
  exit : ExitState

structure Machine where
  clock : Nat := 0
  tasks : List Task := []
  ended : List Ended := []
  files : Files := .empty
  opened : List (Nat × Opened) := []
  nextOpened : Nat := 0
  pipes : List (Nat × Pipe) := []
  nextPipe : Nat := 0
  nextPid : Nat := 1000
  line : Line := {}

def pipeRoom : Nat := 65536

namespace Task

def fd? (t : Task) (fd : Nat) : Option Descriptor := t.fds.lookup fd

def setFd (t : Task) (fd : Nat) (d : Descriptor) : Task :=
  { t with fds := (fd, d) :: t.fds.filter fun (n, _) => n ≠ fd }

def dropFd (t : Task) (fd : Nat) : Task := { t with fds := t.fds.filter fun (n, _) => n ≠ fd }

def freeFd (t : Task) (least : Nat) : Nat :=
  let candidates := (List.range (t.fds.length + 1)).map (· + least)
  (candidates.find? fun n => (t.fd? n).isNone).getD least

end Task

namespace Machine

def put (m : Machine) (t : Task) : Machine :=
  { m with tasks := m.tasks.map fun u => if u.pid = t.pid then t else u }

def find? (m : Machine) (pid : Nat) : Option Task := m.tasks.find? fun t => t.pid = pid

def endOf (m : Machine) (pid : Nat) : Option ExitState :=
  (m.ended.find? fun e => e.pid = pid).map Ended.exit

def sweep (m : Machine) : Machine :=
  let used := m.tasks.flatMap fun t => t.fds.map fun (_, d) => d.opened
  { m with opened := m.opened.filter fun (n, _) => used.contains n }

def finish (m : Machine) (pid : Nat) (exit : ExitState) : Machine :=
  match m.find? pid with
  | none => m
  | some t =>
    let tasks := (m.tasks.filter fun u => u.pid ≠ pid).map fun u =>
      if u.parent = pid then { u with parent := 1 } else u
    let ended := { pid, parent := t.parent, exit } :: m.ended.filter fun e => e.parent ≠ pid
    sweep { m with tasks, ended }

def openedBy (m : Machine) (t : Task) (fd : Nat) : Option (Nat × Opened) := do
  let d ← t.fd? fd
  return (d.opened, ← m.opened.lookup d.opened)

def setOpened (m : Machine) (n : Nat) (o : Opened) : Machine :=
  { m with opened := m.opened.map fun (k, old) => (k, if k = n then o else old) }

def addOpened (m : Machine) (t : Task) (fd : Nat) (o : Opened) (isPrivate : Bool := false) :
    Machine :=
  let n := m.nextOpened
  let m := { m with opened := (n, o) :: m.opened, nextOpened := n + 1 }
  m.put (t.setFd fd { opened := n, isPrivate })

def leadsTo (m : Machine) (test : Endpoint → Bool) : Bool :=
  m.tasks.any fun t => t.fds.any fun (_, d) =>
    (m.opened.lookup d.opened).any fun o => test o.endpoint

def hasWriter (m : Machine) (pipe : Nat) : Bool :=
  m.leadsTo fun
    | .sink n => n = pipe
    | _ => false

def hasReader (m : Machine) (pipe : Nat) : Bool :=
  m.leadsTo fun
    | .source n => n = pipe
    | _ => false

def pipe? (m : Machine) (n : Nat) : Option Pipe := m.pipes.lookup n

def setPipe (m : Machine) (n : Nat) (p : Pipe) : Machine :=
  { m with pipes := m.pipes.map fun (k, old) => (k, if k = n then p else old) }

def contents (m : Machine) (n : Nat) : Bytes :=
  ((m.pipe? n).map fun p => p.pieces.reverse.flatten).getD []

def addPipe (m : Machine) (isWatched : Bool := false) : Nat × Machine :=
  let n := m.nextPipe
  (n, { m with pipes := (n, { isWatched }) :: m.pipes, nextPipe := n + 1 })

def pour (m : Machine) (n : Nat) (data : Bytes) : Machine :=
  match m.pipe? n with
  | some p => m.setPipe n { p with pieces := data :: p.pieces, size := p.size + data.length }
  | none => m

def notification (m : Manner) : Option Bytes :=
  let usual := [0x30, 0x1B, 0x00, 0x0C] ++ Utf8.encode "topic/reload" ++ [0x00] ++
    Utf8.encode "test-message"
  match m with
  | .good | .crash => some usual
  | .bad => some (usual.dropLast ++ (usual.getLast?.map (· ^^^ 0x20)).toList)
  | .silent => none

def dyingTime : Nat := 100000

def strike (m : Machine) (t : Task) (signal : Nat) : Machine :=
  let wake := .clock (m.clock + dyingTime)
  m.put { t with work := .dying (.ofSignal signal), wake, stopped := false }

def receive (m : Machine) (t : Task) (signal : Nat) : Machine :=
  let usual : Machine :=
    if Signals.isHarmless signal then m
    else if Signals.stops signal then m.put { t with stopped := true }
    else m.strike t signal
  match t.work with
  | .broker b =>
    if signal = 1 then
      let m := { m with line := m.line.peerWrite ((notification b.manner).getD []) }
      if b.manner = .crash then
        { m.finish t.pid (.ofSignal 9) with line := m.line.peerHangUp }
      else m
    else if Signals.isHarmless signal || Signals.stops signal then usual
    else { usual with line := m.line.peerHangUp }
  | .dying _ => m
  | .process _ =>
    match if signal = 9 || signal = 19 then none else t.dispositions.lookup signal with
    | some .ignored => m
    | some .caught => m.put { t with caught := signal :: t.caught.filter (· ≠ signal) }
    | none => usual

def receiveAt (m : Machine) (pid signal : Nat) : Machine :=
  match m.find? pid with
  | some t => m.receive t signal
  | none => m

/-- Sends a process a signal. One that is stopped gets it when it goes on, unless it is killed.
False if there is no such process. -/
def deliver (m : Machine) (pid signal : Nat) : Bool × Machine :=
  match m.find? pid with
  | none => ((m.endOf pid).isSome, m)
  | some t =>
    if signal = 18 then
      let m := m.put { t with stopped := false, queued := [] }
      (true, (t.queued ++ [signal]).foldl (fun m n => m.receiveAt pid n) m)
    else if t.stopped && signal ≠ 0 && signal ≠ 9 then
      (true, m.put { t with queued := t.queued ++ [signal] })
    else (true, m.receive t signal)

inductive Served (α : Type) where
  | answered (a : α) (m : Machine)
  | waits
  | replaced (m : Machine)

def orWait {α : Type} (m : Machine) (t : Task) (interruptible : Bool) (interrupted : α) :
    Served α :=
  if interruptible && !t.caught.isEmpty then .answered interrupted m else .waits

def read (m : Machine) (t : Task) (fd most : Nat) (interruptible : Bool) :
    Served (Except Refusal Bytes) :=
  match m.openedBy t fd with
  | none => .answered (.error .badDescriptor) (m)
  | some (n, o) =>
    if !o.readable then .answered (.error .badDescriptor) (m)
    else
      match o.endpoint with
      | .sink _ => .answered (.error .badDescriptor) (m)
      | .source pipe =>
        let waiting := m.contents pipe
        if !waiting.isEmpty then
          let rest := waiting.drop most
          let p : Pipe := { pieces := [rest], size := rest.length }
          .answered (.ok (waiting.take most)) (m.setPipe pipe p)
        else if m.hasWriter pipe then m.orWait t interruptible (.error .interrupted)
        else .answered (.ok []) (m)
      | .node number _ =>
        match m.files.node? number with
        | none => .answered (.ok []) (m)
        | some node =>
          match node.kind, node.contents? with
          | .device .zero, _ | .device .full, _ => .answered (.ok (List.replicate most 0)) m
          | .directory, _ => .answered (.error .isDirectory) (m)
          | _, some contents =>
            let data := (contents.drop o.offset).take most
            .answered (.ok data) (m.setOpened n { o with offset := o.offset + data.length })
          | _, none => .answered (.error .invalid) (m)

def overwrite (contents : Bytes) (offset : Nat) (data : Bytes) : Bytes :=
  contents.take offset ++ List.replicate (offset - contents.length) 0 ++ data ++
    contents.drop (offset + data.length)

def write (m : Machine) (t : Task) (fd : Nat) (data : Bytes) : Served (Except Refusal Unit) :=
  match m.openedBy t fd with
  | none => .answered (.error .badDescriptor) (m)
  | some (n, o) =>
    if !o.writable then .answered (.error .badDescriptor) (m)
    else
      match o.endpoint with
      | .source _ => .answered (.error .badDescriptor) (m)
      | .sink pipe =>
        let p := (m.pipe? pipe).getD {}
        if p.isWatched then .answered (.ok ()) (m.pour pipe data)
        else if !m.hasReader pipe then .answered (.error .brokenPipe) (m.receive t 13)
        else if pipeRoom ≤ p.size then .waits
        else .answered (.ok ()) (m.pour pipe data)
      | .node number _ =>
        match (m.files.node? number).map Node.kind with
        | some (.file contents) =>
          let offset := if o.append then contents.length else o.offset
          let contents := overwrite contents offset data
          let files := m.files.update number fun node =>
            { node with kind := .file contents, modified := m.clock }
          .answered (.ok ())
            ({ m with files }.setOpened n { o with offset := offset + data.length })
        | some (.device .full) => .answered (.error .noSpace) (m)
        | some (.device _) => .answered (.ok ()) (m)
        | _ => .answered (.error .badDescriptor) (m)

def descriptorAt? (path : String) : Option Nat :=
  match path with
  | "/dev/stdin" => some 0
  | "/dev/stdout" => some 1
  | "/dev/stderr" => some 2
  | path =>
    ["/dev/fd/", "/proc/self/fd/"].findSome? fun start =>
      if path.startsWith start then (String.ofList (path.toList.drop start.length)).toNat? else none

/-- What is at a path. A path may stand for what a descriptor leads to. -/
def examine (m : Machine) (t : Task) (path : String) (follow : Bool) :
    Except Refusal (String × Nat × Node) :=
  match if follow then descriptorAt? path else none with
  | none => m.files.find t.directory path follow
  | some fd =>
    match m.openedBy t fd with
    | none => .error .noEntry
    | some (_, o) =>
      match o.endpoint with
      | .node number place =>
        match m.files.node? number with
        | some node => .ok (place, number, node)
        | none => .error .noEntry
      | .source _ | .sink _ => .ok (path, 0, { kind := .pipe, mode := 0o600 })

def openFile (m : Machine) (t : Task) (path : String) (a : Access) :
    Except Refusal Nat × Machine :=
  let fd := t.freeFd 0
  let o (endpoint : Endpoint) : Opened :=
    { endpoint, readable := a.read, writable := a.write, append := a.append }
  let succeed (m : Machine) (endpoint : Endpoint) : Except Refusal Nat × Machine :=
    (.ok fd, m.addOpened t fd (o endpoint))
  match descriptorAt? path with
  | some source =>
    match m.openedBy t source with
    | some (_, opened) => succeed m opened.endpoint
    | none => (.error .noEntry, m)
  | none =>
    match m.files.resolve t.directory path with
    | .error r => (.error r, m)
    | .ok (.free place) =>
      if !a.create then (.error .noEntry, m)
      else if path.endsWith "/" then (.error .isDirectory, m)
      else
        let node : Node :=
          { kind := .file [], mode := 0o666 &&& (0o777 - t.mask), modified := m.clock }
        let number := m.files.next
        succeed { m with files := m.files.add place node } (.node number place)
    | .ok (.node place number) =>
      match (m.files.node? number).map Node.kind, a.fresh with
      | some .directory, fresh =>
        if fresh && a.create then (.error .alreadyThere, m)
        else if a.write || a.create then (.error .isDirectory, m)
        else succeed m (.node number place)
      | some (.file _), true => (.error .alreadyThere, m)
      | some (.file _), false =>
        let files := if a.truncate then
            m.files.update number fun node => { node with kind := .file [], modified := m.clock }
          else m.files
        succeed { m with files } (.node number place)
      | _, _ => succeed m (.node number place)

def share (m : Machine) (t : Task) (source target : Nat) (isPrivate : Bool) :
    Except Refusal Nat × Machine :=
  match t.fd? source with
  | none => (.error .badDescriptor, m)
  | some d =>
    if source = target then (.ok target, m)
    else (.ok target, sweep (m.put (t.setFd target { d with isPrivate })))

def makePipe (m : Machine) (t : Task) : (Nat × Nat) × Machine :=
  let (n, m) := m.addPipe
  let source := t.freeFd 0
  let m := m.addOpened t source { endpoint := .source n, readable := true }
  let t := (m.find? t.pid).getD t
  let sink := t.freeFd 0
  ((source, sink), m.addOpened t sink { endpoint := .sink n, writable := true })

def waited (e : Ended) : Waited :=
  match e.exit.code, e.exit.signal with
  | some n, _ => .exited e.pid n.toNat
  | none, some n => .killed e.pid n.toNat
  | none, none => .exited e.pid 0

def wait (m : Machine) (t : Task) (pid : Option Nat) (block interruptible : Bool) :
    Served Waited :=
  let wanted (n : Nat) : Bool := pid.all (· = n)
  match m.ended.reverse.find? fun e => e.parent = t.pid && wanted e.pid with
  | some e =>
    .answered (waited e) { m with ended := m.ended.filter fun other => other.pid ≠ e.pid }
  | none =>
    if m.tasks.any fun u => u.parent = t.pid && wanted u.pid then
      if block then m.orWait t interruptible .interrupted else .answered .notYet m
    else .answered .noChild m

def kill (m : Machine) (pid : Int) (signal : Nat) : Except Refusal Unit × Machine :=
  if pid = 0 || pid = -1 then
    (.ok (), (m.tasks.map Task.pid).foldl (fun m pid => (m.deliver pid signal).2) m)
  else
    match pid with
    | .ofNat pid =>
      let (isThere, m) := m.deliver pid signal
      (if isThere then .ok () else .error .noProcess, m)
    | .negSucc _ => (.error .noProcess, m)

def handle (m : Machine) (t : Task) (signal : Nat) (disposition : Option Disposition) : Machine :=
  let others := t.dispositions.filter fun (n, _) => n ≠ signal
  let dispositions := match disposition with
    | some d => (signal, d) :: others
    | none => others
  m.put { t with dispositions }

def unlink (m : Machine) (t : Task) (path : String) : Except Refusal Unit × Machine :=
  match m.files.find t.directory path false with
  | .error r => (.error r, m)
  | .ok (place, _, node) =>
    if node.isDirectory then (.error .isDirectory, m)
    else (.ok (), { m with files := m.files.unlink place })

def make (m : Machine) (t : Task) (path : String) (node : Node) : Except Refusal Unit × Machine :=
  match m.files.resolve t.directory path false with
  | .error r => (.error r, m)
  | .ok (.node _ _) => (.error .alreadyThere, m)
  | .ok (.free place) =>
    (.ok (), { m with files := m.files.add place { node with modified := m.clock } })

def removeDirectory (m : Machine) (t : Task) (path : String) : Except Refusal Unit × Machine :=
  match m.files.find t.directory path false with
  | .error r => (.error r, m)
  | .ok (place, _, node) =>
    if !node.isDirectory then (.error .notDirectory, m)
    else if (Place.parts path).getLast? = some "." then (.error .invalid, m)
    else if place = "/" then (.error .busy, m)
    else if !(m.files.entries place).isEmpty then (.error .notEmpty, m)
    else (.ok (), { m with files := m.files.unlink place })

def rename (m : Machine) (t : Task) (old new : String) : Except Refusal Unit × Machine :=
  match m.files.find t.directory old false, m.files.resolve t.directory new false with
  | .error r, _ | _, .error r => (.error r, m)
  | .ok (place, _, node), .ok (.free target) =>
    if node.isDirectory && target.startsWith (place ++ "/") then (.error .invalid, m)
    else if !node.isDirectory && new.endsWith "/" then (.error .notDirectory, m)
    else (.ok (), { m with files := m.files.move place target })
  | .ok (place, number, node), .ok (.node target other) =>
    let isDirectory := (m.files.node? other).any Node.isDirectory
    if number = other then (.ok (), m)
    else if node.isDirectory && !isDirectory then (.error .notDirectory, m)
    else if !node.isDirectory && isDirectory then (.error .isDirectory, m)
    else if isDirectory && !(m.files.entries target).isEmpty then (.error .notEmpty, m)
    else (.ok (), { m with files := (m.files.unlink target).move place target })

def link (m : Machine) (t : Task) (old new : String) : Except Refusal Unit × Machine :=
  match m.files.find t.directory old false, m.files.resolve t.directory new false with
  | .error r, _ | _, .error r => (.error r, m)
  | .ok _, .ok (.node _ _) => (.error .alreadyThere, m)
  | .ok (_, number, node), .ok (.free target) =>
    if node.isDirectory then (.error .notPermitted, m)
    else (.ok (), { m with files := m.files.link target number })

def change (m : Machine) (t : Task) (path : String) (f : Node → Node) :
    Except Refusal Unit × Machine :=
  match m.files.find t.directory path with
  | .error r => (.error r, m)
  | .ok (_, number, _) => (.ok (), { m with files := m.files.update number f })

def fork (m : Machine) (t : Task) (work : Work) : Nat × Machine :=
  let pid := m.nextPid
  let wake := .clock (m.clock + (Call.fork (.program "" [] [])).length)
  let child := { t with pid, parent := t.pid, work, wake, caught := [] }
  (pid, { m with tasks := m.tasks ++ [child], nextPid := pid + 1 })

structure Library where
  start : Child → Process Nat
  load : Executable → (arguments : List String) → (environment : List (String × String)) → Work

def stringLimit : Nat := 131071

def stringsLimit : Nat := 2097152

def isTooMuch (path : String) (arguments : List String) (environment : List (String × String)) :
    Bool :=
  let lengths := arguments.map String.length ++
    environment.map fun (name, value) => name.length + value.length + 1
  lengths.any (stringLimit ≤ ·) ||
    stringsLimit < path.length + 1 + lengths.foldl (fun sum n => sum + n + 9) 0

def interpreter? (contents : Bytes) : Option (List String) :=
  match contents with
  | 0x23 :: 0x21 :: rest =>
    let line := (rest.takeWhile (· ≠ 10)).map fun b => Char.ofNat b.toNat
    let isBlank (c : Char) : Bool := c == ' ' || c == '\t'
    let trimmed := ((line.dropWhile isBlank).reverse.dropWhile isBlank).reverse
    let program := trimmed.takeWhile (!isBlank ·)
    let argument := (trimmed.drop program.length).dropWhile isBlank
    if program.isEmpty then none
    else some (String.ofList program ::
      (if argument.isEmpty then [] else [String.ofList argument]))
  | _ => none

/-- What runs when a path is run with arguments. A script is run by its interpreter. -/
def programAt (m : Machine) (directory : String) :
    (depth : Nat) → String → List String → Except Refusal (Executable × List String)
  | 0, _, _ => .error .tooManyLinks
  | depth + 1, path, arguments => do
    let (_, _, node) ← m.files.find directory path
    if !node.isExecutable || node.isDirectory then .error .denied
    else
      match node.kind with
      | .program e => return (e, arguments)
      | .file contents =>
        match interpreter? contents with
        | some (program :: argument) =>
          programAt m directory depth program (program :: argument ++ path :: arguments.drop 1)
        | _ => .error .noProgram
      | _ => .error .denied

def exec (library : Library) (m : Machine) (t : Task) (path : String) (arguments : List String)
    (environment : List (String × String)) : Except Refusal Machine := do
  let (e, arguments) ← m.programAt t.directory 5 path arguments
  if isTooMuch path arguments environment then .error .tooLong
  else
    return sweep (m.put { t with
      work := library.load e arguments environment
      wake := .clock (m.clock + (Call.exec path [] []).length)
      fds := t.fds.filter fun (_, d) => !d.isPrivate
      caught := []
      dispositions := t.dispositions.filter fun (_, d) => d = .ignored })

/-- What comes of an action that never has to wait. -/
def Served.of {α : Type} (r : α × Machine) : Served α := .answered r.1 r.2

/-- Answers a call, unless it has to wait. -/
def serve (library : Library) (m : Machine) (t : Task) : (c : Call) → Served (Reply c)
  | .pause => .answered t.caught.mergeSort (m.put { t with caught := [] })
  | .read fd most interruptible => m.read t fd most interruptible
  | .write fd data => m.write t fd data
  | .openFile path access => .of (m.openFile t path access)
  | .close fd =>
    .answered (if (t.fd? fd).isSome then .ok () else .error .badDescriptor)
      (sweep (m.put (t.dropFd fd)))
  | .duplicate fd least => .of (m.share t fd (t.freeFd least) true)
  | .redirect source target =>
    let (r, m) := m.share t source target false
    .answered (r.map fun _ => ()) m
  | .pipe => .of (m.makePipe t)
  | .fork child => .of (m.fork t (.process (library.start child)))
  | .exec path arguments environment =>
    match exec library m t path arguments environment with
    | .error r => .answered r m
    | .ok m => .replaced m
  | .wait pid block interruptible => m.wait t pid block interruptible
  | .kill pid signal => .of (m.kill pid signal)
  | .handle signal disposition => .answered () (m.handle t signal disposition)
  | .isIgnored signal => .answered (t.dispositions.lookup signal == some .ignored) m
  | .sleep _ => .answered () m
  | .examine path follow => .answered (m.examine t path follow) m
  | .list path =>
    .answered ((m.files.directoryAt t.directory path).map fun place => m.files.entries place) m
  | .enter path =>
    match m.files.directoryAt t.directory path with
    | .ok place => .answered (.ok place) (m.put { t with directory := place })
    | .error r => .answered (.error r) m
  | .here => .answered t.directory m
  | .unlink path => .of (m.unlink t path)
  | .makeDirectory path =>
    .of (m.make t path { Node.directory with mode := 0o777 &&& (0o777 - t.mask) })
  | .removeDirectory path => .of (m.removeDirectory t path)
  | .rename old new => .of (m.rename t old new)
  | .link old new => .of (m.link t old new)
  | .symlink target path => .of (m.make t path { kind := .link target, mode := 0o777 })
  | .changeMode path mode => .of (m.change t path fun node => { node with mode })
  | .touch path => .of (m.change t path fun node => { node with modified := m.clock })
  | .mask new => .answered t.mask (m.put { t with mask := new.getD t.mask })
  | .self => .answered t.pid m
  | .parent => .answered t.parent m
  | .clock => .answered m.clock m

def step (library : Library) (m : Machine) (t : Task) : Machine :=
  match t.work with
  | .broker b => m.put { t with work := .broker { b with listening := true }, wake := .never }
  | .dying exit => m.finish t.pid exit
  | .process (.done code) => m.finish t.pid (.ofCode (code % 256))
  | .process (.crash _) => m.finish t.pid (.ofSignal 6)
  | .process (.ask call next) =>
    match serve library m t call with
    | .waits => m.put { t with wake := .call }
    | .replaced m => m
    | .answered reply m =>
      match m.find? t.pid with
      | none => m
      | some u =>
        match u.work with
        | .process _ =>
          m.put { u with work := .process (next reply), wake := .clock (m.clock + call.length) }
        | _ => m

def wakesAt? (library : Library) (m : Machine) (t : Task) : Option Nat :=
  if t.stopped then none
  else
    match t.wake, t.work with
    | .clock n, _ => some n
    | .call, .process (.ask call _) =>
      match serve library m t call with
      | .waits => none
      | _ => some m.clock
    | .call, _ => some m.clock
    | .never, _ => none

def next? (library : Library) (m : Machine) (deadline : Nat) : Option (Nat × Task) :=
  m.tasks.foldl (fun best t =>
    match wakesAt? library m t, best with
    | some n, some (k, _) => if n < k ∧ n ≤ deadline then some (n, t) else best
    | some n, none => if n ≤ deadline then some (n, t) else none
    | none, best => best) none

def advance (library : Library) (wanted : Machine → Bool) (deadline : Nat) :
    (limit : Nat) → Machine → Machine
  | 0, m => m
  | limit + 1, m =>
    if wanted m then m
    else
      match next? library m deadline with
      | none => { m with clock := max m.clock deadline }
      | some (n, t) =>
        advance library wanted deadline limit (step library { m with clock := max m.clock n } t)

end Machine
end ReloadProbe.Rehearsal
