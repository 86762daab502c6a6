import ReloadProbe.Rehearsal.Shell.Execute

/-!
How commands are run. A command that is `tested` may fail without ending a shell that ends at
failures; nothing comes after a command that is `last`, so that a program may take the place of the
shell.
-/
namespace ReloadProbe.Rehearsal.Shell.Act

structure Gathered where
  before : List String := []
  args : List String := []
  words : List Word

namespace Gathered

/-- Expands words until there is one more argument. False if there is none. -/
def fill : (words : List Word) → List String → Act (Bool × Gathered)
  | [], args => return (false, { args, words := [] })
  | w :: words, args => do
    match ← fieldsOfWord w with
    | [] => fill words args
    | more => return (true, { args := args ++ more, words })

/-- Sees to it that there is an argument of a number. False if there is none. -/
def reach (g : Gathered) (n : Nat) : Act (Bool × Gathered) := do
  if n < g.args.length then return (true, g)
  else
    let (found, filled) ← fill g.words g.args
    return (found, { filled with before := g.before })

def pass (g : Gathered) (n : Nat) : Gathered :=
  { g with before := g.before ++ g.args.take n, args := g.args.drop n }

end Gathered

structure Prepared where
  gathered : Gathered
  builtin? : Option String := none
  isSpecial : Option Bool := none
  noFunction : Bool := false
  path? : Option String := none
  isLocal : Bool := false

def meantCommand : (limit n : Nat) → (usual : Bool) → Gathered →
    Act (Option (Nat × Bool) × Gathered)
  | 0, _, _, g => return (none, g)
  | limit + 1, n, usual, g => do
    let (found, g) ← g.reach n
    if !found then return (none, g)
    else
      match (((g.args[n]?).getD "").toList : List Char) with
      | ['-', '-'] =>
        let (found, g) ← g.reach (n + 1)
        return (if found then some (n + 1, usual) else none, g)
      | '-' :: c :: cs =>
        if (c :: cs).all (· == 'p') then meantCommand limit (n + 1) true g else return (none, g)
      | _ => return (some (n, usual), g)

def prepare : (limit : Nat) → Prepared → Act Prepared
  | 0, c => return c
  | limit + 1, c => do
    let name := c.gathered.args.headD ""
    let s ← get
    let isFunction := !c.noFunction && (s.functions.lookup name).isSome
    if isFunction || !isBuiltin name then return { c with builtin? := none, isLocal := true }
    else
      let special := c.isSpecial.getD (isSpecial name)
      let isLocal := c.isSpecial.isSome || !special
      let c := { c with builtin? := some name, isSpecial := some special, isLocal }
      if name ≠ "command" then return c
      else
        let g := c.gathered
        match ← meantCommand (g.args.length + g.words.length + 1) 1 false g with
        | (none, gathered) => return { c with gathered }
        | (some (n, usual), gathered) =>
          let path? := if usual then some usualPath else c.path?
          prepare limit { c with gathered := gathered.pass n, noFunction := true, path? }

def expandRest (assigning : Bool) (words : List Word) : Act (List String) := do
  let rest ← words.mapM fun w =>
    if assigning && w.isAssignment then return [← textOfWord w .inValue] else fieldsOfWord w
  return rest.flatten

def traceSign : Act String := do
  let sign := ((← get).lookup? "PS4").getD "+ "
  modify fun s => { s with tracing := true }
  let r := Reader.ofText sign.toList
  let scripts := Parse.scripts r.limit
  match (Parse.scan scripts none r.limit (sign.toList.head?)
      { level := { quoting := .double, isDouble := true } }).run
      { r with sources := [{ text := sign.toList.drop 1 }] } with
  | .ok ((scan, _), _) =>
    let text ← textOfDocument scan.parts.reverse
    modify fun s => { s with tracing := false }
    return text
  | .error _ => return sign

def callLimit : Nat := 1000

def popScopesTo : (limit : Nat) → (count : Nat) → Act Unit
  | 0, _ => return ()
  | limit + 1, count => do
    if count < (← get).scopes.length then
      popScope
      popScopesTo limit count

def assignFor (isLocal exported : Bool) (w : Word) : Act String := do
  let text ← textOfWord w .inValue
  let (name, value?) := Builtin.assignment text
  if isLocal then Builtin.makeLocal name value? true else setVariable name value? exported
  return text

def trace (assignments args : List String) : Act Unit := do
  let s ← get
  if s.has 'x' && !s.tracing then
    let sign ← traceSign
    let _ ← write (outerError s) (sign ++ " ".intercalate (assignments ++ args) ++ "\n")

def forkAll (background : Bool) : (commands : List Command) → (previous? : Option Nat) →
    (tested : Bool) → Act (List Nat)
  | [], _, _ => return []
  | c :: more, previous?, tested => do
    let ends? ← if more.isEmpty then pure none else some <$> pipe
    let s ← get
    let quiet : List Plumbing := if background then
        [.ignore 2, .ignore 3] ++ (if previous?.isNone then [.dry 0] else [])
      else []
    let out : List Plumbing := match ends? with
      | some (source, sink) => [.close source, .move sink 1]
      | none => []
    let input : List Plumbing := match previous? with
      | some fd => [.move fd 0]
      | none => []
    let close? : List Plumbing := out.take 1
    let plumbing := s.releases ++ quiet ++ close? ++ input ++ out.drop 1
    let pid ← fork (.commands s.child plumbing [] tested c)
    match previous? with
    | some fd => close fd
    | none => pure ()
    match ends? with
    | some (_, sink) => close sink
    | none => pure ()
    return pid :: (← forkAll background more (ends?.map Prod.fst) tested)

def describedBy (text : List Char) : List Word → Act Bool
  | [] => return false
  | w :: ws => do
    if Pattern.describes (← patternOfWord w) text then return true else describedBy text ws

def chosen (text : List Char) : List (List Word × Option Command) → Act (Option (Option Command))
  | [] => return none
  | (patterns, body) :: arms => do
    if ← describedBy text patterns then return some body else chosen text arms

def prehash : Command → Act Unit
  | .simple _ _ (w :: _) _ => do
    match Word.literal? w with
    | some name =>
      if isName name && !isBuiltin name && ((← get).functions.lookup name).isNone then
        let _ ← findProgram none name
    | none => pure ()
  | _ => return ()

def pipeline (commands : List Command) (background tested : Bool) : Act Nat := do
  commands.forM prehash
  let pids ← forkAll background commands none tested
  if background then
    addJob pids
    return 0
  else await pids

def inBackground (line : Nat) (c : Command) (redirections : List Redirection) : Act Nat := do
  modify fun s => { s with line }
  let aims ← redirections.mapM aim
  let s ← get
  let plumbing := s.releases ++ [.ignore 2, .ignore 3, .dry 0]
  let pid ← fork (.commands s.child plumbing aims false c)
  addJob [pid]
  return 0

def ending (last : Bool) : Act Nat := do
  if last then throw .finished else return (← get).status

def negated (status : Nat) : Nat := if status = 0 then 1 else 0

def inLoop (a : Act Nat) : Act Nat := do
  modify fun s => { s with loops := s.loops + 1 }
  let status ← a
  modify fun s => { s with loops := s.loops - 1 }
  return status

def define (line : Nat) (name : String) (body : Command) : Act Nat := do
  modify fun s => { s with
    functions := (name, { line, body }) :: s.functions.filter fun (k, _) => k ≠ name
    found := s.found.filter fun (k, _) => k ≠ name }
  return 0

abbrev Runner := (tested last : Bool) → Command → Act Nat

def roundLimit : Nat := 1000000000000

section

variable (run : Runner)

def passed (before after : Reader) : String :=
  let left (r : Reader) : List Char := ((r.sources.getLast?).map Source.text).getD []
  let rest := left after
  let read := (left before).take ((left before).length - rest.length)
  if read.isEmpty || read.getLast? = some '\n' then String.ofList read
  else
    let line := rest.takeWhile (· != '\n')
    String.ofList (read ++ line ++ (rest.drop line.length).take 1)

/-- Runs the commands that are left to be read, line by line. What is read from a file can be shown
as it is read. -/
def lines (tested isFile : Bool) : (limit : Nat) → Reader → (status : Nat) → Act Nat
  | 0, _, _ => throw .finished
  | limit + 1, r, status => do
    let s ← get
    let r := { r with
      aliases := s.aliases, documents := s.documents, nextDocument := s.nextDocument }
    match r.nextLine with
    | .error f =>
      modify fun s => { s with line := f.line }
      fail f.message
    | .ok (line, next) =>
      modify fun s => { s with documents := next.documents, nextDocument := next.nextDocument }
      if isFile && s.has 'v' then
        let _ ← write 2 (passed r next)
      match line with
      | .ending => return status
      | .empty => lines tested isFile limit next status
      | .commands c =>
        let status ← run tested false c
        if (← get).skip ≠ .nothing then return status else lines tested isFile limit next status

/-- Runs the commands of a text. Its last status is the result. -/
def text (tested : Bool) (script : String) (isFile : Bool := false) : Act Nat :=
  lines run tested isFile roundLimit (Reader.ofText script.toList) 0

def trapsFrom (status : Nat) : (limit : Nat) → Act Unit
  | 0 => return ()
  | limit + 1 => do
    let s ← get
    match if s.skip = .nothing then s.pending.mergeSort else [] with
    | [] => return ()
    | n :: _ =>
      set { s with pending := s.pending.filter (· ≠ n) }
      match s.traps.lookup n with
      | some action =>
        let _ ← text run false action
        if (← get).skip ≠ .toReturn false then setStatus status
      | none => pure ()
      trapsFrom status limit

def traps : Act Unit := do
  watch
  let s ← get
  if !s.pending.isEmpty && s.skip = .nothing then
    let before := s.statusBefore
    let status := before.getD s.status
    set { s with statusBefore := some status }
    trapsFrom run status roundLimit
    modify fun s => { s with statusBefore := before }

def settle (tested last : Bool) (a : Act Nat) : Act Nat := do
  let status ← a
  setStatus status
  traps run
  if status ≠ 0 && !tested && (← get).has 'e' then throw .finished else ending last

/-- The second of two commands, unless it is passed over. -/
def next (tested last wanted : Bool) (c : Command) : Act Nat := do
  if !wanted || (← get).skip ≠ .nothing then ending last
  else
    let status ← run tested last c
    setStatus status
    ending last

def branch (tested last : Bool) (condition yes : Command) (no : Option Command) : Act Nat := do
  let status ← run true false condition
  match if status = 0 then some yes else no with
  | some c => next run tested last true c
  | none =>
    if (← get).skip = .nothing then setStatus 0
    ending last

/-- Goes through a loop again and again. -/
def rounds (tested goOn : Bool) (condition body : Command) : (limit : Nat) → (status : Nat) →
    Act Nat
  | 0, _ => throw .finished
  | limit + 1, status => do
    let held ← run true false condition
    match ← loopSkip with
    | .nothing =>
      if (held == 0) != goOn then return status
      else
        let status ← run tested false body
        match ← loopSkip with
        | .nothing | .toNextRound => rounds tested goOn condition body limit status
        | _ => return status
    | .toNextRound => rounds tested goOn condition body limit status
    | .toReturn false => return held
    | _ => return status

def eachRound (tested : Bool) (name : String) (body : Command) : List String → (status : Nat) →
    Act Nat
  | [], status => return status
  | value :: values, _ => do
    setVariable name (some value)
    let status ← run tested false body
    match ← loopSkip with
    | .nothing | .toNextRound => eachRound tested name body values status
    | _ => return status

def each (tested : Bool) (line : Nat) (name : String) (words : List Word) (body : Command) :
    Act Nat := do
  modify fun s => { s with line }
  let values ← words.mapM fieldsOfWord
  inLoop (eachRound run tested name body values.flatten 0)

def choice (tested last : Bool) (line : Nat) (subject : Word)
    (arms : List (List Word × Option Command)) : Act Nat := do
  modify fun s => { s with line }
  let text ← textOfWord subject
  match ← chosen text.toList arms with
  | some (some c) => if (← get).skip = .nothing then run tested last c else return 0
  | _ => return 0

def withRedirections (tested : Bool) (line : Nat) (c : Command) (rs : List Redirection) :
    Act Nat := do
  modify fun s => { s with line }
  let aims ← rs.mapM aim
  let status ← redirectAll aims
  let status ← if status = 0 then run tested false c else pure status
  if !aims.isEmpty then restore false
  return status

def subshell (tested last : Bool) (line : Nat) (c : Command) (rs : List Redirection) :
    Act Nat := do
  modify fun s => { s with line }
  let aims ← rs.mapM aim
  let s ← get
  if last && !s.hasTraps then
    set s.child
    aims.forM (apply false)
    let _ ← run tested true c
    throw .finished
  else
    let pid ← fork (.commands s.child s.releases aims tested c)
    await [pid]

def sourceCommand (args : List String) : Act Nat := do
  let (_, args) ← options "" args
  match args with
  | [] => return 0
  | name :: _ =>
    let file ← sourceFile name
    let script ← scriptText file
    modify fun s => { s with command? := some file }
    let status ← text run false script true
    modify fun s => { s with skip := s.skip.afterReturn }
    return status

/-- A command of the shell itself. A fault in one that is not special only fails. -/
def ownCommand (tested special : Bool) (name : String) (args : List String) : Act Nat := do
  let outer := (← get).command?
  modify fun s => { s with command? := some name }
  let r ← guarded (match name with
    | "eval" => if args.isEmpty then pure 0 else text run tested (" ".intercalate args)
    | "." => sourceCommand run args
    | name => builtin name args)
  modify fun s => { s with command? := outer }
  match r with
  | .ok status => setStatus status
  | .error .fault => if special then throw .fault
  | .error leave => throw leave
  reap
  return (← get).status

def callFunction (tested : Bool) (f : Function) (args : List String) : Act Nat := do
  let outer ← get
  if callLimit ≤ outer.calls then fail "Maximum function recursion depth (1000) reached"
  else
    set { outer with
      args, optionIndex := 1, optionOffset := none, loops := 0, calls := outer.calls + 1 }
    let r ← guarded (run tested false f.body)
    modify fun s => { s with
      args := outer.args, optionIndex := outer.optionIndex, optionOffset := outer.optionOffset
      loops := outer.loops, calls := outer.calls, skip := s.skip.afterReturn }
    match r with
    | .ok _ =>
      reap
      return (← get).status
    | .error leave => throw leave

def perform (tested last : Bool) (c : Prepared) (args : List String) : Act Nat := do
  let name := args.headD ""
  let s ← get
  match c.builtin?, if c.noFunction then none else s.functions.lookup name with
  | some name, _ => ownCommand run tested (c.isSpecial = some true) name (args.drop 1)
  | none, some f => callFunction run tested f (args.drop 1)
  | none, none =>
    if args.isEmpty then return s.scriptStatus
    else
      match ← findProgram c.path? name with
      | .error r =>
        complain s!"{name}: {programFault r}"
        setStatus 127
        return 127
      | .ok _ =>
        let path := c.path?.getD (← path)
        if last && !s.hasTraps then become path args
        else
          let pid ← fork (.program (← get) path args)
          await [pid]

def simple (tested last : Bool) (line : Nat) (assignments words : List Word)
    (rs : List Redirection) : Act Nat := do
  modify fun s => { s with line, scriptStatus := 0 }
  let (found, gathered) ← Gathered.fill words []
  let c ← if found then prepare roundLimit { gathered } else pure { gathered }
  let rest ← expandRest (c.builtin?.any takesAssignments) c.gathered.words
  let args := c.gathered.args ++ rest
  let isExec := c.builtin? = some "exec"
  let scopes := (← get).scopes.length
  if c.isLocal then pushScope
  let aims ← rs.mapM aim
  let tables := (← get).redirections.length
  let status ← redirectAll aims
  let status ←
    if status ≠ 0 then
      setStatus status
      if c.isSpecial = some true then throw .fault else pure status
    else
      let texts ← assignments.mapM (assignFor c.isLocal (isExec && 1 < args.length))
      trace texts (c.gathered.before ++ args)
      perform run tested last c args
  if !aims.isEmpty then restore isExec
  restoreTo roundLimit tables
  popScopesTo roundLimit scopes
  return status

def command (tested last : Bool) (c : Command) : Act Nat :=
  match c with
  | .simple line assignments words rs =>
    settle run tested last (simple run tested last line assignments words rs)
  | .pipeline commands background =>
    settle run tested last (pipeline commands background tested)
  | .subshell line c rs => settle run tested last (subshell run tested last line c rs)
  | .background line c rs => settle run tested last (inBackground line c rs)
  | .redirected line c rs => settle run true last (withRedirections run tested line c rs)
  | .negation c => settle run true last (negated <$> run true false c)
  | .sequence a b => do
    let _ ← run tested false a
    next run tested last true b
  | .both a b => do
    let status ← run true false a
    next run tested last (status == 0) b
  | .either a b => do
    let status ← run true false a
    next run tested last (status != 0) b
  | .branch condition yes no => branch run tested last condition yes no
  | .loop goOn condition body =>
    settle run true last (inLoop (rounds run tested goOn condition body roundLimit 0))
  | .each line name words body => settle run true last (each run tested line name words body)
  | .choice line subject arms => settle run true last (choice run tested last line subject arms)
  | .define line name body => settle run true last (define line name body)

end

/-- Runs a command in which so many commands lie within each other. Its status is kept in the
session. -/
def tree : (limit : Nat) → Runner
  | 0, _, _, _ => throw .finished
  | limit + 1, tested, last, c => do
    if (← get).has 'n' then ending last else command (tree limit) tested last c

def treeLimit : Nat := 1000000000000

def run : Runner := tree treeLimit

end ReloadProbe.Rehearsal.Shell.Act
