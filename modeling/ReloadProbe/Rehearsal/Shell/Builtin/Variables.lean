import ReloadProbe.Rehearsal.Shell.Builtin.Options
import ReloadProbe.Rehearsal.Shell.Fields

/-! The commands of a shell that set and unset its variables, its arguments and its aliases. -/
namespace ReloadProbe.Rehearsal.Shell.Builtin

def assignment (arg : String) : String × Option String :=
  let name := arg.toList.takeWhile (· != '=')
  match arg.toList.drop name.length with
  | [] => (arg, none)
  | _ :: value => (String.ofList name, some (String.ofList value))

def declare (name : String) (value? : Option String) (exported readonly : Bool) : Act Unit := do
  if isName name then
    let s ← get
    match s.vars.lookup name, value? with
    | some v, none =>
      let v := { v with exported := v.exported || exported, readonly := v.readonly || readonly }
      Act.putVariable name v
    | _, value? => Act.setVariable name value? exported readonly
  else Act.fail s!"{name}: bad variable name"

def markVariables (name : String) (args : List String) : Act Nat := do
  let (options, args) ← Act.options "p" args
  let readonly := name.startsWith "r"
  if options.isEmpty && !args.isEmpty then
    args.forM fun arg =>
      let (name, value?) := assignment arg
      declare name value? (!readonly) readonly
    return 0
  else
    let wanted (v : Variable) : Bool := if readonly then v.readonly else v.exported
    let vars := (← get).vars.filter fun (_, v) => wanted v
    Act.emit (listing (name ++ " ") vars)

def unset (args : List String) : Act Nat := do
  let (options, args) ← Act.options "vf" args
  let functions := options.getLast?.any fun (c, _) => c = 'f'
  args.forM fun name => do
    if functions then
      modify fun s => { s with functions := s.functions.filter fun (k, _) => k ≠ name }
    else if isName name then
      if ((← get).vars.lookup name).any Variable.readonly then Act.fail s!"{name}: is read only"
      else modify fun s => s.removeVariable name
    else Act.fail s!"{name}: bad variable name"
  return 0

def makeLocal (name : String) (value? : Option String) (exported : Bool := false) : Act Unit := do
  Act.putAside name
  match value? with
  | some value => Act.setVariable name (some value) exported
  | none =>
    if !isName name then Act.fail s!"{name}: bad variable name"

def makeLocals (args : List String) : Act Nat := do
  if (← get).scopes.isEmpty then Act.fail "not in a function"
  else
    args.forM fun arg => do
      if arg = "-" then Act.putOptionsAside
      else
        let (name, value?) := assignment arg
        makeLocal name value?
    return 0

def shift (args : List String) : Act Nat := do
  let n ← match args with
    | [] => pure 1
    | n :: _ => Act.number n
  let s ← get
  if s.args.length < n then Act.fail "can't shift that many"
  else
    setParameters (s.args.drop n)
    return 0

structure Reading where
  segments : List Segment := []
  cells : List Cell := []

namespace Reading

def close (r : Reading) : Reading :=
  let segment : Segment := { cells := r.cells.reverse, parting := .atSeparators }
  { segments := segment :: r.segments }

def push (r : Reading) (c : Char) : Reading :=
  { r with cells := { char := c, literal := true } :: r.cells }

def escape (r : Reading) (c : Char) : Reading :=
  let r := r.close
  if c = '\n' then r else { r with segments := { cells := [⟨c, true⟩] } :: r.segments }

/-- Reads up to the end of a line. False if there was none. -/
def line (raw : Bool) : (limit : Nat) → (escaped : Bool) → Reading → Act (Reading × Bool)
  | 0, _, r => return (r.close, false)
  | limit + 1, escaped, r => do
    match ← Act.read 0 1 true with
    | .ok (b :: _) =>
      let c := Char.ofNat b.toNat
      if b = 0 then line raw limit escaped r
      else if escaped then line raw limit false (r.escape c)
      else if c = '\\' && !raw then line raw limit true r
      else if c = '\n' then return (r.close, true)
      else line raw limit false (r.push c)
    | _ => return (r.close, false)

end Reading

def lineLimit : Nat := 10000000

def read (args : List String) : Act Nat := do
  let (options, names) ← Act.options "p:r" args
  if names.isEmpty then Act.fail "arg count"
  else
    let raw := options.any fun (c, _) => c = 'r'
    let (r, whole) ← Reading.line raw lineLimit false {}
    let separators := ((← get).lookup? "IFS").getD Act.usualSeparators
    let fields := fieldsOf separators.toList r.segments.reverse (some names.length)
    for (name, i) in names.zipIdx do
      Act.assign name (((fields[i]?).map Field.text).getD "")
    return if whole then 0 else 1

structure Found where
  letter : Char
  value? : Option String
  index : Nat
  offset : Option Nat
  done : Bool := false

def nextOption (known : String) (args : List String) : Act Found := do
  let s ← get
  let index := max s.optionIndex 1
  let word (n : Nat) : Option String := if n = 0 then none else args[n - 1]?
  let rest : List Char :=
    match s.optionOffset, word (index - 1) with
    | some offset, some w => w.toList.drop offset
    | _, _ => []
  let ending (index : Nat) : Found :=
    { letter := '?', value? := none, index, offset := none, done := true }
  let quiet := known.startsWith ":"
  let unset : Act Unit := modify fun s => s.removeVariable "OPTARG"
  -- the letter, what follows it in its argument, and the number of the next argument
  let read (c : Char) (cs : List Char) (index : Nat) : Act Found := do
    let offset := if cs.isEmpty then none else
      (word (index - 1)).map fun w => w.length - cs.length
    match Act.afterOption? c known.toList with
    | none =>
      if quiet then Act.assign "OPTARG" c.toString
      else
        let _ ← Act.write 2 s!"Illegal option -{c}\n"
        unset
      return { letter := '?', value? := none, index, offset }
    | some (':' :: _) =>
      match cs, word index with
      | [], none =>
        if quiet then
          Act.assign "OPTARG" c.toString
          return { letter := ':', value? := none, index, offset }
        else
          let _ ← Act.write 2 s!"No arg for -{c} option\n"
          unset
          return { letter := '?', value? := none, index, offset }
      | [], some value =>
        Act.assign "OPTARG" value
        return { letter := c, value? := some value, index := index + 1, offset := none }
      | cs, _ =>
        Act.assign "OPTARG" (String.ofList cs)
        return { letter := c, value? := some (String.ofList cs), index, offset := none }
    | some _ =>
      Act.assign "OPTARG" ""
      return { letter := c, value? := none, index, offset }
  match rest with
  | c :: cs => read c cs index
  | [] =>
    match (word index).map String.toList with
    | some ['-', '-'] => return ending (index + 1)
    | some ('-' :: c :: cs) => read c cs (index + 1)
    | _ => return ending index

def getopts (args : List String) : Act Nat := do
  let (_, args) ← Act.options "" args
  match args with
  | known :: name :: more =>
    let s ← get
    let words := if more.isEmpty then s.args else more
    if words.length + 1 < s.optionIndex then
      set { s with optionIndex := 1, optionOffset := none }
    let found ← nextOption known words
    Act.setVariable "OPTIND" (some (toString found.index))
    Act.assign name found.letter.toString
    modify fun s => { s with optionIndex := found.index, optionOffset := found.offset }
    return if found.done then 1 else 0
  | _ => Act.fail "Usage: getopts optstring var [arg...]"

def shownAlias (name value : String) : String := s!"{name}={quoted value}\n"

def nickname (args : List String) : Act Nat := do
  let s ← get
  if args.isEmpty then
    Act.emit (String.join ((Session.inRows 39 s.aliases).map fun (k, v) => shownAlias k v))
  else
    let step (state : String × Nat) (arg : String) : Act (String × Nat) := do
      let (out, status) := state
      -- an equals sign at the beginning is part of the name
      let (name, value?) := assignment (String.ofList (arg.toList.drop 1))
      let name := String.ofList (arg.toList.take 1) ++ name
      match value?, (← get).aliases.lookup name with
      | some value, old =>
        modify fun s => { s with
          aliases := if old.isSome then
              s.aliases.map fun (k, v) => (k, if k = name then value else v)
            else s.aliases ++ [(name, value)] }
        return (out, status)
      | none, some value => return (out ++ shownAlias name value, status)
      | none, none =>
        let _ ← Act.write 2 s!"alias: {name} not found\n"
        return (out, 1)
    let (out, status) ← args.foldlM step ("", 0)
    Act.emit out status

def unalias (args : List String) : Act Nat := do
  let (options, args) ← Act.options "a" args
  if !options.isEmpty then
    modify fun s => { s with aliases := [] }
    return 0
  else
    args.foldlM (fun status name => do
      if ((← get).aliases.lookup name).isSome then
        modify fun s => { s with aliases := s.aliases.filter fun (k, _) => k ≠ name }
        return status
      else
        let _ ← Act.write 2 s!"unalias: {name} not found\n"
        return 1) 0

end ReloadProbe.Rehearsal.Shell.Builtin
