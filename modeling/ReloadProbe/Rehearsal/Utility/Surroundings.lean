import ReloadProbe.Rehearsal.Floating
import ReloadProbe.Rehearsal.Utility.Choice

/-! Programs that tell where they are, wait, or only end. -/
namespace ReloadProbe.Rehearsal.Utility

/-- Ends with a code, whatever its arguments are. -/
def endWith (code : Nat) : Utility := fun _ => return code

def pwd : Utility := fun args => do
  let choice ← choose
    { letters := "LP", words := [("logical", .nothing, 'L'), ("physical", .nothing, 'P')] } args
  if !choice.others.isEmpty then Tool.complain "ignoring non-option arguments"
  let here : String ← Tool.call .here
  let said? ← Tool.lookup? "PWD"
  let logical ←
    match if choice.lastOf? ['L', 'P'] = some 'L' then said? else none with
    | none => pure here
    | some path => do
      let isPlain := path.startsWith "/" &&
        (Place.parts path).all fun part => part ≠ "." && part ≠ ".."
      match ← Tool.examine path, ← Tool.examine "." with
      | .ok (_, m, _), .ok (_, n, _) => pure (if isPlain && m = n then path else here)
      | _, _ => pure here
  Tool.put (logical ++ "\n")
  return 0

def printenv : Utility := fun args => do
  modify fun d => { d with failure := 2 }
  let choice ← choose
    { letters := "0", words := [("null", .nothing, '0')], inOrder := true } args 2
  let ending := if choice.has '0' then "\x00" else "\n"
  let environment := (← get).environment
  if choice.others.isEmpty then
    for (name, value) in environment do
      Tool.put s!"{name}={value}{ending}"
    return 0
  else
    Tool.each choice.others fun name => do
      match if name.contains '=' then none else environment.lookup name with
      | some value =>
        Tool.put (value ++ ending)
        return 0
      | none => return 1

/-- Writes the same line again and again, until nobody reads it. -/
def yes : Utility := fun args => do
  let words ← noOptions args
  let line := (if words.isEmpty then "y" else " ".intercalate words) ++ "\n"
  let block := String.join (List.replicate (max 1 (8192 / line.length)) line)
  let rec go : Nat → Tool Nat
    | 0 => return 0
    | limit + 1 => do
      match ← Tool.writeTo 1 block with
      | .ok () => go limit
      | .error r => Tool.fail s!"standard output: {r.reason}"
  go Tool.readLimit

def interval? (text : String) : Option Nat :=
  let r := Floating.read Floating.extended text.toList
  let unit? : Option Nat := match r.rest with
    | [] | ['s'] => some 1
    | ['m'] => some 60
    | ['h'] => some 3600
    | ['d'] => some 86400
    | _ => none
  match unit?, r.value with
  | some unit, .finite false m e =>
    if r.found then
      let (n, d) := Floating.fraction m e
      some ((n * unit * 1000000000 + d - 1) / d)
    else none
  | some _, .infinite false => some 9223372036854775808
  | _, _ => none

def sleep : Utility := fun args => do
  let words ← noOptions args
  demand 1 words
  let total ← words.foldlM (fun (total : Option Nat) word => do
    match interval? word with
    | some n => return total.map (· + n)
    | none =>
      Tool.complain s!"invalid time interval {cited word}"
      return none) (some 0)
  match total with
  | none => Tool.sendAway
  | some nanos =>
    Tool.call (.sleep nanos)
    return 0

def lastName (path : String) : String :=
  match (Place.parts path).filter (!·.isEmpty) with
  | [] => if path.isEmpty then "" else "/"
  | names => names.getLastD ""

def basename : Utility := fun args => do
  let choice ← choose
    { letters := "as:z", inOrder := true
      words := [("multiple", .nothing, 'a'), ("suffix", .value, 's'), ("zero", .nothing, 'z')] }
    args
  let several := choice.has 'a' || choice.has 's'
  demand 1 choice.others
  if !several then allow 2 choice.others
  let ending := if choice.has 'z' then "\x00" else "\n"
  let (paths, tail) :=
    if several then (choice.others, (choice.value? 's').getD "")
    else (choice.others.take 1, (choice.others[1]?).getD "")
  for path in paths do
    let name := lastName path
    let cut := name.endsWith tail && name ≠ tail && !name.startsWith "/"
    let kept := if cut then String.ofList (name.toList.take (name.length - tail.length)) else name
    Tool.put (kept ++ ending)
  return 0

def directoryPart (path : String) : String :=
  let isSlash (c : Char) : Bool := c == '/'
  let cs := (path.toList.reverse.dropWhile isSlash).dropWhile (!isSlash ·)
  match cs.dropWhile isSlash with
  | [] => if path.startsWith "/" then "/" else "."
  | rest => String.ofList rest.reverse

def dirname : Utility := fun args => do
  let choice ← choose { letters := "z", words := [("zero", .nothing, 'z')] } args
  demand 1 choice.others
  let ending := if choice.has 'z' then "\x00" else "\n"
  for path in choice.others do Tool.put (directoryPart path ++ ending)
  return 0

end ReloadProbe.Rehearsal.Utility
