import ReloadProbe.Rehearsal.Utility.Places

/-!
Rights of files. They are given as digits of base eight or in letters, and a change may depend on
the rights that a file has and on those that new files do not get.
-/
namespace ReloadProbe.Rehearsal.Utility

namespace Rights

inductive Action where
  | add
  | remove
  | set
  deriving DecidableEq

inductive Value where
  | bits (n : Nat)
  /-- The bits that some of the classes have already, for all classes. -/
  | likeClass (mask : Nat)

structure Clause where
  action : Action
  /-- The bits of the classes that are named; none if no class is. -/
  affected : Nat
  value : Value
  runIfAny : Bool := false
  mentioned : Nat

def classBits : Char → Nat
  | 'u' => 0o4700
  | 'g' => 0o2070
  | 'o' => 0o1007
  | _ => 0o7777

def letterBits? : Char → Option Nat
  | 'r' => some 0o444
  | 'w' => some 0o222
  | 'x' => some 0o111
  | 's' => some 0o6000
  | 't' => some 0o1000
  | 'X' => some 0
  | _ => none

def action? : Char → Option Action
  | '+' => some .add
  | '-' => some .remove
  | '=' => some .set
  | _ => none

def octal? (cs : List Char) : Option Nat :=
  if !cs.isEmpty && cs.all fun c => '0' ≤ c && c ≤ '7' then
    let n := cs.foldl (fun n c => n * 8 + (c.toNat - 48)) 0
    if n ≤ 0o7777 then some n else none
  else none

def actions (affected : Nat) : (limit : Nat) → List Char → Option (List Clause)
  | 0, _ | _, [] => none
  | limit + 1, c :: cs => do
    let action ← action? c
    let mentionedOf (bits : Nat) : Nat := if affected = 0 then bits else affected &&& bits
    let (clause, rest) ← match cs with
      | [] => some ({ action, affected, value := Value.bits 0, mentioned := mentionedOf 0 }, [])
      | k :: rest =>
        if k = 'u' || k = 'g' || k = 'o' then
          some ({ action, affected, value := Value.likeClass (classBits k &&& 0o777)
                  mentioned := mentionedOf 0 }, rest)
        else
          let letters := cs.takeWhile fun c => (letterBits? c).isSome
          let bits := letters.foldl (fun n c => n ||| (letterBits? c).getD 0) 0
          some ({ action, affected, value := Value.bits bits, runIfAny := letters.contains 'X'
                  mentioned := mentionedOf bits }, cs.drop letters.length)
    if rest.isEmpty then return [clause]
    else return clause :: (← actions affected limit rest)

def read? (text : String) : Option (List Clause) :=
  let cs := text.toList
  match octal? cs with
  | some n =>
    let mentioned := if cs.length < 5 then (n &&& 0o6000) ||| 0o1777 else 0o7777
    some [{ action := .set, affected := 0o7777, value := .bits n, mentioned }]
  | none =>
    if cs.head?.any Char.isDigit then none
    else do
      let clauses ← (cs.splitOn ',').mapM fun part =>
        let classes := part.takeWhile fun c => c == 'u' || c == 'g' || c == 'o' || c == 'a'
        let affected := classes.foldl (fun n c => n ||| classBits c) 0
        actions affected (part.length + 1) (part.drop classes.length)
      return clauses.flatten

def Clause.apply (isDirectory : Bool) (mask : Nat) (old : Nat) (c : Clause) : Nat :=
  let kept := if isDirectory then 0o6000 &&& (0o7777 - (c.mentioned &&& 0o7777)) else 0
  let value := match c.value with
    | .bits n => n
    | .likeClass mask =>
      let has := mask &&& old
      let all (bits : Nat) : Nat := if has &&& bits = 0 then 0 else bits
      all 0o444 ||| all 0o222 ||| all 0o111
  let value := if c.runIfAny && (isDirectory || old &&& 0o111 ≠ 0) then value ||| 0o111 else value
  let limit := if c.affected = 0 then 0o7777 - mask else c.affected
  let value := value &&& limit &&& (0o7777 - kept)
  match c.action with
  | .add => old ||| value
  | .remove => old &&& (0o7777 - value)
  | .set =>
    let preserved := (if c.affected = 0 then 0 else 0o7777 - c.affected) ||| kept
    (old &&& preserved) ||| value

def apply (clauses : List Clause) (isDirectory : Bool) (mask old : Nat) : Nat :=
  clauses.foldl (Clause.apply isDirectory mask) old

def letters (mode : Nat) : String :=
  let has (bit : Nat) : Bool := mode &&& bit ≠ 0
  let run (bit special : Nat) (c d : Char) : Char :=
    if has special then (if has bit then c else d) else if has bit then 'x' else '-'
  let pair (r w : Nat) : List Char := [if has r then 'r' else '-', if has w then 'w' else '-']
  String.ofList (pair 0o400 0o200 ++ [run 0o100 0o4000 's' 'S'] ++ pair 0o040 0o020 ++
    [run 0o010 0o2000 's' 'S'] ++ pair 0o004 0o002 ++ [run 0o001 0o1000 't' 'T'])

def digits (mode : Nat) : String :=
  let ds := Nat.toDigits 8 mode
  String.ofList (List.replicate (4 - ds.length) '0' ++ ds)

end Rights

structure RightsChange where
  clauses : List Rights.Clause
  mask : Nat
  diagnose : Bool
  all : Bool
  changes : Bool
  quiet : Bool

namespace RightsChange

def one (r : RightsChange) (path : String) (node : Node) : Tool Nat := do
  let new := Rights.apply r.clauses node.isDirectory r.mask node.mode
  let shape (mode : Nat) : String := s!"{Rights.digits mode} ({Rights.letters mode})"
  match ← (Tool.call (.changeMode path new) : Tool (Except Refusal Unit)) with
  | .error e =>
    if !r.quiet then Tool.complain s!"changing permissions of {named path}: {e.reason}"
    return 1
  | .ok () =>
    if new ≠ node.mode then
      if r.all || r.changes then
        Tool.put s!"mode of {named path} changed from {shape node.mode} to {shape new}\n"
    else if r.all then Tool.put s!"mode of {named path} retained as {shape new}\n"
    let wanted := Rights.apply r.clauses node.isDirectory 0 node.mode
    if r.diagnose && new &&& (0o7777 - wanted) ≠ 0 then
      let (found, meant) := (Rights.letters new, Rights.letters wanted)
      Tool.complain s!"{shown path}: new permissions are {found}, not {meant}"
      return 1
    else return 0

def tree (r : RightsChange) : (limit : Nat) → String → Node → Tool Nat
  | 0, _, _ => return 1
  | limit + 1, path, node => do
    let code ← r.one path node
    if !node.isDirectory then return code
    else
      let names : Except Refusal (List String) ← Tool.call (.list path)
      let below ← Tool.each (names.toOption.getD []) fun name => do
        let path := s!"{path}/{name}"
        match ← Tool.examine path false with
        | .error _ => return 1
        | .ok (_, _, node) =>
          match node.kind with
          | .link _ => return 0
          | _ => tree r limit path node
      return max code below

end RightsChange

def chmod : Utility := fun args => do
  let modeLetters := "rwxXstugoa,+=01234567"
  let choice ← choose
    { letters := "Rcfv" ++ String.join (modeLetters.toList.map fun c => c.toString ++ "::")
      words := [("changes", .nothing, 'c'), ("quiet", .nothing, 'f'), ("silent", .nothing, 'f'),
        ("verbose", .nothing, 'v'), ("recursive", .nothing, 'R'), ("reference", .value, 'F')] } args
  let given := choice.options.filterMap fun (l, rest) =>
    if modeLetters.contains l then some ("-" ++ l.toString ++ rest) else none
  let (mode?, paths) := match given, choice.value? 'F', choice.others with
    | [], none, mode :: paths => (some mode, paths)
    | [], none, [] => (none, [])
    | [], some _, paths => (none, paths)
    | given, _, paths => (some (",".intercalate given), paths)
  if paths.isEmpty then
    match mode? with
    | some mode => if given.isEmpty then Tool.misuse s!"missing operand after {cited mode}"
    | none => pure ()
    Tool.misuse "missing operand"
  let clauses ← match mode?, choice.value? 'F' with
    | some mode, _ =>
      match Rights.read? mode with
      | some clauses => pure clauses
      | none => Tool.misuse s!"invalid mode: {cited mode}"
    | none, some path =>
      match ← Tool.examine path with
      | .error r => Tool.fail s!"failed to get attributes of {named path}: {r.reason}"
      | .ok (_, _, node) =>
        pure [{ action := .set, affected := 0o7777, value := .bits node.mode, mentioned := 0o7777 }]
    | none, none => pure []
  let mask : Nat ← Tool.call (.mask none)
  let change : RightsChange :=
    { clauses, mask, diagnose := !given.isEmpty, all := choice.lastOf? ['v', 'c'] = some 'v'
      changes := choice.has 'c', quiet := choice.has 'f' }
  let code ← Tool.each paths fun path => do
    match ← Tool.examine path with
    | .error r =>
      let isDangling := (← Tool.examine path false).toOption.isSome
      if !change.quiet then
        if isDangling then Tool.complain s!"cannot operate on dangling symlink {named path}"
        else Tool.complain s!"cannot access {named path}: {r.reason}"
      if change.all then
        let shape := s!"{Rights.digits 0} ({Rights.letters 0})"
        Tool.put s!"failed to change mode of {named path} from {shape} to {shape}\n"
      return 1
    | .ok (_, _, node) =>
      if choice.has 'R' then change.tree 4096 path node else change.one path node
  return code

end ReloadProbe.Rehearsal.Utility
