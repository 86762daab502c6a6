import ReloadProbe.Rehearsal.Numeral
import ReloadProbe.Rehearsal.Shell.Act

/-!
Conditions. What an argument means depends on the arguments after it: an operator with nothing to
work on is a text like any other.
-/
namespace ReloadProbe.Rehearsal.Shell.Builtin

namespace Condition

inductive Place where
  | before
  | between
  | other
  deriving DecidableEq

def place? (s : String) : Option Place :=
  if ["-r", "-w", "-x", "-e", "-f", "-d", "-c", "-b", "-p", "-u", "-g", "-k", "-s", "-t", "-z",
      "-n", "-h", "-O", "-G", "-L", "-S"].contains s then some .before
  else if ["=", "!=", "<", ">", "-eq", "-ne", "-ge", "-gt", "-le", "-lt", "-nt", "-ot",
      "-ef"].contains s then some .between
  else if ["!", "-a", "-o", "(", ")"].contains s then some .other
  else none

inductive Token where
  | ending
  | operator (s : String)
  | operand
  deriving DecidableEq

def token : List String → Token
  | [] => .ending
  | s :: rest =>
    let isOperand : Bool := match rest with
      | [] => true
      | [_] => false
      | t :: _ => place? t == some .between
    match place? s with
    | none => .operand
    | some .before => if isOperand then .operand else .operator s
    | some _ => if s = "(" && rest.isEmpty then .operand else .operator s

def fault {α : Type} (operator what : String) : Act α :=
  Act.fail (if operator.isEmpty then what else s!"{operator}: {what}")

def number (s : String) : Act Int := do
  let n := Numeral.read (some 10) s.toList
  if n.cut || !n.found || n.rest.any (!Numeral.isBlank ·) then Act.fail s!"Illegal number: {s}"
  else return n.value

def node? (path : String) (follow : Bool := true) : Act (Option Node) := do
  match ← if follow then Act.examine path else Act.examineName path with
  | .ok (_, _, node) => return some node
  | .error _ => return none

def hasContents (node : Node) : Bool :=
  match node.kind with
  | .file contents => !contents.isEmpty
  | .device _ | .pipe => false
  | _ => true

def isDevice (node : Node) : Bool :=
  match node.kind with
  | .device _ => true
  | _ => false

def isLink (node : Node) : Bool :=
  match node.kind with
  | .link _ => true
  | _ => false

def isRegular (node : Node) : Bool :=
  match node.kind with
  | .file _ | .program _ => true
  | _ => false

def holdsOf (operator : String) (node : Node) : Bool :=
  match operator with
  | "-x" => node.isDirectory || node.isExecutable
  | "-f" => isRegular node
  | "-d" => node.isDirectory
  | "-c" => isDevice node
  | "-p" => node.kind = .pipe
  | "-b" | "-S" => false
  | "-u" => node.mode &&& 0o4000 ≠ 0
  | "-g" => node.mode &&& 0o2000 ≠ 0
  | "-k" => node.mode &&& 0o1000 ≠ 0
  | "-s" => hasContents node
  | "-h" | "-L" => isLink node
  | _ => true

def unary (operator arg : String) : Act Bool := do
  match operator with
  | "-z" => return arg.isEmpty
  | "-n" => return !arg.isEmpty
  | "-t" =>
    let _ ← number arg
    return false
  | operator =>
    let node ← node? arg (operator != "-h" && operator != "-L")
    return node.any (holdsOf operator)

def isNewer (a b : String) : Act Bool := do
  match ← node? a, ← node? b with
  | some m, some n => return n.modified < m.modified
  | _, _ => return false

def binary (operator a b : String) : Act Bool := do
  let numbers (f : Int → Int → Bool) : Act Bool := do
    let m ← number a
    return f m (← number b)
  match operator with
  | "=" => return a == b
  | "!=" => return a != b
  | "<" => return a < b
  | ">" => return b < a
  | "-eq" => numbers (· == ·)
  | "-ne" => numbers (· != ·)
  | "-ge" => numbers fun m n => n ≤ m
  | "-gt" => numbers fun m n => n < m
  | "-le" => numbers fun m n => m ≤ n
  | "-lt" => numbers fun m n => m < n
  | "-nt" => isNewer a b
  | "-ot" => isNewer b a
  | _ =>
    match ← Act.examine a, ← Act.examine b with
    | .ok (_, m, _), .ok (_, n, _) => return m == n
    | _, _ => return false

mutual

def disjunction : (limit : Nat) → Token → List String → Act (Bool × List String)
  | 0, _, args => return (false, args)
  | limit + 1, t, args => do
    let (a, args) ← conjunction limit t args
    if token (args.drop 1) = .operator "-o" then
      let args := args.drop 2
      let (b, args) ← disjunction limit (token args) args
      return (a || b, args)
    else return (a, args)

def conjunction : (limit : Nat) → Token → List String → Act (Bool × List String)
  | 0, _, args => return (false, args)
  | limit + 1, t, args => do
    let (a, args) ← negation limit t args
    if token (args.drop 1) = .operator "-a" then
      let args := args.drop 2
      let (b, args) ← conjunction limit (token args) args
      return (a && b, args)
    else return (a, args)

def negation : (limit : Nat) → Token → List String → Act (Bool × List String)
  | 0, _, args => return (false, args)
  | limit + 1, t, args => do
    if t = .operator "!" then
      let t := token (args.drop 1)
      let args := if t = .ending then args else args.drop 1
      let (a, args) ← negation limit t args
      return (!a, args)
    else primary limit t args

def primary : (limit : Nat) → Token → List String → Act (Bool × List String)
  | 0, _, args => return (false, args)
  | limit + 1, t, args => do
    let first := args.headD ""
    match t with
    | .ending => return (false, args)
    | .operator "(" =>
      let args := args.drop 1
      if token args = .operator ")" then return (false, args)
      else
        let (a, args) ← disjunction limit (token args) args
        let args := args.drop 1
        if token args = .operator ")" then return (a, args)
        else fault "" "closing paren expected"
    | t =>
      let isBefore : Bool := match t with
        | .operator s => place? s == some Place.before
        | _ => false
      if isBefore then
        match args.drop 1 with
        | [] => fault first "argument expected"
        | arg :: rest => return (← unary first arg, arg :: rest)
      else
        match token (args.drop 1), args.drop 1 with
        | .operator s, _ :: rest =>
          if place? s == some Place.between then
            match rest with
            | [] => fault s "argument expected"
            | b :: rest => return (← binary s first b, b :: rest)
          else return (!first.isEmpty, args)
        | _, _ => return (!first.isEmpty, args)

end

def holds : (limit : Nat) → List String → Act Bool
  | 0, _ | _, [] => return false
  | limit + 1, args => do
    let check (t : Token) (args : List String) : Act Bool := do
      let (a, args) ← disjunction (8 * args.length + 8) t args
      match args with
      | last :: _ :: _ => fault last "unexpected operator"
      | _ => return a
    match args with
    | [_, s, _] =>
      if place? s == some Place.between then check .operand args else bracketed limit check args
    | [_, _, _, _] => bracketed limit check args
    | args => check (token args) args
where
  bracketed (limit : Nat) (check : Token → List String → Act Bool) (args : List String) :
      Act Bool := do
    match args.head?, args.getLast? with
    | some "(", some ")" =>
      let inner := (args.drop 1).dropLast
      check (token inner) inner
    | some "!", _ => return !(← holds limit (args.drop 1))
    | _, _ => check (token args) args

end Condition

def test (args : List String) : Act Nat := do
  return if ← Condition.holds (args.length + 1) args then 0 else 1

def bracket (args : List String) : Act Nat := do
  if args.getLast? = some "]" then test args.dropLast else Act.fail "missing ]"

end ReloadProbe.Rehearsal.Shell.Builtin
