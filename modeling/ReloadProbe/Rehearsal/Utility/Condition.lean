import ReloadProbe.Rehearsal.Numeral
import ReloadProbe.Rehearsal.Utility.Choice

/-!
The programs that test a condition. How few arguments are read depends on their number; more of them
are read as a formula.
-/
namespace ReloadProbe.Rehearsal.Utility

namespace Condition

def fault {α : Type} (text : String) : Tool α := Tool.fail text 2

/-- Nothing follows the last argument, though something must. -/
def beyond {α : Type} (all : List String) : Tool α :=
  fault ("missing argument after " ++ cited (all.getLastD ""))

def isBetween (s : String) : Bool :=
  ["=", "==", "!=", "-nt", "-ot", "-ef", "-eq", "-ne", "-lt", "-le", "-gt", "-ge"].contains s

def isLetter (s : String) : Bool := s.startsWith "-" && s.length = 2

def integer (s : String) : Tool Int := do
  let cs := s.toList.dropWhile Numeral.isBlank
  let (negative, digits) := match cs with
    | '-' :: rest => (true, rest)
    | '+' :: rest => (false, rest)
    | rest => (false, rest)
  let (n, rest) := Numeral.digits 10 0 digits
  if rest.length = digits.length || rest.any (!Numeral.isBlank ·) then
    fault s!"invalid integer {cited s}"
  else return if negative then -n else n

def node? (path : String) (follow : Bool := true) : Tool (Option (Nat × Node)) := do
  match ← Tool.examine path follow with
  | .ok (_, number, node) => return some (number, node)
  | .error _ => return none

def holdsOf (operator : String) (node : Node) : Bool :=
  let isFile : Bool := match node.kind with
    | .file _ | .program _ => true
    | _ => false
  match operator with
  | "-x" => node.isDirectory || node.isExecutable
  | "-f" => isFile
  | "-d" => node.isDirectory
  | "-c" => match node.kind with
    | .device _ => true
    | _ => false
  | "-p" => node.kind = .pipe
  | "-b" | "-S" => false
  | "-u" => node.mode &&& 0o4000 ≠ 0
  | "-g" => node.mode &&& 0o2000 ≠ 0
  | "-k" => node.mode &&& 0o1000 ≠ 0
  | "-s" => match node.kind with
    | .file contents => !contents.isEmpty
    | .device _ | .pipe => false
    | _ => true
  | "-h" | "-L" => match node.kind with
    | .link _ => true
    | _ => false
  | _ => true

def isBefore (operator : String) : Bool :=
  ["-e", "-r", "-w", "-x", "-N", "-O", "-G", "-f", "-d", "-s", "-S", "-c", "-b", "-p", "-L", "-h",
    "-u", "-g", "-k", "-t", "-n", "-z"].contains operator

def unary (operator arg : String) : Tool Bool := do
  match operator with
  | "-z" => return arg.isEmpty
  | "-n" => return !arg.isEmpty
  | "-t" =>
    let _ ← integer arg
    return false
  | operator =>
    let found ← node? arg (operator ≠ "-h" && operator ≠ "-L")
    return found.any fun (_, node) => holdsOf operator node

def binary (a operator b : String) : Tool Bool := do
  let numbers (f : Int → Int → Bool) : Tool Bool := do
    let m ← integer a
    return f m (← integer b)
  let later (a b : String) : Tool Bool := do
    match ← node? a, ← node? b with
    | some (_, m), some (_, n) => return n.modified < m.modified
    | m, _ => return m.isSome
  match operator with
  | "=" | "==" => return a == b
  | "!=" => return a != b
  | "-eq" => numbers (· == ·)
  | "-ne" => numbers (· != ·)
  | "-lt" => numbers fun m n => m < n
  | "-le" => numbers fun m n => m ≤ n
  | "-gt" => numbers fun m n => n < m
  | "-ge" => numbers fun m n => n ≤ m
  | "-nt" => later a b
  | "-ot" => later b a
  | _ =>
    match ← node? a, ← node? b with
    | some (m, _), some (n, _) => return m == n
    | _, _ => return false

section

-- all arguments, for messages
variable (all : List String)

def one : List String → Tool (Bool × List String)
  | [] => beyond all
  | a :: rest => return (!a.isEmpty, rest)

def before : List String → Tool (Bool × List String)
  | operator :: rest =>
    if !isBefore operator then fault s!"{cited operator}: unary operator expected"
    else
      match rest with
      | [] => beyond all
      | arg :: rest => return (← unary operator arg, rest)
  | [] => beyond all

def between : List String → Tool (Bool × List String)
  | a :: operator :: b :: rest => return (← binary a operator b, rest)
  | _ => beyond all

def two (args : List String) : Tool (Bool × List String) := do
  match args with
  | a :: rest =>
    if a = "!" then
      let (value, rest) ← one all rest
      return (!value, rest)
    else if isLetter a then before all args
    else beyond all
  | [] => beyond all

mutual

def disjunction : (limit : Nat) → List String → Tool (Bool × List String)
  | 0, args => return (false, args)
  | limit + 1, args => do
    let (a, rest) ← conjunction limit args
    match rest with
    | "-o" :: rest =>
      let (b, rest) ← disjunction limit rest
      return (a || b, rest)
    | rest => return (a, rest)

def conjunction : (limit : Nat) → List String → Tool (Bool × List String)
  | 0, args => return (false, args)
  | limit + 1, args => do
    let (a, rest) ← term limit args
    match rest with
    | "-a" :: rest =>
      let (b, rest) ← conjunction limit rest
      return (a && b, rest)
    | rest => return (a, rest)

def term : (limit : Nat) → List String → Tool (Bool × List String)
  | 0, args => return (false, args)
  | limit + 1, args => do
    match args with
    | [] => beyond all
    | "!" :: rest =>
      let (value, rest) ← term limit rest
      return (!value, rest)
    | "(" :: rest =>
      let inner := rest.takeWhile (· ≠ ")")
      let count :=
        if rest.isEmpty then 0
        else if inner.isEmpty then 1
        else if 4 ≤ inner.length then rest.length else min inner.length rest.length
      if count = 0 then beyond all
      else
        let (value, left) ← counted limit count rest
        match left with
        | ")" :: left => return (value, left)
        | [] => fault "')' expected"
        | found :: _ => fault s!"')' expected, found {cited found}"
    | a :: rest =>
      match rest with
      | operator :: _ :: _ =>
        if isBetween operator then between all args
        else if isLetter a then before all args
        else return (!a.isEmpty, rest)
      | rest => if isLetter a then before all args else return (!a.isEmpty, rest)

def counted : (limit count : Nat) → List String → Tool (Bool × List String)
  | 0, _, args => return (false, args)
  | limit + 1, count, args => do
    let three (args : List String) : Tool (Bool × List String) := do
      match args with
      | a :: operator :: c :: rest =>
        if isBetween operator then between all args
        else if a = "!" then
          let (value, rest) ← two all (args.drop 1)
          return (!value, rest)
        else if a = "(" && c = ")" then return (!operator.isEmpty, rest)
        else if operator = "-a" || operator = "-o" then disjunction limit args
        else fault s!"{cited operator}: binary operator expected"
      | _ => beyond all
    match count with
    | 1 => one all args
    | 2 => two all args
    | 3 => three args
    | 4 =>
      match args with
      | a :: b :: c :: d :: rest =>
        if a = "!" then
          let (value, rest) ← three (args.drop 1)
          return (!value, rest)
        else if a = "(" && d = ")" then
          let (value, _) ← two all [b, c]
          return (value, rest)
        else disjunction limit args
      | _ => beyond all
    | _ => disjunction limit args

end

end

def code (args : List String) : Tool Nat := do
  modify fun d => { d with failure := 2 }
  if args.isEmpty then return 1
  else
    let (value, rest) ← counted args (8 * args.length + 16) args.length args
    match rest with
    | [] => return if value then 0 else 1
    | extra :: _ => fault s!"extra argument {cited extra}"

end Condition

def test : Utility := Condition.code

def bracket : Utility := fun args =>
  if args.getLast? = some "]" then Condition.code args.dropLast
  else Condition.fault "missing ']'"

end ReloadProbe.Rehearsal.Utility
