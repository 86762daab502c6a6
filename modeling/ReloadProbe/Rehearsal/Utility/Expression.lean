import ReloadProbe.Rehearsal.Numeral
import ReloadProbe.Rehearsal.Utility.Choice
import ReloadProbe.Rehearsal.Utility.Regex

/-! The program that computes. Each argument is an operand or an operator. -/
namespace ReloadProbe.Rehearsal.Utility

namespace Expression

def fault {α : Type} (text : String) : Tool α := Tool.fail text 2

/-- What is left of the arguments; the one before it is kept for messages. -/
structure Left where
  previous : String := ""
  args : List String

def Left.next (l : Left) : Left :=
  match l.args with
  | [] => l
  | arg :: args => { previous := arg, args }

def integer? (s : String) : Option Int :=
  match s.toList with
  | '-' :: c :: cs =>
    if (c :: cs).all Char.isDigit then (String.ofList (c :: cs)).toNat?.map fun n => -(n : Int)
    else none
  | cs => if !cs.isEmpty && cs.all Char.isDigit then s.toNat?.map fun n => (n : Int) else none

def isNull (s : String) : Bool := s.isEmpty || integer? s == some 0

def matched (text pattern : String) : Tool String := do
  match Regex.read {} pattern with
  | .error f => fault f.message
  | .ok r =>
    let hasGroup := (pattern.splitOn "\\(").length ≠ 1
    match Regex.matchAt r [] text.toList with
    | none => return if hasGroup then "" else "0"
    | some p =>
      if hasGroup then return String.ofList ((p.groups.lookup 1).getD [])
      else return toString p.length

def substring (text position length : String) : String :=
  match integer? position, integer? length with
  | some p, some n =>
    if p ≤ 0 || n ≤ 0 then ""
    else String.ofList ((text.toList.drop (p.toNat - 1)).take n.toNat)
  | _, _ => ""

def index (text wanted : String) : String :=
  match text.toList.findIdx? fun c => wanted.toList.contains c with
  | some i => toString (i + 1)
  | none => "0"

def compared (operator a b : String) : Bool :=
  let order : Ordering := match integer? a, integer? b with
    | some m, some n => compare m n
    | _, _ => compare a b
  match operator with
  | "<" => order == .lt
  | "<=" => order != .gt
  | "=" | "==" => order == .eq
  | "!=" => order != .eq
  | ">=" => order != .lt
  | _ => order == .gt

def computed (operator a b : String) : Tool String := do
  match integer? a, integer? b with
  | some m, some n =>
    if (operator = "/" || operator = "%") && n = 0 then fault "division by zero"
    else
      return toString (match operator with
        | "+" => m + n
        | "-" => m - n
        | "*" => m * n
        | "/" => m.tdiv n
        | _ => m.tmod n)
  | _, _ => fault "non-integer argument"

def ranks : List (List String) :=
  [["|"], ["&"], ["<", "<=", "=", "==", "!=", ">=", ">"], ["+", "-"], ["*", "/", "%"], [":"]]

mutual

/-- A value built by operators from a rank on. Nothing is computed that does not count. -/
def value (wanted : Bool) : (limit : Nat) → List (List String) → Left → Tool (String × Left)
  | 0, _, l => return ("", l)
  | limit + 1, [], l => operand wanted limit l
  | limit + 1, operators :: tighter, l => do
    let (a, l) ← value wanted limit tighter l
    rest wanted limit operators tighter a l

def rest (wanted : Bool) : (limit : Nat) → List String → List (List String) → String → Left →
    Tool (String × Left)
  | 0, _, _, a, l => return (a, l)
  | limit + 1, operators, tighter, a, l => do
    match l.args with
    | operator :: _ =>
      if !operators.contains operator then return (a, l)
      else
        let needed := match operator with
          | "|" => wanted && isNull a
          | "&" => wanted && !isNull a
          | _ => wanted
        let (b, l) ← value needed limit tighter l.next
        let result ←
          if operator = "|" then pure (if !isNull a then a else if isNull b then "0" else b)
          else if operator = "&" then pure (if isNull a || isNull b then "0" else a)
          else if !wanted then pure ""
          else if operator = ":" then matched a b
          else if operators.contains "+" || operators.contains "*" then computed operator a b
          else pure (if compared operator a b then "1" else "0")
        rest wanted limit operators tighter result l
    | [] => return (a, l)

def operand (wanted : Bool) : (limit : Nat) → Left → Tool (String × Left)
  | 0, l => return ("", l)
  | limit + 1, l => do
    let more (l : Left) : Tool (String × Left) := operand wanted limit l
    match l.args with
    | [] => fault s!"syntax error: missing argument after {cited l.previous}"
    | "+" :: rest =>
      match rest with
      | [] => fault "syntax error: missing argument after '+'"
      | arg :: _ => return (arg, l.next.next)
    | "length" :: _ =>
      let (text, l) ← more l.next
      return (toString text.length, l)
    | "match" :: _ =>
      let (text, l) ← more l.next
      let (pattern, l) ← more l
      return (← if wanted then matched text pattern else pure "", l)
    | "index" :: _ =>
      let (text, l) ← more l.next
      let (characters, l) ← more l
      return (index text characters, l)
    | "substr" :: _ =>
      let (text, l) ← more l.next
      let (position, l) ← more l
      let (length, l) ← more l
      return (substring text position length, l)
    | "(" :: _ =>
      let (result, l) ← value wanted limit ranks l.next
      match l.args with
      | ")" :: _ => return (result, l.next)
      | [] => fault s!"syntax error: expecting ')' after {cited l.previous}"
      | found :: _ => fault s!"syntax error: expecting ')' instead of {cited found}"
    | ")" :: _ => fault "syntax error: unexpected ')'"
    | arg :: _ => return (arg, l.next)

end

end Expression

def expr : Utility := fun args => do
  modify fun d => { d with failure := 3 }
  let args := if args.head? = some "--" then args.drop 1 else args
  demand 1 args 2
  let (result, left) ←
    Expression.value true (64 * args.length + 64) Expression.ranks { args }
  match left.args with
  | [] =>
    Tool.put (result ++ "\n")
    return if Expression.isNull result then 1 else 0
  | extra :: _ => Expression.fault s!"syntax error: unexpected argument {cited extra}"

end ReloadProbe.Rehearsal.Utility
