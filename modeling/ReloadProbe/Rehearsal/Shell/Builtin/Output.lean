import ReloadProbe.Rehearsal.Directive
import ReloadProbe.Rehearsal.Escape
import ReloadProbe.Rehearsal.Shell.Act

/-! The commands of a shell that write their arguments. -/
namespace ReloadProbe.Rehearsal.Shell.Builtin

/-- An argument with its escapes replaced. False if it ends the output. -/
def unescaped (arg : String) : String × Bool :=
  let (cs, goOn) := Escape.inArgument (arg.length + 1) arg.toList
  (String.ofList cs, goOn)

def joined : List String → String × Bool
  | [] => ("", true)
  | [arg] => unescaped arg
  | arg :: args =>
    let (text, goOn) := unescaped arg
    if goOn then
      let (more, goOn) := joined args
      (text ++ " " ++ more, goOn)
    else (text, false)

def echo (args : List String) : Act Nat :=
  let (args, newline) := match args with
    | "-n" :: args => (args, false)
    | args => (args, true)
  let (text, goOn) := joined args
  Act.emit (if newline && goOn then text ++ "\n" else text)

structure Printing where
  out : String := ""
  args : List String
  used : Bool := false
  status : Nat := 0
  ended : Bool := false

namespace Printing

def put (p : Printing) (s : String) : Printing := { p with out := p.out ++ s }

def next (p : Printing) : Option String × Printing :=
  match p.args with
  | [] => (none, p)
  | arg :: args => (some arg, { p with args, used := true })

def check (p : Printing) (arg : String) (rest : List Char) (outOfRange : Bool) : Act Printing := do
  let complaint? : Option String :=
    if !rest.isEmpty then
      some (if rest.length = arg.length then s!"{arg}: expected numeric value"
        else s!"{arg}: not completely converted")
    else if outOfRange then some s!"{arg}: Numerical result out of range"
    else none
  match complaint? with
  | some complaint =>
    Act.complain complaint
    return { p with status := 1 }
  | none => return p

def character? (arg : String) : Option Nat :=
  match arg.toList with
  | '"' :: cs | '\'' :: cs => some ((cs.head?.map Char.toNat).getD 0)
  | _ => none

def int (p : Printing) : Act (Int × Printing) := do
  match p.next with
  | (none, p) => return (0, p)
  | (some arg, p) =>
    match character? arg with
    | some n => return (n, p)
    | none =>
      let n := Numeral.read none arg.toList
      return (n.value, ← p.check arg n.rest n.cut)

def nat (p : Printing) : Act (Nat × Printing) := do
  match p.next with
  | (none, p) => return (0, p)
  | (some arg, p) =>
    match character? arg with
    | some n => return (n, p)
    | none =>
      let n := Numeral.readUnsigned none arg.toList
      return (n.value.toNat, ← p.check arg n.rest n.cut)

def float (p : Printing) : Act (Floating × Printing) := do
  match p.next with
  | (none, p) => return (.finite false 0 0, p)
  | (some arg, p) =>
    match character? arg with
    | some n => return (.finite false n 0, p)
    | none =>
      let n := Floating.read Floating.double arg.toList
      return (n.value, ← p.check arg n.rest n.outOfRange)

def stop {α : Type} (p : Printing) (fault : String) : Act α := do
  Act.complain fault
  let _ ← Act.write 1 p.out
  Act.setStatus 2
  throw .fault

def size (p : Printing) (cs : List Char) : Act (Option Int × List Char × Printing) := do
  match cs with
  | '*' :: cs =>
    let (n, p) ← p.int
    return (some n, cs, p)
  | cs =>
    let (n, rest) := Numeral.digits 10 0 cs
    return (if rest.length < cs.length then some n else none, rest, p)

def directive (p : Printing) (cs : List Char) : Act (List Char × Printing) := do
  let (d, rest) := Directive.flags {} cs
  let (width?, rest, p) ← p.size rest
  let d := d.withWidth (width?.getD 0)
  let (d, rest, p) ← match rest with
    | '.' :: rest => do
      let (n?, rest, p) ← p.size rest
      pure (d.withPrecision (n?.getD 0), rest, p)
    | rest => pure (d, rest, p)
  match rest with
  | [] => p.stop "missing format character"
  | c :: rest =>
    match c with
    | 'b' =>
      let (arg?, p) := p.next
      let (text, goOn) := unescaped (arg?.getD "")
      return (rest, { p.put (d.text text) with ended := !goOn })
    | 'c' =>
      let (arg?, p) := p.next
      let char := (arg?.bind fun arg => arg.toList.head?).getD (Char.ofNat 0)
      return (rest, p.put (d.char char.toString))
    | 's' =>
      let (arg?, p) := p.next
      return (rest, p.put (d.text (arg?.getD "")))
    | 'd' | 'i' =>
      let (n, p) ← p.int
      return (rest, p.put (d.signed n))
    | 'o' | 'u' | 'x' | 'X' =>
      let (n, p) ← p.nat
      return (rest, p.put (d.unsigned c n))
    | 'a' | 'A' | 'e' | 'E' | 'f' | 'F' | 'g' | 'G' =>
      let (x, p) ← p.float
      return (rest, p.put (d.floating Floating.double c x))
    | _ => p.stop s!"%{String.ofList (cs.take (cs.length - rest.length))}: invalid directive"

def pass : (limit : Nat) → List Char → Printing → Act Printing
  | 0, _, p | _, [], p => return p
  | limit + 1, '\\' :: cs, p => do
    let (c, rest) := Escape.inFormat cs
    pass limit rest (p.put c.toString)
  | limit + 1, '%' :: '%' :: cs, p => pass limit cs (p.put "%")
  | limit + 1, '%' :: cs, p => do
    let (rest, p) ← p.directive cs
    if p.ended then return p else pass limit rest p
  | limit + 1, c :: cs, p => pass limit cs (p.put c.toString)

/-- Goes through a format again as long as arguments are used and there are any. -/
def passes (format : List Char) : (limit : Nat) → Printing → Act Printing
  | 0, p => return p
  | limit + 1, p => do
    let p ← p.pass (format.length + 1) format
    if p.ended || !p.used || p.args.isEmpty then return p else passes format limit p

end Printing

def printf (args : List String) : Act Nat := do
  let (_, args) ← Act.options "" args
  match args with
  | [] => Act.fail "usage: printf format [arg ...]"
  | format :: args =>
    let p ← Printing.passes format.toList (args.length + 1) { args }
    Act.emit p.out p.status

end ReloadProbe.Rehearsal.Shell.Builtin
