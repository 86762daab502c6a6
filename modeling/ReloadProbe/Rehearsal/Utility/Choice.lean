import ReloadProbe.Rehearsal.Numeral
import ReloadProbe.Rehearsal.Utility.Tool

/-!
The options of small programs. A letter after a minus sign is an option, and so is a word after two;
two minus signs alone end the options. A word may be cut short as long as it is clear which is
meant.
-/
namespace ReloadProbe.Rehearsal.Utility

inductive Takes where
  | nothing
  | value
  | maybe
  deriving DecidableEq

structure Known where
  letters : String := ""
  words : List (String × Takes × Char) := []
  inOrder : Bool := false

structure Choice where
  options : List (Char × String) := []
  others : List String := []

namespace Choice

def has (c : Choice) (letter : Char) : Bool := c.options.any fun (l, _) => l = letter

def value? (c : Choice) (letter : Char) : Option String :=
  ((c.options.filter fun (l, _) => l = letter).getLast?).map Prod.snd

def lastOf? (c : Choice) (letters : List Char) : Option Char :=
  ((c.options.filter fun (l, _) => letters.contains l).getLast?).map Prod.fst

end Choice

def takes? (c : Char) : List Char → Option Takes
  | [] => none
  | k :: ':' :: ':' :: more => if k = c then some .maybe else takes? c more
  | k :: ':' :: more => if k = c then some .value else takes? c more
  | k :: more => if k = c then some .nothing else takes? c more

namespace Known

def word (k : Known) (name whole : String) : Except String (String × Takes × Char) :=
  match k.words.find? fun (w, _) => w = name with
  | some found => .ok found
  | none =>
    match k.words.filter fun (w, _) => w.startsWith name with
    | [] => .error s!"unrecognized option '{whole}'"
    | found :: others =>
      if others.all fun (_, takes, letter) => takes = found.2.1 && letter = found.2.2 then .ok found
      else
        let names := (found :: others).map fun (w, _) => s!" '--{w}'"
        .error s!"option '{whole}' is ambiguous; possibilities:{String.join names}"

def short (k : Known) : List Char → List String → Except String (List (Char × String) × List String)
  | [], args => .ok ([], args)
  | c :: cs, args =>
    match if c = ':' then none else takes? c k.letters.toList with
    | none => .error s!"invalid option -- '{c}'"
    | some .nothing => do
      let (more, args) ← short k cs args
      return ((c, "") :: more, args)
    | some .maybe => .ok ([(c, String.ofList cs)], args)
    | some .value =>
      match cs, args with
      | [], [] => .error s!"option requires an argument -- '{c}'"
      | [], value :: args => .ok ([(c, value)], args)
      | cs, args => .ok ([(c, String.ofList cs)], args)

def long (k : Known) (arg : String) (args : List String) :
    Except String ((Char × String) × List String) := do
  let body := arg.toList.drop 2
  let name := body.takeWhile (· != '=')
  let value? :=
    if body.length = name.length then none else some (String.ofList (body.drop (name.length + 1)))
  let (word, takes, letter) ← k.word (String.ofList name) arg
  match value? with
  | some value =>
    if takes = .nothing then .error s!"option '--{word}' doesn't allow an argument"
    else return ((letter, value), args)
  | none =>
    match args with
    | [] =>
      if takes = .value then .error s!"option '--{word}' requires an argument"
      else return ((letter, ""), [])
    | value :: rest =>
      return if takes = .value then ((letter, value), rest) else ((letter, ""), args)

/-- Sorts arguments into options and others; or tells what is wrong. -/
def sort (k : Known) : (limit : Nat) → List String → Except String Choice
  | 0, args => .ok { others := args }
  | _ + 1, [] => .ok {}
  | limit + 1, arg :: args =>
    if arg = "--" then .ok { others := args }
    else if arg.startsWith "--" then do
      let (option, args) ← k.long arg args
      let c ← sort k limit args
      return { c with options := option :: c.options }
    else if arg.startsWith "-" && arg ≠ "-" then do
      let (options, args) ← k.short (arg.toList.drop 1) args
      let c ← sort k limit args
      return { c with options := options ++ c.options }
    else if k.inOrder then .ok { others := arg :: args }
    else do
      let c ← sort k limit args
      return { c with others := arg :: c.others }

end Known

/-- The options among some arguments. What is wrong with them ends the program. -/
def choose (k : Known) (args : List String) (code : Nat := 1) : Tool Choice := do
  match k.sort (args.length + 1) args with
  | .ok c => return c
  | .error fault => Tool.misuse fault code

def noOptions (args : List String) (code : Nat := 1) : Tool (List String) := do
  return (← choose {} args code).others

def bounded (what : String) (least greatest : Int) (text : String) : Tool Int := do
  let number := Numeral.readAny (some 10) text.toList
  let signed := (text.toList.dropWhile Numeral.isBlank).head? = some '-'
  if !number.found || !number.rest.isEmpty || (signed && 0 ≤ least) then
    Tool.fail s!"{what}: {cited text}"
  else if number.value < least || greatest < number.value then
    let isFar := 1073741824 < number.value.natAbs
    let reason := if isFar then "Value too large for defined data type"
      else "Numerical result out of range"
    Tool.fail s!"{what}: {cited text}: {reason}"
  else return number.value

def demand (least : Nat) (args : List String) (code : Nat := 1) : Tool Unit := do
  if args.length < least then
    match args.getLast? with
    | none => Tool.misuse "missing operand" code
    | some last => Tool.misuse s!"missing operand after {cited last}" code

def allow (most : Nat) (args : List String) (code : Nat := 1) : Tool Unit := do
  match args[most]? with
  | none => return ()
  | some extra => Tool.misuse s!"extra operand {cited extra}" code

end ReloadProbe.Rehearsal.Utility
