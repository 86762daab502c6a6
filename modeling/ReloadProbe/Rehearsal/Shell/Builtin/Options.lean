import ReloadProbe.Rehearsal.Shell.Quotation
import ReloadProbe.Rehearsal.Shell.Act

/-! The options of a shell: how they are turned on and off, and how they are shown. -/
namespace ReloadProbe.Rehearsal.Shell

/-- The names of the options, with the letters by which they are known. Those of the last two stand
for nothing that could be typed. -/
def optionNames : List (String × Char) :=
  [("errexit", 'e'), ("noglob", 'f'), ("ignoreeof", 'I'), ("interactive", 'i'), ("monitor", 'm'),
    ("noexec", 'n'), ("stdin", 's'), ("xtrace", 'x'), ("verbose", 'v'), ("vi", 'V'),
    ("emacs", 'E'), ("noclobber", 'C'), ("allexport", 'a'), ("notify", 'b'), ("nounset", 'u'),
    ("privileged", 'p'), ("nolog", '\x01'), ("debug", '\x02')]

def Session.setOption (s : Session) (option : Char) (on : Bool) : Session :=
  let others := s.options.filter (· != option)
  let others := if on && option = 'V' then others.filter (· != 'E') else others
  let others := if on && option = 'E' then others.filter (· != 'V') else others
  { s with options := if on then option :: others else others }

namespace Act

def setOption (letter : Char) (on : Bool) : Act Unit := do
  if letter.toNat < 32 || (optionNames.all fun (_, c) => c ≠ letter) then
    fail s!"Illegal option -{letter}"
  else modify fun s => s.setOption letter on

def showOptions (forReading : Bool) : Act Unit := do
  let s ← get
  let line (name : String) (letter : Char) : String :=
    if forReading then (if s.has letter then "set -o " else "set +o ") ++ name ++ "\n"
    else
      let gap := String.ofList (List.replicate (16 - name.length) ' ')
      name ++ gap ++ (if s.has letter then "on\n" else "off\n")
  let start := if forReading then "" else "Current option settings\n"
  let _ ← emit (start ++ String.join (optionNames.map fun (name, letter) => line name letter))

def setLongOption (name? : Option String) (on : Bool) : Act Unit := do
  match name? with
  | none => showOptions !on
  | some name =>
    match optionNames.lookup name with
    | some letter => modify fun s => s.setOption letter on
    | none => fail s!"Illegal option -o {name}"

structure Chosen where
  isScript : Bool := false
  rest : List String
  ended : Bool := false

def chooseLetters (atStart on : Bool) : List Char → (isScript : Bool) → List String →
    Act (Bool × List String)
  | [], isScript, args => return (isScript, args)
  | c :: cs, isScript, args => do
    if atStart && c = 'c' then chooseLetters atStart on cs true args
    else if atStart && c = 'l' then chooseLetters atStart on cs isScript args
    else if c = 'o' then
      setLongOption args.head? on
      chooseLetters atStart on cs isScript (args.drop 1)
    else
      setOption c on
      chooseLetters atStart on cs isScript args

def choose (atStart : Bool) : (limit : Nat) → (isScript : Bool) → List String → Act Chosen
  | 0, isScript, args => return { isScript, rest := args }
  | _ + 1, isScript, [] => return { isScript, rest := [] }
  | limit + 1, isScript, arg :: args => do
    match arg.toList with
    | ['-'] =>
      if !atStart then modify fun s => (s.setOption 'x' false).setOption 'v' false
      return { isScript, rest := args }
    | ['-', '-'] => return { isScript, rest := args, ended := true }
    | '-' :: cs =>
      let (isScript, args) ← chooseLetters atStart true cs isScript args
      choose atStart limit isScript args
    | '+' :: cs =>
      let (isScript, args) ← chooseLetters atStart false cs isScript args
      choose atStart limit isScript args
    | _ => return { isScript, rest := arg :: args }

/-- Processes cannot be watched where there is no terminal. -/
def settleOptions : Act Unit := do
  if (← get).has 'm' then
    complain "can't access tty; job control turned off"
    modify fun s => s.setOption 'm' false

end Act

namespace Builtin

def inOrder {α : Type} (vars : List (String × α)) : List (String × α) :=
  vars.mergeSort fun a b => a.1 = b.1 || a.1 < b.1

/-- Variables as they could be set again. -/
def listing (start : String) (vars : List (String × Variable)) : String :=
  String.join ((inOrder vars).map fun (name, v) =>
    match v.value? with
    | some value => s!"{start}{name}={quoted value}\n"
    | none => s!"{start}{name}\n")

def setParameters (args : List String) : Act Unit :=
  modify fun s => { s with args, optionIndex := 1, optionOffset := none }

def setOptions (args : List String) : Act Nat := do
  if args.isEmpty then
    let vars := (← get).vars.filter fun (_, v) => v.value?.isSome
    Act.emit (listing "" vars)
  else
    let chosen ← Act.choose false (args.length + 1) false args
    Act.settleOptions
    if chosen.ended || !chosen.rest.isEmpty then setParameters chosen.rest
    return 0

end Builtin
end ReloadProbe.Rehearsal.Shell
