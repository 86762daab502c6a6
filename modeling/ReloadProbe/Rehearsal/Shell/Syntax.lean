/-!
Shell scripts. A word is a list of parts: characters, some of them quoted, the places where quotes
begin and end, and what is to be replaced when the word is used.
-/
namespace ReloadProbe.Rehearsal.Shell

inductive Use where
  | bad
  | value
  | length
  | default (orEmpty : Bool)
  | alternative (orEmpty : Bool)
  | assign (orEmpty : Bool)
  | demand (orEmpty : Bool)
  | trim (atEnd longest : Bool)
  deriving DecidableEq

inductive Opening where
  | read
  | write
  | replace
  | append
  | readWrite
  deriving DecidableEq

mutual

inductive Part where
  | plain (c : Char)
  | quoted (c : Char)
  | mark
  | parameter (name : String) (use : Use) (word : List Part)
  | script (command : Option Command)
  | arithmetic (expression : List Part)

inductive Redirection where
  | file (fd : Nat) (opening : Opening) (name : List Part)
  | copy (fd : Nat) (source : List Part)
  | document (fd : Nat) (number : Nat)

inductive Command where
  | simple (line : Nat) (assignments words : List (List Part)) (redirections : List Redirection)
  | pipeline (commands : List Command) (background : Bool)
  | sequence (first second : Command)
  | both (first second : Command)
  | either (first second : Command)
  | negation (command : Command)
  | background (line : Nat) (command : Command) (redirections : List Redirection)
  | subshell (line : Nat) (command : Command) (redirections : List Redirection)
  | redirected (line : Nat) (command : Command) (redirections : List Redirection)
  | branch (condition yes : Command) (no : Option Command)
  | loop (goOn : Bool) (condition body : Command)
  | each (line : Nat) (name : String) (words : List (List Part)) (body : Command)
  | choice (line : Nat) (subject : List Part)
      (arms : List (List (List Part) × Option Command))
  | define (line : Nat) (name : String) (body : Command)

end

abbrev Word := List Part

namespace Word

def literal? (w : Word) : Option String := do
  let cs ← w.mapM fun
    | .plain c => some c
    | _ => none
  return String.ofList cs

end Word

def isNameStart (c : Char) : Bool := c.isAlpha || c == '_'

def isNameChar (c : Char) : Bool := c.isAlphanum || c == '_'

def isName (s : String) : Bool :=
  match s.toList with
  | [] => false
  | c :: cs => isNameStart c && cs.all isNameChar

def Word.isAssignment (w : Word) : Bool :=
  let name := w.takeWhile fun
    | .plain c => isNameChar c
    | _ => false
  match name, w.drop name.length with
  | .plain c :: _, .plain '=' :: _ => isNameStart c
  | _, _ => false

abbrev Documents := List (Nat × Word)

end ReloadProbe.Rehearsal.Shell
