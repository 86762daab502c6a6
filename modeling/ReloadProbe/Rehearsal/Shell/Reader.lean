import ReloadProbe.Rehearsal.Shell.Syntax

/-!
What a script is read from: its characters, with the values of aliases put in where their names
stand, and the token that was read last, which may be read again.
-/
namespace ReloadProbe.Rehearsal.Shell

structure Source where
  text : List Char
  aliasName? : Option String := none
  leadsOn : Bool := false

inductive Redirecting where
  | file (fd : Nat) (opening : Opening)
  | copy (fd : Nat)
  | document (fd : Nat) (stripTabs : Bool)

inductive Token where
  | ending
  | newline
  | operator (s : String)
  | redirection (r : Redirecting)
  | word (w : Word) (quoted : Bool)
  | keyword (s : String)

def Token.name : Token → String
  | ending => "end of file"
  | newline => "newline"
  | operator s | keyword s => "\"" ++ s ++ "\""
  | redirection _ => "redirection"
  | word _ _ => "word"

def Token.isOperator (t : Token) (s : String) : Bool :=
  match t with
  | .operator o => o == s
  | _ => false

def Token.isKeyword (t : Token) (s : String) : Bool :=
  match t with
  | .keyword k => k == s
  | _ => false

def Token.isEnding : Token → Bool
  | .ending => true
  | _ => false

def Token.isNewline : Token → Bool
  | .newline => true
  | _ => false

structure Checks where
  skipLines : Bool := false
  keywords : Bool := false
  aliases : Bool := false
  endMark : Bool := false

namespace Checks

def command : Checks := { keywords := true, aliases := true }

def nextCommand : Checks := { skipLines := true, keywords := true, aliases := true }

def union (a b : Checks) : Checks :=
  { skipLines := a.skipLines || b.skipLines, keywords := a.keywords || b.keywords
    aliases := a.aliases || b.aliases, endMark := a.endMark || b.endMark }

end Checks

structure Expected where
  number : Nat
  endMark : List Char
  stripTabs : Bool
  verbatim : Bool

structure Reader where
  sources : List Source
  line : Nat := 1
  aliases : List (String × String) := []
  last : Token := .newline
  again : Bool := false
  checks : Checks := {}
  expected : List Expected := []
  documents : Documents := []
  nextDocument : Nat := 0

structure SyntaxFault where
  line : Nat
  fault : String

def SyntaxFault.message (f : SyntaxFault) : String := s!"Syntax error: {f.fault}"

abbrev Parse := StateT Reader (Except SyntaxFault)

namespace Parse

def fail {α : Type} (fault : String) : Parse α := fun r => .error { line := r.line, fault }

/-- The next character, and what is left after it. An alias that has been read to its end may be
used again. -/
def advance : List Source → Option Char × List Source × Bool
  | [] => (none, [], false)
  | [s] =>
    match s.text with
    | [] => (none, [s], false)
    | c :: cs => (some c, [{ s with text := cs }], false)
  | s :: more =>
    match s.text with
    | [] =>
      let (c, sources, leadsOn) := advance more
      (c, sources, leadsOn || s.leadsOn)
    | c :: cs => (some c, { s with text := cs } :: more, false)

def next : Parse (Option Char) := fun r =>
  let (c, sources, leadsOn) := advance r.sources
  let checks := { r.checks with aliases := r.checks.aliases || leadsOn }
  .ok (c, { r with sources, checks })

def putBack (cs : List Char) : Parse Unit := modify fun r =>
  match r.sources with
  | [] => { r with sources := [{ text := cs }] }
  | s :: more => { r with sources := { s with text := cs ++ s.text } :: more }

def countLine : Parse Unit := modify fun r => { r with line := r.line + 1 }

def nextJoined : (limit : Nat) → Parse (Option Char)
  | 0 => next
  | limit + 1 => do
    match ← next with
    | some '\\' =>
      match ← next with
      | some '\n' =>
        countLine
        nextJoined limit
      | c =>
        putBack c.toList
        return some '\\'
    | c => return c

def unread : Parse Unit := modify fun r => { r with again := true }

def look (checks : Checks) : Parse Unit := modify fun r => { r with checks }

def last : Parse Token := return (← get).last

def unexpected {α : Type} (wanted : Option String := none) : Parse α := do
  let what := (← last).name
  match wanted with
  | some wanted => fail s!"{what} unexpected (expecting {wanted})"
  | none => fail s!"{what} unexpected"

end Parse
end ReloadProbe.Rehearsal.Shell
