import ReloadProbe.Rehearsal.Shell.Word

/-! The tokens of a script: words, keywords, redirections and operators. -/
namespace ReloadProbe.Rehearsal.Shell

def keywords : List String :=
  ["!", "case", "do", "done", "elif", "else", "esac", "fi", "for", "if", "in", "then", "until",
    "while", "\x7b", "\x7d"]

namespace Parse

def operator (limit : Nat) (c : Char) : Parse Token := do
  match ← nextJoined limit with
  | some d =>
    if d = c then return .operator (String.ofList [c, c])
    else
      putBack [d]
      return .operator c.toString
  | none => return .operator c.toString

def redirecting (limit : Nat) (c : Char) (digit : Option Char) : Parse Redirecting := do
  let fd := match digit with
    | some d => d.toNat - 48
    | none => if c = '>' then 1 else 0
  let d ← nextJoined limit
  let plain (r : Redirecting) : Parse Redirecting := do
    putBack d.toList
    return r
  match c, d with
  | '>', some '>' => return .file fd .append
  | '>', some '|' => return .file fd .replace
  | '>', some '&' | '<', some '&' => return .copy fd
  | '>', _ => plain (.file fd .write)
  | _, some '>' => return .file fd .readWrite
  | _, some '<' => do
    match ← nextJoined limit with
    | some '-' => return .document fd true
    | e =>
      putBack e.toList
      return .document fd false
  | _, _ => plain (.file fd .read)

def skipComment : (limit : Nat) → Parse Unit
  | 0 => return ()
  | limit + 1 => do
    match ← next with
    | none => return ()
    | some '\n' => putBack ['\n']
    | some _ => skipComment limit

def wordToken (scripts : Scripts) (limit : Nat) (c : Option Char) : Parse Token := do
  let (s, c) ← scanWord scripts limit c
  let digit : Option (Option Char) := match s.parts with
    | [] => some none
    | [.plain d] => if d.isDigit then some (some d) else none
    | _ => none
  match c, digit, s.quoted with
  | some '<', some d, false => return .redirection (← redirecting limit '<' d)
  | some '>', some d, false => return .redirection (← redirecting limit '>' d)
  | c, _, _ =>
    putBack c.toList
    return .word s.parts.reverse s.quoted

/-- The next token as it stands, or the last one if it is to be read again. -/
def rawToken (scripts : Scripts) : (limit : Nat) → Parse Token
  | 0 => return .ending
  | limit + 1 => do
    let r ← get
    if r.again then
      set { r with again := false }
      return r.last
    else
      match ← nextJoined limit with
      | none => return .ending
      | some ' ' | some '\t' => rawToken scripts limit
      | some '#' =>
        skipComment (limit + 1)
        rawToken scripts limit
      | some '\n' =>
        countLine
        return .newline
      | some '&' => operator limit '&'
      | some '|' => operator limit '|'
      | some ';' => operator limit ';'
      | some '(' => return .operator "("
      | some ')' => return .operator ")"
      | c => wordToken scripts limit c

def setLast (t : Token) : Parse Token := do
  modify fun r => { r with last := t }
  return t

def readDocuments (scripts : Scripts) (limit : Nat) : Parse Unit := do
  let expected := (← get).expected
  modify fun r => { r with expected := [] }
  for e in expected do
    let doc ← scanDocument scripts limit e
    modify fun r => { r with documents := (e.number, doc) :: r.documents }

/-- The next token; if so asked, the first one on a line that is not empty. -/
def tokenAfterLines (scripts : Scripts) (skip : Bool) : (limit : Nat) → Parse Token
  | 0 => last
  | limit + 1 => do
    let t ← setLast (← rawToken scripts (limit + 1))
    if skip && t.isNewline then
      readDocuments scripts limit
      tokenAfterLines scripts skip limit
    else return t

def aliasValue? (r : Reader) (name : String) : Option String :=
  if r.sources.any fun s => s.aliasName? == some name then none else r.aliases.lookup name

def tokenWith (scripts : Scripts) : (limit : Nat) → Checks → Parse Token
  | 0, _ => last
  | limit + 1, checks => do
    let t ← tokenAfterLines scripts checks.skipLines (limit + 1)
    let checks := checks.union (← get).checks
    modify fun r => { r with checks := {} }
    match t with
    | .word w false =>
      match w.literal? with
      | none => return t
      | some text =>
        if checks.keywords && keywords.contains text then setLast (.keyword text)
        else
          let r ← get
          match if checks.aliases then aliasValue? r text else none with
          | none => return t
          | some value =>
            let cs := value.toList
            let leadsOn := cs.getLast?.any fun c => c == ' ' || c == '\t'
            if !cs.isEmpty then
              set { r with
                sources := { text := cs, aliasName? := some text, leadsOn } :: r.sources }
            tokenWith scripts limit checks
    | t => return t

def token (scripts : Scripts) (limit : Nat) : Parse Token := do
  tokenWith scripts limit (← get).checks

end Parse
end ReloadProbe.Rehearsal.Shell
