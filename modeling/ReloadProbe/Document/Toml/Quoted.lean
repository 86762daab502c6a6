import ReloadProbe.Document.Toml.Gap
import ReloadProbe.Text.Hex

/-!
The four forms of a text in TOML: with escapes or literal, on one line or on several. Each function
takes what follows the opening quotes and gives the text and what follows the closing ones.
-/
namespace ReloadProbe.Toml

def isTextChar (c : Char) : Bool := c == '\t' || (0x20 ≤ c.toNat && c.toNat != 0x7F)

/-- The character with a code point in hexadecimal, unless it is a surrogate or too large. -/
def scalar? (digits : List Char) : Option Char := do
  let n ← Hex.number? digits
  if n.isValidChar then some (Char.ofNat n) else none

def simpleEscape? : Char → Option Char
  | 'b' => some '\x08'
  | 't' => some '\t'
  | 'n' => some '\n'
  | 'f' => some '\x0c'
  | 'r' => some '\r'
  | '"' => some '"'
  | '\\' => some '\\'
  | _ => none

def cons (c : Char) (r : List Char × List Char) : List Char × List Char := (c :: r.1, r.2)

def literal : List Char → Option (List Char × List Char)
  | [] => none
  | '\'' :: rest => some ([], rest)
  | c :: rest => if isTextChar c then (literal rest).map (cons c) else none

def basic : List Char → Option (List Char × List Char)
  | [] => none
  | '"' :: rest => some ([], rest)
  | '\\' :: 'u' :: a :: b :: c :: d :: rest => do
    let ch ← scalar? [a, b, c, d]
    (basic rest).map (cons ch)
  | '\\' :: 'U' :: a :: b :: c :: d :: e :: f :: g :: h :: rest => do
    let ch ← scalar? [a, b, c, d, e, f, g, h]
    (basic rest).map (cons ch)
  | '\\' :: e :: rest => do
    let ch ← simpleEscape? e
    (basic rest).map (cons ch)
  | c :: rest => if isTextChar c && c != '\\' then (basic rest).map (cons c) else none

/-- Three quotes close a text of several lines; one or two more just before them belong to it. -/
def closing? (quote : Char) (s : List Char) : Option (List Char × List Char) :=
  let count := min 5 (s.takeWhile (· == quote)).length
  if count < 3 then none else some (List.replicate (count - 3) quote, s.drop count)

def multilineLiteral (s : List Char) : Option (List Char × List Char) :=
  match closing? '\'' s, s with
  | some closed, _ => some closed
  | none, '\r' :: '\n' :: rest => (multilineLiteral rest).map (cons '\n')
  | none, c :: rest =>
    if isTextChar c || c == '\n' then (multilineLiteral rest).map (cons c) else none
  | none, [] => none

/-- A backslash before the end of a line skips to the next character that is no blank; `skip` says
that this is under way. -/
def multilineBasic (skip : Bool) (s : List Char) : Option (List Char × List Char) :=
  match closing? '"' s, s with
  | some closed, _ => some closed
  | none, '\r' :: '\n' :: rest =>
    if skip then multilineBasic true rest else (multilineBasic false rest).map (cons '\n')
  | none, '\\' :: 'u' :: a :: b :: c :: d :: rest => do
    let ch ← scalar? [a, b, c, d]
    (multilineBasic false rest).map (cons ch)
  | none, '\\' :: 'U' :: a :: b :: c :: d :: e :: f :: g :: h :: rest => do
    let ch ← scalar? [a, b, c, d, e, f, g, h]
    (multilineBasic false rest).map (cons ch)
  | none, '\\' :: e :: rest =>
    match simpleEscape? e with
    | some ch => (multilineBasic false rest).map (cons ch)
    | none =>
      if (newline? (skipSpace (e :: rest))).isSome then multilineBasic true (e :: rest) else none
  | none, c :: rest =>
    if skip && (isSpace c || c == '\n') then multilineBasic true rest
    else if (isTextChar c && c != '\\') || c == '\n' then
      (multilineBasic false rest).map (cons c)
    else none
  | none, [] => none

def afterOpening (s : List Char) : List Char := (newline? s).getD s

def lineText? : List Char → Option (String × List Char)
  | '"' :: rest => (basic rest).map fun (cs, rest) => (String.ofList cs, rest)
  | '\'' :: rest => (literal rest).map fun (cs, rest) => (String.ofList cs, rest)
  | _ => none

def text? : List Char → Option (String × List Char)
  | '"' :: '"' :: '"' :: rest =>
    (multilineBasic false (afterOpening rest)).map fun (cs, rest) => (String.ofList cs, rest)
  | '\'' :: '\'' :: '\'' :: rest =>
    (multilineLiteral (afterOpening rest)).map fun (cs, rest) => (String.ofList cs, rest)
  | s => lineText? s

end ReloadProbe.Toml
