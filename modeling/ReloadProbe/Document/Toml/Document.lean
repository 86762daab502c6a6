import ReloadProbe.Document.Toml.Scalar
import ReloadProbe.Document.Toml.Tree

/-!
Documents of TOML 1.0: a statement to a line, and the values in them. Reading gives the table that
all statements build, or nothing if the text or the table is not well formed.
-/
namespace ReloadProbe.Toml

def isBareChar (c : Char) : Bool := c.isAlphanum || c == '_' || c == '-'

def simpleKey? (s : List Char) : Option (String × List Char) :=
  let bare := s.takeWhile isBareChar
  if bare.isEmpty then lineText? s else some (String.ofList bare, s.drop bare.length)

def keyParts? (s : List Char) : Option (List String × List Char) := do
  let (name, rest) ← simpleKey? (skipSpace s)
  match skipSpace rest with
  | '.' :: more =>
    if more.length < s.length then
      let (names, rest) ← keyParts? more
      return (name :: names, rest)
    else none
  | rest => return ([name], rest)
termination_by s.length

def depthLimit : Nat := 79

def key? (s : List Char) : Option (List String × List Char) := do
  let (names, rest) ← keyParts? s
  if names.length ≤ depthLimit then return (names, rest) else none

mutual

/-- A value, and what follows it. Each list or table takes up one of the levels that are left. -/
def value? (levels : Nat) (s : List Char) : Option (Value × List Char) :=
  match s, levels with
  | '"' :: _, _ | '\'' :: _, _ => (text? s).map fun (t, rest) => (.text t, rest)
  | '[' :: _, 0 | '\x7b' :: _, 0 => none
  | '[' :: rest, levels + 1 => do
    let (items, rest) ← items? levels rest
    return (.list items, rest)
  | '\x7b' :: rest, levels + 1 =>
    match skipSpace rest with
    | '\x7d' :: rest => some (.table [], rest)
    | _ => do
      let (statements, rest) ← fields? levels rest
      let fields ← Fields.ofStatements? statements
      return (.table (fieldValues fields), rest)
  | s, _ => scalarValue? s
termination_by (s.length, 0)

/-- The items of a list up to its bracket. A comma may stand after the last one. -/
def items? (levels : Nat) (s : List Char) : Option (List Value × List Char) :=
  match _h : skipGap s with
  | ']' :: rest => some ([], rest)
  | start => do
    let (v, rest) ← value? levels start
    match skipGap rest with
    | ']' :: rest => return ([v], rest)
    | ',' :: rest =>
      if rest.length < s.length then
        let (items, rest) ← items? levels rest
        return (v :: items, rest)
      else none
    | _ => none
termination_by (s.length, 1)
decreasing_by
  · have := length_skipGap_le s
    have hlt : start.length ≤ s.length := by rw [← _h]; exact this
    rcases Nat.lt_or_eq_of_le hlt with h | h
    · exact Prod.Lex.left _ _ h
    · rw [h]; exact Prod.Lex.right _ (by decide)
  · exact Prod.Lex.left _ _ (by assumption)

/-- The fields of a table on one line, up to its brace. No comma may stand after the last one. -/
def fields? (levels : Nat) (s : List Char) : Option (List Statement × List Char) := do
  let (key, rest) ← key? s
  match rest with
  | '=' :: rest =>
    let start := skipSpace rest
    if start.length < s.length then
      let (v, rest) ← value? levels start
      match skipSpace rest with
      | '\x7d' :: rest => return ([.assign key v], rest)
      | ',' :: rest =>
        if rest.length < s.length then
          let (more, rest) ← fields? levels rest
          return (.assign key v :: more, rest)
        else none
      | _ => none
    else none
  | _ => none
termination_by (s.length, 1)

end

def statement? : List Char → Option (Statement × List Char)
  | '[' :: '[' :: rest => do
    let (path, rest) ← key? rest
    match rest with
    | ']' :: ']' :: rest => return (.arrayHeader path, rest)
    | _ => none
  | '[' :: rest => do
    let (path, rest) ← key? rest
    match rest with
    | ']' :: rest => return (.header path, rest)
    | _ => none
  | s => do
    let (key, rest) ← key? s
    match rest with
    | '=' :: rest =>
      let (v, rest) ← value? depthLimit (skipSpace rest)
      return (.assign key v, rest)
    | _ => none

def statements? (s : List Char) : Option (List Statement) :=
  let start := skipSpace s
  match start with
  | [] => some []
  | c :: _ =>
    if c = '\n' ∨ c = '\r' ∨ c = '#' then do
      let rest ← lineEnd? start
      if rest.length < s.length then statements? rest else none
    else do
      let (statement, rest) ← statement? start
      let rest ← lineEnd? rest
      if rest.length < s.length then
        return statement :: (← statements? rest)
      else none
termination_by s.length

/-- The root table of a document. A byte order mark may stand before it. -/
def parse? (text : String) : Option Value := do
  let s := match text.toList with
    | '\uFEFF' :: rest => rest
    | s => s
  let fields ← Fields.ofStatements? (← statements? s)
  return .table (fieldValues fields)

end ReloadProbe.Toml
