/-!
Patterns of scripts. A star stands for any text, a question mark for one character, brackets for one
of some characters, and a backslash takes the meaning from the character after it.
-/
namespace ReloadProbe.Rehearsal.Shell.Pattern

def classes : List (String × (Char → Bool)) :=
  let isGraph (c : Char) : Bool := '!' ≤ c && c ≤ '~'
  [("alnum", Char.isAlphanum), ("alpha", Char.isAlpha), ("blank", fun c => c == ' ' || c == '\t'),
    ("cntrl", fun c => c.toNat < 32 || c.toNat = 127), ("digit", Char.isDigit),
    ("graph", isGraph), ("lower", Char.isLower), ("print", fun c => c == ' ' || isGraph c),
    ("punct", fun c => isGraph c && !c.isAlphanum),
    ("space", fun c => c == ' ' || (9 ≤ c.toNat && c.toNat ≤ 13)), ("upper", Char.isUpper),
    ("xdigit", fun c => c.isDigit || ('a' ≤ c && c ≤ 'f') || ('A' ≤ c && c ≤ 'F'))]

def class? (p : List Char) : Option ((Char → Bool) × List Char) :=
  classes.findSome? fun (name, test) =>
    let written := s!":{name}:]".toList
    if written.isPrefixOf p then some (test, p.drop written.length) else none

def rank (c : Char) : Int := if c.toNat < 128 then c.toNat else (c.toNat : Int) - 256

def dropBackslash : List Char → List Char
  | '\\' :: p => p
  | p => p

/-- Whether a character is in the brackets that begin before the pattern, and what follows them;
nothing if they do not end. The first character is in them even if it is a bracket that closes. -/
def brackets (c : Char) : (limit : Nat) → (first : Bool) → List Char → Option (Bool × List Char)
  | 0, _, _ => none
  | limit + 1, first, p => do
    let add (found : Bool) (rest : List Char) : Option (Bool × List Char) := do
      let (others, rest) ← brackets c limit false rest
      return (found || others, rest)
    match p with
    | [] => none
    | ']' :: rest => if first then member add ']' rest else return (false, rest)
    | '[' :: rest =>
      match class? rest with
      | some (test, rest) => add (test c) rest
      | none => member add '[' rest
    | '\\' :: low :: rest => member add low rest
    | low :: rest => member add low rest
where
  member (add : Bool → List Char → Option (Bool × List Char)) (low : Char) (rest : List Char) :
      Option (Bool × List Char) :=
    match rest with
    | '-' :: ']' :: _ => add (c == low) rest
    | '-' :: more =>
      match dropBackslash more with
      | [] => none
      | high :: rest => add (rank low ≤ rank c && rank c ≤ rank high) rest
    | rest => add (c == low) rest

def matchAll : (limit : Nat) → (pattern text : List Char) → Bool
  | 0, _, _ => false
  | _ + 1, [], text => text.isEmpty
  | limit + 1, '*' :: p, text =>
    matchAll limit p text ||
      match text with
      | [] => false
      | _ :: text => matchAll limit ('*' :: p) text
  | _ + 1, _ :: _, [] => false
  | limit + 1, '?' :: p, _ :: text => matchAll limit p text
  | limit + 1, '[' :: p, c :: text =>
    let (negated, body) := match p with
      | '!' :: body => (true, body)
      | body => (false, body)
    match brackets c (body.length + 1) true body with
    | some (found, rest) => found != negated && matchAll limit rest text
    | none => c == '[' && matchAll limit p text
  | limit + 1, '\\' :: e :: p, c :: text => c == e && matchAll limit p text
  | limit + 1, e :: p, c :: text => c == e && matchAll limit p text

def describes (pattern text : List Char) : Bool :=
  matchAll ((pattern.length + 1) * (text.length + 2)) pattern text

def trim (atEnd longest : Bool) (pattern text : List Char) : List Char :=
  let lengths := List.range (text.length + 1)
  let lengths := if longest then lengths.reverse else lengths
  let cut (n : Nat) : List Char × List Char :=
    if atEnd then (text.take (text.length - n), text.drop (text.length - n))
    else (text.drop n, text.take n)
  match lengths.find? fun n => describes pattern (cut n).2 with
  | some n => (cut n).1
  | none => text

def plain : List Char → List Char
  | '\\' :: c :: p => c :: plain p
  | c :: p => c :: plain p
  | [] => []

end ReloadProbe.Rehearsal.Shell.Pattern
