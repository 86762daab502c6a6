import ReloadProbe.Rehearsal.Accounts
import ReloadProbe.Rehearsal.Shell.Arithmetic
import ReloadProbe.Rehearsal.Shell.Fields
import ReloadProbe.Rehearsal.Shell.Jobs

/-!
How words are used: parameters and scripts in them are replaced, the result falls apart into fields,
and a field that is a pattern becomes the files that it describes.
-/
namespace ReloadProbe.Rehearsal.Shell

inductive Homes where
  | nowhere
  | inValue
  | afterColons
  deriving DecidableEq

structure Expanding where
  fields : Bool := false
  quoted : Bool := false
  inParameter : Bool := false
  homes : Homes := .nowhere

namespace Word

/-- The text of a home directory is not looked at again. -/
def home? (s : Session) (name : String) : Option Word :=
  let path? := if name.isEmpty then s.lookup? "HOME" else Account.home? name
  path?.map fun path => path.toList.map .quoted

def homeName? (isValue : Bool) : Word → Option (List Char × Word)
  | [] => some ([], [])
  | .plain c :: w =>
    if c = '/' || (isValue && c = ':') then some ([], .plain c :: w)
    else (homeName? isValue w).map fun (name, rest) => (c :: name, rest)
  | _ => none

def withHomes (s : Session) : (limit : Nat) → Homes → (here : Bool) → Word → Word
  | 0, _, _, w => w
  | _ + 1, _, _, [] => []
  | limit + 1, homes, here, p :: w =>
    let found? : Option (Word × Word) := do
      let .plain '~' := p | none
      if here then
        let (name, rest) ← homeName? (homes != .nowhere) w
        return (← home? s (String.ofList name), rest)
      else none
    match found?, p with
    | some (path, rest), _ => path ++ withHomes s limit homes false rest
    | none, .plain '=' =>
      let homes' := if homes = .inValue then .afterColons else homes
      p :: withHomes s limit homes' (homes = .inValue) w
    | none, .plain ':' => p :: withHomes s limit homes (homes != .nowhere) w
    | none, p => p :: withHomes s limit homes false w

end Word

inductive Item where
  | part (p : Part)
  | plain (cs : List Char)
  | quoted (cs : List Char)
  | arguments

/-- The part before the items that follow it; characters of one kind are one item. -/
def Item.add (p : Part) (items : List Item) : List Item :=
  match p, items with
  | .plain c, .plain cs :: items => .plain (c :: cs) :: items
  | .plain c, items => .plain [c] :: items
  | .quoted c, .quoted cs :: items => .quoted (c :: cs) :: items
  | .quoted c, items => .quoted [c] :: items
  | p, items => .part p :: items

def Word.items : Word → List Item
  | [] => []
  | .mark :: .parameter "@" .value [] :: .mark :: w => .arguments :: items w
  | .mark :: w => .part .mark :: skip w
  | p :: w => Item.add p (items w)
where
  skip : Word → List Item
    | [] => []
    | .mark :: w => .part .mark :: items w
    | p :: w => Item.add p (skip w)

structure Value where
  text? : Option String
  isList : Bool := false

namespace Session

def optionLetters : String := "efIimnsxvVECabup"

def shownOptions (s : Session) : String :=
  String.ofList (optionLetters.toList.reverse.filter s.has)

def joiner (s : Session) : String :=
  match s.lookup? "IFS" with
  | some separators => String.ofList (separators.toList.take 1)
  | none => " "

def single? (s : Session) (name : String) : Option String :=
  match name with
  | "$" => some (toString s.self)
  | "?" => some (toString s.status)
  | "#" => some (toString s.args.length)
  | "!" => s.background.map toString
  | "-" => some s.shownOptions
  | name =>
    if name.toList.all Char.isDigit && !name.isEmpty then
      match name.toNat?.getD 0 with
      | 0 => some s.name
      | n + 1 => s.args[n]?
    else s.lookup? name

/-- The value of a parameter. Between arguments that may become fields stands the character of
number zero. -/
def value (s : Session) (name : String) (e : Expanding) : Value :=
  let nul := (Char.ofNat 0).toString
  let list (joiner : String) : Value :=
    { text? := some (joiner.intercalate s.args), isList := true }
  if name = "@" && e.quoted && e.fields then list nul
  else if name = "@" || name = "*" then
    if e.fields && !e.quoted then
      list (if (s.lookup? "IFS").isSome then nul else " ")
    else list s.joiner
  else { text? := s.single? name }

end Session

namespace Act

def piece (quoted : Bool) (text : String) : List Segment :=
  let cells := text.toList.map fun char => { char, literal := quoted : Cell }
  [{ cells, parting := if quoted then .nowhere else .atSeparators }]

def valuePiece (s : Session) (name : String) (e : Expanding) (text : String) : List Segment :=
  if e.quoted && e.fields && name = "@" && !s.args.isEmpty then
    [{ cells := text.toList.map fun char => { char, literal := true }, parting := .atNuls }]
  else piece e.quoted text

def notSet {α : Type} (name : String) (tail : String := "") : Act α :=
  fail s!"{name}: parameter not set{tail}"

def scriptPiece (e : Expanding) (c : Option Command) : Act (List Segment) := do
  match c with
  | none => return piece e.quoted ""
  | some c =>
    let bytes ← output c
    let text := (bytes.filter (· ≠ 0)).reverse.dropWhile (· = 10)
    return piece e.quoted (Octets.ofBytes text.reverse)

def textOf (pieces : List Segment) : String :=
  String.ofList ((pieces.flatMap Segment.cells).map Cell.char)

def depthLimit : Nat := 100000

def pieces : (depth : Nat) → Expanding → (home : Bool) → Word → Act (List Segment)
  | 0, _, _, _ => return []
  | depth + 1, e, home, w => do
    let s ← get
    let items := (w.withHomes s (w.length + 1) e.homes home).items
    let parameter (e : Expanding) (name : String) (use : Use) (word : Word) :
        Act (List Segment) := do
      let inner : Expanding := { e with inParameter := true }
      let s ← get
      let value := s.value name e
      let whenEmpty (orEmpty : Bool) : Option String :=
        if orEmpty then value.text?.filter (!·.isEmpty) else value.text?
      let valueOrFault : Act String := do
        match value.text? with
        | some text => return text
        | none => if s.has 'u' then notSet name else return ""
      match use with
      | .bad => fail "Bad substitution"
      | .value => return valuePiece s name e (← valueOrFault)
      | .length =>
        let value := s.value name { e with fields := false }
        match value.text? with
        | some text => return piece e.quoted (toString text.length)
        | none => if s.has 'u' then notSet name else return piece e.quoted "0"
      | .default orEmpty =>
        match whenEmpty orEmpty with
        | some text => return valuePiece s name e text
        | none => pieces depth inner true word
      | .alternative orEmpty =>
        match whenEmpty orEmpty with
        | some _ => pieces depth inner true word
        | none => return []
      | .assign orEmpty =>
        match whenEmpty orEmpty with
        | some text => return valuePiece s name e text
        | none =>
          assign name (textOf (← pieces depth {} true word))
          return piece e.quoted (((← get).lookup? name).getD "")
      | .demand orEmpty =>
        match whenEmpty orEmpty with
        | some text => return valuePiece s name e text
        | none =>
          if word.isEmpty then notSet name (if orEmpty then " or null" else "")
          else
            let text := textOf (← pieces depth {} true word)
            fail s!"{name}: {text}"
      | .trim atEnd longest =>
        match value.text? with
        | none => if s.has 'u' then notSet name else return []
        | some text =>
          let pattern := (← pieces depth {} true word).flatMap Segment.cells
          let left := Pattern.trim atEnd longest (Field.pattern pattern) text.toList
          return valuePiece s name e (String.ofList left)
    let step (state : Bool × List (List Segment)) (item : Item) :
        Act (Bool × List (List Segment)) := do
      let (quoted, done) := state
      let e := { e with quoted := e.quoted || quoted }
      let add (more : List Segment) : Act (Bool × List (List Segment)) :=
        return (quoted, more :: done)
      match item with
      | .arguments => add (← parameter { e with quoted := true } "@" .value [])
      | .part .mark => return (!quoted, [{ cells := [], isMark := true }] :: done)
      | .plain cs =>
        let parting := if e.inParameter && !e.quoted then .atSeparators else .nowhere
        add [{ cells := cs.map fun char => { char, literal := false }, parting }]
      | .quoted cs => add [{ cells := cs.map fun char => { char, literal := true } }]
      | .part (.parameter name use word) => add (← parameter e name use word)
      | .part (.script c) => add (← scriptPiece e c)
      | .part (.arithmetic expression) =>
        let text := textOf (← pieces depth {} false expression)
        add (piece e.quoted (toString (← Arithmetic.evaluate text)))
      | .part _ => return state
    let (_, done) ← items.foldlM step (false, [])
    return done.reverse.flatten

def textOfWord (w : Word) (homes : Homes := .nowhere) : Act String := do
  return textOf (← pieces depthLimit { homes } (homes = .nowhere) w)

def textOfDocument (w : Word) : Act String := do
  return textOf (← pieces depthLimit { quoted := true } false w)

def patternOfWord (w : Word) : Act (List Char) := do
  return Field.pattern ((← pieces depthLimit {} true w).flatMap Segment.cells)

def components : List Char → List (List Char)
  | [] => [[]]
  | '\\' :: '/' :: p => [] :: components p
  | '\\' :: c :: p => extend ['\\', c] (components p)
  | '/' :: p => [] :: components p
  | c :: p => extend [c] (components p)
where
  extend (start : List Char) : List (List Char) → List (List Char)
    | [] => [start]
    | first :: more => (start ++ first) :: more

def isWildPart : List Char → Bool
  | [] => false
  | '\\' :: _ :: p => isWildPart p
  | '[' :: p => (Pattern.brackets 'a' (p.length + 1) true (afterMark p)).isSome || isWildPart p
  | c :: p => c == '*' || c == '?' || isWildPart p
where
  afterMark : List Char → List Char
    | '!' :: p => p
    | p => p

def filesOf : (parts : List (List Char)) → (path : String) → Act (List String)
  | [], _ => return []
  | part :: more, path => do
    let plain := String.ofList (Pattern.plain part)
    if isWildPart part then
      match ← list (if path.isEmpty then "." else path) with
      | .error _ => return []
      | .ok names =>
        let dotted := (Pattern.plain part).head? = some '.'
        let names := if dotted then "." :: ".." :: names else names
        let fits (name : String) : Bool :=
          (dotted || !name.startsWith ".") && Pattern.describes part name.toList
        let found := names.filter fits
        if more.isEmpty then return found.map (path ++ ·)
        else
          let nested ← found.mapM fun name => filesOf more (path ++ name ++ "/")
          return nested.flatten
    else if more.isEmpty then
      match ← examineName (path ++ plain) with
      | .ok _ => return [path ++ plain]
      | .error _ => return []
    else filesOf more (path ++ plain ++ "/")

def sorted (names : List String) : List String :=
  names.mergeSort fun a b => a = b || a < b

def namesOf (f : Field) : Act (List String) := do
  let pattern := f.pattern
  let parts := components pattern
  if (← get).has 'f' || !(parts.any isWildPart) then return [f.text]
  else
    match ← filesOf parts "" with
    | [] => return [f.text]
    | names => return sorted names

def fieldsOfWord (w : Word) : Act (List String) := do
  let word ← pieces depthLimit { fields := true } true w
  let separators := ((← get).lookup? "IFS").getD usualSeparators
  let names ← (fieldsOf separators.toList word).mapM namesOf
  return names.flatten

end Act
end ReloadProbe.Rehearsal.Shell
