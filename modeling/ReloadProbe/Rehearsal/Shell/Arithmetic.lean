import ReloadProbe.Rehearsal.Numeral
import ReloadProbe.Rehearsal.Shell.Act

/-!
Arithmetic in scripts: numbers of 64 bits, variables, and the usual operators. An expression is
worked out while it is read, so what comes before a fault has had its effect.
-/
namespace ReloadProbe.Rehearsal.Shell.Arithmetic

inductive Token where
  | number (n : Int)
  | name (s : String)
  | operator (s : String)
  | bad

def assigning : List String := ["<<", ">>", "|", "&", "*", "/", "%", "+", "-", "^"]

def operators : List String :=
  assigning.map (· ++ "=") ++ ["||", "&&", "==", "!=", "<=", ">=", "<<", ">>", "<", ">", "|", "&",
    "*", "/", "%", "+", "-", "^", "=", "!", "~", "?", ":", "(", ")"]

def tokens : (limit : Nat) → List Char → List Token
  | 0, _ => []
  | limit + 1, cs =>
    match cs with
    | [] => []
    | c :: rest =>
      if c == ' ' || c == '\t' || c == '\n' then tokens limit rest
      else if c.isDigit then
        let n := Numeral.read none cs
        .number n.value :: tokens limit n.rest
      else if isNameStart c then
        .name (.ofList (cs.takeWhile isNameChar)) :: tokens limit (cs.dropWhile isNameChar)
      else
        match operators.find? fun s => s.toList.isPrefixOf cs with
        | some s => .operator s :: tokens limit (cs.drop s.length)
        | none => [.bad]

def looseness? : Token → Option (String × Nat)
  | .operator s =>
    let n? : Option Nat := match s with
      | "*" | "/" | "%" => some 0
      | "+" | "-" => some 1
      | "<<" | ">>" => some 2
      | "<" | "<=" | ">" | ">=" => some 3
      | "==" | "!=" => some 4
      | "&" => some 5
      | "^" => some 6
      | "|" => some 7
      | _ => none
    n?.map fun n => (s, n)
  | _ => none

def wrap (n : Int) : Int := n.bmod 18446744073709551616

def bits (n : Int) : Nat := (n.emod 18446744073709551616).toNat

def ofBits (n : Nat) : Int := wrap n

def truth (b : Bool) : Int := if b then 1 else 0

/-- What an operator makes of two numbers, unless the second one is a zero to divide by. -/
def combine? (operator : String) (a b : Int) : Option Int :=
  let shift := bits b % 64
  match operator with
  | "*" => some (wrap (a * b))
  | "/" => if b = 0 then none else some (wrap (a.tdiv b))
  | "%" => if b = 0 then none else some (wrap (a.tmod b))
  | "+" => some (wrap (a + b))
  | "-" => some (wrap (a - b))
  | "<<" => some (wrap (a * Nat.pow 2 shift))
  | ">>" => some (a >>> shift)
  | "<" => some (truth (a < b))
  | "<=" => some (truth (a ≤ b))
  | ">" => some (truth (b < a))
  | ">=" => some (truth (b ≤ a))
  | "==" => some (truth (a == b))
  | "!=" => some (truth (a != b))
  | "&" => some (ofBits (bits a &&& bits b))
  | "^" => some (ofBits (bits a ^^^ bits b))
  | _ => some (ofBits (bits a ||| bits b))

section

-- the whole expression, for messages
variable (text : String)

def fault {α : Type} (what : String) : Act α :=
  Act.fail s!"arithmetic expression: {what}: \"{text}\""

/-- A quotient that 64 bits cannot hold. -/
def isTooLarge (operator : String) (a b : Int) : Bool :=
  (operator == "/" || operator == "%") && a == Numeral.least && b == -1

def apply (operator : String) (a b : Int) : Act Int := do
  if isTooLarge operator a b then
    let self : Nat ← Act.call .self
    let _ ← Act.kill self 8
  match combine? operator a b with
  | some n => return n
  | none => fault text "division by zero"

def valueOf (name : String) : Act Int := do
  let value := ((← get).lookup? name).getD ""
  let n := Numeral.read none value.toList
  if n.cut || (n.rest.dropWhile Numeral.isBlank) ≠ [] then Act.fail s!"Illegal number: {value}"
  else return n.value

abbrev Result := Act (Int × List Token)

mutual

/-- An operand. Nothing of it is looked up if `idle` says so. -/
def primary : (limit : Nat) → (idle : Bool) → List Token → Result
  | 0, _, _ => fault text "expecting primary"
  | limit + 1, idle, ts => do
    let negated (f : Int → Int) (ts : List Token) : Result := do
      let (n, ts) ← primary limit idle ts
      return (f n, ts)
    match ts with
    | .operator "(" :: ts =>
      match ← assignment limit idle ts with
      | (n, .operator ")" :: ts) => return (n, ts)
      | _ => fault text "expecting ')'"
    | .number n :: ts => return (n, ts)
    | .name s :: ts => return (← if idle then pure 0 else valueOf s, ts)
    | .operator "+" :: ts => negated id ts
    | .operator "-" :: ts => negated (fun n => wrap (-n)) ts
    | .operator "!" :: ts => negated (fun n => truth (n == 0)) ts
    | .operator "~" :: ts => negated (fun n => -n - 1) ts
    | _ => fault text "expecting primary"

def binary : (limit : Nat) → (idle : Bool) → Int → String × Nat → (bound : Nat) → List Token →
    Result
  | 0, _, _, _, _, _ => fault text "expecting primary"
  | limit + 1, idle, a, (operator, looseness), bound, ts => do
    let (b, ts) ← primary limit idle ts
    let (b, ts) ← match ts.head?.bind looseness? with
      | some next =>
        if next.2 < looseness then binary limit idle b next looseness (ts.drop 1) else pure (b, ts)
      | none => pure (b, ts)
    let a ← if idle then pure b else apply text operator a b
    match ts.head?.bind looseness? with
    | some next =>
      if next.2 < bound then binary limit idle a next bound (ts.drop 1) else return (a, ts)
    | none => return (a, ts)

def operands : (limit : Nat) → (idle : Bool) → List Token → Result
  | 0, _, _ => fault text "expecting primary"
  | limit + 1, idle, ts => do
    let (a, ts) ← primary limit idle ts
    match ts.head?.bind looseness? with
    | some next => binary limit idle a next 8 (ts.drop 1)
    | none => return (a, ts)

def conjunction : (limit : Nat) → (idle : Bool) → List Token → Result
  | 0, _, _ => fault text "expecting primary"
  | limit + 1, idle, ts => do
    match ← operands limit idle ts with
    | (a, .operator "&&" :: ts) =>
      let (b, ts) ← conjunction limit (idle || a == 0) ts
      return (truth (a != 0 && b != 0), ts)
    | r => return r

def disjunction : (limit : Nat) → (idle : Bool) → List Token → Result
  | 0, _, _ => fault text "expecting primary"
  | limit + 1, idle, ts => do
    match ← conjunction limit idle ts with
    | (a, .operator "||" :: ts) =>
      let (b, ts) ← disjunction limit (idle || a != 0) ts
      return (truth (a != 0 || b != 0), ts)
    | r => return r

def conditional : (limit : Nat) → (idle : Bool) → List Token → Result
  | 0, _, _ => fault text "expecting primary"
  | limit + 1, idle, ts => do
    match ← disjunction limit idle ts with
    | (a, .operator "?" :: ts) =>
      match ← assignment limit (idle || a == 0) ts with
      | (b, .operator ":" :: ts) =>
        let (c, ts) ← conditional limit (idle || a != 0) ts
        return (if a != 0 then b else c, ts)
      | _ => fault text "expecting ':'"
    | r => return r

def assignment : (limit : Nat) → (idle : Bool) → List Token → Result
  | 0, _, _ => fault text "expecting primary"
  | limit + 1, idle, ts => do
    let operator? : Option String := match ts with
      | .name _ :: .operator s :: _ =>
        if s = "=" || (assigning.map (· ++ "=")).contains s then
          some (String.ofList s.toList.dropLast)
        else none
      | _ => none
    match ts, operator? with
    | .name name :: _ :: ts, some operator =>
      let (n, ts) ← assignment limit idle ts
      if idle then return (n, ts)
      else
        let n ← if operator.isEmpty then pure n else apply text operator (← valueOf name) n
        Act.assign name (toString n)
        return (n, ts)
    | ts, _ => conditional limit idle ts

end

end

def evaluate (text : String) : Act Int := do
  let ts := tokens (text.length + 1) text.toList
  match ← assignment text (16 * ts.length + 16) false ts with
  | (n, []) => return n
  | _ => fault text "expecting EOF"

end ReloadProbe.Rehearsal.Shell.Arithmetic
