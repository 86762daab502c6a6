import ReloadProbe.Rehearsal.Utility.Choice
import ReloadProbe.Rehearsal.Utility.Regex

/-! A program that puts characters in place of others. -/
namespace ReloadProbe.Rehearsal.Utility

namespace Exchange

inductive Element where
  | char (c : Char)
  /-- So many times; as often as needed if no number is given. -/
  | fill (c : Char) (count? : Option Nat)
  | cls (name : String)

def character : List Char → Char × List Char
  | '\\' :: c :: cs =>
    if '0' ≤ c && c ≤ '7' then
      let digits := ((c :: cs).take 3).takeWhile fun c => '0' ≤ c && c ≤ '7'
      let n := digits.foldl (fun n c => n * 8 + (c.toNat - 48)) 0
      if 255 < n then (Char.ofNat (n / 8), (c :: cs).drop 2)
      else (Char.ofNat n, (c :: cs).drop digits.length)
    else
      let char := match c with
        | 'a' => Char.ofNat 7
        | 'b' => Char.ofNat 8
        | 'f' => Char.ofNat 12
        | 'n' => '\n'
        | 'r' => '\r'
        | 't' => '\t'
        | 'v' => Char.ofNat 11
        | c => c
      (char, cs)
  | c :: cs => (c, cs)
  | [] => ('\\', [])

def elements : (limit : Nat) → List Char → Tool (List Element)
  | 0, _ | _, [] => return []
  | limit + 1, cs => do
    match cs with
    | '[' :: ':' :: rest =>
      let name := rest.takeWhile (· ≠ ':')
      match rest.drop name.length with
      | ':' :: ']' :: rest =>
        let name := String.ofList name
        if (Regex.class? name).isNone then Tool.fail s!"invalid character class {cited name}"
        else return .cls name :: (← elements limit rest)
      | _ => return .char '[' :: (← elements limit (':' :: rest))
    | '[' :: '=' :: c :: '=' :: ']' :: rest => return .char c :: (← elements limit rest)
    | _ =>
      let (c, rest) := character cs
      let filled? : Option (Element × List Char) := do
        let '[' := c | none
        let (c, rest) := character rest
        let '*' :: rest := rest | none
        let digits := rest.takeWhile Char.isDigit
        let ']' :: rest := rest.drop digits.length | none
        let n := if digits.head? = some '0' then
            digits.foldl (fun n c => n * 8 + (c.toNat - 48)) 0
          else (String.ofList digits).toNat?.getD 0
        return (.fill c (if n = 0 then none else some n), rest)
      match filled?, rest with
      | some (e, rest), _ => return e :: (← elements limit rest)
      | none, '-' :: more =>
        if more.isEmpty then return .char c :: (← elements limit rest)
        else
          let (last, after) := character more
          if last.toNat < c.toNat then
            let range := String.ofList ((cs.take (cs.length - after.length)))
            Tool.fail s!"range-endpoints of {cited range} are in reverse collating sequence order"
          else
            let range := (List.range (last.toNat - c.toNat + 1)).map fun i =>
              Element.char (Char.ofNat (c.toNat + i))
            return range ++ (← elements limit after)
      | none, rest => return .char c :: (← elements limit rest)

def allCharacters : List Char := (List.range 256).map Char.ofNat

def expand (needed : Nat) (es : List Element) : List Char :=
  let fixed (e : Element) : Nat := match e with
    | .char _ => 1
    | .fill _ count? => count?.getD 0
    | .cls name => (allCharacters.filter ((Regex.class? name).getD fun _ => false)).length
  let gap := needed - es.foldl (fun sum e => sum + fixed e) 0
  es.flatMap fun
    | .char c => [c]
    | .fill c count? => List.replicate (count?.getD gap) c
    | .cls name => allCharacters.filter ((Regex.class? name).getD fun _ => false)

end Exchange

def tr : Utility := fun args => do
  let choice ← choose
    { letters := "cCdst", inOrder := true
      words := [("complement", .nothing, 'c'), ("delete", .nothing, 'd'),
        ("squeeze-repeats", .nothing, 's'), ("truncate-set1", .nothing, 't')] } args
  let deletes := choice.has 'd'
  let squeezes := choice.has 's'
  let two := if deletes then squeezes else !squeezes
  let most := if deletes && !squeezes then 1 else 2
  match choice.others with
  | [] => Tool.misuse "missing operand"
  | [one] =>
    if two then
      Tool.complain s!"missing operand after {cited one}"
      let doing := if squeezes then "both deleting and squeezing repeats" else "translating"
      Tool.say s!"Two strings must be given when {doing}.\n"
      Tool.sendAway
  | _ =>
    match choice.others[most]? with
    | some extra =>
      Tool.complain s!"extra operand {cited extra}"
      if most = 1 && choice.others.length = 2 then
        Tool.say "Only one string may be given when deleting without squeezing repeats.\n"
      Tool.sendAway
    | none => pure ()
  let elementsOf (text : String) : Tool (List Exchange.Element) :=
    Exchange.elements (text.length + 1) text.toList
  let first ← elementsOf (choice.others.headD "")
  let second? ← (choice.others[1]?).mapM elementsOf
  let plain := Exchange.expand 0 first
  let complement := choice.has 'c' || choice.has 'C'
  let set1 :=
    if complement then Exchange.allCharacters.filter fun c => !plain.contains c else plain
  let set2 := (second?.map (Exchange.expand set1.length)).getD []
  let exchanges := !deletes && second?.isSome
  if exchanges && set2.isEmpty && !choice.has 't' && !set1.isEmpty then
    Tool.fail "when not truncating set1, string2 must be non-empty"
  let length := min set1.length (if choice.has 't' then set2.length else set1.length)
  let last := set2.getLastD ' '
  let pairs := (set1.take length).zipIdx.map fun (c, i) => (c, (set2[i]?).getD last)
  let table : Array (Option Char) := pairs.foldl (fun t (c, d) => t.set! c.toNat (some d))
    (Array.replicate 256 none)
  let exchange (c : Char) : Char := ((table[c.toNat]?).bind id).getD c
  let squeezed := if second?.isSome then set2 else set1
  let isSqueezed (c : Char) : Bool := squeezes && squeezed.contains c
  let rec go : Nat → (previous? : Option Char) → Tool Nat
    | 0, _ => return 0
    | limit + 1, previous? => do
      match ← Tool.read 0 Tool.readSize with
      | .error r => Tool.fail s!"read error: {r.reason}"
      | .ok "" => return 0
      | .ok piece =>
        let kept := if deletes then piece.toList.filter fun c => !set1.contains c
          else piece.toList
        let changed := if exchanges then kept.map exchange else kept
        let (out, previous?) := changed.foldl (fun (out, previous?) c =>
          if previous? = some c && isSqueezed c then (out, previous?) else (c :: out, some c))
          (([] : List Char), previous?)
        Tool.put (String.ofList out.reverse)
        Tool.flush
        go limit previous?
  go Tool.readLimit none

end ReloadProbe.Rehearsal.Utility
