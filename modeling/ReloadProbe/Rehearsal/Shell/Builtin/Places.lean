import ReloadProbe.Rehearsal.Shell.Act

/-! The commands of a shell that tell where it is, and which rights and means it has. -/
namespace ReloadProbe.Rehearsal.Shell.Builtin

/-- The path of a directory without what leads nowhere and back, and the names in it. Two slashes at
the beginning are kept. -/
def logical (directory path : String) : String :=
  let whole := if path.startsWith "/" then path else directory ++ "/" ++ path
  let isDoubled := whole.startsWith "//" && !whole.startsWith "///"
  let names := (Place.parts whole).foldl (fun names part =>
    if part.isEmpty || part = "." then names
    else if part = ".." then names.dropLast
    else names ++ [part]) []
  (if isDoubled then "//" else "/") ++ "/".intercalate names

def isPhysical (options : List (Char × String)) : Bool := options.getLast?.any fun (c, _) => c = 'P'

def settle (directory : String) (keepOld : Bool) : Act Unit := do
  if keepOld then Act.setVariable "OLDPWD" (some (← get).directory) true
  modify fun s => { s with directory }
  Act.setVariable "PWD" (some directory) true

/-- Goes to a directory. False if that cannot be. -/
def enter (path : String) (physical : Bool) : Act Bool := do
  let s ← get
  let target := if physical then path else logical s.directory path
  match ← Act.enter target with
  | .error _ => return false
  | .ok place =>
    settle (if physical then place else target) true
    return true

def isDotted (path : String) : Bool :=
  match (Place.parts path).head? with
  | some "." | some ".." => true
  | _ => false

def isDirectory (path : String) : Act Bool := do
  match ← Act.examine path with
  | .ok (_, _, node) => return node.isDirectory
  | .error _ => return false

def cd (args : List String) : Act Nat := do
  let (options, args) ← Act.options "LP" args
  let physical := isPhysical options
  let s ← get
  let (path, back) := match args.head? with
    | none => ((s.lookup? "HOME").getD "", false)
    | some "-" => ((s.lookup? "OLDPWD").getD "", true)
    | some path => (path, false)
  let go (path : String) (shown : Bool) : Act Nat := do
    if ← enter path physical then
      if shown then Act.emit ((← get).directory ++ "\n") else return 0
    else Act.fail s!"can't cd to {path}"
  if path.startsWith "/" || isDotted path then go path back
  else
    let path := if path.isEmpty then "." else path
    -- the first directory of the search path that has such a directory in it
    let rec search : List String → Act (Option (String × Bool))
      | [] => return none
      | start :: more => do
        let candidate := if start.isEmpty then path else start ++ "/" ++ path
        if ← isDirectory candidate then return some (candidate, !start.isEmpty) else search more
    match ← search (((s.lookup? "CDPATH").getD "").splitOn ":") with
    | some (path, isElsewhere) => go path (back || isElsewhere)
    | none => go path back

def pwd (args : List String) : Act Nat := do
  let (options, _) ← Act.options "LP" args
  let place ← if isPhysical options then Act.here else pure (← get).directory
  Act.emit (place ++ "\n")

namespace Rights

def digits (n : Nat) : String :=
  let ds := Nat.toDigits 8 n
  String.ofList (List.replicate (4 - ds.length) '0' ++ ds)

def letters (rights : Nat) : String :=
  let one (who : Char) (shift : Nat) : String :=
    let has (bit : Nat) (c : Char) : List Char := if rights >>> shift &&& bit ≠ 0 then [c] else []
    String.ofList (who :: '=' :: has 4 'r' ++ has 2 'w' ++ has 1 'x')
  ",".intercalate [one 'u' 6, one 'g' 3, one 'o' 0]

def who (cs : List Char) : Nat × List Char :=
  let letters := cs.takeWhile fun c => "augo".contains c
  let bits (c : Char) : Nat := match c with
    | 'a' => 0o111
    | 'u' => 0o100
    | 'g' => 0o010
    | _ => 0o001
  (letters.foldl (fun n c => n ||| bits c) 0, cs.drop letters.length)

def which (rights : Nat) (cs : List Char) : Nat × List Char :=
  let letters := cs.takeWhile fun c => "rwxugoXs".contains c
  let bits (c : Char) : Nat := match c with
    | 'r' => 4
    | 'w' => 2
    | 'x' => 1
    | 'u' => rights >>> 6
    | 'g' => rights >>> 3
    | 'o' => rights
    | 'X' => if rights &&& 0o111 ≠ 0 then 1 else 0
    | _ => 0
  (letters.foldl (fun n c => n ||| bits c) 0 &&& 7, cs.drop letters.length)

def isOperator (c : Char) : Bool := c == '=' || c == '+' || c == '-'

/-- The rights that a mode of letters makes of the present ones; nothing if it is none. -/
def change (rights : Nat) : (limit : Nat) → (positions now : Nat) → List Char → Option Nat
  | 0, _, _, _ => none
  | _ + 1, _, now, [] => some now
  | limit + 1, positions, now, cs => do
    let (named, rest) := who cs
    let positions := positions ||| named
    let positions := if positions = 0 then 0o111 else positions
    let operator :: rest := rest | none
    if !isOperator operator then none
    else
      let (n, rest) := which rights rest
      let bits := n * positions
      let all := 7 * positions
      let now := match operator with
        | '-' => now &&& (0o777 - bits)
        | '=' => bits ||| (now &&& (0o777 - all))
        | _ => now ||| bits
      match rest with
      | ',' :: rest => change rights limit 0 now rest
      | c :: _ => if isOperator c then change rights limit positions now rest else none
      | [] => some now

end Rights

def umask (args : List String) : Act Nat := do
  let (options, args) ← Act.options "S" args
  let mask ← Act.mask none
  match args with
  | [] =>
    if options.isEmpty then Act.emit (Rights.digits mask ++ "\n")
    else Act.emit (Rights.letters (0o777 - mask) ++ "\n")
  | mode :: _ =>
    let new ←
      if mode.toList.head?.any Char.isDigit then
        if mode.toList.all fun c => '0' ≤ c && c ≤ '7' then
          pure ((mode.toList.foldl (fun n c => n * 8 + (c.toNat - 48)) 0) % 512)
        else Act.fail s!"Illegal number: {mode}"
      else
        match Rights.change (0o777 - mask) (mode.length + 1) 0 (0o777 - mask) mode.toList with
        | some rights => pure (0o777 - rights)
        | none => Act.fail s!"Illegal mode: {mode}"
    let _ ← Act.mask (some new)
    return 0

def means : List (Char × String × String) :=
  [('t', "time(seconds)", "unlimited"), ('f', "file(blocks)", "unlimited"),
    ('d', "data(kbytes)", "unlimited"), ('s', "stack(kbytes)", "8192"),
    ('c', "coredump(blocks)", "0"), ('m', "memory(kbytes)", "unlimited"),
    ('l', "locked memory(kbytes)", "8192"), ('p', "process", "unlimited"),
    ('n', "nofiles", "1048576"), ('v', "vmemory(kbytes)", "unlimited"),
    ('w', "locks", "unlimited"), ('r', "rtprio", "0")]

def ulimit (args : List String) : Act Nat := do
  let (options, args) ← Act.options "HSatfdscmlpnvwr" args
  let letters := (options.map Prod.fst).filter fun c => c ≠ 'H' && c ≠ 'S'
  let s ← get
  let now (letter : Char) (first : String) : String := (s.means.lookup letter).getD first
  if letters.contains 'a' then
    Act.emit (String.join (means.map fun (letter, name, first) =>
      let gap := String.ofList (List.replicate (20 - name.length) ' ')
      s!"{name}{gap} {now letter first}\n"))
  else
    let letter := letters.getLastD 'f'
    match args with
    | [] =>
      let first := ((means.lookup letter).map Prod.snd).getD "unlimited"
      Act.emit (now letter first ++ "\n")
    | [value] =>
      if value = "unlimited" || value.toList.all Char.isDigit then
        set { s with means := (letter, value) :: s.means }
        return 0
      else Act.fail "bad number"
    | _ => Act.fail "too many arguments"

end ReloadProbe.Rehearsal.Shell.Builtin
