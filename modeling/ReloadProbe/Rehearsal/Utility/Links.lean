import ReloadProbe.Rehearsal.Utility.Places
import ReloadProbe.Rehearsal.Utility.Surroundings

/-! Programs that give files more names, and that tell where a path leads. -/
namespace ReloadProbe.Rehearsal.Utility

def inside (directory name : String) : String :=
  if directory.endsWith "/" then directory ++ name else s!"{directory}/{name}"

inductive Destination where
  | path (path : String)
  | directory (path : String)

namespace Destination

/-- Sorts the arguments of a program that leads files somewhere. One that is told to do so takes the
last one always as a name, or takes a directory from an option. -/
def ofArguments (directory? : Option String) (asName : Bool) (args : List String) :
    Tool (List String × Destination) := do
  if args.isEmpty then Tool.misuse "missing file operand"
  let checked (d : String) : Tool Destination := do
    match ← Tool.examine d with
    | .ok (_, _, node) =>
      if node.isDirectory then return .directory d
      else Tool.fail s!"target {named d}: Not a directory"
    | .error r => Tool.fail s!"target {named d}: {r.reason}"
  match directory?, asName, args with
  | some d, _, args => return (args, ← checked d)
  | none, _, [one] => Tool.misuse s!"missing destination file operand after {named one}"
  | none, true, args =>
    match args[2]? with
    | some extra => Tool.misuse s!"extra operand {named extra}"
    | none => return (args.dropLast, .path (args.getLastD ""))
  | none, false, args =>
    let last := args.getLastD ""
    if args.length = 2 then
      if ← Tool.isDirectory last then return (args.dropLast, .directory last)
      else return (args.dropLast, .path last)
    else return (args.dropLast, ← checked last)

def nameFor : Destination → (source : String) → String
  | path p, _ => p
  | directory d, source => inside d (lastName source)

end Destination

def ln : Utility := fun args => do
  let choice ← choose
    { letters := "bdfinrst:vFLPS:T"
      words := [("symbolic", .nothing, 's'), ("force", .nothing, 'f'), ("verbose", .nothing, 'v'),
        ("no-dereference", .nothing, 'n'), ("target-directory", .value, 't'),
        ("no-target-directory", .nothing, 'T'), ("relative", .nothing, 'r'),
        ("interactive", .nothing, 'i'), ("logical", .nothing, 'L'), ("physical", .nothing, 'P')] }
    args
  let isSymbolic := choice.has 's'
  let (sources, destination) ← match choice.value? 't', choice.has 'T', choice.others with
    | none, false, [one] => pure ([one], Destination.directory ".")
    | none, false, [one, path] =>
      match ← Tool.examine path (!choice.has 'n') with
      | .ok (_, _, node) =>
        pure ([one], if node.isDirectory then Destination.directory path else .path path)
      | .error _ => pure ([one], Destination.path path)
    | directory?, asName, args => Destination.ofArguments directory? asName args
  let what := if isSymbolic then "symbolic" else "hard"
  let arrow := if isSymbolic then "->" else "=>"
  Tool.each sources fun source => do
    let path := destination.nameFor source
    let found ← Tool.examine source (choice.has 'L')
    let existing ← Tool.examine path false
    match isSymbolic, found, existing with
    | false, .error r, _ =>
      Tool.complain s!"failed to access {named source}: {r.reason}"
      return 1
    | _, _, _ =>
      if !isSymbolic && found.toOption.any (fun (_, _, node) => node.isDirectory) then
        Tool.complain s!"{shown source}: hard link not allowed for directory"
        return 1
      let same := match found, existing with
        | .ok (_, m, _), .ok (_, n, _) => !isSymbolic && m = n && choice.has 'f'
        | _, _ => false
      if same then
        Tool.complain s!"{named source} and {named path} are the same file"
        return 1
      if choice.has 'f' && existing.toOption.any (fun (_, _, node) => !node.isDirectory) then
        let _ ← (Tool.call (.unlink path) : Tool (Except Refusal Unit))
      let result : Except Refusal Unit ←
        if isSymbolic then
          if source.isEmpty then pure (.error .noEntry) else Tool.call (.symlink source path)
        else Tool.call (.link source path)
      match result with
      | .ok () =>
        if choice.has 'v' then Tool.put s!"{named path} {arrow} {named source}\n"
        return 0
      | .error r =>
        let isLong := r ≠ .alreadyThere && (!isSymbolic || source.isEmpty)
        let way := if isLong then s!" {arrow} {named source}" else ""
        Tool.complain s!"failed to create {what} link {named path}{way}: {r.reason}"
        return 1

def link : Utility := fun args => do
  let args ← noOptions args
  demand 2 args
  allow 2 args
  let (old, new) := (args.headD "", (args[1]?).getD "")
  attempt (.link old new) id s!"cannot create link {named new} to {named old}"

def unlink : Utility := fun args => do
  let args ← noOptions args
  demand 1 args
  allow 1 args
  let path := args.headD ""
  attempt (.unlink path) id s!"cannot unlink {named path}"

namespace Canonical

inductive Missing where
  | none
  | last
  | any
  deriving DecidableEq

def walk (missing : Missing) (plain : Bool) : (limit links : Nat) → (above : List String) →
    List String → Tool (Except Refusal (List String))
  | 0, _, _, _ => return .error .tooManyLinks
  | _ + 1, _, above, [] => return .ok above
  | limit + 1, links, above, part :: more => do
    if part = "" || part = "." then walk missing plain limit links above more
    else if part = ".." then walk missing plain limit links (above.drop 1) more
    else
      let here := part :: above
      let isLast := more.all (·.isEmpty)
      match ← Tool.examine (Place.ofNames here) false with
      | .error r =>
        if missing = .any || (missing = .last && isLast && r = .noEntry) then
          walk missing plain limit links here more
        else return .error r
      | .ok (_, _, node) =>
        match node.kind, links with
        | .directory, links => walk missing plain limit links here more
        | .link target, links + 1 =>
          if plain then walk missing plain limit links here more
          else
            let start := if target.startsWith "/" then [] else above
            walk missing plain limit links start (Place.parts target ++ more)
        | .link _, 0 => return .error .tooManyLinks
        | _, links =>
          if more.isEmpty || missing = .any then walk missing plain limit links here more
          else return .error .notDirectory

def place (missing : Missing) (plain : Bool) (path : String) : Tool (Except Refusal String) := do
  if path.isEmpty then return .error .noEntry
  else
    let here : String ← Tool.call .here
    let start := if path.startsWith "/" then [] else Place.names here
    return (← walk missing plain 100000 40 start (Place.parts path)).map Place.ofNames

end Canonical

def readlink : Utility := fun args => do
  let choice ← choose
    { letters := "efmnqsvz"
      words := [("canonicalize", .nothing, 'f'), ("canonicalize-existing", .nothing, 'e'),
        ("canonicalize-missing", .nothing, 'm'), ("no-newline", .nothing, 'n'),
        ("quiet", .nothing, 'q'), ("silent", .nothing, 's'), ("verbose", .nothing, 'v'),
        ("zero", .nothing, 'z')] } args
  demand 1 choice.others
  let several := 1 < choice.others.length
  if several && choice.has 'n' then Tool.complain "ignoring --no-newline with multiple arguments"
  let ending := if choice.has 'n' && !several then "" else if choice.has 'z' then "\x00" else "\n"
  Tool.each choice.others fun path => do
    let found ← match choice.lastOf? ['e', 'f', 'm'] with
      | some 'e' => Canonical.place .none false path
      | some 'f' => Canonical.place .last false path
      | some _ => Canonical.place .any false path
      | none =>
        match ← Tool.examine path false with
        | .error r => pure (.error r)
        | .ok (_, _, node) =>
          match node.kind with
          | .link target => pure (.ok target)
          | _ => pure (.error .invalid)
    match found with
    | .ok text =>
      Tool.put (text ++ ending)
      return 0
    | .error r =>
      if choice.lastOf? ['v', 'q', 's'] = some 'v' then
        Tool.complain s!"{shown path}: {r.reason}"
      return 1

namespace Canonical

def relative (start place : String) : String :=
  let rec common : List String → List String → List String × List String
    | a :: as, b :: bs => if a = b then common as bs else (a :: as, b :: bs)
    | as, bs => (as, bs)
  let (up, down) := common (Place.names start).reverse (Place.names place).reverse
  let way := up.map (fun _ => "..") ++ down
  if way.isEmpty then "." else "/".intercalate way

end Canonical

def realpath : Utility := fun args => do
  let choice ← choose
    { letters := "eLmPqsz"
      words := [("canonicalize-existing", .nothing, 'e'), ("canonicalize-missing", .nothing, 'm'),
        ("strip", .nothing, 's'), ("no-symlinks", .nothing, 's'), ("quiet", .nothing, 'q'),
        ("zero", .nothing, 'z'), ("relative-to", .value, 't'), ("relative-base", .value, 'b'),
        ("logical", .nothing, 'L'), ("physical", .nothing, 'P')] } args
  demand 1 choice.others
  let missing : Canonical.Missing := match choice.lastOf? ['e', 'm'] with
    | some 'e' => .none
    | some _ => .any
    | none => .last
  let plain := choice.has 's'
  let base? ← (choice.value? 't').mapM fun path => do
    match ← Canonical.place missing plain path with
    | .ok place => return place
    | .error r => Tool.fail s!"{shown path}: {r.reason}"
  Tool.each choice.others fun path => do
    match ← Canonical.place missing plain path with
    | .ok place =>
      let text := match base? with
        | some base => Canonical.relative base place
        | none => place
      Tool.put (text ++ if choice.has 'z' then "\x00" else "\n")
      return 0
    | .error r =>
      if !choice.has 'q' then Tool.complain s!"{shown path}: {r.reason}"
      return 1

end ReloadProbe.Rehearsal.Utility
