import ReloadProbe.Rehearsal.Utility.Links

/-! Programs that copy files and move them. -/
namespace ReloadProbe.Rehearsal.Utility

structure Copying where
  recursive : Bool
  follows : Bool
  verbose : Bool
  /-- Files that are there already stay as they are. -/
  keeps : Bool
  newer : Bool
  asks : Bool
  /-- A file that cannot be written is put in the place of the old one. -/
  force : Bool

namespace Copying

/-- Asks whether a file may be written over. Nothing but an answer that begins with yes counts. -/
def agrees (path : String) : Tool Bool := do
  Tool.say s!"{(← get).name}: overwrite {named path}? "
  match ← Tool.read 0 1 with
  | .ok answer => return answer = "y" || answer = "Y"
  | .error _ => return false

def contents (source path : String) (mode : Nat) (isNew : Bool) : Tool Nat := do
  match ← Tool.openFile source with
  | .error r =>
    Tool.complain s!"cannot open {named source} for reading: {r.reason}"
    return 1
  | .ok input =>
    match ← Tool.openFile path { write := true, create := true, truncate := true } with
    | .error r =>
      Tool.close input
      let r := if r = .isDirectory && isNew then .notDirectory else r
      Tool.complain s!"cannot create regular file {named path}: {r.reason}"
      return 1
    | .ok output =>
      let text ← Tool.readAll input
      Tool.close input
      let code ← match text with
        | .error r =>
          Tool.complain s!"error reading {named source}: {r.reason}"
          pure 1
        | .ok text =>
          match ← Tool.writeTo output text with
          | .ok () => pure 0
          | .error r =>
            Tool.complain s!"error writing {named path}: {r.reason}"
            pure 1
      Tool.close output
      if isNew then
        let mask : Nat ← Tool.call (.mask none)
        let _ ← (Tool.call (.changeMode path (mode &&& (0o777 - mask))) :
          Tool (Except Refusal Unit))
      return code

def copy (c : Copying) : (limit : Nat) → (isFirst : Bool) → (source path : String) → Tool Nat
  | 0, _, _, _ => return 1
  | limit + 1, isFirst, source, path => do
    match ← Tool.examine source c.follows with
    | .error r =>
      Tool.complain s!"cannot stat {named source}: {r.reason}"
      return 1
    | .ok (place, number, node) =>
      if node.isDirectory && !c.recursive then
        Tool.complain s!"-r not specified; omitting directory {named source}"
        return 1
      let found := (← Tool.examine path).toOption
      let isSame := found.any fun (_, n, _) => n = number
      let intoDirectory := found.any fun (_, _, other) => other.isDirectory
      if isSame && !node.isDirectory then
        Tool.complain s!"{named source} and {named path} are the same file"
        return 1
      if intoDirectory && !node.isDirectory then
        Tool.complain s!"cannot overwrite directory {named path} with non-directory"
        return 1
      if found.isSome && !intoDirectory && node.isDirectory then
        Tool.complain s!"cannot overwrite non-directory {named path} with directory {named source}"
        return 1
      if !node.isDirectory then
        if found.isSome && c.keeps then return 0
        if c.newer && found.any (fun (_, _, other) => node.modified ≤ other.modified) then return 0
        if found.isSome && c.asks then
          if !(← agrees path) then return 1
      match node.kind with
      | .directory =>
        let here ← Canonical.place .last false path
        if isFirst && here.toOption.any (fun p => p = place || p.startsWith (place ++ "/")) then
          Tool.complain s!"cannot copy a directory, {named source}, into itself, {named path}"
          return 1
        let names : Except Refusal (List String) ← Tool.call (.list source)
        let made ← if found.isSome then pure 0 else do
          if c.verbose then Tool.put s!"{named source} -> {named path}\n"
          attempt (.makeDirectory path) id s!"cannot create directory {named path}"
        if made ≠ 0 then return made
        Tool.each (names.toOption.getD []) fun name =>
          copy c limit false (inside source name) (inside path name)
      | .link target =>
        if found.isSome then
          let _ ← (Tool.call (.unlink path) : Tool (Except Refusal Unit))
        let code ← attempt (.symlink target path) id s!"cannot create symbolic link {named path}"
        if code = 0 && c.verbose then Tool.put s!"{named source} -> {named path}\n"
        return code
      | _ =>
        if c.verbose then Tool.put s!"{named source} -> {named path}\n"
        contents source path node.mode found.isNone

def depth : Nat := 4096

end Copying

def cp : Utility := fun args => do
  let choice ← choose
    { letters := "abdfHilLnprRst:uvxPTS:Z"
      words := [("archive", .nothing, 'a'), ("force", .nothing, 'f'),
        ("interactive", .nothing, 'i'), ("no-clobber", .nothing, 'n'),
        ("recursive", .nothing, 'r'), ("verbose", .nothing, 'v'), ("update", .maybe, 'u'),
        ("target-directory", .value, 't'), ("no-target-directory", .nothing, 'T'),
        ("no-dereference", .nothing, 'P'), ("dereference", .nothing, 'L'),
        ("preserve", .maybe, 'p'), ("link", .nothing, 'l'), ("symbolic-link", .nothing, 's')] } args
  let recursive := choice.has 'r' || choice.has 'R' || choice.has 'a'
  let follows := match choice.lastOf? ['L', 'P', 'd', 'a'] with
    | some 'L' => true
    | some _ => false
    | none => !recursive
  let c : Copying :=
    { recursive, follows, verbose := choice.has 'v', newer := choice.has 'u'
      keeps := choice.lastOf? ['n', 'i', 'f'] = some 'n'
      asks := choice.lastOf? ['n', 'i', 'f'] = some 'i', force := choice.has 'f' }
  let (sources, destination) ←
    Destination.ofArguments (choice.value? 't') (choice.has 'T') choice.others
  Tool.each sources fun source => do
    let path := destination.nameFor source
    if choice.has 's' then
      attempt (.symlink source path) id s!"cannot create symbolic link {named path}"
    else if choice.has 'l' then
      attempt (.link source path) id s!"cannot create hard link {named path} to {named source}"
    else c.copy Copying.depth true source path

namespace Move

def one (verbose keeps newer asks : Bool) (source path : String) : Tool Nat := do
  match ← Tool.examine source false with
  | .error r =>
    Tool.complain s!"cannot stat {named source}: {r.reason}"
    return 1
  | .ok (place, number, node) =>
    let found := (← Tool.examine path false).toOption
    let isOver := found.isSome
    let isDirectory := found.any fun (_, _, other) => other.isDirectory
    if found.any fun (p, n, _) => n = number && p = place then
      if node.isDirectory then
        let below := inside path (lastName source)
        Tool.complain s!"cannot move {named source} to a subdirectory of itself, {named below}"
      else Tool.complain s!"{named source} and {named path} are the same file"
      return 1
    if isDirectory && !node.isDirectory then
      Tool.complain s!"cannot overwrite directory {named path} with non-directory"
      return 1
    if isOver && !isDirectory && node.isDirectory then
      Tool.complain s!"cannot overwrite non-directory {named path} with directory {named source}"
      return 1
    if isOver && keeps then return 0
    if newer && found.any (fun (_, _, other) => node.modified ≤ other.modified) then return 0
    if isOver && asks then
      if !(← Copying.agrees path) then return 1
    match ← (Tool.call (.rename source path) : Tool (Except Refusal Unit)) with
    | .ok () =>
      if verbose then Tool.put s!"renamed {named source} -> {named path}\n"
      return 0
    | .error .invalid =>
      Tool.complain s!"cannot move {named source} to a subdirectory of itself, {named path}"
      return 1
    | .error r =>
      Tool.complain s!"cannot move {named source} to {named path}: {r.reason}"
      return 1

end Move

def mv : Utility := fun args => do
  let choice ← choose
    { letters := "bfint:uvS:TZ"
      words := [("force", .nothing, 'f'), ("interactive", .nothing, 'i'),
        ("no-clobber", .nothing, 'n'), ("verbose", .nothing, 'v'), ("update", .maybe, 'u'),
        ("target-directory", .value, 't'), ("no-target-directory", .nothing, 'T')] } args
  let last? := choice.lastOf? ['n', 'i', 'f']
  let (sources, destination) ←
    Destination.ofArguments (choice.value? 't') (choice.has 'T') choice.others
  Tool.each sources fun source =>
    Move.one (choice.has 'v') (last? = some 'n') (choice.has 'u') (last? = some 'i') source
      (destination.nameFor source)

end ReloadProbe.Rehearsal.Utility
