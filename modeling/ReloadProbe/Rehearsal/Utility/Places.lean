import ReloadProbe.Rehearsal.Utility.Choice

/-! Programs that make, change and take away files and directories. -/
namespace ReloadProbe.Rehearsal.Utility

/-- Asks the machine to do something with a file; what it refuses is told of. -/
def attempt (c : Kernel.Call) (answer : Kernel.Reply c → Except Refusal Unit) (what : String) :
    Tool Nat := do
  match answer (← Tool.call c) with
  | .ok () => return 0
  | .error r =>
    Tool.complain s!"{what}: {r.reason}"
    return 1

namespace Remove

def tree (verbose : Bool) : (limit : Nat) → String → Tool Nat
  | 0, _ => return 1
  | limit + 1, path => do
    match ← Tool.examine path false with
    | .error r =>
      Tool.complain s!"cannot remove {named path}: {r.reason}"
      return 1
    | .ok (_, _, node) =>
      if node.isDirectory then
        let names : Except Refusal (List String) ← Tool.call (.list path)
        let code ← Tool.each (names.toOption.getD []) fun name =>
          tree verbose limit s!"{path}/{name}"
        if code ≠ 0 then return code
        else
          if verbose then Tool.put s!"removed directory {named path}\n"
          attempt (.removeDirectory path) id s!"cannot remove {named path}"
      else
        if verbose then Tool.put s!"removed {named path}\n"
        attempt (.unlink path) id s!"cannot remove {named path}"

def depth : Nat := 4096

end Remove

def rm : Utility := fun args => do
  let choice ← choose
    { letters := "dfiIrRv"
      words := [("force", .nothing, 'f'), ("recursive", .nothing, 'r'), ("dir", .nothing, 'd'),
        ("verbose", .nothing, 'v'), ("interactive", .maybe, 'i'),
        ("one-file-system", .nothing, 'o'), ("no-preserve-root", .nothing, 'N'),
        ("preserve-root", .maybe, 'P')] } args
  let force := choice.lastOf? ['f', 'i', 'I'] = some 'f'
  let whole := choice.has 'r' || choice.has 'R'
  let verbose := choice.has 'v'
  if !force then demand 1 choice.others
  Tool.each choice.others fun path => do
    let last := ((path.splitOn "/").filter (!·.isEmpty)).getLastD ""
    match ← Tool.examine path false with
    | .error r =>
      if force && (r = .noEntry || r = .notDirectory) then return 0
      else
        Tool.complain s!"cannot remove {named path}: {r.reason}"
        return 1
    | .ok (place, _, node) =>
      if whole && place = "/" && !choice.has 'N' then
        let same := if path = "/" then "" else s!" (same as '/')"
        Tool.complain s!"it is dangerous to operate recursively on {named path}{same}"
        Tool.complain "use --no-preserve-root to override this failsafe"
        return 1
      else if whole && (last = "." || last = "..") then
        Tool.complain s!"refusing to remove '.' or '..' directory: skipping {named path}"
        return 1
      else if whole then Remove.tree verbose Remove.depth path
      else if node.isDirectory then
        if choice.has 'd' then
          let code ← attempt (.removeDirectory path) id s!"cannot remove {named path}"
          if code = 0 && verbose then Tool.put s!"removed directory {named path}\n"
          return code
        else
          Tool.complain s!"cannot remove {named path}: Is a directory"
          return 1
      else
        let code ← attempt (.unlink path) id s!"cannot remove {named path}"
        if code = 0 && verbose then Tool.put s!"removed {named path}\n"
        return code

def rmdir : Utility := fun args => do
  let choice ← choose
    { letters := "pv"
      words := [("parents", .nothing, 'p'), ("verbose", .nothing, 'v'),
        ("ignore-fail-on-non-empty", .nothing, 'i')] } args
  demand 1 choice.others
  let one (path : String) (what : String) : Tool Nat := do
    if choice.has 'v' then Tool.put s!"rmdir: removing directory, {named path}\n"
    match ← (Tool.call (.removeDirectory path) : Tool (Except Refusal Unit)) with
    | .ok () => return 0
    | .error r =>
      if r = .notEmpty && choice.has 'i' then return 0
      else
        Tool.complain s!"failed to remove {what}{named path}: {r.reason}"
        return 1
  let rec above : (limit : Nat) → String → Tool Nat
    | 0, _ => return 0
    | limit + 1, path => do
      let cs := ((path.toList.reverse.dropWhile (· != '/')).dropWhile (· == '/')).reverse
      if cs.isEmpty then return 0
      else
        let parent := String.ofList cs
        let code ← one parent "directory "
        if code = 0 then above limit parent else return code
  Tool.each choice.others fun path => do
    let code ← one path ""
    if code = 0 && choice.has 'p' then above path.length path else return code

def rights? (text : String) : Option Nat :=
  if !text.isEmpty && text.length ≤ 5 && text.toList.all fun c => '0' ≤ c && c ≤ '7' then
    some (text.toList.foldl (fun n c => n * 8 + (c.toNat - 48)) 0)
  else none

def mkdir : Utility := fun args => do
  let choice ← choose
    { letters := "pm:vZ"
      words := [("parents", .nothing, 'p'), ("mode", .value, 'm'), ("verbose", .nothing, 'v')] }
    args
  demand 1 choice.others
  let mode? ← (choice.value? 'm').mapM fun text => do
    match rights? text with
    | some mode => return mode
    | none => Tool.fail s!"invalid mode {cited text}"
  let make (path : String) : Tool Nat := do
    let code ← attempt (.makeDirectory path) id s!"cannot create directory {named path}"
    if code = 0 && choice.has 'v' then Tool.put s!"mkdir: created directory {named path}\n"
    return code
  let rec parents (made : String) : List String → Tool Nat
    | [] => return 0
    | part :: parts => do
      let path := made ++ part
      let code ← do
        if part.isEmpty || part = "." || part = ".." then pure 0
        else
          match ← Tool.examine path with
          | .ok (_, _, node) =>
            if node.isDirectory then pure 0
            else
              let r := if parts.all (·.isEmpty) then Refusal.alreadyThere else .notDirectory
              Tool.complain s!"cannot create directory {named path}: {r.reason}"
              pure 1
          | .error _ => make path
      if code = 0 then parents (path ++ "/") parts else return code
  Tool.each choice.others fun path => do
    let code ←
      if choice.has 'p' && !path.isEmpty then parents "" (path.splitOn "/") else make path
    match code, mode? with
    | 0, some mode => attempt (.changeMode path mode) id s!"cannot set permissions {named path}"
    | code, _ => return code

def touch : Utility := fun args => do
  let choice ← choose
    { letters := "acd:fhmr:t:"
      words := [("time", .value, 'T'), ("no-create", .nothing, 'c'), ("date", .value, 'd'),
        ("reference", .value, 'r'), ("no-dereference", .nothing, 'h')] } args
  if choice.others.isEmpty then Tool.misuse "missing file operand"
  Tool.each choice.others fun path => do
    let what := s!"cannot touch {named path}"
    match ← Tool.examine path with
    | .ok _ => attempt (.touch path) id what
    | .error .noEntry =>
      if choice.has 'c' then return 0
      else
        match ← Tool.openFile path { write := true, create := true } with
        | .ok fd =>
          Tool.close fd
          return 0
        | .error .isDirectory =>
          Tool.complain s!"setting times of {named path}: No such file or directory"
          return 1
        | .error r =>
          Tool.complain s!"{what}: {r.reason}"
          return 1
    | .error r =>
      Tool.complain s!"{what}: {r.reason}"
      return 1

end ReloadProbe.Rehearsal.Utility
