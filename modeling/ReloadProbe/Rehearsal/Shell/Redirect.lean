import ReloadProbe.Rehearsal.Shell.Expansion

/-!
Redirections: where the descriptors of a command lead. Those of a single command are undone when it
has ended, for which a descriptor is kept under another number first.
-/
namespace ReloadProbe.Rehearsal.Shell

def Aim.fd : Aim → Nat
  | file fd _ _ | copy fd _ | document fd _ => fd

namespace Act

def aim : Redirection → Act Aim
  | .file fd opening name => return .file fd opening (← textOfWord name)
  | .copy fd source => do
    match (← textOfWord source).toList with
    | ['-'] => return .copy fd none
    | [c] => if c.isDigit then return .copy fd (some (c.toNat - 48)) else bad
    | _ => bad
  | .document fd number => return .document fd number
where
  bad : Act Aim := fail "Syntax error: Bad fd number"

def openPath (path : String) (access : Access) : Act Nat := do
  match ← openFile path access with
  | .ok fd => return fd
  | .error r =>
    if access.create then fail (s!"cannot create {path}: " ++ reason r "Directory nonexistent")
    else fail (s!"cannot open {path}: " ++ reason r "No such file")

/-- Opens a file to be written from its beginning, unless it is there and must be kept. -/
def openToWrite (path : String) : Act Nat := do
  let usual : Access := { write := true, create := true, truncate := true }
  if (← get).has 'C' then
    match ← examine path with
    | .error _ => openPath path { write := true, create := true, fresh := true }
    | .ok (_, _, node) =>
      match node.kind with
      | .file _ | .program _ => fail s!"cannot create {path}: {Refusal.alreadyThere.reason}"
      | _ => openPath path { write := true }
  else openPath path usual

def openText (text : String) : Act Nat := do
  let (source, sink) ← pipe
  let _ ← write sink text
  close sink
  return source

inductive Found where
  | at (fd : Nat)
  | closed
  /-- It is there already. -/
  | already

def openAim : Aim → Act Found
  | .file _ opening path => .at <$> match opening with
    | .read => openPath path { read := true }
    | .readWrite => openPath path { read := true, write := true, create := true }
    | .write => openToWrite path
    | .replace => openPath path { write := true, create := true, truncate := true }
    | .append => openPath path { write := true, create := true, append := true }
  | .copy fd source? =>
    match source? with
    | none => return .closed
    | some source => return if source = fd then .already else .at source
  | .document _ number => do
    let doc := ((← get).documents.lookup number).getD []
    return .at (← openText (← textOfDocument doc))

/-- The least number of a descriptor that is kept to be used again. -/
def keptFrom : Nat := 10

/-- Keeps a descriptor that is about to lead elsewhere, unless that has been done. -/
def keep (fd : Nat) (found : Found) : Act Unit := do
  match (← get).redirections with
  | [] => return ()
  | table :: tables =>
    if table.any fun (n, _) => n = fd then return ()
    else
      let isNew : Bool := match found with
        | .at n => n == fd
        | _ => false
      let saved : Saved ←
        if isNew then pure .closed
        else
          match ← duplicate fd keptFrom with
          | .ok copy =>
            close fd
            pure (.copied copy)
          | .error _ => pure .closed
      modify fun s => { s with redirections := ((fd, saved) :: table) :: tables }

def apply (isKept : Bool) (a : Aim) : Act Unit := do
  match ← openAim a with
  | .already => return ()
  | found =>
    if isKept then keep a.fd found
    match found, a with
    | .at n, .copy fd _ =>
      match ← redirect n fd with
      | .ok () => return ()
      | .error r => fail s!"{n}: {r.reason}"
    | .at n, a =>
      if n ≠ a.fd then
        let _ ← redirect n a.fd
        close n
    | _, a => close a.fd

def outerError (s : Session) : Nat :=
  match s.redirections with
  | table :: _ =>
    match table.lookup 2 with
    | some (.copied fd) => fd
    | _ => 2
  | [] => 2

/-- Does redirections that are to be undone. The status tells whether it could be done. -/
def redirectAll (aims : List Aim) : Act Nat := do
  if !aims.isEmpty then modify fun s => { s with redirections := [] :: s.redirections }
  match ← guarded (aims.forM (apply true)) with
  | .ok () => return 0
  | .error .fault => return 2
  | .error leave => throw leave

/-- Undoes the redirections that were done last, or only forgets how things were before. -/
def restore (forget : Bool) : Act Unit := do
  match (← get).redirections with
  | [] => return ()
  | table :: tables =>
    modify fun s => { s with redirections := tables }
    for (fd, saved) in table do
      match saved with
      | .closed => if !forget then close fd
      | .copied copy =>
        if !forget then let _ ← redirect copy fd
        close copy

def restoreTo : (limit : Nat) → (count : Nat) → Act Unit
  | 0, _ => return ()
  | limit + 1, count => do
    if count < (← get).redirections.length then
      restore false
      restoreTo limit count

end Act
end ReloadProbe.Rehearsal.Shell
