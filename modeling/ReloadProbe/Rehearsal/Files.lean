import ReloadProbe.Bytes
import ReloadProbe.Rehearsal.Place
import ReloadProbe.Rehearsal.Refusal

/-!
The files of a model machine. A directory holds names, a name leads to a node, and several names may
lead to one node. `resolve` follows a path from name to name, so that it fails where a system would.
-/
namespace ReloadProbe.Rehearsal

inductive Device where
  | null
  | zero
  | full
  deriving DecidableEq

inductive Executable where
  | shell
  | utility (name : String)
  | broker
  deriving DecidableEq

inductive Kind where
  | directory
  | file (contents : Bytes)
  | link (target : String)
  | device (d : Device)
  | program (e : Executable)
  | pipe
  deriving DecidableEq

structure Node where
  kind : Kind
  mode : Nat
  modified : Nat := 0

structure Files where
  names : List (String × Nat)
  nodes : List (Nat × Node)
  next : Nat

inductive Target where
  | node (place : String) (number : Nat)
  | free (place : String)

namespace Node

def directory : Node := { kind := .directory, mode := 0o755 }

def isDirectory (n : Node) : Bool := n.kind = .directory

def isExecutable (n : Node) : Bool := n.mode &&& 0o111 ≠ 0

def binary : Bytes := [0x7F, 0x45, 0x4C, 0x46, 0x02, 0x01, 0x01, 0x00, 0xF3, 0x0F, 0x1E, 0xFA]

def contents? (n : Node) : Option Bytes :=
  match n.kind with
  | .file contents => some contents
  | .program _ => some binary
  | .device .null => some []
  | _ => none

end Node

namespace Files

def empty : Files := { names := [("/", 0)], nodes := [(0, .directory)], next := 1 }

def node? (f : Files) (number : Nat) : Option Node := f.nodes.lookup number

def at? (f : Files) (place : String) : Option Nat := f.names.lookup place

def add (f : Files) (place : String) (node : Node) : Files :=
  { names := (place, f.next) :: f.names, nodes := (f.next, node) :: f.nodes, next := f.next + 1 }

def link (f : Files) (place : String) (number : Nat) : Files :=
  { f with names := (place, number) :: f.names }

/-- Takes a name away. The node stays for those who use it. -/
def unlink (f : Files) (place : String) : Files :=
  { f with names := f.names.filter fun (name, _) => name ≠ place }

def update (f : Files) (number : Nat) (change : Node → Node) : Files :=
  { f with nodes := f.nodes.map fun (n, node) => (n, if n = number then change node else node) }

def entries (f : Files) (place : String) : List String :=
  f.names.filterMap fun (name, _) =>
    if name ≠ "/" && Place.parent name = place then some (Place.name name) else none

def move (f : Files) (old new : String) : Files :=
  { f with names := f.names.map fun (name, n) =>
      if name = old then (new, n)
      else if name.startsWith (old ++ "/") then
        (new ++ String.ofList (name.toList.drop old.length), n)
      else (name, n) }

/-- Follows the parts of a path from the directory whose names are `above`. A link at the end is
followed if `follow` says so, and so many links are followed at most. -/
def walk (f : Files) (follow : Bool) (links : Nat) (above : List String) (rest : List String) :
    Except Refusal Target :=
  match rest, links with
  | [], _ =>
    let place := Place.ofNames above
    match f.at? place with
    | some n => .ok (.node place n)
    | none => .error .noEntry
  | part :: more, links =>
    if part = "" || part = "." then f.walk follow links above more
    else if part = ".." then f.walk follow links (above.drop 1) more
    else if Place.nameLimit < part.length then .error .nameTooLong
    else
      let place := Place.ofNames (part :: above)
      match f.at? place with
      | none => if more.all (·.isEmpty) then .ok (.free place) else .error .noEntry
      | some n =>
        match (f.node? n).map Node.kind, links with
        | some .directory, links => f.walk follow links (part :: above) more
        | some (.link target), links =>
          if more.isEmpty && !follow then .ok (.node place n)
          else
            match links with
            | 0 => .error .tooManyLinks
            | links + 1 =>
              let start := if target.startsWith "/" then [] else above
              f.walk follow links start (Place.parts target ++ more)
        | _, _ => if more.isEmpty then .ok (.node place n) else .error .notDirectory
termination_by (links, rest.length)

def resolve (f : Files) (directory path : String) (follow : Bool := true) :
    Except Refusal Target :=
  if path.isEmpty then .error .noEntry
  else if Place.pathLimit < path.length then .error .nameTooLong
  else
    f.walk follow 40 (if path.startsWith "/" then [] else Place.names directory)
      (Place.parts path)

def find (f : Files) (directory path : String) (follow : Bool := true) :
    Except Refusal (String × Nat × Node) := do
  match ← f.resolve directory path follow with
  | .free _ => .error .noEntry
  | .node place n =>
    match f.node? n with
    | some node => return (place, n, node)
    | none => .error .noEntry

def read (f : Files) (directory path : String) : Except Refusal Bytes := do
  let (_, _, node) ← f.find directory path
  match node.contents? with
  | some contents => return contents
  | none => .error (if node.isDirectory then .isDirectory else .invalid)

def directoryAt (f : Files) (directory path : String) : Except Refusal String := do
  let (place, _, node) ← f.find directory path
  if node.isDirectory then return place else .error .notDirectory

def addFile (f : Files) (place : String) (contents : Bytes) : Files :=
  let above := (Place.names place).drop 1
  let f := (List.range above.length).foldl (fun (f : Files) i =>
    let directory := Place.ofNames (above.drop (above.length - 1 - i))
    if (f.at? directory).isSome then f else f.add directory .directory) f
  f.add place { kind := .file contents, mode := 0o644 }

end Files
end ReloadProbe.Rehearsal
