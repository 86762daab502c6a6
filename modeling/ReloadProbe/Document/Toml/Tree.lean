import ReloadProbe.Document.Value

/-!
The table that a document's statements build, one statement at a time. Each table knows how it came
about, since that decides which later statements may add to it: a header may take up a table that
only stood in the path of other headers, and a dotted key adds only to tables that dotted keys made.
-/
namespace ReloadProbe.Toml

inductive Origin where
  /-- Opened by a header of its own. -/
  | header
  /-- Stood in the path of a header. -/
  | path
  /-- Stood in a dotted key. -/
  | dotted
  deriving DecidableEq

inductive Node where
  | value (v : Value)
  | table (origin : Origin) (fields : List (String × Node))
  /-- Tables of one name, the last one open. -/
  | tables (earlier : List (List (String × Node))) (last : List (String × Node))

abbrev Fields := List (String × Node)

inductive Statement where
  /-- A value for a key, which may be dotted. -/
  | assign (key : List String) (v : Value)
  | header (path : List String)
  | arrayHeader (path : List String)

namespace Fields

def get? (fs : Fields) (name : String) : Option Node := List.lookup name fs

def put (fs : Fields) (name : String) (node : Node) : Fields :=
  match fs with
  | [] => [(name, node)]
  | (other, old) :: more =>
    if other = name then (name, node) :: more else (other, old) :: put more name node

/-- Adds a value under a dotted key. `origin` is that of the table `fs` itself if the key led to
it, and none if the key starts here. -/
def assign (origin : Option Origin) (fs : Fields) : List String → Value → Option Fields
  | [], _ => none
  | [name], v =>
    if origin.all (· = .dotted) ∧ (get? fs name).isNone then some (put fs name (.value v)) else none
  | name :: key, v =>
    match get? fs name with
    | none => do return put fs name (.table .dotted (← assign (some .dotted) [] key v))
    | some (.table .header _) | some (.value _) => none
    | some (.table o inner) => do return put fs name (.table o (← assign (some o) inner key v))
    | some (.tables earlier last) => do
      return put fs name (.tables earlier (← assign (some .header) last key v))

def openTable (fs : Fields) : List String → Option Fields
  | [] => none
  | [name] =>
    match get? fs name with
    | none => some (put fs name (.table .header []))
    | some (.table .path inner) => some (put fs name (.table .header inner))
    | some _ => none
  | name :: path =>
    match get? fs name with
    | none => do return put fs name (.table .path (← openTable [] path))
    | some (.value _) => none
    | some (.table o inner) => do return put fs name (.table o (← openTable inner path))
    | some (.tables earlier last) => do
      return put fs name (.tables earlier (← openTable last path))

def openNext (fs : Fields) : List String → Option Fields
  | [] => none
  | [name] =>
    match get? fs name with
    | none => some (put fs name (.tables [] []))
    | some (.tables earlier last) => some (put fs name (.tables (earlier ++ [last]) []))
    | some _ => none
  | name :: path =>
    match get? fs name with
    | none => do return put fs name (.table .path (← openNext [] path))
    | some (.value _) => none
    | some (.table o inner) => do return put fs name (.table o (← openNext inner path))
    | some (.tables earlier last) => do
      return put fs name (.tables earlier (← openNext last path))

def assignAt (fs : Fields) (key : List String) (v : Value) : List String → Option Fields
  | [] => assign none fs key v
  | name :: path =>
    match get? fs name with
    | none | some (.value _) => none
    | some (.table o inner) => do return put fs name (.table o (← assignAt inner key v path))
    | some (.tables earlier last) => do
      return put fs name (.tables earlier (← assignAt last key v path))

/-- One statement after the last header's path. -/
def step : Fields × List String → Statement → Option (Fields × List String)
  | (fs, path), .assign key v => do return (← assignAt fs key v path, path)
  | (fs, _), .header path => do return (← openTable fs path, path)
  | (fs, _), .arrayHeader path => do return (← openNext fs path, path)

def ofStatements? (statements : List Statement) : Option Fields := do
  return (← statements.foldlM step ([], [])).1

end Fields

mutual

def Node.toValue : Node → Value
  | .value v => v
  | .table _ fields => .table (fieldValues fields)
  | .tables earlier last => .list (tableValues earlier ++ [.table (fieldValues last)])

def fieldValues : List (String × Node) → List (String × Value)
  | [] => []
  | (name, node) :: more => (name, node.toValue) :: fieldValues more

def tableValues : List (List (String × Node)) → List Value
  | [] => []
  | fields :: more => .table (fieldValues fields) :: tableValues more

end

end ReloadProbe.Toml
