import ReloadProbe.Text.Hex

/-!
Addresses of sockets, read and written. A version 6 address is written with its first longest run of
zero groups left out, unless the run is a single group.
-/
namespace ReloadProbe

inductive Address where
  | v4 (octets : List UInt8) (port : UInt16)
  | v6 (groups : List UInt16) (scope : UInt32) (port : UInt16)
  deriving DecidableEq

namespace Address

def loopback (port : UInt16) : Address := .v4 [127, 0, 0, 1] port

def writeV4 (octets : List UInt8) : String :=
  ".".intercalate (octets.map fun b => toString b.toNat)

def writeGroups (groups : List UInt16) : String :=
  ":".intercalate (groups.map fun g => Hex.lower 1 g.toNat)

def zeros (groups : List UInt16) : Nat := (groups.takeWhile (· == 0)).length

def longestZeros : (start : Nat) → List UInt16 → Nat × Nat
  | _, [] => (0, 0)
  | start, g :: groups =>
    let here := zeros (g :: groups)
    let (at_, length) := longestZeros (start + 1) groups
    if here ≥ length then (start, here) else (at_, length)

def writeV6 (groups : List UInt16) : String :=
  match groups with
  | [0, 0, 0, 0, 0, 0xFFFF, a, b] =>
    "::ffff:" ++ writeV4 [UInt8.ofNat (a.toNat / 256), UInt8.ofNat a.toNat,
      UInt8.ofNat (b.toNat / 256), UInt8.ofNat b.toNat]
  | groups =>
    let (start, length) := longestZeros 0 groups
    if length > 1 then
      writeGroups (groups.take start) ++ "::" ++ writeGroups (groups.drop (start + length))
    else writeGroups groups

def write : Address → String
  | .v4 octets port => s!"{writeV4 octets}:{port.toNat}"
  | .v6 groups scope port =>
    let zone := if scope = 0 then "" else s!"%{scope.toNat}"
    s!"[{writeV6 groups}{zone}]:{port.toNat}"

def decimal? (limit : Nat) (s : String) : Option Nat :=
  if s.isEmpty || !s.all Char.isDigit then none
  else
    let n := s.foldl (fun n c => n * 10 + (c.toNat - 48)) 0
    if n < limit then some n else none

def octets? (s : String) : Option (List UInt8) := do
  let parts ← (s.splitOn ".").mapM fun part =>
    if part.length > 1 && part.startsWith "0" then none else decimal? 256 part
  if parts.length = 4 then some (parts.map UInt8.ofNat) else none

def group? (s : String) : Option UInt16 := do
  if s.isEmpty || s.length > 4 then none
  else return UInt16.ofNat (← Hex.number? s.toList)

/-- Groups with colons between them; a version 4 address may stand for the last two. -/
def groups? (s : String) : Option (List UInt16) :=
  if s.isEmpty then some []
  else do
    let parts := s.splitOn ":"
    let head ← parts.dropLast.mapM group?
    let last := parts.getLastD ""
    if last.contains '.' then
      match ← octets? last with
      | [a, b, c, d] =>
        return head ++ [UInt16.ofNat (a.toNat * 256 + b.toNat),
          UInt16.ofNat (c.toNat * 256 + d.toNat)]
      | _ => none
    else return head ++ [← group? last]

def v6? (s : String) : Option (List UInt16) := do
  match s.splitOn "::" with
  | [all] =>
    let groups ← groups? all
    if groups.length = 8 then some groups else none
  | [before, after] =>
    let head ← groups? before
    let tail ← groups? after
    if before.contains '.' || head.length + tail.length > 7 then none
    else some (head ++ List.replicate (8 - head.length - tail.length) 0 ++ tail)
  | _ => none

def port? (s : String) : Option UInt16 := (decimal? 65536 s).map UInt16.ofNat

def parse? (s : String) : Option Address :=
  if s.startsWith "[" then
    match (s.toList.drop 1 |> String.ofList).splitOn "]:" with
    | [inner, port] =>
      match inner.splitOn "%" with
      | [ip] => do return .v6 (← v6? ip) 0 (← port? port)
      | [ip, scope] => do
        return .v6 (← v6? ip) (UInt32.ofNat (← decimal? 4294967296 scope)) (← port? port)
      | _ => none
    | _ => none
  else
    match s.splitOn ":" with
    | [ip, port] => do return .v4 (← octets? ip) (← port? port)
    | _ => none

end Address
end ReloadProbe
