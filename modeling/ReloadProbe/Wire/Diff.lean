import ReloadProbe.Wire.Summary

/-! The octets that were expected beside those that arrived. -/
namespace ReloadProbe.Wire

structure Diff where
  expected : Bytes
  received : Bytes
  version : Version
  deriving DecidableEq

namespace Diff

/-- The first offset at which both have an octet and the octets differ. -/
def firstDifference (d : Diff) : Option Nat :=
  (d.expected.zip d.received).findIdx? fun (e, r) => e != r

def side (version : Version) (bs : Bytes) : String :=
  s!"[{Hex.spaced bs}] {Summary.describe version bs}"

def message (d : Diff) : String :=
  s!"expected {side d.version d.expected}, received {side d.version d.received}" ++
    match d.firstDifference with
    | some offset => s!" (first difference at byte {offset})"
    | none => ""

end Diff
end ReloadProbe.Wire
