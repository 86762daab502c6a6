/-! Octet strings, and the numbers written in them most significant octet first. -/
namespace ReloadProbe

abbrev Bytes := List UInt8

namespace Bytes

def ofUInt16 (n : UInt16) : Bytes :=
  [UInt8.ofNat (n.toNat / 256), UInt8.ofNat n.toNat]

def ofUInt32 (n : UInt32) : Bytes :=
  [UInt8.ofNat (n.toNat / 16777216), UInt8.ofNat (n.toNat / 65536),
    UInt8.ofNat (n.toNat / 256), UInt8.ofNat n.toNat]

def toNat (bs : Bytes) : Nat :=
  bs.foldl (fun n b => n * 256 + b.toNat) 0

theorem toNat_ofUInt16 (n : UInt16) : UInt16.ofNat (toNat (ofUInt16 n)) = n := by
  apply UInt16.toNat_inj.mp
  have := n.toNat_lt
  simp [toNat, ofUInt16]
  omega

theorem toNat_ofUInt32 (n : UInt32) : UInt32.ofNat (toNat (ofUInt32 n)) = n := by
  apply UInt32.toNat_inj.mp
  have := n.toNat_lt
  simp [toNat, ofUInt32]
  omega

end Bytes
end ReloadProbe
