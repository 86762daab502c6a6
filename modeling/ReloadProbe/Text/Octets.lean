import ReloadProbe.Text.Utf8

/-!
Texts in which each character stands for one octet. Programs that know of no encoding work on such
texts: a length is a count of octets, and one octet is one character of a pattern.
-/
namespace ReloadProbe.Octets

def ofBytes (bs : Bytes) : String := String.ofList (bs.map fun b => Char.ofNat b.toNat)

def toBytes (s : String) : Bytes := s.toList.map fun c => UInt8.ofNat c.toNat

def ofText (s : String) : String := ofBytes (Utf8.encode s)

def toText (s : String) : String := Utf8.lossy (toBytes s)

theorem toBytes_ofBytes (bs : Bytes) : toBytes (ofBytes bs) = bs := by
  have h (b : UInt8) : UInt8.ofNat (Char.ofNat b.toNat).toNat = b := by
    have hb : b.toNat.isValidChar := Or.inl (by have := b.toNat_lt; omega)
    have kept : (Char.ofNat b.toNat).toNat = b.toNat := by
      rw [Char.ofNat, dif_pos hb]
      exact UInt32.toNat_ofNatLT ..
    rw [kept, UInt8.ofNat_toNat]
  simp [toBytes, ofBytes, List.map_map, Function.comp_def, h]

end ReloadProbe.Octets
