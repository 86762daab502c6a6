import ReloadProbe.Text.Utf8

/-! Paths of files. A path is any octets; it is shown as text, lossily where it is none. -/
namespace ReloadProbe

structure Path where
  octets : Bytes
  deriving DecidableEq

namespace Path

def ofText (s : String) : Path := ⟨Utf8.encode s⟩

def display (p : Path) : String := Utf8.lossy p.octets

end Path
end ReloadProbe
