/-!
The space that a buffer has. Bytes that were taken from the front leave space before those that are
kept; it is used again when that needs no more copying than was taken, and otherwise the space at
least doubles.
-/
namespace ReloadProbe.Net

def readChunk : Nat := 4096

structure Storage where
  size : Nat := readChunk
  /-- The space before the bytes that are kept. -/
  passed : Nat := 0

namespace Storage

def room (s : Storage) (kept : Nat) : Nat := s.size - s.passed - kept

def reserve (s : Storage) (kept : Nat) : Storage :=
  if readChunk ≤ s.room kept then s
  else if kept ≤ s.passed ∧ readChunk ≤ s.size - kept then { s with passed := 0 }
  else { s with size := max (2 * s.size) (s.passed + kept + readChunk) }

theorem readChunk_le_room_reserve (s : Storage) (kept : Nat) :
    readChunk ≤ (s.reserve kept).room kept := by
  unfold reserve
  split
  · assumption
  · split
    · simp only [room] at *; omega
    · simp only [room] at *; omega

def pass (s : Storage) (n : Nat) : Storage := { s with passed := s.passed + n }

end Storage
end ReloadProbe.Net
