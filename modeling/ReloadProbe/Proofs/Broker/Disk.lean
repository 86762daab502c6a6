import ReloadProbe.Broker.ConfigFile
import ReloadProbe.Proofs.Runs

/-!
The life of a configuration file on its disk. It is deleted by the first removal, or else when it is
dropped; whatever came of that, nothing is asked of the disk again.
-/
namespace ReloadProbe.ConfigFile

open Interaction

variable {f f' : ConfigFile} {events : List (Event disk)} {reason : String}

theorem runs_write {directory : Option Path} {contents : String} {r : Except String ConfigFile}
    (h : Runs (write directory contents) events r) :
    ∃ written : Except String Path, events = [⟨Call.write directory contents, written⟩] ∧
      r = written.map fun path => { path } := by
  obtain ⟨written, later, rfl, rest⟩ := runs_ask.mp h
  obtain ⟨rfl, rfl⟩ := runs_pure.mp rest
  exact ⟨written, rfl, rfl⟩

theorem runs_remove {r : Except String Bool} (h : Runs f.remove events (r, f')) :
    (f.removed = true ∧ events = [] ∧ r = .ok false ∧ f' = f) ∨
    (f.removed = false ∧ ∃ gone : Except String Unit, events = [⟨Call.unlink f.path, gone⟩] ∧
      r = gone.map (fun () => true) ∧ f' = { f with removed := true }) := by
  unfold remove at h
  split at h
  · rename_i before
    obtain ⟨rfl, same⟩ := runs_pure.mp h
    cases same
    exact .inl ⟨before, rfl, rfl, rfl⟩
  · rename_i still
    obtain ⟨gone, later, rfl, rest⟩ := runs_reply.mp h
    obtain ⟨rfl, same⟩ := runs_pure.mp rest
    cases same
    exact .inr ⟨by simpa using still, gone, rfl, rfl, rfl⟩

theorem runs_drop (h : Runs f.drop events ()) :
    (f.removed = true ∧ events = []) ∨
    (f.removed = false ∧ ∃ gone : Except String Unit, events = [⟨Call.unlink f.path, gone⟩]) := by
  obtain ⟨before, after, ⟨r, f'⟩, rfl, removing, rest⟩ := runs_seq.mp h
  obtain ⟨rfl, _⟩ := runs_pure.mp rest
  rw [List.append_nil]
  rcases runs_remove removing with ⟨before, rfl, _, _⟩ | ⟨still, gone, rfl, _, _⟩
  · exact .inl ⟨before, rfl⟩
  · exact .inr ⟨still, gone, rfl⟩

theorem write_safe (directory : Option Path) (contents : String) :
    (write directory contents).Safe :=
  .ask fun _ => .pure _

theorem remove_safe (f : ConfigFile) : f.remove.Safe := by
  unfold remove
  split
  · exact .pure _
  · exact .ask fun _ => .pure _

theorem drop_safe (f : ConfigFile) : f.drop.Safe :=
  f.remove_safe.seq fun _ => .pure ()

end ReloadProbe.ConfigFile
