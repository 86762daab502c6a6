import ReloadProbe.Interaction
import ReloadProbe.Path

/-!
The broker's configuration file: its four lines, and its life on a disk. A file is removed once; the
second time there is nothing to remove, and a file that was not removed goes when it is dropped.
-/
namespace ReloadProbe

def brokerConfig (perListenerSettings : Bool) (port : UInt16) (plugin : Path) : String :=
  s!"per_listener_settings {perListenerSettings}\n" ++
    s!"listener {port.toNat}\n" ++
    s!"plugin {plugin.display}\n" ++
    "allow_anonymous true\n"

structure ConfigFile where
  path : Path
  removed : Bool := false

namespace ConfigFile

inductive Call where
  /-- Writes a fresh file into a directory, or into the system's for temporary files. -/
  | write (directory : Option Path) (contents : String)
  | unlink (file : Path)

def Reply : Call → Type
  | .write _ _ => Except String Path
  | .unlink _ => Except String Unit

def disk : Interface := ⟨Call, Reply⟩

def unlink (file : Path) : Interaction disk (Except String Unit) :=
  Interaction.ask (Call.unlink file) .done

def write (directory : Option Path) (contents : String) :
    Interaction disk (Except String ConfigFile) :=
  Interaction.ask (Call.write directory contents) fun written =>
    return Except.map (fun path => { path }) written

/-- Deletes the file, and says whether there was anything to do. Whatever comes of it, the file is
not deleted again. -/
def remove (f : ConfigFile) : Interaction disk (Except String Bool × ConfigFile) := do
  if f.removed then return (.ok false, f)
  else
    let gone ← unlink f.path
    return (gone.map fun () => true, { f with removed := true })

def drop (f : ConfigFile) : Interaction disk Unit := do
  let _ ← f.remove

end ConfigFile
end ReloadProbe
