import ReloadProbe.Broker.ConfigFile
import ReloadProbe.CommandLine.Setup
import ReloadProbe.Proofs.Document.Json
import ReloadProbe.Proofs.Text.Utf8
import ReloadProbe.Proofs.Wire.Diff

/-!
The broker's configuration file read back. It has a line for each directive, and the flag, the port
and the path can be read from these, unless the path has a line feed: what follows that stands on a
line of its own, as a directive that nobody asked for. No check of the settings looks at the path.
-/
namespace ReloadProbe

open Text

/-- What a configuration file tells the broker. Anonymous access is always allowed. -/
structure Directives where
  perListenerSettings : Bool
  port : UInt16
  plugin : String
  deriving DecidableEq

namespace Directives

/-- What follows the name of a directive on its line. -/
def value? (name line : String) : Option String :=
  (Wire.Diff.after? name.toList line.toList).map String.ofList

def flag? : String → Option Bool
  | "true" => some true
  | "false" => some false
  | _ => none

def port? (s : String) : Option UInt16 :=
  match Json.natural? s.toList with
  | some (n, []) => if n < 65536 then some (.ofNat n) else none
  | _ => none

/-- The directives of a file that has one line for each of the four, in their order. -/
def read? (file : String) : Option Directives :=
  match split file with
  | [settings, listener, plugin, "allow_anonymous true", ""] => do
    return { perListenerSettings := ← flag? (← value? "per_listener_settings " settings)
             port := ← port? (← value? "listener " listener)
             plugin := ← value? "plugin " plugin }
  | _ => none

variable (perListenerSettings : Bool) (port : UInt16) (path : Path)

theorem value?_append (name value : String) : value? name (name ++ value) = some value := by
  rw [value?, String.toList_append, Wire.Diff.after?_append, Option.map_some, String.ofList_toList]

theorem flag?_toString (b : Bool) : flag? (toString b) = some b := by
  cases b <;> rfl

theorem port?_toString : port? (toString port.toNat) = some port := by
  have digits : (toString port.toNat).toList = Nat.toDigits 10 port.toNat ++ [] := by
    rw [List.append_nil]
    exact String.toList_ofList
  have ends : Json.Ends [] := by simp [Json.Ends]
  rw [port?, digits, Json.natural?_toDigits _ ends]
  dsimp only
  rw [if_pos port.toNat_lt, UInt16.ofNat_toNat]

/-- The lines of a file. The path has as many as it has, and the last directive ends its line. -/
theorem split_brokerConfig : split (brokerConfig perListenerSettings port path) =
    [s!"per_listener_settings {perListenerSettings}", s!"listener {port.toNat}"] ++
      split ("plugin " ++ path.display) ++ ["allow_anonymous true", ""] := by
  have settings : OneLine s!"per_listener_settings {perListenerSettings}" := by
    simp only [oneLine_append, oneLine_toString, oneLine_bool, and_true]
    decide
  have listener : OneLine s!"listener {port.toNat}" := by
    simp only [oneLine_append, oneLine_toString, oneLine_nat, and_true]
    decide
  have access : split "allow_anonymous true\n" = ["allow_anonymous true", ""] :=
    @split_join ["allow_anonymous true"] (by decide)
  have regroup (a b c d : String) : a ++ "\n" ++ (b ++ "\n") ++ (c ++ "\n") ++ d =
      a ++ "\n" ++ (b ++ "\n" ++ (c ++ "\n" ++ d)) := by
    simp only [String.append_assoc]
  calc split (brokerConfig perListenerSettings port path)
    _ = split (s!"per_listener_settings {perListenerSettings}" ++ "\n" ++
          (s!"listener {port.toNat}" ++ "\n" ++
            ("plugin " ++ path.display ++ "\n" ++ "allow_anonymous true\n"))) :=
      congrArg split (regroup _ _ _ _)
    _ = _ := by
      rw [split_append, split_append, split_append, split_of_oneLine settings,
        split_of_oneLine listener, access, List.append_assoc]
      rfl

theorem length_split_plugin :
    (split ("plugin " ++ path.display)).length = 1 + path.octets.count 10 := by
  have name : "plugin ".toList.count '\n' = 0 := by decide
  rw [length_split, String.toList_append, List.count_append, name, Path.display,
    Utf8.count_lineFeed_lossy, Nat.zero_add, Nat.add_comm]

theorem length_split_brokerConfig :
    (split (brokerConfig perListenerSettings port path)).length = 5 + path.octets.count 10 := by
  simp only [split_brokerConfig, List.length_append, length_split_plugin, List.length_cons,
    List.length_nil]
  omega

theorem oneLine_display_iff : OneLine path.display ↔ 10 ∉ path.octets := by
  rw [OneLine, ← List.count_eq_zero, Path.display, Utf8.count_lineFeed_lossy, List.count_eq_zero]

theorem read?_of_oneLine (whole : OneLine path.display) :
    read? (brokerConfig perListenerSettings port path) =
      some ⟨perListenerSettings, port, path.display⟩ := by
  have plugin : OneLine ("plugin " ++ path.display) := oneLine_append.mpr ⟨by decide, whole⟩
  rw [read?, split_brokerConfig, split_of_oneLine plugin]
  have first : value? "per_listener_settings " s!"per_listener_settings {perListenerSettings}" =
      some (toString perListenerSettings) := value?_append _ _
  have second : value? "listener " s!"listener {port.toNat}" = some (toString port.toNat) :=
    value?_append _ _
  simp only [List.cons_append, List.nil_append, first, second, value?_append, flag?_toString,
    port?_toString, Option.bind_eq_bind, Option.bind_some, Option.pure_def]

theorem read?_of_lineFeed (fed : 10 ∈ path.octets) :
    read? (brokerConfig perListenerSettings port path) = none := by
  have more := List.count_pos_iff.mpr fed
  have long := length_split_brokerConfig perListenerSettings port path
  unfold read?
  split
  · rename_i lines
    rw [lines] at long
    simp only [List.length_cons, List.length_nil] at long
    omega
  · rfl

/-- No check of the settings looks at the path of the plugin. The file has its four lines, with the
path as it is shown in the third, and a line more for each line feed of the path; it can be read
back as what it was written from if the path has none, and not at all if it has one. -/
theorem brokerConfig_read_back (s : Config.Settings) :
    { s with pluginPath := path }.validate = s.validate ∧
      split (brokerConfig perListenerSettings port path) =
        [s!"per_listener_settings {perListenerSettings}", s!"listener {port.toNat}"] ++
          split ("plugin " ++ path.display) ++ ["allow_anonymous true", ""] ∧
      (split (brokerConfig perListenerSettings port path)).length = 5 + path.octets.count 10 ∧
      read? (brokerConfig perListenerSettings port path) =
        if 10 ∈ path.octets then none else some ⟨perListenerSettings, port, path.display⟩ := by
  refine ⟨rfl, split_brokerConfig perListenerSettings port path,
    length_split_brokerConfig perListenerSettings port path, ?_⟩
  by_cases fed : 10 ∈ path.octets
  · rw [if_pos fed, read?_of_lineFeed perListenerSettings port path fed]
  · have whole := (oneLine_display_iff path).mpr fed
    rw [if_neg fed, read?_of_oneLine perListenerSettings port path whole]

/-- An argument with a line feed opens a second port. -/
theorem plugin_opens_port : ∃ o s,
    CommandLine.parse ["--plugin", "p.so\nlistener 1"] = .ok o ∧
      o.settings (fun _ => .error "") = .ok s ∧ s.validate = .ok () ∧
      split (brokerConfig false 1888 s.pluginPath) =
        ["per_listener_settings false", "listener 1888", "plugin p.so", "listener 1",
          "allow_anonymous true", ""] ∧
      read? (brokerConfig false 1888 s.pluginPath) = none := by
  refine ⟨_, _, rfl, rfl, rfl, ?_, ?_⟩
  · decide +kernel
  · exact read?_of_lineFeed false 1888 _ (by decide)

end Directives
end ReloadProbe
