import ReloadProbe.Proofs.Net.Traffic
import ReloadProbe.Run.Host

/-!
What a record of a run says: the traffic on its connections, and the reload signals that reached the
broker.
-/
namespace ReloadProbe.Host

def atLink (e : Event Net.link) : Event host := ⟨Call.net e.call, e.reply⟩

def probed (e : Event Ports.probing) : Event host := ⟨Call.probe e.call, e.reply⟩

def onDisk : Event ConfigFile.disk → Event host
  | ⟨.write directory contents, reply⟩ => ⟨Call.writeConfig directory contents, reply⟩
  | ⟨.unlink file, reply⟩ => ⟨Call.removeConfig file, reply⟩

/-- A reload signal that was delivered. -/
def reloaded : Event host := ⟨Call.signal .reload, (.ok () : Except Failure Unit)⟩

def link? : Event host → Option (Event Net.link)
  | ⟨.net call, reply⟩ => some ⟨call, reply⟩
  | _ => none

def traffic (events : List (Event host)) : List (Event Net.link) := events.filterMap link?

def isReload : Event host → Bool
  | ⟨.signal .reload, reply⟩ =>
    match (reply : Except Failure Unit) with
    | .ok _ => true
    | .error _ => false
  | _ => false

def reloads (events : List (Event host)) : Nat := events.countP isReload

variable {a b before after : List (Event host)}

@[simp] theorem traffic_nil : traffic [] = [] := rfl

@[simp] theorem traffic_append : traffic (a ++ b) = traffic a ++ traffic b :=
  List.filterMap_append

@[simp] theorem traffic_atLink (own : List (Event Net.link)) : traffic (own.map atLink) = own := by
  induction own with
  | nil => rfl
  | cons e own ih => exact congrArg (e :: ·) ih

@[simp] theorem traffic_probed (asked : List (Event Ports.probing)) :
    traffic (asked.map probed) = [] := by
  induction asked with
  | nil => rfl
  | cons e asked ih => exact ih

@[simp] theorem traffic_reloaded : traffic (reloaded :: a) = traffic a := rfl

@[simp] theorem reloads_nil : reloads [] = 0 := rfl

@[simp] theorem reloads_append : reloads (a ++ b) = reloads a + reloads b := List.countP_append

@[simp] theorem reloads_atLink (own : List (Event Net.link)) : reloads (own.map atLink) = 0 := by
  induction own with
  | nil => rfl
  | cons e own ih => exact ih

@[simp] theorem reloads_probed (asked : List (Event Ports.probing)) :
    reloads (asked.map probed) = 0 := by
  induction asked with
  | nil => rfl
  | cons e asked ih => exact ih

theorem reloads_reloaded : reloads (reloaded :: a) = reloads a + 1 :=
  List.countP_cons_of_pos rfl

theorem reloads_split :
    reloads (before ++ reloaded :: after) = reloads before + reloads after + 1 := by
  rw [reloads_append, reloads_reloaded, Nat.add_assoc]

theorem eq_reloaded {e : Event host} (h : isReload e = true) : e = reloaded := by
  obtain ⟨call, reply⟩ := e
  match call, reply with
  | .signal .reload, reply =>
    cases (reply : Except Failure Unit) with
    | ok => rfl
    | error => cases h

theorem exists_reload (h : 0 < reloads a) : ∃ before after, a = before ++ reloaded :: after := by
  obtain ⟨e, member, reload⟩ := List.countP_pos_iff.mp h
  obtain ⟨before, after, split⟩ := List.append_of_mem member
  exact ⟨before, after, eq_reloaded reload ▸ split⟩

theorem ne_split_reload (still : reloads a = 0) : a ≠ before ++ reloaded :: after := by
  rintro rfl
  rw [reloads_split] at still
  omega

/-- Events without a reload do not hold one that others do. -/
theorem split_reload_left (still : reloads a = 0) (h : a ++ b = before ++ reloaded :: after) :
    ∃ early, before = a ++ early ∧ b = early ++ reloaded :: after := by
  rcases List.append_eq_append_iff.mp h with ⟨early, hb, hr⟩ | ⟨early, ha, hr⟩
  · exact ⟨early, hb, hr⟩
  · cases early with
    | nil => exact ⟨[], by simpa using ha.symm, by simpa using hr.symm⟩
    | cons e early =>
      obtain ⟨rfl, rfl⟩ := List.cons.inj hr
      exact absurd ha (ne_split_reload still)

theorem split_reload_right (still : reloads b = 0) (h : a ++ b = before ++ reloaded :: after) :
    ∃ late, after = late ++ b ∧ a = before ++ reloaded :: late := by
  rcases List.append_eq_append_iff.mp h with ⟨early, hb, hr⟩ | ⟨early, ha, hr⟩
  · exact absurd hr (ne_split_reload still)
  · cases early with
    | nil => exact absurd (show b = [] ++ reloaded :: after from hr.symm) (ne_split_reload still)
    | cons e early =>
      obtain ⟨rfl, rfl⟩ := List.cons.inj hr
      exact ⟨early, rfl, ha⟩

end ReloadProbe.Host
