import ReloadProbe.Proofs.Text.Hex
import ReloadProbe.Text.Blank
import ReloadProbe.Text.Quoted

/-!
Texts on one line, and texts taken apart at their line feeds. Numbers, digits and quoted texts are
on one line whatever they stand for, and so is each line of any text.
-/
namespace ReloadProbe.Text

/-- The text has no line feed. -/
def OneLine (s : String) : Prop := '\n' ∉ s.toList

instance : DecidablePred OneLine := fun s => inferInstanceAs (Decidable ('\n' ∉ s.toList))

variable {a b s : String}

@[simp] theorem oneLine_append : OneLine (a ++ b) ↔ OneLine a ∧ OneLine b := by
  simp [OneLine, not_or]

@[simp] theorem oneLine_ofList {cs : List Char} : OneLine (String.ofList cs) ↔ '\n' ∉ cs := by
  rw [OneLine, String.toList_ofList]

@[simp] theorem oneLine_toString : OneLine (toString s) ↔ OneLine s := Iff.rfl

theorem digitChar_ne_lineFeed : ∀ d < 16, '\n' ≠ Nat.digitChar d := by decide

theorem lineFeed_not_mem_toDigits (n : Nat) : '\n' ∉ Nat.toDigits 10 n := by
  intro member
  obtain ⟨d, small, same⟩ := Hex.exists_digitChar (by decide) member
  exact digitChar_ne_lineFeed d (by omega) same

@[simp] theorem oneLine_nat (n : Nat) : OneLine (toString n) :=
  oneLine_ofList.mpr (lineFeed_not_mem_toDigits n)

@[simp] theorem oneLine_int (n : Int) : OneLine (toString n) := by
  cases n with
  | ofNat n => exact oneLine_nat n
  | negSucc n => exact oneLine_append.mpr ⟨by decide, oneLine_nat (n + 1)⟩

@[simp] theorem oneLine_bool (b : Bool) : OneLine (toString b) := by
  cases b <;> decide

@[simp] theorem oneLine_lower (width n : Nat) : OneLine (Hex.lower width n) := by
  intro member
  obtain ⟨d, small, same⟩ := Hex.exists_digitChar_of_mem_lower member
  exact digitChar_ne_lineFeed d small same

theorem toUpper_ne_lineFeed : ∀ d < 16, '\n' ≠ (Nat.digitChar d).toUpper := by decide

@[simp] theorem oneLine_upper (width n : Nat) : OneLine (Hex.upper width n) := by
  intro member
  rw [Hex.upper, String.toList_map, List.mem_map] at member
  obtain ⟨c, digit, same⟩ := member
  obtain ⟨d, small, rfl⟩ := Hex.exists_digitChar_of_mem_lower digit
  exact toUpper_ne_lineFeed d small same.symm

@[simp] theorem oneLine_spaced (bs : Bytes) : OneLine (Hex.spaced bs) :=
  Hex.not_mem_spaced (by decide) rfl

theorem oneLine_intercalate {parts : List String} (between : OneLine s)
    (each : ∀ part ∈ parts, OneLine part) : OneLine (s.intercalate parts) := by
  induction parts with
  | nil => exact List.not_mem_nil
  | cons part parts ih =>
    obtain ⟨first, others⟩ := List.forall_mem_cons.mp each
    cases parts with
    | nil => rwa [String.intercalate_singleton]
    | cons next parts =>
      rw [String.intercalate_cons_cons, oneLine_append, oneLine_append]
      exact ⟨⟨first, between⟩, ih others⟩

theorem lineFeed_not_mem_escape (c : Char) : '\n' ∉ Quoted.escape c := by
  unfold Quoted.escape
  split
  case h_7 _ _ feed _ _ _ =>
    have digits : '\n' ∉ Nat.toDigits 16 c.toNat := by
      intro member
      obtain ⟨d, small, same⟩ := Hex.exists_digitChar (by decide) member
      exact digitChar_ne_lineFeed d small same
    split
    · exact fun member => feed (List.mem_singleton.mp member).symm
    · simp [digits]
  all_goals decide

/-- A quoted text is on one line, whatever it holds. -/
@[simp] theorem oneLine_quote (s : String) : OneLine (Quoted.quote s) := by
  rw [Quoted.quote, oneLine_ofList]
  simp [lineFeed_not_mem_escape]

/-- The lines of a text have no line feed left. -/
theorem lineFeed_not_mem_of_mem_lines {cs line : List Char} (member : line ∈ lines cs) :
    '\n' ∉ line := by
  fun_induction lines cs generalizing line with
  | case1 => cases member
  | case2 cs ih =>
    rcases List.mem_cons.mp member with rfl | later
    · exact List.not_mem_nil
    · exact ih later
  | case3 cs ih =>
    rcases List.mem_cons.mp member with rfl | later
    · exact List.not_mem_nil
    · exact ih later
  | case4 c cs feed =>
    rw [List.mem_singleton.mp member]
    exact fun same => feed (List.mem_singleton.mp same).symm
  | case5 c cs feed _ first more found ih =>
    rw [found] at ih
    rcases List.mem_cons.mp member with rfl | later
    · have kept := ih List.mem_cons_self
      intro within
      rcases List.mem_cons.mp within with same | inside
      · exact feed same.symm
      · exact kept inside
    · exact ih (List.mem_cons_of_mem first later)

/-- A text taken apart at its line feeds. What follows the last of them is a line too. -/
def split (s : String) : List String := (s.toList.splitOn '\n').map String.ofList

theorem head?_append {lead rest : String} {c : Char} (first : lead.toList.head? = some c) :
    (lead ++ rest).toList.head? = some c := by
  rw [String.toList_append, List.head?_append, first]
  rfl

/-- Lines that were put together are found again. -/
theorem split_join {lines : List String} (each : ∀ line ∈ lines, OneLine line) :
    split (String.join (lines.map (· ++ "\n"))) = lines ++ [""] := by
  induction lines with
  | nil => rfl
  | cons line lines ih =>
    obtain ⟨first, others⟩ := List.forall_mem_cons.mp each
    have cut : (String.join ((line :: lines).map (· ++ "\n"))).toList =
        line.toList ++ '\n' :: (String.join (lines.map (· ++ "\n"))).toList := by
      simp
    rw [split, cut, List.splitOn_append_cons_self_of_not_mem first, List.map_cons,
      String.ofList_toList, List.cons_append, ← ih others, split]

theorem split_of_oneLine (short : OneLine s) : split s = [s] := by
  rw [split, List.splitOn_eq_singleton short, List.map_singleton, String.ofList_toList]

/-- A line feed ends the last line before it, and what follows it has lines of its own. -/
theorem split_append (a b : String) : split (a ++ "\n" ++ b) = split a ++ split b := by
  have cut : (a ++ "\n" ++ b).toList = a.toList ++ '\n' :: b.toList := by simp
  rw [split, cut, List.splitOn_append_cons_self, List.map_append, split, split]

theorem length_split (s : String) : (split s).length = s.toList.count '\n' + 1 := by
  rw [split, List.length_map]
  induction s.toList with
  | nil => rw [List.splitOn_nil, List.length_singleton, List.count_nil]
  | cons c cs ih =>
    rw [List.splitOn_cons_eq_if_modifyHead, List.count_cons]
    split
    · rw [List.length_cons, ih]
    · rw [List.length_modifyHead, ih, Nat.add_zero]

end ReloadProbe.Text
