import ReloadProbe.Broker.Arguments

/-!
Arguments beside what is promised of them: each mark that an argument has is replaced, and all else
stays as it is. The replacements come one after the other, so the second one also meets marks for
the port that the first one has brought, within the path or across its borders.
-/
namespace ReloadProbe.Config

theorem prefix_left {α : Type} {p front after : List α} {b : α} (absent : b ∉ p)
    (h : p <+: front ++ b :: after) : p <+: front := by
  induction front generalizing p with
  | nil =>
    rcases List.prefix_cons_iff.mp h with rfl | ⟨_, rfl, _⟩
    · exact List.prefix_refl _
    · exact absurd List.mem_cons_self absent
  | cons c front ih =>
    rcases List.prefix_cons_iff.mp h with rfl | ⟨p, rfl, more⟩
    · exact List.nil_prefix
    · exact List.cons_prefix_cons.mpr ⟨rfl, ih (fun b => absent (List.mem_cons_of_mem _ b)) more⟩

inductive Mark where
  | config
  | port
  deriving DecidableEq

namespace Mark

def text : Mark → List Char
  | config => configMark
  | port => portMark

def inner : Mark → List Char
  | config => "config\x7d".toList
  | port => "port\x7d".toList

/-- A brace opens a mark, and there is none after it, so two marks never overlap. -/
theorem text_eq_cons (m : Mark) : m.text = '{' :: m.inner := by
  cases m <;> rfl

theorem brace_not_mem_inner (m : Mark) : '{' ∉ m.inner := by
  cases m <;> decide

theorem count_brace_text (m : Mark) : m.text.count '{' = 1 := by
  cases m <;> decide

theorem not_prefix_cons {m : Mark} {c : Char} {rest : List Char} (other : '{' ≠ c) :
    ¬ m.text <+: c :: rest := by
  rw [m.text_eq_cons, List.cons_prefix_cons]
  exact fun front => other front.1

theorem eq_of_text_front {m m' : Mark} {rest : List Char} (h : m.text <+: m'.text ++ rest) :
    m = m' := by
  obtain ⟨left, split⟩ := h
  have second (m : Mark) (left : List Char) : (m.text ++ left)[1]? = m.inner.head? := by
    cases m <;> rfl
  have same : m.inner.head? = m'.inner.head? := by rw [← second m left, split, second]
  cases m <;> cases m' <;> first | rfl | exact absurd same (by decide)

/-- A mark that begins before another one also ends before it. -/
theorem prefix_of_prefix_append_text {m m' : Mark} {c : Char} {front after : List Char}
    (h : m.text <+: c :: front ++ (m'.text ++ after)) : m.text <+: c :: front := by
  rw [m.text_eq_cons, List.cons_append, List.cons_prefix_cons] at h
  rw [m'.text_eq_cons, List.cons_append] at h
  rw [m.text_eq_cons, List.cons_prefix_cons]
  exact ⟨h.1, prefix_left m.brace_not_mem_inner h.2⟩

/-- The mark at the front of a text. -/
def starting? (s : List Char) : Option Mark :=
  [config, port].find? fun m => m.text.isPrefixOf s

theorem starting?_eq_none {s : List Char} : starting? s = none ↔ ∀ m : Mark, ¬ m.text <+: s := by
  simp only [starting?, List.find?_eq_none, List.isPrefixOf_iff_prefix]
  refine ⟨fun h m => ?_, fun h m _ => h m⟩
  cases m <;> exact h _ (by simp)

theorem prefix_of_starting? {s : List Char} {m : Mark} (h : starting? s = some m) : m.text <+: s :=
  List.isPrefixOf_iff_prefix.mp
    (List.find?_some (p := fun m : Mark => m.text.isPrefixOf s) h)

theorem starting?_text_append (m : Mark) (rest : List Char) :
    starting? (m.text ++ rest) = some m := by
  cases h : starting? (m.text ++ rest) with
  | none => exact absurd (List.prefix_append _ _) (starting?_eq_none.mp h m)
  | some m' => rw [eq_of_text_front (prefix_of_starting? h)]

/-- A text is empty, or a mark is at its front, or a character that begins no mark. -/
@[elab_as_elim]
theorem scan {motive : List Char → Prop} (nil : motive [])
    (mark : ∀ (m : Mark) (rest : List Char), motive rest → motive (m.text ++ rest))
    (kept : ∀ (c : Char) (rest : List Char), (∀ m : Mark, ¬ m.text <+: c :: rest) → motive rest →
      motive (c :: rest))
    (s : List Char) : motive s := by
  induction h : s.length using Nat.strongRecOn generalizing s with
  | ind n ih =>
    cases s with
    | nil => exact nil
    | cons c rest =>
      cases found : starting? (c :: rest) with
      | none => exact kept c rest (starting?_eq_none.mp found) (ih _ (by simp [← h]) rest rfl)
      | some m =>
        obtain ⟨left, split⟩ := prefix_of_starting? found
        have shorter : left.length < n := by
          rw [← h, ← split, m.text_eq_cons, List.length_append, List.length_cons]
          omega
        exact split ▸ mark m left (ih _ shorter left rfl)

end Mark

/-- All marks are replaced at once: what is put for one of them is not searched for the other. -/
def substitute (put : Mark → List Char) : List Char → List Char
  | [] => []
  | c :: cs =>
    match Mark.starting? (c :: cs) with
    | some m => put m ++ substitute put (cs.drop (m.text.length - 1))
    | none => c :: substitute put cs
termination_by cs => cs.length
decreasing_by all_goals simp only [List.length_cons, List.length_drop]; omega

/-- The places of a text where a mark stands. -/
def occurrences (m : Mark) : List Char → Nat
  | [] => 0
  | c :: cs => occurrences m cs + if m.text.isPrefixOf (c :: cs) then 1 else 0

variable {put : Mark → List Char} {m : Mark} {c : Char} {s rest text : List Char}

@[simp]
theorem substitute_nil : substitute put [] = [] := by rw [substitute]

@[simp]
theorem substitute_text_append :
    substitute put (m.text ++ rest) = put m ++ substitute put rest := by
  have found := m.starting?_text_append rest
  rw [m.text_eq_cons, List.cons_append] at found ⊢
  rw [substitute, found]
  simp [m.text_eq_cons]

theorem substitute_cons (unmarked : ∀ m : Mark, ¬ m.text <+: c :: rest) :
    substitute put (c :: rest) = c :: substitute put rest := by
  rw [substitute, Mark.starting?_eq_none.mpr unmarked]

/-- A mark is replaced wherever it stands. -/
theorem substitute_append_text_append (before after : List Char) :
    substitute put (before ++ m.text ++ after) =
      substitute put before ++ put m ++ substitute put after := by
  induction before using Mark.scan with
  | nil => simp
  | mark m' before ih =>
    simp only [List.append_assoc, substitute_text_append] at ih ⊢
    rw [ih]
  | kept c before unmarked ih =>
    have still (m' : Mark) : ¬ m'.text <+: c :: (before ++ m.text ++ after) := by
      rw [List.append_assoc]
      exact fun stands => unmarked m' (Mark.prefix_of_prefix_append_text stands)
    simp only [List.cons_append, substitute_cons unmarked, substitute_cons still, ih]

/-- Where no mark stands, nothing is replaced. -/
theorem substitute_eq_self (unmarked : ∀ m : Mark, ¬ m.text <:+: s) : substitute put s = s := by
  induction s using Mark.scan with
  | nil => exact substitute_nil
  | mark m rest _ => exact absurd (List.prefix_append _ _).isInfix (unmarked m)
  | kept c rest front ih =>
    rw [substitute_cons front, ih fun m within => unmarked m (List.infix_cons_iff.mpr (.inr within))]

section Replace

@[simp]
theorem replace_nil : replace m.text text [] = [] := by rw [replace]

theorem replace_text_append :
    replace m.text text (m.text ++ rest) = text ++ replace m.text text rest := by
  have front : m.text.isPrefixOf (m.text ++ rest) = true :=
    List.isPrefixOf_iff_prefix.mpr (List.prefix_append _ _)
  rw [m.text_eq_cons, List.cons_append] at front ⊢
  rw [replace, if_pos front]
  simp

theorem replace_cons (unmarked : ¬ m.text <+: c :: rest) :
    replace m.text text (c :: rest) = c :: replace m.text text rest := by
  rw [replace, if_neg (by rwa [List.isPrefixOf_iff_prefix])]

theorem replace_append (absent : '{' ∉ s) :
    replace m.text text (s ++ rest) = s ++ replace m.text text rest := by
  induction s with
  | nil => rfl
  | cons c s ih =>
    rw [List.mem_cons, not_or] at absent
    rw [List.cons_append, List.cons_append, replace_cons (Mark.not_prefix_cons absent.1),
      ih absent.2]

/-- A replacement puts a text for its own mark and leaves the other mark as it is. -/
theorem replace_eq_substitute :
    replace m.text text s = substitute (fun m' => if m' = m then text else m'.text) s := by
  induction s using Mark.scan with
  | nil => rw [replace_nil, substitute_nil]
  | mark m' rest ih =>
    rw [substitute_text_append, ← ih]
    split
    · subst m'
      exact replace_text_append
    · rename_i other
      have front : ¬ m.text <+: m'.text ++ rest := fun h => other (Mark.eq_of_text_front h).symm
      rw [m'.text_eq_cons, List.cons_append] at front ⊢
      rw [replace_cons front, replace_append m'.brace_not_mem_inner, List.cons_append]
  | kept c rest unmarked ih => rw [replace_cons (unmarked m), substitute_cons unmarked, ih]

end Replace

section Occurrences

theorem occurrences_cons (unmarked : ¬ m.text <+: c :: rest) :
    occurrences m (c :: rest) = occurrences m rest := by
  rw [occurrences, if_neg (by rwa [List.isPrefixOf_iff_prefix]), Nat.add_zero]

theorem occurrences_le_append : occurrences m rest ≤ occurrences m (s ++ rest) := by
  induction s with
  | nil => exact Nat.le_refl _
  | cons c s ih => exact Nat.le_trans ih (Nat.le_add_right _ _)

theorem occurrences_append (absent : '{' ∉ s) :
    occurrences m (s ++ rest) = occurrences m rest := by
  induction s with
  | nil => rfl
  | cons c s ih =>
    rw [List.mem_cons, not_or] at absent
    rw [List.cons_append, occurrences_cons (Mark.not_prefix_cons absent.1), ih absent.2]

theorem occurrences_text_append {m' : Mark} :
    occurrences m (m'.text ++ rest) = occurrences m rest + if m' = m then 1 else 0 := by
  have front : m.text.isPrefixOf (m'.text ++ rest) = decide (m' = m) := by
    rw [Bool.eq_iff_iff, List.isPrefixOf_iff_prefix, decide_eq_true_eq]
    refine ⟨fun h => (Mark.eq_of_text_front h).symm, ?_⟩
    rintro rfl
    exact List.prefix_append _ _
  rw [m'.text_eq_cons, List.cons_append] at front ⊢
  rw [occurrences, front, occurrences_append m'.brace_not_mem_inner]
  simp only [decide_eq_true_eq]

/-- Every mark has one brace that opens it, so the opening braces tell how often a mark was put. -/
theorem count_brace_substitute (put : Mark → List Char) (s : List Char) :
    (substitute put s).count '{' + occurrences .config s + occurrences .port s =
      s.count '{' + occurrences .config s * (put .config).count '{' +
        occurrences .port s * (put .port).count '{' := by
  induction s using Mark.scan with
  | nil => simp [occurrences]
  | mark m rest ih =>
    cases m <;>
      simp only [substitute_text_append, List.count_append, Mark.count_brace_text,
        occurrences_text_append, Nat.add_mul, reduceCtorEq, if_true, if_false] <;>
      omega
  | kept c rest unmarked ih =>
    simp only [substitute_cons unmarked, occurrences_cons (unmarked _), List.count_cons]
    omega

/-- What stands before the first mark that is met stays as it is. -/
theorem replace_append_of_occurrences (h : occurrences m (s ++ rest) = occurrences m rest) :
    replace m.text text (s ++ rest) = s ++ replace m.text text rest := by
  induction s with
  | nil => rfl
  | cons c s ih =>
    have fewer : occurrences m rest ≤ occurrences m (s ++ rest) := occurrences_le_append
    rw [List.cons_append] at h ⊢
    rw [occurrences] at h
    have other : ¬ m.text <+: c :: (s ++ rest) := by
      intro front
      rw [if_pos (List.isPrefixOf_iff_prefix.mpr front)] at h
      omega
    rw [replace_cons other, ih (by omega), List.cons_append]

end Occurrences

/-- What is put for each mark. -/
def given (path number : List Char) : Mark → List Char
  | .config => path
  | .port => number

variable {path number : List Char}

theorem replace_config_eq :
    replace Mark.config.text path s = substitute (given path Mark.port.text) s := by
  rw [replace_eq_substitute]
  congr 1
  funext m
  cases m <;> rfl

theorem replace_port_eq :
    replace Mark.port.text number s = substitute (given Mark.config.text number) s := by
  rw [replace_eq_substitute]
  congr 1
  funext m
  cases m <;> rfl

theorem occurrences_le_replace :
    occurrences .port s ≤ occurrences .port (replace Mark.config.text path s) := by
  rw [replace_config_eq]
  induction s using Mark.scan with
  | nil => exact Nat.zero_le _
  | mark m rest ih =>
    rw [substitute_text_append, occurrences_text_append]
    cases m with
    | config => exact Nat.le_trans ih occurrences_le_append
    | port =>
      rw [given, occurrences_text_append]
      exact Nat.add_le_add_right ih _
  | kept c rest unmarked ih =>
    rw [substitute_cons unmarked, occurrences_cons (unmarked _)]
    exact Nat.le_trans ih (occurrences_le_append (s := [c]))

/-- Where the front of a text adds no mark for the port, on its own or with what follows, the path
adds none after it, and the front stays as it is. -/
theorem replace_append_of_same (number : List Char)
    (h : occurrences .port (s ++ replace Mark.config.text path rest) = occurrences .port rest) :
    occurrences .port (replace Mark.config.text path rest) = occurrences .port rest ∧
      replace Mark.port.text number (s ++ replace Mark.config.text path rest) =
        s ++ replace Mark.port.text number (replace Mark.config.text path rest) := by
  have fewer : occurrences .port (replace Mark.config.text path rest) ≤
      occurrences .port (s ++ replace Mark.config.text path rest) := occurrences_le_append
  have same : occurrences .port (replace Mark.config.text path rest) = occurrences .port rest :=
    Nat.le_antisymm (Nat.le_trans fewer (Nat.le_of_eq h)) occurrences_le_replace
  exact ⟨same, replace_append_of_occurrences (h.trans same.symm)⟩

/-- One replacement after the other is a substitution at once if the first one brings no mark for
the second one. -/
theorem replace_replace
    (h : occurrences .port (replace Mark.config.text path s) = occurrences .port s) :
    replace Mark.port.text number (replace Mark.config.text path s) =
      substitute (given path number) s := by
  induction s using Mark.scan with
  | nil => simp only [replace_nil, substitute_nil]
  | mark m rest ih =>
    cases m with
    | config =>
      -- Counts only grow to the left, so equal counts leave no mark that starts in the path.
      rw [replace_text_append, occurrences_text_append] at h
      obtain ⟨same, front⟩ := replace_append_of_same number h
      rw [replace_text_append, front, ih same, substitute_text_append, given]
    | port =>
      rw [replace_config_eq, substitute_text_append, ← replace_config_eq, given] at h ⊢
      rw [occurrences_text_append, occurrences_text_append] at h
      rw [replace_text_append, ih (Nat.add_right_cancel h), substitute_text_append, given]
  | kept c rest unmarked ih =>
    rw [replace_cons (unmarked _), occurrences_cons (unmarked _)] at h
    obtain ⟨same, front⟩ := replace_append_of_same (s := [c]) number h
    rw [replace_cons (unmarked _), substitute_cons unmarked, ← ih same]
    exact front

/-- And only then: a mark that was brought is replaced as well, and its brace is gone. -/
theorem replace_replace_iff (plain : '{' ∉ number) :
    replace Mark.port.text number (replace Mark.config.text path s) =
        substitute (given path number) s ↔
      occurrences .port (replace Mark.config.text path s) = occurrences .port s := by
  refine ⟨fun same => ?_, replace_replace⟩
  -- The port has no brace, so each mark that the second replacement met is one brace less.
  have once := count_brace_substitute (given path Mark.port.text) s
  have twice := count_brace_substitute (given Mark.config.text number)
    (replace Mark.config.text path s)
  have both := count_brace_substitute (given path number) s
  rw [← replace_config_eq] at once
  rw [← replace_port_eq, same] at twice
  simp only [given, Mark.count_brace_text, List.count_eq_zero.mpr plain] at once twice both
  omega

/-- No end of the mark for the port comes to be at the front of a text, if the path has no brace and
a character that the mark does not have. -/
theorem prefix_of_prefix_replace {p : List Char} (closed : '\x7d' ∉ path)
    (foreign : ∃ ch ∈ path, ch ∉ Mark.port.text) (tail : p <:+ Mark.port.inner)
    (h : p <+: replace Mark.config.text path s) : p <+: s := by
  rw [replace_config_eq] at h
  have within : ∀ ch ∈ p, ch ∈ Mark.port.inner := fun _ here => tail.subset here
  induction s using Mark.scan generalizing p with
  | nil => rwa [substitute_nil] at h
  | mark m rest ih =>
    rw [substitute_text_append] at h
    cases m with
    | config =>
      -- Either `p` ends within the path, and its brace is there, or it goes past the whole path.
      rcases List.prefix_or_prefix_of_prefix h (List.prefix_append _ _) with inside | past
      · rcases List.suffix_concat_iff.mp (show p <:+ "port".toList ++ ['\x7d'] from tail) with
          rfl | ⟨front, rfl, _⟩
        · exact List.nil_prefix
        · exact absurd (inside.subset (by simp)) closed
      · obtain ⟨ch, here, other⟩ := foreign
        rw [Mark.text_eq_cons] at other
        exact absurd (List.mem_cons_of_mem _ (within ch (past.subset here))) other
    | port =>
      rw [given, Mark.text_eq_cons] at h
      have empty : p <+: [] := prefix_left (fun b => Mark.port.brace_not_mem_inner (within _ b)) h
      rw [List.prefix_nil.mp empty]
      exact List.nil_prefix
  | kept c rest unmarked ih =>
    rw [substitute_cons unmarked] at h
    rcases List.prefix_cons_iff.mp h with rfl | ⟨p, rfl, more⟩
    · exact List.nil_prefix
    · exact List.cons_prefix_cons.mpr ⟨rfl, ih ((List.suffix_cons _ _).trans tail) more
        fun ch here => within ch (List.mem_cons_of_mem _ here)⟩

theorem occurrences_replace (opened : '{' ∉ path) (closed : '\x7d' ∉ path)
    (foreign : ∃ ch ∈ path, ch ∉ Mark.port.text) :
    occurrences .port (replace Mark.config.text path s) = occurrences .port s := by
  induction s using Mark.scan with
  | nil => rw [replace_nil]
  | mark m rest ih =>
    cases m with
    | config =>
      rw [replace_text_append, occurrences_append opened, ih, occurrences_text_append]
      rfl
    | port =>
      rw [replace_config_eq, substitute_text_append, ← replace_config_eq, given,
        occurrences_text_append, occurrences_text_append, ih]
  | kept c rest unmarked ih =>
    have still : ¬ Mark.port.text <+: c :: replace Mark.config.text path rest := by
      intro front
      rw [Mark.text_eq_cons, List.cons_prefix_cons] at front
      refine unmarked .port ?_
      rw [Mark.text_eq_cons, List.cons_prefix_cons]
      exact ⟨front.1, prefix_of_prefix_replace closed foreign (List.suffix_refl _) front.2⟩
    rw [replace_cons (unmarked _), occurrences_cons still, occurrences_cons (unmarked _), ih]

namespace BrokerCommand

/-- The arguments with the path and the port put for the marks that they have. -/
def substituteArgs (c : BrokerCommand) (config : Path) (port : UInt16) : List String :=
  c.args.map fun arg =>
    String.ofList
      (substitute (given config.display.toList (toString port.toNat).toList) arg.toList)

theorem brace_not_mem_toString (n : Nat) : '{' ∉ (toString n).toList := by
  intro h
  rw [Nat.toString_eq_repr, Nat.toList_repr] at h
  exact absurd (Nat.isDigit_of_mem_toDigits (by decide) (by decide) h) (by decide)

/-- The arguments have the path and the port put for their marks, and nothing else altered, exactly
if no argument has more marks for the port once the path is in it. A path without braces that has
some character which the mark for the port does not have brings none, whatever the arguments are. -/
theorem renderArgs_eq_substituteArgs_iff (c : BrokerCommand) (config : Path) (port : UInt16) :
    (c.renderArgs config port = c.substituteArgs config port ↔
      ∀ arg ∈ c.args,
        occurrences .port (replace configMark config.display.toList arg.toList) =
          occurrences .port arg.toList) ∧
    ('{' ∉ config.display.toList → '\x7d' ∉ config.display.toList →
      (∃ ch ∈ config.display.toList, ch ∉ portMark) →
      c.renderArgs config port = c.substituteArgs config port) := by
  have each : c.renderArgs config port = c.substituteArgs config port ↔
      ∀ arg ∈ c.args,
        occurrences .port (replace configMark config.display.toList arg.toList) =
          occurrences .port arg.toList := by
    rw [renderArgs, substituteArgs, List.map_inj_left]
    simp only [String.ofList_inj]
    exact forall₂_congr fun arg _ => replace_replace_iff (brace_not_mem_toString _)
  exact ⟨each, fun opened closed foreign =>
    each.mpr fun arg _ => occurrences_replace opened closed foreign⟩

theorem renderArgs_eq_substituteArgs_iff_temporary :
    renderArgs { args := ["-v", "\x7bconfig\x7d", "--port=\x7bport\x7d"] }
        (Path.ofText "/tmp/a.conf") 1888 = ["-v", "/tmp/a.conf", "--port=1888"] ∧
      substituteArgs { args := ["-v", "\x7bconfig\x7d", "--port=\x7bport\x7d"] }
        (Path.ofText "/tmp/a.conf") 1888 = ["-v", "/tmp/a.conf", "--port=1888"] := by
  have shown : (Path.ofText "/tmp/a.conf").display.toList = "/tmp/a.conf".toList := by decide +kernel
  have same := (renderArgs_eq_substituteArgs_iff
    { args := ["-v", "\x7bconfig\x7d", "--port=\x7bport\x7d"] } (Path.ofText "/tmp/a.conf") 1888).2
    (by rw [shown]; decide) (by rw [shown]; decide)
    ⟨'.', by rw [shown]; decide, by decide⟩
  have rendered : renderArgs { args := ["-v", "\x7bconfig\x7d", "--port=\x7bport\x7d"] }
      (Path.ofText "/tmp/a.conf") 1888 = ["-v", "/tmp/a.conf", "--port=1888"] := by decide +kernel
  exact ⟨rendered, same.symm.trans rendered⟩

/-- A mark within the path is replaced as if the argument had it. -/
theorem renderArgs_ne_substituteArgs :
    ¬ ∀ (c : BrokerCommand) (config : Path) (port : UInt16),
      c.renderArgs config port = c.substituteArgs config port := by
  intro claim
  have same := claim { args := ["-c", "\x7bconfig\x7d"] }
    (Path.ofText "/tmp/\x7bport\x7d/plugin-reload-x.conf") 1888
  have rendered : renderArgs { args := ["-c", "\x7bconfig\x7d"] }
      (Path.ofText "/tmp/\x7bport\x7d/plugin-reload-x.conf") 1888 =
      ["-c", "/tmp/1888/plugin-reload-x.conf"] := by decide +kernel
  have wanted : substituteArgs { args := ["-c", "\x7bconfig\x7d"] }
      (Path.ofText "/tmp/\x7bport\x7d/plugin-reload-x.conf") 1888 =
      ["-c", "/tmp/\x7bport\x7d/plugin-reload-x.conf"] := by decide +kernel
  rw [rendered, wanted] at same
  exact absurd same (by decide)

end BrokerCommand

end ReloadProbe.Config
