import Mathlib.Data.List.Forall2
import ReloadProbe.Proofs.Document.Json
import ReloadProbe.Proofs.Wire.Diff
import ReloadProbe.Run.Report

/-!
The verdicts of a report. In its text each stands on a line of its own, after a bracket, and no
other line begins with one, whatever a broker wrote to its standard error. In its document for
machines, read back, the same verdicts stand in the same order.
-/
namespace ReloadProbe

open Text

/-! What is on one line. -/

theorem Duration.oneLine_fractionText (places n : Nat) :
    OneLine (Duration.fractionText places n) := by
  unfold Duration.fractionText
  dsimp only
  split
  · decide
  · rw [oneLine_ofList, List.mem_cons, List.mem_reverse]
    rintro (same | member)
    · cases same
    · have padded := List.mem_reverse.mp ((List.dropWhile_sublist _).subset member)
      rcases List.mem_append.mp padded with zero | digit
      · cases (List.mem_replicate.mp zero).2
      · exact lineFeed_not_mem_toDigits n digit

theorem Duration.oneLine_brief (d : Duration) : OneLine d.brief := by
  unfold Duration.brief
  repeat' split
  all_goals
    simp only [oneLine_append, oneLine_toString, oneLine_nat, Duration.oneLine_fractionText,
      and_true, true_and]
    decide

theorem Duration.oneLine_secondsText (d : Duration) : OneLine d.secondsText := by
  unfold Duration.secondsText
  simp only [oneLine_append, oneLine_toString, oneLine_nat, and_true, true_and]
  decide

theorem Stage.oneLine_name (stage : Stage) : OneLine stage.name := by
  cases stage <;> decide

theorem ExitState.oneLine_message (exit : ExitState) : OneLine exit.message := by
  unfold ExitState.message
  split
  case h_3 => decide
  all_goals
    simp only [oneLine_append, oneLine_toString, oneLine_int, and_true]
    decide

theorem Mismatch.oneLine_message (reason : Mismatch) : OneLine reason.message := by
  cases reason <;> decide

namespace Failure

theorem oneLine_kind (e : Failure) : OneLine e.kind := by
  unfold kind
  split <;> decide

theorem oneLine_handshakeMismatch (reason : Mismatch) (diff : Wire.Diff) :
    OneLine (handshakeMismatch reason diff).message := by
  unfold message
  simp only [oneLine_append, oneLine_toString, reason.oneLine_message, diff.oneLine_message,
    and_true]
  decide

theorem oneLine_handshakeTimeout (timeout : Duration) (diff : Wire.Diff) :
    OneLine (handshakeTimeout timeout diff).message := by
  unfold message
  simp only [oneLine_append, oneLine_toString, timeout.oneLine_brief, diff.oneLine_message,
    and_true]
  decide

theorem oneLine_unexpectedMessage {label : String} (short : OneLine label) (reason : Mismatch)
    (diff : Wire.Diff) : OneLine (unexpectedMessage label reason diff).message := by
  unfold message
  simp only [oneLine_append, oneLine_toString, short, reason.oneLine_message, diff.oneLine_message,
    and_true]
  decide

end Failure

/-! Verdicts, and how a line or a document states them. -/

/-- The value of a field. -/
def Value.member? (v : Value) (name : String) : Option Value :=
  match v with
  | .table fields => fields.lookup name
  | _ => none

inductive Verdict where
  | passed
  | failed
  | skipped
  deriving DecidableEq

namespace Verdict

def marker : Verdict → String
  | passed => "PASS"
  | failed => "FAIL"
  | skipped => "SKIP"

/-- How a line begins that states a verdict on a variant. -/
def opening (v : Verdict) (variant : Bool) : String :=
  s!"[{v.marker}] per_listener_settings={variant}"

def all : List (Verdict × Bool) :=
  [(passed, false), (passed, true), (failed, false), (failed, true), (skipped, false),
    (skipped, true)]

/-- The verdict that a line states, and the variant that it is on. -/
def ofLine? (line : String) : Option (Verdict × Bool) :=
  all.find? fun (v, variant) => (v.opening variant).toList.isPrefixOf line.toList

theorem oneLine_opening (v : Verdict) (variant : Bool) : OneLine (v.opening variant) := by
  have marker : OneLine v.marker := by
    cases v <;> decide
  unfold opening
  simp only [oneLine_append, oneLine_toString, marker, oneLine_bool, and_true]
  decide

theorem head?_opening (v : Verdict) (variant : Bool) :
    (v.opening variant).toList.head? = some '[' := by
  unfold opening
  iterate 3 apply head?_append
  decide

/-- No line has more than one reading. -/
theorem ofLine?_opening (v : Verdict) (variant : Bool) (more : String) :
    ofLine? (v.opening variant ++ more) = some (v, variant) := by
  unfold ofLine?
  rw [String.toList_append]
  cases v <;> cases variant <;> rfl

def ofRow? (row : Value) : Option (Verdict × Bool) :=
  match row.member? "passed", row.member? "per_listener_settings" with
  | some (.bool good), some (.bool variant) => some (if good then passed else failed, variant)
  | _, _ => none

def ofSkip? : Value → Option (Verdict × Bool)
  | .bool variant => some (skipped, variant)
  | _ => none

/-- The verdicts that a document states. -/
def ofDocument? (doc : Value) : Option (List (Verdict × Bool)) :=
  match doc.member? "scenarios", doc.member? "skipped" with
  | some (.list rows), some (.list skips) => do
    return (← rows.mapM ofRow?) ++ (← skips.mapM ofSkip?)
  | _, _ => none

end Verdict

def Outcome.verdict (o : Outcome) : Verdict :=
  match o.result with
  | .ok () => .passed
  | .error _ => .failed

namespace Report

def verdicts (r : Report) : List (Verdict × Bool) :=
  r.outcomes.map (fun o => (o.verdict, o.perListenerSettings)) ++ r.skipped.map (Prod.mk .skipped)

/-- The number of variants that a verdict was reached on. -/
def count (r : Report) (v : Verdict) : Nat := (r.verdicts.map Prod.fst).count v

/-- The lines of a text that begin with a bracket. -/
def bracketed (text : String) : List String :=
  (split text).filter fun line => line.toList.head? = some '['

end Report

/-! The text. -/

namespace Outcome

theorem verdict_eq (o : Outcome) : o.verdict = if o.passed then .passed else .failed := by
  unfold passed failure? verdict
  cases o.result <;> rfl

theorem marker_verdict (o : Outcome) :
    o.verdict.marker = if o.passed then "PASS" else "FAIL" := by
  rw [verdict_eq]
  cases o.passed <;> rfl

def portText (o : Outcome) : String :=
  match o.scenario with
  | some s => toString s.port.toNat
  | none => "-"

theorem headline_eq (o : Outcome) :
    o.headline = o.verdict.opening o.perListenerSettings ++
      (s!" port={o.portText} " ++ s!"({o.elapsed.secondsText}s) run={o.id}") := by
  unfold headline Verdict.opening
  rw [o.marker_verdict]
  simp only [String.append_assoc]
  rfl

theorem oneLine_headline {o : Outcome} (short : OneLine o.id) : OneLine o.headline := by
  have opening := o.verdict.oneLine_opening o.perListenerSettings
  have port : OneLine o.portText := by
    unfold portText
    split
    · exact oneLine_nat _
    · decide
  rw [headline_eq]
  simp only [oneLine_append, oneLine_toString, opening, port, o.elapsed.oneLine_secondsText, short,
    and_true, true_and]
  decide

theorem ofLine?_headline (o : Outcome) :
    Verdict.ofLine? o.headline = some (o.verdict, o.perListenerSettings) := by
  rw [headline_eq, Verdict.ofLine?_opening]

/-- A line that is set in below a verdict. -/
structure Detail (line : String) : Prop where
  oneLine : OneLine line
  blank : line.toList.head? = some ' '

theorem Detail.append {lead rest : String} (blank : Detail lead) (short : OneLine rest) :
    Detail (lead ++ rest) where
  oneLine := oneLine_append.mpr ⟨blank.oneLine, short⟩
  blank := head?_append blank.blank

theorem detail_outputLines {output : Output} {line : String} (member : line ∈ outputLines output) :
    Detail line := by
  unfold outputLines at member
  dsimp only at member
  rcases List.mem_append.mp member with ended | wrote
  · obtain ⟨exit, -, rfl⟩ := List.mem_map.mp (Option.toList_map .. ▸ ended)
    exact Detail.append ⟨by decide, rfl⟩ exit.oneLine_message
  · split at wrote
    · rw [List.mem_singleton.mp wrote]
      exact ⟨by decide, rfl⟩
    · rcases List.mem_cons.mp wrote with rfl | within
      · exact ⟨by decide, rfl⟩
      · obtain ⟨written, among, rfl⟩ := List.mem_map.mp within
        obtain ⟨cs, line, rfl⟩ := List.mem_map.mp among
        have short := lineFeed_not_mem_of_mem_lines line
        exact Detail.append ⟨by decide, rfl⟩ (oneLine_ofList.mpr short)

theorem detail_details {o : Outcome} (short : ∀ e, o.result = .error e → OneLine e.message)
    {line : String} (member : line ∈ o.details) : Detail line := by
  unfold details at member
  split at member
  · cases member
  · rename_i e failed
    have failed : o.result = .error e := by
      unfold failure? at failed
      split at failed
      · cases failed
      · rename_i result
        rw [result, Option.some.inj failed]
    rcases List.mem_append.mp member with told | left
    · rcases List.mem_cons.mp told with rfl | told
      · exact Detail.append ⟨by decide, rfl⟩ o.reached.oneLine_name
      · rw [List.mem_singleton.mp told]
        exact Detail.append (Detail.append (Detail.append ⟨by decide, rfl⟩ e.oneLine_kind)
          (by decide)) (short e failed)
    · split at left
      · exact detail_outputLines left
      · cases left

end Outcome

namespace Report

/-- What goes into a line of a report is on one line: the ids of its runs, which are letters and
digits, and what is said of each failure. -/
structure OnOneLine (r : Report) : Prop where
  ids : ∀ o ∈ r.outcomes, OneLine o.id
  errors : ∀ o ∈ r.outcomes, ∀ e, o.result = .error e → OneLine e.message

variable {r : Report}

theorem oneLine_header (r : Report) : OneLine r.header := by
  unfold header
  simp only [oneLine_append, oneLine_toString, oneLine_nat, and_true, true_and]
  decide

theorem head?_header (r : Report) : r.header.toList.head? = some 'P' := by
  unfold header
  iterate 5 apply head?_append
  decide

theorem oneLine_lines (short : r.OnOneLine) : ∀ line ∈ r.lines, OneLine line := by
  intro line member
  rcases List.mem_cons.mp member with rfl | member
  · exact r.oneLine_header
  rcases List.mem_append.mp member with ran | left
  · obtain ⟨o, among, member⟩ := List.mem_flatMap.mp ran
    rcases List.mem_cons.mp member with rfl | member
    · exact Outcome.oneLine_headline (short.ids o among)
    · exact (Outcome.detail_details (short.errors o among) member).oneLine
  · obtain ⟨variant, -, rfl⟩ := List.mem_map.mp left
    exact oneLine_append.mpr ⟨by decide, oneLine_bool variant⟩

theorem split_text (short : r.OnOneLine) : split r.text = r.lines ++ [""] :=
  split_join (oneLine_lines short)

theorem skip_eq (variant : Bool) :
    s!"[SKIP] per_listener_settings={variant}" = Verdict.skipped.opening variant := by
  have lead : "[SKIP] per_listener_settings=" = "[" ++ "SKIP" ++ "] per_listener_settings=" := by
    decide
  exact congrArg (· ++ toString variant) lead

/-- The lines that begin with a bracket are the verdicts. -/
theorem bracketed_text (short : r.OnOneLine) :
    bracketed r.text = r.outcomes.map Outcome.headline ++
      r.skipped.map Verdict.skipped.opening := by
  let brackets (line : String) : Bool := line.toList.head? = some '['
  have header : brackets r.header = false := by simp [brackets, r.head?_header]
  have outcome : ∀ o ∈ r.outcomes, (o.headline :: o.details).filter brackets = [o.headline] := by
    intro o among
    have first : brackets o.headline = true := by
      rw [Outcome.headline_eq]
      exact decide_eq_true (head?_append (o.verdict.head?_opening o.perListenerSettings))
    have others : o.details.filter brackets = [] := by
      refine List.filter_eq_nil_iff.mpr fun line member => ?_
      have blank := (Outcome.detail_details (short.errors o among) member).blank
      simp [brackets, blank]
    rw [List.filter_cons_of_pos first, others]
  have skips : (r.skipped.map Verdict.skipped.opening).filter brackets =
      r.skipped.map Verdict.skipped.opening := by
    refine List.filter_eq_self.mpr fun line member => ?_
    obtain ⟨variant, -, rfl⟩ := List.mem_map.mp member
    exact decide_eq_true (Verdict.skipped.head?_opening variant)
  -- Of the lines of an outcome only the headline stays, so the lists of one join to a map.
  have ran : (r.outcomes.flatMap fun o => (o.headline :: o.details)).filter brackets =
      r.outcomes.map Outcome.headline := by
    rw [List.filter_flatMap, List.flatMap_congr outcome, List.map_eq_flatMap]
  have last : [""].filter brackets = [] := rfl
  show (split r.text).filter brackets = _
  simp only [split_text short, lines, skip_eq]
  rw [List.filter_append, List.filter_append, List.filter_cons_of_neg (by simp [header]), ran,
    skips, last, List.append_nil]

theorem ofLine?_bracketed (short : r.OnOneLine) :
    (bracketed r.text).map Verdict.ofLine? = r.verdicts.map some := by
  have skip (variant : Bool) :
      Verdict.ofLine? (Verdict.skipped.opening variant) = some (.skipped, variant) := by
    simpa using Verdict.ofLine?_opening .skipped variant ""
  rw [bracketed_text short, verdicts]
  simp [Function.comp_def, Outcome.ofLine?_headline, skip]

/-! The counts. -/

theorem map_fst_verdicts (r : Report) :
    r.verdicts.map Prod.fst = r.outcomes.map Outcome.verdict ++
      List.replicate r.skipped.length .skipped := by
  simp [verdicts, Function.comp_def, List.map_const']

theorem count_eq (r : Report) (v : Verdict) :
    r.count v = r.outcomes.countP (fun o => o.verdict == v) +
      if v = .skipped then r.skipped.length else 0 := by
  rw [count, map_fst_verdicts, List.count_append, List.count_eq_countP, List.countP_map,
    List.count_replicate]
  cases v <;> rfl

theorem count_passed (r : Report) : r.count .passed = r.outcomes.countP Outcome.passed := by
  rw [count_eq, if_neg (by decide), Nat.add_zero]
  refine List.countP_congr fun o _ => ?_
  rw [o.verdict_eq]
  cases o.passed <;> decide

theorem count_failed (r : Report) : r.count .failed = r.failed := by
  rw [count_eq, if_neg (by decide), Nat.add_zero, failed]
  refine List.countP_congr fun o _ => ?_
  rw [o.verdict_eq]
  cases o.passed <;> decide

theorem count_skipped (r : Report) : r.count .skipped = r.skipped.length := by
  have ran : r.outcomes.countP (fun o => o.verdict == .skipped) = 0 := by
    refine List.countP_eq_zero.mpr fun o _ => ?_
    rw [o.verdict_eq]
    cases o.passed <;> decide
  rw [count_eq, if_pos rfl, ran, Nat.zero_add]

theorem count_passed_add (r : Report) : r.count .passed + r.count .failed = r.outcomes.length := by
  rw [count_passed, count_failed, failed, List.length_eq_countP_add_countP Outcome.passed]
  simp

theorem header_eq (r : Report) : r.header =
    s!"Plugin reload conformance: {r.count .passed} passed, {r.count .failed} failed, " ++
      s!"{r.count .skipped} skipped" := by
  have passed : r.outcomes.length - r.failed = r.count .passed := by
    rw [← r.count_passed_add, r.count_failed, Nat.add_sub_cancel]
  unfold header
  rw [passed, r.count_failed, r.count_skipped]

/-! The document. -/

end Report

namespace Outcome

theorem ofRow?_toValue (o : Outcome) :
    Verdict.ofRow? o.toValue = some (o.verdict, o.perListenerSettings) := by
  have passed : o.toValue.member? "passed" = some (.bool o.passed) := rfl
  have variant : o.toValue.member? "per_listener_settings" =
      some (.bool o.perListenerSettings) := rfl
  rw [Verdict.ofRow?, passed, variant, verdict_eq]

theorem member?_stderr (o : Outcome) :
    o.toValue.member? "broker_stderr" = match o.result, o.output with
      | .error _, some output => some (.text (Utf8.lossy output.stderr))
      | _, _ => none := by
  show List.lookup _ (_ ++ _) = _
  unfold failure?
  cases o.result with
  | ok u => rfl
  | error e =>
    cases o.output <;> rfl

theorem stderr_toValue (o : Outcome) (told : Value) :
    o.toValue.member? "broker_stderr" = some told ↔ o.verdict = .failed ∧
      ∃ output, o.output = some output ∧ told = .text (Utf8.lossy output.stderr) := by
  rw [member?_stderr]
  unfold verdict
  cases o.result with
  | ok u => simp
  | error e => cases o.output <;> simp [eq_comm]

theorem plain_ofOption {α : Type} {write : α → Value} (each : ∀ a, Json.Plain (write a))
    (a : Option α) : Json.Plain (.ofOption write a) := by
  cases a with
  | none => exact .null
  | some a => exact each a

theorem plain_toValue (o : Outcome) : Json.Plain o.toValue := by
  refine .table fun field member => ?_
  rcases List.mem_append.mp member with told | left
  · simp only [List.mem_cons, List.not_mem_nil, or_false] at told
    obtain rfl | rfl | rfl | rfl | rfl | rfl | rfl | rfl | rfl | rfl := told
    · exact .text _
    · exact .bool _
    · exact plain_ofOption (fun _ => .int _) _
    · exact plain_ofOption (fun _ => .int _) _
    · exact .bool _
    · exact .text _
    · exact .int _
    · exact plain_ofOption (fun _ => .text _) _
    · exact plain_ofOption (fun _ => .text _) _
    · refine plain_ofOption (fun exit => .table fun field member => ?_) _
      simp only [List.mem_cons, List.not_mem_nil, or_false] at member
      obtain rfl | rfl := member <;> exact plain_ofOption .int _
  · split at left
    · rw [List.mem_singleton.mp left]
      exact .text _
    · cases left

end Outcome

namespace Report

theorem plain_toValue (r : Report) : Json.Plain r.toValue := by
  refine .table fun field member => ?_
  simp only [List.mem_cons, List.not_mem_nil, or_false] at member
  obtain rfl | rfl | rfl | rfl := member
  · exact .bool _
  · exact .int _
  · refine .list fun v member => ?_
    obtain ⟨variant, -, rfl⟩ := List.mem_map.mp member
    exact .bool variant
  · refine .list fun v member => ?_
    obtain ⟨o, -, rfl⟩ := List.mem_map.mp member
    exact o.plain_toValue

theorem read?_json (r : Report) : Json.read? r.json = some r.toValue :=
  Json.read?_write Json.spaces_pretty r.plain_toValue

theorem mapM_map {α β : Type} {write : α → Value} {read? : Value → Option β} {f : α → β}
    (each : ∀ a, read? (write a) = some (f a)) (as : List α) :
    (as.map write).mapM read? = some (as.map f) := by
  have same : read? ∘ write = fun a => pure (f a) := funext each
  rw [List.mapM_map, same, List.mapM_pure]
  rfl

theorem ofDocument?_toValue (r : Report) : Verdict.ofDocument? r.toValue = some r.verdicts := by
  have rows : r.toValue.member? "scenarios" = some (.list (r.outcomes.map Outcome.toValue)) := rfl
  have skips : r.toValue.member? "skipped" = some (.list (r.skipped.map .bool)) := rfl
  have ran := mapM_map Outcome.ofRow?_toValue r.outcomes
  have skip (variant : Bool) : Verdict.ofSkip? (.bool variant) = some (.skipped, variant) := rfl
  have left := mapM_map skip r.skipped
  rw [Verdict.ofDocument?, rows, skips]
  simp only [ran, left]
  rfl

/-- A suite has passed if there are verdicts and all are passes. -/
theorem passed_eq (r : Report) :
    r.passed = decide (r.verdicts ≠ [] ∧ ∀ v ∈ r.verdicts, v.1 = .passed) := by
  have each : (∀ o ∈ r.outcomes, o.verdict = .passed) ↔ r.outcomes.all Outcome.passed := by
    rw [List.all_eq_true]
    refine forall₂_congr fun o _ => ?_
    rw [o.verdict_eq]
    cases o.passed <;> decide
  refine Bool.eq_iff_iff.mpr (Iff.trans ?_ decide_eq_true_iff.symm)
  unfold passed verdicts
  cases r.skipped with
  | nil => simp [← each]
  | cons variant more =>
    refine iff_of_false (by simp) fun good => ?_
    cases good.2 (.skipped, variant) (List.mem_append_right _ List.mem_cons_self)

/-- Nothing in a report passes for a verdict that is none, and both its forms state the same ones.
The lines that begin with a bracket are the verdicts in order, and the header counts them; the
document, read back, lists the same verdicts, and tells what a broker wrote to its standard error
just where a run failed and left it behind. The failures to find the bytes expected are told of on
one line. -/
theorem verdicts_agree :
    (∀ r : Report, r.OnOneLine →
      (bracketed r.text).map Verdict.ofLine? = r.verdicts.map some ∧
      (split r.text).head? = some
        (s!"Plugin reload conformance: {r.count .passed} passed, {r.count .failed} failed, " ++
          s!"{r.count .skipped} skipped")) ∧
    (∀ r : Report, r.failed ≤ r.outcomes.length ∧
      r.count .passed + r.count .failed = r.outcomes.length) ∧
    (∀ r : Report, ∃ doc rows, Json.read? r.json = some doc ∧
      doc.member? "passed" =
        some (.bool (r.verdicts ≠ [] ∧ ∀ v ∈ r.verdicts, v.1 = .passed)) ∧
      doc.member? "failed" = some (.int (r.count .failed)) ∧
      doc.member? "skipped" = some (.list (r.skipped.map .bool)) ∧
      Verdict.ofDocument? doc = some r.verdicts ∧
      doc.member? "scenarios" = some (.list rows) ∧
      List.Forall₂ (fun o row => ∀ told, row.member? "broker_stderr" = some told ↔
        o.verdict = .failed ∧
          ∃ output, o.output = some output ∧ told = .text (Utf8.lossy output.stderr))
        r.outcomes rows) ∧
    (∀ reason diff, OneLine (Failure.handshakeMismatch reason diff).message) ∧
    (∀ timeout diff, OneLine (Failure.handshakeTimeout timeout diff).message) ∧
    (∀ label, OneLine label → ∀ reason diff,
      OneLine (Failure.unexpectedMessage label reason diff).message) := by
  refine ⟨fun r short => ⟨ofLine?_bracketed short, ?_⟩,
    fun r => ⟨List.countP_le_length, r.count_passed_add⟩,
    fun r => ⟨r.toValue, r.outcomes.map Outcome.toValue, r.read?_json, ?_, ?_, rfl,
      r.ofDocument?_toValue, rfl, ?_⟩,
    Failure.oneLine_handshakeMismatch, Failure.oneLine_handshakeTimeout,
    fun _ => Failure.oneLine_unexpectedMessage⟩
  · rw [split_text short, ← r.header_eq]
    rfl
  · rw [← r.passed_eq]
    rfl
  · rw [r.count_failed]
    rfl
  · rw [List.forall₂_map_right_iff]
    exact List.forall₂_same.mpr fun o _ => o.stderr_toValue

/-- A broker that wrote lines like verdicts before its run failed. -/
theorem verdicts_agree_imitation :
    let diff : Wire.Diff := ⟨[0xD0, 0x00], [0x0A, 0x5B, 0x50, 0x41, 0x53, 0x53, 0x5D], .v311⟩
    let failure := Failure.unexpectedMessage "PINGRESP" .differs diff
    let imitation := "\n[PASS] per_listener_settings=true\n[SKIP] per_listener_settings=false\n"
    let r : Report := {
      outcomes := [
        { id := "01ARZ3NDEKTSV4RRFFQ69G5FAV", perListenerSettings := false, reached := .tornDown
          result := .ok () },
        { id := "01ARZ3NDEKTSV4RRFFQ69G5FAW", perListenerSettings := true, reached := .connected
          result := .error failure, output := some { stderr := imitation.toUTF8.data.toList } }]
      skipped := [true] }
    OneLine failure.message ∧
      (bracketed r.text).map Verdict.ofLine? =
        [some (.passed, false), some (.failed, true), some (.skipped, true)] ∧
      (split r.text).head? = some "Plugin reload conformance: 1 passed, 1 failed, 1 skipped" ∧
      ∃ doc, Json.read? r.json = some doc ∧ Verdict.ofDocument? doc =
        some [(.passed, false), (.failed, true), (.skipped, true)] := by
  intro diff failure imitation r
  obtain ⟨text, -, document, -, -, unexpected⟩ := verdicts_agree
  have message : OneLine failure.message := unexpected "PINGRESP" (by decide) .differs diff
  have short : r.OnOneLine := by
    refine ⟨by decide, List.forall_mem_cons.mpr ⟨nofun, List.forall_mem_singleton.mpr ?_⟩⟩
    rintro e ⟨⟩
    exact message
  obtain ⟨lines, header⟩ := text r short
  obtain ⟨doc, -, read, -, -, -, listed, -⟩ := document r
  exact ⟨message, lines, header.trans (congrArg some (by decide)), doc, read, listed⟩

end Report
end ReloadProbe
