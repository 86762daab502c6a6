import ReloadProbe.Document.Json
import ReloadProbe.Proofs.Text.Hex

/-!
Values read back from JSON. A reader goes through a text once, with blanks allowed between the
parts, and finds in what was written the value that it was written for. So no text in a value,
whatever it holds, can end early or pass for another part.
-/
namespace ReloadProbe.Json

/-! The reader. What is left after a part is passed on. -/

def isSpace (c : Char) : Bool := c == ' ' || c == '\n' || c == '\r' || c == '\t'

def skip (cs : List Char) : List Char := cs.dropWhile isSpace

/-- The character that a letter stands for after a backslash. -/
def unescape? (c : Char) : Option Char :=
  match c with
  | '"' => some '"'
  | '\\' => some '\\'
  | 'b' => some '\x08'
  | 'f' => some '\x0c'
  | 'n' => some '\n'
  | 'r' => some '\r'
  | 't' => some '\t'
  | _ => none

/-- The rest of a text after the quote that opens it. -/
def quoted? : List Char → Option (List Char × List Char)
  | [] => none
  | '"' :: cs => some ([], cs)
  | '\\' :: 'u' :: a :: b :: c :: d :: cs => do
    let n ← Hex.number? [a, b, c, d]
    let (s, rest) ← quoted? cs
    return (Char.ofNat n :: s, rest)
  | '\\' :: e :: cs => do
    let c ← unescape? e
    let (s, rest) ← quoted? cs
    return (c :: s, rest)
  | c :: cs =>
    if c.toNat < 0x20 then none
    else do
      let (s, rest) ← quoted? cs
      return (c :: s, rest)

def natural? (cs : List Char) : Option (Nat × List Char) :=
  let digits := cs.takeWhile Char.isDigit
  if digits.isEmpty then none else some (Nat.ofDigitChars 10 digits 0, cs.drop digits.length)

/-- A word that stands for a value. -/
def word? (word : String) (v : Value) (cs : List Char) : Option (Value × List Char) :=
  if word.toList.isPrefixOf cs then some (v, cs.drop word.length) else none

/-- A value that has no parts and is no text. -/
def scalar? : List Char → Option (Value × List Char)
  | '-' :: cs => (natural? cs).map fun (n, rest) => (.int (-n), rest)
  | cs =>
    ((natural? cs).map fun (n, rest) => (.int n, rest)) <|> word? "null" .null cs <|>
      word? "true" (.bool true) cs <|> word? "false" (.bool false) cs

/-- Parts with commas between them, up to a bracket that closes them. -/
def parts? {α : Type} (part : List Char → Option (α × List Char)) (closing : Char) :
    Nat → List Char → Option (List α × List Char)
  | 0, _ => none
  | rounds + 1, cs => do
    let (a, rest) ← part cs
    match skip rest with
    | c :: rest =>
      if c = closing then return ([a], rest)
      else if c = ',' then
        let (more, rest) ← parts? part closing rounds rest
        return (a :: more, rest)
      else none
    | [] => none

/-- Parts, or none of them, and the bracket that closes them. -/
def enclosed? {α : Type} (part : List Char → Option (α × List Char)) (closing : Char)
    (rounds : Nat) (cs : List Char) : Option (List α × List Char) :=
  parts? part closing rounds cs <|>
    match skip cs with
    | c :: rest => if c = closing then some ([], rest) else none
    | [] => none

/-- A name, a colon and a value. -/
def field? (value : List Char → Option (Value × List Char)) (cs : List Char) :
    Option ((String × Value) × List Char) :=
  match skip cs with
  | '"' :: cs => do
    let (name, rest) ← quoted? cs
    match skip rest with
    | ':' :: rest =>
      let (v, rest) ← value rest
      return ((String.ofList name, v), rest)
    | _ => none
  | _ => none

/-- A value, if its parts are no deeper and no more than a bound. -/
def value? : Nat → List Char → Option (Value × List Char)
  | 0, _ => none
  | bound + 1, cs =>
    match skip cs with
    | '"' :: cs => (quoted? cs).map fun (s, rest) => (.text (String.ofList s), rest)
    | '[' :: cs =>
      (enclosed? (value? bound) ']' bound cs).map fun (items, rest) => (.list items, rest)
    | '\x7b' :: cs =>
      (enclosed? (field? (value? bound)) '\x7d' bound cs).map fun (fields, rest) =>
        (.table fields, rest)
    | cs => scalar? cs

/-- The value that a whole text stands for. No text has more parts than characters. -/
def read? (text : String) : Option Value :=
  match value? (text.toList.length + 1) text.toList with
  | some (v, rest) => if (skip rest).isEmpty then some v else none
  | none => none

/-! Texts and numbers. -/

theorem number?_control : ∀ n < 32,
    (Hex.lower 4 n).toList = ['0', '0', Nat.digitChar (n / 16), Nat.digitChar (n % 16)] ∧
      Hex.number? ['0', '0', Nat.digitChar (n / 16), Nat.digitChar (n % 16)] = some n := by
  decide

theorem quoted?_backslash {e c : Char} (named : unescape? e = some c) (cs : List Char) :
    quoted? ('\\' :: e :: cs) = (quoted? cs).map fun (s, rest) => (c :: s, rest) := by
  rw [quoted?]
  · rw [named]
    cases quoted? cs <;> rfl
  · rintro _ _ _ _ _ rfl
    cases named

/-- A character is read from what was written for it. -/
theorem quoted?_escape (c : Char) (cs : List Char) :
    quoted? ((escape c).toList ++ cs) = (quoted? cs).map fun (s, rest) => (c :: s, rest) := by
  unfold escape
  split
  case h_8 quote backslash _ _ _ _ _ =>
    -- The rest of the controls have digits; all else stands for itself.
    split
    · rename_i control
      obtain ⟨digits, value⟩ := number?_control c.toNat control
      rw [String.toList_append, digits]
      show quoted? ('\\' :: 'u' :: '0' :: '0' :: _ :: _ :: cs) = _
      rw [quoted?, value]
      simp only [Option.bind_eq_bind, Option.bind_some, Char.ofNat_toNat]
      cases quoted? cs <;> rfl
    · rename_i shown
      have alone : c.toString.toList = [c] := by simp [Char.toString]
      rw [alone, List.singleton_append, quoted?]
      · rw [if_neg shown]
        cases quoted? cs <;> rfl
      · exact quote
      · exact fun _ _ _ _ _ same => absurd same backslash
      · exact fun _ _ same => absurd same backslash
  all_goals exact quoted?_backslash rfl cs

theorem quoted?_quote (s : String) (rest : List Char) :
    quoted? ((String.join (s.toList.map escape)).toList ++ '"' :: rest) =
      some (s.toList, rest) := by
  generalize s.toList = cs
  induction cs with
  | nil => rfl
  | cons c cs ih =>
    rw [List.map_cons, String.join_cons, String.toList_append, List.append_assoc, quoted?_escape,
      ih]
    rfl

/-- What follows is not read as part of a number. -/
def Ends (rest : List Char) : Prop := ∀ c ∈ rest.head?, c.isDigit = false

def Blank (cs : List Char) : Prop := ∀ c ∈ cs, isSpace c = true

theorem natural?_toDigits (n : Nat) {rest : List Char} (ends : Ends rest) :
    natural? (Nat.toDigits 10 n ++ rest) = some (n, rest) := by
  have digits : ∀ c ∈ Nat.toDigits 10 n, c.isDigit = true :=
    fun c member => Nat.isDigit_of_mem_toDigits (by decide) (by decide) member
  have taken : (Nat.toDigits 10 n ++ rest).takeWhile Char.isDigit = Nat.toDigits 10 n := by
    rw [List.takeWhile_append_of_pos digits]
    cases rest with
    | nil => rw [List.takeWhile_nil, List.append_nil]
    | cons c rest =>
      have other := ends c rfl
      rw [List.takeWhile_cons_of_neg (by simp [other]), List.append_nil]
  unfold natural?
  dsimp only
  rw [taken, if_neg (by simp [Nat.toDigits_ne_nil]), Nat.ofDigitChars_ten_toDigits, List.drop_left]

theorem skip_append {blanks rest : List Char} {c : Char} (blank : Blank blanks)
    (shown : isSpace c = false) : skip (blanks ++ c :: rest) = c :: rest := by
  rw [skip, List.dropWhile_append_of_pos blank, List.dropWhile_cons_of_neg (by simp [shown])]

theorem skip_cons {c : Char} {cs : List Char} (shown : isSpace c = false) :
    skip (c :: cs) = c :: cs :=
  @skip_append [] cs c nofun shown

theorem isSpace_of_isDigit {c : Char} (digit : c.isDigit = true) : isSpace c = false := by
  simp only [isSpace, Bool.or_eq_false_iff, beq_eq_false_iff_ne]
  refine ⟨⟨⟨?_, ?_⟩, ?_⟩, ?_⟩ <;> (rintro rfl; cases digit)

theorem ends_append {blanks rest : List Char} (blank : Blank blanks) (ends : Ends rest) :
    Ends (blanks ++ rest) := by
  cases blanks with
  | nil => exact ends
  | cons b blanks =>
    intro c head
    obtain rfl : b = c := Option.some.inj head
    refine Bool.eq_false_iff.mpr fun digit => ?_
    cases (isSpace_of_isDigit digit).symm.trans (blank b List.mem_cons_self)

/-! Parts between brackets. -/

/-- A part is read from a text where blanks stand before it and what follows is no digit, if there
are fewer characters than a bound. -/
def Reads {α : Type} (part : List Char → Option (α × List Char)) (bound : Nat) (text : String)
    (a : α) : Prop :=
  ∀ blanks rest, Blank blanks → Ends rest → (blanks ++ text.toList ++ rest).length < bound →
    part (blanks ++ text.toList ++ rest) = some (a, rest)

section Parts

variable {α : Type} {part : List Char → Option (α × List Char)} {bound rounds : Nat}
  {closing : Char} {gap : String} {text : α → String} {a : α} {as : List α}
  {blanks last rest : List Char}

theorem parts?_intercalate
    (plain : closing ≠ ',' ∧ isSpace closing = false ∧ closing.isDigit = false)
    (gapped : Blank gap.toList) (each : ∀ a ∈ as, Reads part bound (text a) a) (filled : as ≠ [])
    (before : Blank blanks) (after : Blank last) {cs : List Char}
    (laid : cs = blanks ++ (("," ++ gap).intercalate (as.map text)).toList ++
      (last ++ closing :: rest))
    (within : cs.length < bound) (enough : cs.length ≤ rounds) :
    parts? part closing rounds cs = .some (as, rest) := by
  obtain ⟨comma, shown, closes⟩ := plain
  induction as generalizing blanks rounds cs with
  | nil => exact absurd rfl filled
  | cons a as ih =>
    obtain ⟨first, others⟩ := List.forall_mem_cons.mp each
    cases rounds with
    | zero =>
      rw [laid] at enough
      simp at enough
    | succ rounds =>
      cases as with
      | nil =>
        have ends : Ends (last ++ closing :: rest) := ends_append after fun c head => by
          cases head
          exact closes
        rw [List.map_cons, List.map_nil, String.intercalate_singleton] at laid
        subst laid
        rw [parts?, first _ _ before ends within]
        simp only [Option.bind_eq_bind, Option.bind_some, skip_append after shown, if_true]
        rfl
      | cons b as =>
        let more := gap.toList ++ (("," ++ gap).intercalate ((b :: as).map text)).toList ++
          (last ++ closing :: rest)
        have split : cs = blanks ++ (text a).toList ++ ',' :: more := by
          simp [more, laid, String.intercalate_cons_cons]
        have shorter : more.length < cs.length := by
          rw [split]
          simp only [List.length_append, List.length_cons]
          omega
        have ends : Ends (',' :: more) := fun c head => by
          cases head
          rfl
        have step : skip (',' :: more) = ',' :: more := skip_cons rfl
        have later := ih others (List.cons_ne_nil b as) gapped rfl (Nat.lt_trans shorter within)
          (Nat.le_of_lt_succ (Nat.lt_of_lt_of_le shorter enough))
        subst split
        -- What follows the comma is shorter, so one round less is enough for it.
        rw [parts?, first _ _ before ends within]
        simp only [Option.bind_eq_bind, Option.bind_some, step, if_neg comma.symm, if_true]
        rw [later]
        rfl

/-- Parts are read from the text that they were put into between two brackets. -/
theorem enclosed?_enclose {l : Layout} {depth : Nat} {opening close : String}
    (ended : close.toList = [closing])
    (plain : closing ≠ ',' ∧ isSpace closing = false ∧ closing.isDigit = false)
    (blank : ∀ depth, Blank (l.line depth).toList)
    (each : ∀ a ∈ as, Reads part bound (text a) a)
    (closes : part (closing :: rest) = none) :
    ∃ cs, (enclose l depth opening close (as.map text)).toList ++ rest = opening.toList ++ cs ∧
      (cs.length < bound → enclosed? part closing bound cs = some (as, rest)) := by
  cases as with
  | nil =>
    refine ⟨closing :: rest, by simp [enclose, ended], fun _ => ?_⟩
    have step : skip (closing :: rest) = closing :: rest := skip_cons plain.2.1
    have without : parts? part closing bound (closing :: rest) = .none := by
      cases bound with
      | zero => rfl
      | succ bound =>
        rw [parts?, closes]
        rfl
    unfold enclosed?
    rw [without, step]
    simp
  | cons a as =>
    let texts := (a :: as).map text
    refine ⟨(l.line (depth + 1)).toList ++ (("," ++ l.line (depth + 1)).intercalate texts).toList ++
      ((l.line depth).toList ++ closing :: rest), ?_, fun within => ?_⟩
    · simp [texts, enclose, ended]
    · have inside := parts?_intercalate plain (blank (depth + 1)) each (List.cons_ne_nil a as)
        (blank (depth + 1)) (blank depth) rfl within (Nat.le_of_lt within)
      unfold enclosed?
      rw [inside]
      rfl

end Parts

/-! Whole values. -/

/-- A layout that only puts blanks between the parts. -/
structure Layout.Spaces (l : Layout) : Prop where
  line : ∀ depth, Blank (l.line depth).toList
  colon : ∃ blanks, Blank blanks ∧ l.colon.toList = ':' :: blanks

/-- A value of the kinds that JSON has. A number with a point and a time are written as other parts
of a program have put them. -/
inductive Plain : Value → Prop where
  | null : Plain .null
  | bool (b : Bool) : Plain (.bool b)
  | int (n : Int) : Plain (.int n)
  | text (s : String) : Plain (.text s)
  | list {items : List Value} (each : ∀ v ∈ items, Plain v) : Plain (.list items)
  | table {fields : List (String × Value)} (each : ∀ field ∈ fields, Plain field.2) :
      Plain (.table fields)

theorem writeItems_eq_map (l : Layout) (depth : Nat) (items : List Value) :
    writeItems l depth items = items.map (write l depth) := by
  induction items with
  | nil => rfl
  | cons v items ih => rw [writeItems, ih, List.map_cons]

/-- The text of a field. -/
def fieldText (l : Layout) (depth : Nat) (field : String × Value) : String :=
  quote field.1 ++ l.colon ++ write l depth field.2

theorem writeFields_eq_map (l : Layout) (depth : Nat) (fields : List (String × Value)) :
    writeFields l depth fields = fields.map (fieldText l depth) := by
  induction fields with
  | nil => rfl
  | cons field fields ih => rw [writeFields, ih, List.map_cons, fieldText]

variable {l : Layout} {v : Value} {depth bound : Nat} {blanks rest : List Char}

theorem quote_toList (s : String) :
    (quote s).toList = '"' :: ((String.join (s.toList.map escape)).toList ++ ['"']) := by
  simp [quote]

theorem reads_field (spaces : l.Spaces) (name : String)
    (reads : ∀ bound, Reads (value? bound) bound (write l depth v) v) :
    Reads (field? (value? bound)) bound (fieldText l depth (name, v)) (name, v) := by
  intro blanks rest before ends within
  obtain ⟨gap, blank, colon⟩ := spaces.colon
  have laid : blanks ++ (fieldText l depth (name, v)).toList ++ rest = blanks ++ '"' ::
      ((String.join (name.toList.map escape)).toList ++ '"' ::
        (':' :: (gap ++ (write l depth v).toList ++ rest))) := by
    simp [fieldText, quote_toList, colon]
  have shorter : (gap ++ (write l depth v).toList ++ rest).length < bound := by
    rw [laid] at within
    simp only [List.length_append, List.length_cons] at within ⊢
    omega
  have value := reads bound gap rest blank ends shorter
  have step (cs : List Char) : skip (':' :: cs) = ':' :: cs := skip_cons rfl
  rw [laid, field?, skip_append before rfl]
  simp only [quoted?_quote, Option.bind_eq_bind, Option.bind_some, step, value,
    String.ofList_toList, Option.pure_def]

/-- What opens no text, list or table is read as a value of its own. -/
theorem value?_scalar {c : Char} {cs : List Char} (before : Blank blanks)
    (shown : isSpace c = false) (plain : c ≠ '"' ∧ c ≠ '[' ∧ c ≠ '\x7b') :
    value? (bound + 1) (blanks ++ c :: cs) = scalar? (c :: cs) := by
  obtain ⟨quote, list, table⟩ := plain
  rw [value?, skip_append before shown]
  split
  · rename_i same
    exact absurd (List.cons.inj same).1 quote
  · rename_i same
    exact absurd (List.cons.inj same).1 list
  · rename_i same
    exact absurd (List.cons.inj same).1 table
  · rfl

theorem reads_of_succ {text : String} (step : ∀ bound blanks rest, Blank blanks → Ends rest →
      (blanks ++ (text.toList ++ rest)).length ≤ bound →
      value? (bound + 1) (blanks ++ (text.toList ++ rest)) = some (v, rest)) :
    Reads (value? bound) bound text v := by
  intro blanks rest before ends within
  rw [List.append_assoc] at within ⊢
  cases bound with
  | zero => cases within
  | succ bound => exact step bound blanks rest before ends (Nat.le_of_lt_succ within)

/-- A word is read whole, whatever follows. -/
theorem reads_word {word : String} {c : Char} {cs : List Char} (spelled : word.toList = c :: cs)
    (shown : isSpace c = false) (plain : c ≠ '"' ∧ c ≠ '[' ∧ c ≠ '\x7b')
    (read : ∀ rest, scalar? (c :: cs ++ rest) = some (v, rest)) :
    Reads (value? bound) bound word v := by
  refine reads_of_succ fun bound blanks rest before _ _ => ?_
  rw [spelled, List.cons_append, value?_scalar before shown plain]
  exact read rest

theorem isDigit_plain {c : Char} (digit : c.isDigit = true) :
    c ≠ '-' ∧ c ≠ '"' ∧ c ≠ '[' ∧ c ≠ '\x7b' := by
  refine ⟨?_, ?_, ?_, ?_⟩ <;> (rintro rfl; cases digit)

theorem exists_digit_cons (n : Nat) :
    ∃ c cs, Nat.toDigits 10 n = c :: cs ∧ c.isDigit = true := by
  obtain ⟨c, cs, digits⟩ := List.exists_cons_of_ne_nil (Nat.toDigits_ne_nil (n := n) (b := 10))
  have member : c ∈ Nat.toDigits 10 n := digits ▸ List.mem_cons_self
  exact ⟨c, cs, digits, Nat.isDigit_of_mem_toDigits (by decide) (by decide) member⟩

theorem reads_int (n : Int) : Reads (value? bound) bound (toString n) (.int n) := by
  refine reads_of_succ fun bound blanks rest before ends _ => ?_
  cases n with
  | ofNat n =>
    have text : (toString (Int.ofNat n)).toList = Nat.toDigits 10 n := String.toList_ofList
    have found := natural?_toDigits n ends
    obtain ⟨c, cs, digits, digit⟩ := exists_digit_cons n
    obtain ⟨sign, plain⟩ := isDigit_plain digit
    rw [digits, List.cons_append] at found
    rw [text, digits, List.cons_append, value?_scalar before (isSpace_of_isDigit digit) plain,
      scalar?, found]
    · rfl
    · exact fun _ same => absurd (List.cons.inj same).1 sign
  | negSucc n =>
    have text : (toString (Int.negSucc n)).toList = '-' :: Nat.toDigits 10 (n + 1) :=
      (String.toList_append (s := "-")).trans (congrArg _ String.toList_ofList)
    rw [text, List.cons_append, value?_scalar before rfl (by decide), scalar?,
      natural?_toDigits _ ends]
    rfl

theorem reads_text (s : String) : Reads (value? bound) bound (quote s) (.text s) := by
  refine reads_of_succ fun bound blanks rest before _ _ => ?_
  have laid : (quote s).toList ++ rest =
      '"' :: ((String.join (s.toList.map escape)).toList ++ '"' :: rest) := by
    simp [quote_toList]
  rw [laid, value?, skip_append before rfl]
  simp only [quoted?_quote, Option.map_some, String.ofList_toList]

/-- A bracket that opens a kind of value opens its parts. -/
theorem reads_enclosed {α : Type} {part : Nat → List Char → Option (α × List Char)}
    {build : List α → Value} {opening closing : String} {first last : Char} {text : α → String}
    {as : List α} (begun : opening.toList = [first]) (ended : closing.toList = [last])
    (plain : last ≠ ',' ∧ isSpace last = false ∧ last.isDigit = false) (spaces : l.Spaces)
    (opens : ∀ bound blanks cs, Blank blanks → value? (bound + 1) (blanks ++ first :: cs) =
      (enclosed? (part bound) last bound cs).map fun (as, rest) => (build as, rest))
    (each : ∀ bound, ∀ a ∈ as, Reads (part bound) bound (text a) a)
    (closes : ∀ bound rest, part bound (last :: rest) = .none) :
    Reads (value? bound) bound (enclose l depth opening closing (as.map text)) (build as) := by
  refine reads_of_succ fun bound blanks rest before _ within => ?_
  obtain ⟨cs, laid, found⟩ := enclosed?_enclose ended plain spaces.line (each bound)
    (closes bound rest)
  rw [begun, List.singleton_append] at laid
  have fewer : cs.length < bound := by
    rw [laid] at within
    simp only [List.length_append, List.length_cons] at within
    omega
  rw [laid, opens bound blanks cs before, found fewer]
  rfl

/-- What is written for a value is read as that value. -/
theorem reads_write (spaces : l.Spaces) (plain : Plain v) :
    ∀ depth bound, Reads (value? bound) bound (write l depth v) v := by
  induction plain with
  | null =>
    intro depth bound
    have spelled : (write l depth .null).toList = ['n', 'u', 'l', 'l'] := by simp [write, scalar]
    exact reads_word spelled rfl (by decide) fun _ => rfl
  | bool b =>
    intro depth bound
    cases b with
    | true =>
      have spelled : (write l depth (.bool true)).toList = ['t', 'r', 'u', 'e'] := by
        simp only [write, scalar]
        rfl
      exact reads_word spelled rfl (by decide) fun _ => rfl
    | false =>
      have spelled : (write l depth (.bool false)).toList = ['f', 'a', 'l', 's', 'e'] := by
        simp only [write, scalar]
        rfl
      exact reads_word spelled rfl (by decide) fun _ => rfl
  | int n =>
    intro depth bound
    have written : write l depth (.int n) = toString n := by simp only [write, scalar]
    exact written ▸ reads_int n
  | text s =>
    intro depth bound
    have written : write l depth (.text s) = quote s := by simp only [write, scalar]
    exact written ▸ reads_text s
  | @list items each ih =>
    intro depth bound
    have begun : "[".toList = ['['] := rfl
    have ended : "]".toList = [']'] := rfl
    rw [write, writeItems_eq_map]
    refine reads_enclosed begun ended (by decide) spaces (fun bound blanks cs before => ?_)
      (fun bound v member => ih v member (depth + 1) bound) fun bound rest => ?_
    · rw [value?, skip_append before rfl]
      rfl
    · cases bound <;> rfl
  | @table fields each ih =>
    intro depth bound
    have begun : "\x7b".toList = ['\x7b'] := rfl
    have ended : "\x7d".toList = ['\x7d'] := rfl
    rw [write, writeFields_eq_map]
    have inside (bound : Nat) : ∀ field ∈ fields,
        Reads (field? (value? bound)) bound (fieldText l (depth + 1) field) field :=
      fun field member => reads_field spaces field.1 (ih field member (depth + 1))
    refine reads_enclosed begun ended (by decide) spaces (fun bound blanks cs before => ?_) inside
      fun bound rest => ?_
    · rw [value?, skip_append before rfl]
      rfl
    · rw [field?, skip_cons rfl]
      rfl

theorem read?_write (spaces : l.Spaces) (plain : Plain v) : read? (write l depth v) = some v := by
  have whole := reads_write spaces plain depth ((write l depth v).toList.length + 1) [] [] nofun
    nofun (by simp)
  rw [List.nil_append, List.append_nil] at whole
  rw [read?, whole]
  rfl

theorem spaces_pretty : pretty.Spaces := by
  refine ⟨fun depth => ?_, [' '], List.forall_mem_singleton.mpr rfl, rfl⟩
  have indent : Blank (String.join (List.replicate depth "  ")).toList := by
    induction depth with
    | zero => exact nofun
    | succ depth ih =>
      rw [List.replicate_succ, String.join_cons, String.toList_append]
      exact List.forall_mem_append.mpr ⟨by simp [isSpace], ih⟩
  show Blank ("\n" ++ String.join (List.replicate depth "  ")).toList
  rw [String.toList_append]
  exact List.forall_mem_append.mpr ⟨by simp [isSpace], indent⟩

end ReloadProbe.Json
