/-! What stands between the lexemes of TOML: blanks, ends of lines and comments. -/
namespace ReloadProbe.Toml

def isSpace (c : Char) : Bool := c == ' ' || c == '\t'

def isCommentChar (c : Char) : Bool := c == '\t' || (0x20 ≤ c.toNat && c.toNat != 0x7F)

def skipSpace (s : List Char) : List Char := s.dropWhile isSpace

def newline? : List Char → Option (List Char)
  | '\n' :: rest => some rest
  | '\r' :: '\n' :: rest => some rest
  | _ => none

def skipGap (s : List Char) : List Char :=
  match s with
  | [] => []
  | ' ' :: rest | '\t' :: rest | '\n' :: rest | '\r' :: '\n' :: rest => skipGap rest
  | '#' :: rest => skipGap (rest.dropWhile isCommentChar)
  | s => s
termination_by s.length
decreasing_by
  all_goals simp only [List.length_cons]
  all_goals first | omega | skip
  have := (List.dropWhile_suffix (p := isCommentChar) (l := rest)).length_le
  omega

theorem length_skipGap_le (s : List Char) : (skipGap s).length ≤ s.length := by
  fun_induction skipGap s with
  | case1 => simp
  | case2 rest ih => simp; omega
  | case3 rest ih => simp; omega
  | case4 rest ih => simp; omega
  | case5 rest ih => simp; omega
  | case6 rest ih =>
    have := (List.dropWhile_suffix (p := isCommentChar) (l := rest)).length_le
    simp; omega
  | case7 => simp

/-- The end of a line, with blanks and a comment before it. The end of the text ends a line too. -/
def lineEnd? (s : List Char) : Option (List Char) :=
  let s := match skipSpace s with
    | '#' :: rest => rest.dropWhile isCommentChar
    | s => s
  if s.isEmpty then some [] else newline? s

end ReloadProbe.Toml
