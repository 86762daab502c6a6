import ReloadProbe.Document.Value
import ReloadProbe.Text.Hex

/-!
Values written as JSON, on one line or with two spaces for each level. In a text only the quote,
the backslash and the controls below U+0020 are escaped.
-/
namespace ReloadProbe.Json

def escape (c : Char) : String :=
  match c with
  | '"' => "\\\""
  | '\\' => "\\\\"
  | '\x08' => "\\b"
  | '\x0c' => "\\f"
  | '\n' => "\\n"
  | '\r' => "\\r"
  | '\t' => "\\t"
  | c => if c.toNat < 0x20 then "\\u" ++ Hex.lower 4 c.toNat else c.toString

def quote (s : String) : String := "\"" ++ String.join (s.toList.map escape) ++ "\""

def scalar : Value → String
  | .null | .list _ | .table _ => "null"
  | .bool b => toString b
  | .int n => toString n
  | .real s => s
  | .moment s | .text s => quote s

structure Layout where
  /-- Stands between a bracket and the parts at a depth. -/
  line : Nat → String
  colon : String

def compact : Layout := ⟨fun _ => "", ":"⟩

def pretty : Layout := ⟨fun depth => "\n" ++ String.join (List.replicate depth "  "), ": "⟩

def enclose (l : Layout) (depth : Nat) (opening closing : String) (parts : List String) : String :=
  if parts.isEmpty then opening ++ closing
  else
    opening ++ l.line (depth + 1) ++ ("," ++ l.line (depth + 1)).intercalate parts ++
      l.line depth ++ closing

mutual

def write (l : Layout) (depth : Nat) : Value → String
  | .list items => enclose l depth "[" "]" (writeItems l (depth + 1) items)
  | .table fields => enclose l depth "\x7b" "\x7d" (writeFields l (depth + 1) fields)
  | v => scalar v

def writeItems (l : Layout) (depth : Nat) : List Value → List String
  | [] => []
  | v :: more => write l depth v :: writeItems l depth more

def writeFields (l : Layout) (depth : Nat) : List (String × Value) → List String
  | [] => []
  | (name, v) :: more =>
    (quote name ++ l.colon ++ write l depth v) :: writeFields l depth more

end

end ReloadProbe.Json
