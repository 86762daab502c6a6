/-! The values that a document holds, in TOML or in JSON. -/
namespace ReloadProbe

inductive Value where
  | null
  | bool (b : Bool)
  | int (n : Int)
  /-- A number with a point or an exponent, as it is written. -/
  | real (lexeme : String)
  /-- A date, a time or both. -/
  | moment (text : String)
  | text (s : String)
  | list (items : List Value)
  /-- Fields in the order of the document. No name comes twice. -/
  | table (fields : List (String × Value))
  deriving Inhabited

def Value.ofOption {α : Type} (write : α → Value) : Option α → Value
  | none => .null
  | some a => write a

end ReloadProbe
