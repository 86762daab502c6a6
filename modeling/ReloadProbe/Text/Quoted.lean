import ReloadProbe.Text.Hex
import ReloadProbe.Text.Printable
import ReloadProbe.Text.Utf8

/-!
Text in double quotes for a diagnostic. What is not printable is written by its code point, so a
quoted text holds no line feed and no quote that would end it early.
-/
namespace ReloadProbe.Text.Quoted

def escape (c : Char) : List Char :=
  match c with
  | '\x00' => ['\\', '0']
  | '\t' => ['\\', 't']
  | '\n' => ['\\', 'n']
  | '\r' => ['\\', 'r']
  | '"' => ['\\', '"']
  | '\\' => ['\\', '\\']
  | c =>
    if isPrintable c then [c]
    else ['\\', 'u', '\x7b'] ++ Nat.toDigits 16 c.toNat ++ ['\x7d']

def escapePiece : Except Bytes Char → List Char
  | .ok c => escape c
  | .error bs => bs.flatMap fun b => '\\' :: 'x' :: (Hex.upper 2 b.toNat).toList

def quoteBytes (bs : Bytes) : String :=
  String.ofList ('"' :: (Utf8.pieces bs).flatMap escapePiece ++ ['"'])

def quote (s : String) : String :=
  String.ofList ('"' :: s.toList.flatMap escape ++ ['"'])

end ReloadProbe.Text.Quoted
