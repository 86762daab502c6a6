/-! Texts as a shell writes them so that it could read them again. -/
namespace ReloadProbe.Rehearsal.Shell

namespace Quotation

def pieces : (limit : Nat) → List Char → List Char
  | 0, _ => []
  | limit + 1, cs =>
    let plain := cs.takeWhile (· != '\'')
    let rest := cs.drop plain.length
    let marks := rest.takeWhile (· == '\'')
    let first := '\'' :: plain ++ ['\'']
    let second := if marks.isEmpty then [] else '"' :: marks ++ ['"']
    match rest.drop marks.length with
    | [] => first ++ second
    | more => first ++ second ++ pieces limit more

end Quotation

def quoted (s : String) : String := String.ofList (Quotation.pieces (s.length + 1) s.toList)

end ReloadProbe.Rehearsal.Shell
