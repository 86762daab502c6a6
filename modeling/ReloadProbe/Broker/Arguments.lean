import ReloadProbe.Config.Settings

/-! The arguments that a broker is launched with, once its file and its port are known. -/
namespace ReloadProbe.Config

/-- Puts a text for each occurrence of a mark, from left to right. What was put is not searched. -/
def replace (mark text : List Char) : List Char → List Char
  | [] => []
  | c :: cs =>
    if mark.isPrefixOf (c :: cs) then text ++ replace mark text (cs.drop (mark.length - 1))
    else c :: replace mark text cs
termination_by cs => cs.length
decreasing_by all_goals simp only [List.length_cons, List.length_drop]; omega

def configMark : List Char := "\x7bconfig\x7d".toList

def portMark : List Char := "\x7bport\x7d".toList

/-- The marks for the file are replaced first, so a mark for the port in the file's path is
replaced as well. -/
def BrokerCommand.renderArgs (c : BrokerCommand) (config : Path) (port : UInt16) : List String :=
  c.args.map fun arg =>
    String.ofList (replace portMark (toString port.toNat).toList
      (replace configMark config.display.toList arg.toList))

end ReloadProbe.Config
