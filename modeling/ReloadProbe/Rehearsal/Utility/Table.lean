import ReloadProbe.Rehearsal.Utility.Arranged
import ReloadProbe.Rehearsal.Utility.Condition
import ReloadProbe.Rehearsal.Utility.Contents
import ReloadProbe.Rehearsal.Utility.Copies
import ReloadProbe.Rehearsal.Utility.Dump
import ReloadProbe.Rehearsal.Utility.Editing
import ReloadProbe.Rehearsal.Utility.Exchange
import ReloadProbe.Rehearsal.Utility.Expression
import ReloadProbe.Rehearsal.Utility.Launch
import ReloadProbe.Rehearsal.Utility.Lines
import ReloadProbe.Rehearsal.Utility.Links
import ReloadProbe.Rehearsal.Utility.Listing
import ReloadProbe.Rehearsal.Utility.Matching
import ReloadProbe.Rehearsal.Utility.Output
import ReloadProbe.Rehearsal.Utility.Places
import ReloadProbe.Rehearsal.Utility.Rights
import ReloadProbe.Rehearsal.Utility.Sequence
import ReloadProbe.Rehearsal.Utility.Surroundings

/-! The small programs that there are, by their names. -/
namespace ReloadProbe.Rehearsal.Utility

def table : List (String × Utility) :=
  [("[", bracket), ("basename", basename), ("cat", cat), ("chmod", chmod), ("comm", comm),
    ("cp", cp), ("cut", cut), ("dirname", dirname), ("echo", echo), ("egrep", grepWith 'E'),
    ("env", env), ("expr", expr), ("false", endWith 1), ("fgrep", grepWith 'F'), ("fold", fold),
    ("grep", grep), ("head", head), ("link", link), ("ln", ln), ("ls", ls), ("mkdir", mkdir),
    ("mv", mv), ("nice", nice), ("nl", nl), ("nohup", nohup), ("od", od), ("paste", paste),
    ("printenv", printenv), ("printf", printf), ("pwd", pwd), ("readlink", readlink),
    ("realpath", realpath), ("rev", rev), ("rm", rm), ("rmdir", rmdir), ("sed", sed),
    ("seq", seq), ("sleep", sleep), ("sort", sort), ("stat", stat), ("tac", tac), ("tail", tail),
    ("tee", tee), ("test", test), ("timeout", timeout), ("touch", touch), ("tr", tr),
    ("true", endWith 0), ("uniq", uniq), ("unlink", unlink), ("wc", wc), ("which", which),
    ("xargs", xargs), ("yes", yes)]

def names : List String := table.map Prod.fst

def process (name : String) (arguments : List String) (environment : List (String × String)) :
    Process Nat :=
  match table.lookup name with
  | some program =>
    Tool.process { name := arguments.headD name, environment } (program (arguments.drop 1))
  | none => .done 127

end ReloadProbe.Rehearsal.Utility
