/-! Where a file of a model machine is: the names that lead to it from the root. -/
namespace ReloadProbe.Rehearsal.Place

def parts (path : String) : List String := path.splitOn "/"

def ofNames (names : List String) : String := "/" ++ "/".intercalate names.reverse

def names (place : String) : List String := ((parts place).filter (!·.isEmpty)).reverse

/-- The directory that a place is in; the root is in itself. -/
def parent (place : String) : String := ofNames ((names place).drop 1)

def name (place : String) : String := (names place).headD "/"

def nameLimit : Nat := 255

def pathLimit : Nat := 4095

end ReloadProbe.Rehearsal.Place
