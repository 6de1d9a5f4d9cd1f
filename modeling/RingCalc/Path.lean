/-!
# Paths

The normal form of a path: no empty parts and no parts that stand for the directory they are in.
Parts that stand for the directory above are kept.
-/

namespace RingCalc.Path

/-- Whether a text can be a path: no path holds the character of code zero. -/
def isAllowed (path : String) : Bool := !path.toList.contains '\x00'

/-- The root that a path begins with.  Two leading slashes are a root of their own. -/
def root (path : String) : String :=
  match (path.toList.takeWhile (· == '/')).length with
  | 0 => ""
  | 2 => "//"
  | _ => "/"

/-- The normal form of a path.  The path without parts is the current directory. -/
def normal (path : String) : String :=
  let parts := (path.splitOn "/").filter fun part => part != "" && part != "."
  let text := root path ++ "/".intercalate parts
  if text = "" then "." else text

/-- The path of a file in a directory. -/
def inDirectory (directory name : String) : String :=
  if directory.toList.getLast? = some '/' then directory ++ name else directory ++ "/" ++ name

end RingCalc.Path
