/-!
# Paths

A path is a text whose names are separated by slashes.  Empty names and points count for nothing,
except that a point in front of a relative path is kept.  The parent of a path is the part of the
text that ends before its last name.
-/

namespace InstanceIdentity.Path

/-- The parts of a path between its slashes. -/
def parts (path : String) : List String := (path.toList.splitOn '/').map String.ofList

/-- The path begins with a slash. -/
def isRooted (path : String) : Bool := path.toList.head? == some '/'

/-- The path ends in a slash. -/
def isSlashed (path : String) : Bool := path.toList.getLast? == some '/'

/-- The parts of a path that are followed. -/
def names (path : String) : List String := (parts path).filter (· != "")

/-- A part that names something. -/
def isName (part : String) : Bool := part != "" && part != "."

/-- What a path without names starts from: the root, a point, or nothing. -/
def lead (path : String) : String :=
  if isRooted path then "/" else if (parts path).head? = some "." then "." else ""

/-- Parts joined by slashes. -/
def join (parts : List String) : String := "/".intercalate parts

/-- The parts before the last name, last first, without those that count for nothing at their end;
absent when there is no name. -/
def beforeLast? (path : String) : Option (List String) :=
  match (parts path).reverse.dropWhile fun part => !isName part with
  | [] => none
  | _ :: rest => some (rest.dropWhile fun part => !isName part)

/-- The path that holds the last name. -/
def parent? (path : String) : Option String :=
  match beforeLast? path with
  | some [] => some (lead path)
  | some before => some (join before.reverse)
  | none => if lead path = "." then some "" else none

/-- The last name, if it does not lead upwards. -/
def fileName? (path : String) : Option String :=
  (((parts path).reverse.dropWhile fun part => !isName part).head?).filter (· != "..")

/-- A path with a name below it. -/
def child (path name : String) : String :=
  if path = "" then name
  else if path.toList.getLast? = some '/' then path ++ name
  else path ++ "/" ++ name

/-- The path with its last name replaced, or with the name below it when it has none. -/
def withFileName (path name : String) : String :=
  match fileName? path with
  | some _ => child ((parent? path).getD "") name
  | none => child path name

end InstanceIdentity.Path
