/-
Paths of files, taken apart by their text alone: parts between slashes, of which empty ones and single
points do not count.
-/

import BotHost.Text.Split

namespace BotHost.Path

/-- Whether the path begins at the root. -/
def isAbsolute (path : String) : Bool := path.startsWith "/"

/-- The parts of a path. -/
def parts (path : String) : List String :=
  ((Text.splitOn '/' path.toList).map String.ofList).filter fun part => part != "" && part != "."

/-- The path of a name in a directory. -/
def join (directory name : String) : String :=
  if isAbsolute name || directory.isEmpty then name
  else if directory.endsWith "/" then directory ++ name
  else directory ++ "/" ++ name

/-- The last part of a path, unless that leads upwards. -/
def fileName? (path : String) : Option String :=
  (parts path).getLast?.filter (· != "..")

/-- What stands before the last part of a path; a point if that is nothing. -/
def directory (path : String) : String :=
  let above := "/".intercalate (parts path).dropLast
  if isAbsolute path then "/" ++ above else if above.isEmpty then "." else above

/-- What stands behind the last point of the file name, unless the point comes first in it. -/
def extension? (path : String) : Option String := do
  let name ← fileName? path
  match (Text.splitOn '.' name.toList).reverse with
  | _ :: [] => none
  | _ :: [[]] => none
  | last :: _ => some (String.ofList last)
  | [] => none

/-- The path with every part that leads upwards carried out, seen from a directory if it does not
begin at the root. -/
def resolve (directory path : String) : String :=
  let from? := if isAbsolute path then [] else parts directory
  let resolved := (from? ++ parts path).foldl (fun done part =>
    if part == ".." then done.drop 1 else part :: done) []
  "/" ++ "/".intercalate resolved.reverse

end BotHost.Path
