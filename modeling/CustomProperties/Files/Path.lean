/-!
# Paths

A path is a text of segments between slashes. Joining only puts texts together: nothing is looked
up, and `..` stays what it is. Empty segments and `.` mean nothing, other than a `.` that comes
first.
-/

namespace CustomProperties.Path

/-- The segments of a path. The first one of an absolute path is empty. -/
def segments (path : String) : List String :=
  (path.toList.splitOn '/').map String.ofList

/-- The path of some segments. -/
def ofSegments (segments : List String) : String := "/".intercalate segments

/-- Whether a path starts at the root. -/
def isAbsolute (path : String) : Bool := path.toList.head? == some '/'

/-- A path seen from a base. An absolute path stands for itself. -/
def join (base path : String) : String :=
  if isAbsolute path || base.isEmpty then path
  else if base.toList.getLast? == some '/' then base ++ path
  else base ++ "/" ++ path

/-- Segments in reverse without those at the end of the path that mean nothing. The first segment
of a path always means something. -/
def dropEmptyEnd : List String → List String
  | segment :: next :: rest =>
    if segment == "" || segment == "." then dropEmptyEnd (next :: rest) else segment :: next :: rest
  | segments => segments

/-- The last segment that means something, if it is a name. -/
def fileName? (path : String) : Option String :=
  match dropEmptyEnd (segments path).reverse with
  | name :: _ => if name == "" || name == "." || name == ".." then none else some name
  | [] => none

/-- A name cut before its last full stop, if it has one. -/
def splitAtStop (name : List Char) : Option (List Char × List Char) :=
  let back := name.reverse
  if '.' ∈ back then
    some ((back.dropWhile (· ≠ '.')).drop 1 |>.reverse, (back.takeWhile (· ≠ '.')).reverse)
  else none

/-- What follows the last full stop of the file name. A full stop that comes first does not
count. -/
def extension? (path : String) : Option String := do
  let (stem, extension) ← splitAtStop (← fileName? path).toList
  if stem.isEmpty then none else some (String.ofList extension)

/-- The path without its last segment. The root and the empty path have none. -/
def parent? (path : String) : Option String :=
  match dropEmptyEnd (segments path).reverse with
  | [segment] => if segment == "" then none else some ""
  | _ :: rest =>
    match dropEmptyEnd rest with
    | [""] => some "/"
    | front => some (ofSegments front.reverse)
  | [] => none

/-- The first `n` of a path, its parent, the parent of that, and so on. -/
def firstAncestors : Nat → String → List String
  | 0, _ => []
  | n + 1, path =>
    match parent? path with
    | some parent => path :: firstAncestors n parent
    | none => [path]

/-- A path, its parent, the parent of that, and so on. -/
def ancestors (path : String) : List String := firstAncestors ((segments path).length + 1) path

end CustomProperties.Path
