import CustomProperties.Files.Path

/-!
# File trees

A file tree is a value: the directories and files there are, and the directory that relative paths
start from. Looking a path up walks it segment by segment, so that every segment but the last has
to name a directory, and `..` leads to the directory above.
-/

namespace CustomProperties

/-- What a file holds: text, or bytes that are no text. -/
inductive Content where
  | text (text : String)
  | binary (bytes : List UInt8)
deriving DecidableEq, Repr, Inhabited

/-- What a file with the given bytes holds. -/
def Content.ofBytes (bytes : ByteArray) : Content :=
  match String.fromUTF8? bytes with
  | some decoded => .text decoded
  | none => .binary bytes.toList

/-- What a place in a tree is. -/
inductive Entry where
  | directory
  | file (content : Content)
deriving DecidableEq, Repr, Inhabited

/-- Why a file operation fails. -/
inductive FileError where
  | notFound
  | exists
  | notDirectory
  | isDirectory
  | nameTooLong
  | nulInPath
  | notText
deriving DecidableEq, Repr, Inhabited

/-- The text of a file error. -/
def FileError.message : FileError → String
  | notFound => "No such file or directory (os error 2)"
  | «exists» => "File exists (os error 17)"
  | notDirectory => "Not a directory (os error 20)"
  | isDirectory => "Is a directory (os error 21)"
  | nameTooLong => "File name too long (os error 36)"
  | nulInPath => "file name contained an unexpected NUL byte"
  | notText => "stream did not contain valid UTF-8"

/-- A place in a tree: the names that lead to it from the root. -/
abbrev Place := List String

/-- The directories and files below the root, and the directory that relative paths start from. -/
structure FileTree where
  entries : List (Place × Entry)
  cwd : Place
deriving Inhabited

namespace FileTree

/-- What stands at a place. The root is a directory. -/
def entry? (tree : FileTree) (place : Place) : Option Entry :=
  if place = [] then some .directory
  else (tree.entries.find? (·.1 == place)).map (·.2)

/-- The tree with something standing at a place. -/
def put (tree : FileTree) (place : Place) (entry : Entry) : FileTree :=
  if tree.entries.any (·.1 == place) then
    { tree with entries := tree.entries.map fun e => if e.1 == place then (place, entry) else e }
  else { tree with entries := tree.entries ++ [(place, entry)] }

/-- Fail unless a directory stands at a place. -/
def requireDirectory (tree : FileTree) (place : Place) : Except FileError Unit :=
  match tree.entry? place with
  | some .directory => .ok ()
  | some (.file _) => .error .notDirectory
  | none => .error .notFound

/-- Walk along segments from a place. The last one need not lead to anything. -/
def walk (tree : FileTree) (place : Place) : List String → Except FileError Place
  | [] => .ok place
  | segment :: rest => do
    tree.requireDirectory place
    if segment = "" ∨ segment = "." then walk tree place rest
    else if segment = ".." then walk tree place.dropLast rest
    else if 255 < segment.utf8ByteSize then .error .nameTooLong
    else walk tree (place ++ [segment]) rest

/-- Walk along segments to a directory. -/
def walkToDirectory (tree : FileTree) (place : Place) (segments : List String) :
    Except FileError Place := do
  let place ← tree.walk place segments
  tree.requireDirectory place
  pure place

/-- The number of bytes that no path reaches. -/
def pathBound : Nat := 4096

/-- The place where a path starts, and the segments to walk. -/
def start (tree : FileTree) (path : String) : Except FileError (Place × List String) :=
  if path.isEmpty then .error .notFound
  else if path.toList.contains '\x00' then .error .nulInPath
  else if pathBound ≤ path.utf8ByteSize then .error .nameTooLong
  else .ok (if Path.isAbsolute path then [] else tree.cwd, Path.segments path)

/-- What a path leads to. -/
def lookup (tree : FileTree) (path : String) : Except FileError (Place × Entry) := do
  let (place, segments) ← tree.start path
  let place ← tree.walk place segments
  match tree.entry? place with
  | some entry => pure (place, entry)
  | none => .error .notFound

/-- Whether a path leads to something. -/
def pathExists (tree : FileTree) (path : String) : Bool := (tree.lookup path).isOk

/-- Whether a path leads to a file. -/
def isFile (tree : FileTree) (path : String) : Bool :=
  match tree.lookup path with
  | .ok (_, .file _) => true
  | _ => false

/-- Whether a path leads to a directory. -/
def isDirectory (tree : FileTree) (path : String) : Bool :=
  match tree.lookup path with
  | .ok (_, .directory) => true
  | _ => false

/-- The text of the file that a path leads to. -/
def read (tree : FileTree) (path : String) : Except FileError String := do
  match ← tree.lookup path with
  | (_, .file (.text text)) => pure text
  | (_, .file (.binary _)) => .error .notText
  | (_, .directory) => .error .isDirectory

/-- The directory and the name that a path to be created ends in, or none if it ends in no name. -/
def target (tree : FileTree) (path : String) : Except FileError (Option Place × Bool) := do
  let (place, segments) ← tree.start path
  let back := segments.reverse.dropWhile (· == "")
  let slash := segments.getLast? == some ""
  match back with
  | [] => pure (none, slash)
  | last :: front =>
    let directory ← tree.walkToDirectory place front.reverse
    if last = "." ∨ last = ".." then pure (none, slash)
    else if 255 < last.utf8ByteSize then .error .nameTooLong
    else pure (some (directory ++ [last]), slash)

/-- Write a text to the file that a path leads to, which is created if its directory is there. -/
def write (tree : FileTree) (path text : String) : Except FileError FileTree := do
  match ← tree.target path with
  | (some place, false) =>
    if tree.entry? place = some .directory then .error .isDirectory
    else pure (tree.put place (.file (.text text)))
  | _ => .error .isDirectory

/-- Create a directory in one that is there. -/
def createDirectory (tree : FileTree) (path : String) : Except FileError FileTree := do
  match ← tree.target path with
  | (some place, _) =>
    if (tree.entry? place).isSome then .error .exists else pure (tree.put place .directory)
  | (none, _) => .error .exists

/-- Create a directory if it is not there, and first, `depth` levels up, those above it. -/
def createDirectoriesWithin : Nat → FileTree → String → Except FileError FileTree
  | depth, tree, path =>
    if path.isEmpty then .ok tree
    else
      match tree.createDirectory path, depth with
      | .ok tree, _ => .ok tree
      | .error .notFound, depth + 1 =>
        match Path.parent? path with
        | none => .error .notFound
        | some parent => do
          let tree ← createDirectoriesWithin depth tree parent
          match tree.createDirectory path with
          | .ok tree => .ok tree
          | .error e => if tree.isDirectory path then .ok tree else .error e
      | .error e, _ => if tree.isDirectory path then .ok tree else .error e

/-- Create a directory and all those above it that are not there. -/
def createDirectories (tree : FileTree) (path : String) : Except FileError FileTree :=
  createDirectoriesWithin (Path.segments path).length tree path

/-- The names in a directory, in order of their characters. -/
def namesIn (tree : FileTree) (place : Place) : List String :=
  (tree.entries.filterMap fun e =>
    match e.1.reverse with
    | name :: front => if front.reverse == place then some name else none
    | [] => none).mergeSort (· ≤ ·)

/-- The paths of the files below a directory, `depth` levels down, in order of their names. -/
def filesWithin (tree : FileTree) : Nat → Place → String → List String
  | 0, _, _ => []
  | depth + 1, place, path =>
    (tree.namesIn place).flatMap fun name =>
      let below := place ++ [name]
      let path := Path.join path name
      match tree.entry? below with
      | some .directory => filesWithin tree depth below path
      | some (.file _) => [path]
      | none => []

/-- The paths of the files below the directory that a path leads to. -/
def filesUnder (tree : FileTree) (path : String) : List String :=
  match tree.lookup path with
  | .ok (place, .directory) => tree.filesWithin (tree.entries.length + 1) place path
  | _ => []

end FileTree

end CustomProperties
