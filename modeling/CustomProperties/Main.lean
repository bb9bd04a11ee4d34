import CustomProperties.CommandLine.Reach

/-!
# The program

Copies the part of the file system that a command may look at into a file tree, runs the command
on it, and carries out what came of it.
-/

namespace CustomProperties.CommandLine

/-- The path of a place. -/
def pathOf (place : Place) : String := "/" ++ Path.ofSegments place

/-- Copy what stands at a place. -/
def copyPlace (tree : FileTree) (place : Place) : IO FileTree := do
  if (tree.entry? place).isSome then return tree
  let path := (← IO.currentDir) / pathOf place
  if ← path.isDir then return tree.put place .directory
  else if ← path.pathExists then
    return tree.put place (.file (.ofBytes (← IO.FS.readBinFile path)))
  else return tree

/-- The lists that a list begins with, shortest first. -/
def fronts (segments : List String) : List (List String) :=
  (List.range (segments.length + 1)).map segments.take

/-- Copy what a path leads to, and the directories on the way. -/
def copyPath (tree : FileTree) (path : String) : IO FileTree := do
  let segments := Path.segments path
  let mut tree := tree
  for place in fronts tree.cwd do
    tree ← copyPlace tree place
  for front in fronts segments do
    if let .ok (start, _) := tree.start path then
      if let .ok place := tree.walk start front then
        tree ← copyPlace tree place
  return tree

/-- Copy the style sheets below a place, and the directories on the way. -/
partial def copyBelow (tree : FileTree) (place : Place) : IO FileTree := do
  if tree.entry? place != some .directory then return tree
  let mut tree := tree
  for entry in ← ((← IO.currentDir) / pathOf place).readDir do
    let below := place ++ [entry.fileName]
    if (← entry.path.isDir) || isStylesheetPath entry.fileName then
      tree ← copyBelow (← copyPlace tree below) below
  return tree

/-- Copy what a command may look at. -/
def copyFor (command : Command) : IO FileTree := do
  let directory := (← IO.currentDir).toString
  let mut tree : FileTree := ⟨[], (Path.segments directory).filter (· ≠ "")⟩
  for path in command.firstPaths directory do
    tree ← copyPath tree path
  for path in command.inputPaths do
    tree ← copyPath tree path
    if let .ok (place, .directory) := tree.lookup path then
      tree ← copyBelow tree place
  for path in command.laterPaths tree do
    tree ← copyPath tree path
  return tree

/-- Carry out the changes that lead from one tree to another. -/
def carryOut (older newer : FileTree) : IO Unit := do
  for (place, entry) in newer.entries do
    if older.entry? place != some entry then
      let path := (← IO.currentDir) / pathOf place
      match entry with
      | .directory => IO.FS.createDir path
      | .file (.text text) => IO.FS.writeFile path text
      | .file (.binary bytes) => IO.FS.writeBinFile path ⟨bytes.toArray⟩

/-- Print to one of the two streams, depending on whether all is well. -/
def printUsage (usage : Usage) : IO Unit :=
  if usage.isRequest then IO.print (usageText usage) else IO.eprint (usageText usage)

end CustomProperties.CommandLine

open CustomProperties CommandLine in
/-- Run the command that the arguments write. -/
def main (args : List String) : IO UInt32 := do
  match Command.parse args (← IO.getEnv "UNVAR_CONFIG") with
  | .error usage =>
    printUsage usage
    return usage.status.toUInt32
  | .ok none =>
    IO.print helpText
    return 0
  | .ok (some command) =>
    let tree ← copyFor command
    let outcome := run (fun _ => .steady) tree (some command)
    IO.print outcome.output
    IO.eprint outcome.report
    carryOut tree outcome.tree
    return outcome.status.toUInt32
