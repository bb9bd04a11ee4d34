import CustomProperties.CommandLine.Run

/-!
# The reach of commands

The paths of the files that a command works on: where its configuration is searched for, its inputs,
and the files that it reads definitions from or writes to. The program copies what stands at these
paths into the tree that it runs the command on.
-/

namespace CustomProperties

/-- The path that a source is read from, if it is a file. -/
def Source.path? : Source → Option String
  | location path _ => some path
  | callable source => source.path?
  | pending _ source => source.path?
  | _ => none

/-- The path that a destination is written to, if it is a file. -/
def Destination.path? : Destination → Option String
  | location path .. => some path
  | _ => none

/-- The paths of the files that are imported or exported. -/
def Options.paths (options : Options) : List String :=
  options.importFrom.filterMap Source.path? ++ options.exportTo.filterMap Destination.path?

namespace CommandLine

/-- The paths that are looked at in search of a configuration. -/
def searchedPaths (directory : String) : List String :=
  (Path.ancestors directory).flatMap fun above =>
    [Path.join above Config.fileName, Path.join above ".git"]

/-- The paths that a command looks at first, seen from the working directory. -/
def Command.firstPaths (directory : String) : Command → List String
  | resolve arguments =>
    match arguments.config with
    | some path => [Path.join directory path]
    | none => searchedPaths directory
  | init => [Config.fileName]

/-- The paths that a command looks at and below, all there is below them included. -/
def Command.inputPaths : Command → List String
  | resolve arguments => arguments.inputs
  | init => []

/-- The paths that new texts of files are written to in a directory. -/
def targetPaths (files : List String) (directory : String) : List String :=
  directory :: (files.filterMap Path.fileName?).map (Path.join directory)

/-- The paths that a command looks at when it knows its configuration and its inputs. -/
def Command.laterPaths (tree : FileTree) : Command → List String
  | resolve arguments =>
    match configOf tree arguments, findStylesheets tree arguments.inputs with
    | .ok loaded, .ok files =>
      (optionsOf loaded arguments (workingDirectory tree)).paths
        ++ arguments.outDir.toList.flatMap (targetPaths files)
    | _, _ => []
  | init => []

end CommandLine

end CustomProperties
