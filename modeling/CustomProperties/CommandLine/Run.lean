import CustomProperties.CommandLine.Arguments
import CustomProperties.CommandLine.Report
import CustomProperties.Config

/-!
# Running commands

A command is a function of a file tree and of the pace of the disk. It gives the tree afterwards,
what is printed, what is reported, and whether all went well.

The inputs are processed first and written after that, in order; one that fails keeps none of the
others from being written.
-/

namespace CustomProperties.CommandLine

/-- What comes of a command. -/
structure Outcome where
  tree : FileTree
  output : String := ""
  report : String := ""
  succeeded : Bool := true
deriving Inhabited

/-- The status that the program exits with. -/
def Outcome.status (outcome : Outcome) : Nat := if outcome.succeeded then 0 else 2

/-- The end of a command that fails as a whole, after some lines of report. -/
def Outcome.failed (tree : FileTree) (lines : String) (failure : Failure) : Outcome :=
  { tree, report := lines ++ errorLine failure, succeeded := false }

/-! ### Inputs -/

/-- Whether a path found in a directory is that of a style sheet. -/
def isStylesheetPath (path : String) : Bool :=
  match Path.extension? path with
  | some extension => extension == "css" || extension == "pcss"
  | none => false

/-- The files that an input means: itself, or the style sheets in it. What is in it but cannot be
reached by its path, because that is too long, is passed over. -/
def filesOf (tree : FileTree) (input : String) : Except Failure (List String) :=
  if tree.isFile input then .ok [input]
  else if tree.isDirectory input then
    .ok ((tree.filesUnder input).filter fun path => tree.isFile path && isStylesheetPath path)
  else .error (.inputNotFound input)

/-- The files that some inputs mean, of which there has to be one. -/
def findStylesheets (tree : FileTree) (inputs : List String) : Except Failure (List String) := do
  let files ← inputs.mapM (filesOf tree)
  if files.flatten.isEmpty then .error .noStylesheets else .ok files.flatten

/-! ### Processing -/

/-- The path of the directory that relative paths start from. -/
def workingDirectory (tree : FileTree) : String := "/" ++ "/".intercalate tree.cwd

/-- The settings of a configuration, with those of the arguments going before them. -/
def optionsOf (loaded : LoadedConfig) (arguments : ResolveArguments) (directory : String) :
    Options :=
  let options := loaded.config.options loaded.base
  let placed (paths : List String) := paths.map (Path.join directory)
  { preserve := options.preserve && !arguments.noPreserve
    importFrom :=
      if arguments.importFrom.isEmpty then options.importFrom
      else (placed arguments.importFrom).map (Source.location · none)
    exportTo :=
      if arguments.exportTo.isEmpty then options.exportTo
      else (placed arguments.exportTo).map (Destination.location · none none) }

/-- The configuration that the arguments name, or the one that holds in the working directory. -/
def configOf (tree : FileTree) (arguments : ResolveArguments) : Except Failure LoadedConfig :=
  match arguments.config with
  | some path => tree.loadConfigFile (Path.join (workingDirectory tree) path)
  | none => tree.loadConfig (workingDirectory tree)

/-- What came of processing a file: the counts and the new text. -/
structure Processed where
  path : String
  result : Except Failure (PassReport × String)

/-- The text of an input file. -/
def readInput (tree : FileTree) (path : String) : Except Failure String :=
  (tree.read path).mapError (.readStylesheet path)

/-- Process files by passes that need not wait. -/
def processAllSync (tree : FileTree) (pipeline : Pipeline) (files : List String) :
    List Processed :=
  files.map fun path => ⟨path, (readInput tree path).bind pipeline.processTextSync⟩

/-- Process files one after the other, by passes of the same pipeline. The pace of the disk in each
pass is told by the place of the file. -/
def processAll (paces : Nat → Pace) (tree : FileTree) (pipeline : Pipeline) :
    List String → List Processed × FileTree
  | [] => ([], tree)
  | path :: paths =>
    let later place := paces (place + 1)
    match readInput tree path with
    | .ok text =>
      let pass := pipeline.processText ⟨tree, paces 0⟩ text
      let others := processAll later pass.delivery.tree pass.pipeline paths
      (⟨path, pass.result.map fun report => (report, pass.sheet.render)⟩ :: others.1, others.2)
    | .error failure =>
      let others := processAll later tree pipeline paths
      (⟨path, .error failure⟩ :: others.1, others.2)

/-! ### Writing -/

/-- Write the new text of a file where the arguments say, or give it back to be printed. -/
def writeResult (arguments : ResolveArguments) (tree : FileTree) (path text : String) :
    Except Failure (FileTree × String) :=
  if arguments.write then do
    let tree ← (tree.write path text).mapError (.write path)
    pure (tree, "")
  else match arguments.outDir with
    | some directory => do
      let tree ← (tree.createDirectories directory).mapError (.createDirectory directory)
      match Path.fileName? path with
      | none => .error (.noFileName path)
      | some name =>
        let target := Path.join directory name
        let tree ← (tree.write target text).mapError (.write target)
        pure (tree, "")
    | none => .ok (tree, text)

/-- What was written so far. -/
structure Written where
  tree : FileTree
  output : String := ""
  report : String := ""
  failed : Nat := 0
  updated : Nat := 0

/-- Write what came of a file, and report on it. -/
def writeNext (arguments : ResolveArguments) (written : Written) (processed : Processed) :
    Written :=
  let path := processed.path
  let result := do
    let (report, text) ← processed.result
    let (tree, output) ← writeResult arguments written.tree path text
    pure (report, tree, output)
  match result with
  | .ok (report, tree, output) =>
    { written with
      tree
      output := written.output ++ output
      report := written.report ++ if arguments.verbose then fileLine path report else ""
      updated := written.updated + report.updated }
  | .error failure =>
    { written with
      report := written.report ++ failedFileLine path failure
      failed := written.failed + 1 }

/-! ### Commands -/

/-- Resolve the references in some files. -/
def resolve (paces : Nat → Pace) (tree : FileTree) (arguments : ResolveArguments) : Outcome :=
  let info (message : String) := if arguments.verbose then infoLine message else ""
  match configOf tree arguments with
  | .error failure => .failed tree "" failure
  | .ok loaded =>
    let lines := (loaded.path.map fun path => info s!"Using config {path}").getD ""
    match findStylesheets tree arguments.inputs with
    | .error failure => .failed tree lines failure
    | .ok files =>
      let pipeline : Pipeline := { options := optionsOf loaded arguments (workingDirectory tree) }
      let manner := if pipeline.isSync then "in parallel" else "with imports/exports"
      let lines := lines ++ info s!"Processing {files.length} file(s) {manner}"
      let processed :=
        if pipeline.isSync then (processAllSync tree pipeline files, tree)
        else processAll paces tree pipeline files
      let written := processed.1.foldl (writeNext arguments) { tree := processed.2 }
      let summary := summaryLine files.length written.failed written.updated
      { tree := written.tree
        output := written.output
        report := lines ++ written.report ++ summary
        succeeded := written.failed == 0 }

/-- Write a new configuration file into the working directory. -/
def init (tree : FileTree) : Outcome :=
  if tree.pathExists Config.fileName then
    .failed tree "" (.alreadyExists Config.fileName)
  else
    match tree.write Config.fileName (Config.defaultText ++ "\n") with
    | .ok tree => { tree, report := s!"{successMark} Created {Config.fileName}\n" }
    | .error error => .failed tree "" (.file error)

/-- The lines that are printed if no command is given. -/
def helpLines : List String :=
  ["Statically resolve CSS custom properties into the declarations that use them",
    "",
    "Usage: unvar [COMMAND]",
    "",
    "Commands:",
    "  resolve  Replace var() references with the values of their custom properties",
    "  init     Initialize a new .unvarrc.json configuration file",
    "  help     Print this message or the help of the given subcommand(s)",
    "",
    "Options:",
    "  -h, --help     Print help",
    "  -V, --version  Print version"]

/-- The text that is printed if no command is given. -/
def helpText : String := String.join (helpLines.map (· ++ "\n"))

/-- What is printed for arguments that name no command to run. -/
def usageText : Usage → String
  | .invalidSubcommand => "error: unrecognized subcommand\n"
  | .missingArgument => "error: a required argument was not provided\n"
  | .unknownArgument => "error: unexpected argument found\n"
  | .argumentConflict => "error: an argument cannot be used with another one\n"
  | .invalidValue => "error: an argument has no value\n"
  | .tooManyValues => "error: unexpected value for an argument\n"
  | .help => helpText
  | .version => "unvar 0.1.0\n"

/-- Run a command, or print the help if there is none. -/
def run (paces : Nat → Pace) (tree : FileTree) : Option Command → Outcome
  | some (.resolve arguments) => resolve paces tree arguments
  | some .init => init tree
  | none => { tree, output := helpText }

end CustomProperties.CommandLine
