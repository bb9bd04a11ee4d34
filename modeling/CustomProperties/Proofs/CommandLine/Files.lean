import CustomProperties.CommandLine.Run
import CustomProperties.Proofs.Files.Writing
import CustomProperties.Proofs.Passes.Agreement
import Mathlib.Tactic.Common

/-!
# The files of a run

The files of a run share one pipeline, which imports in the first pass over any of them. Where
nothing is exported, a pass leaves nothing else for the next one, so that each file comes to what it
comes to with a new pipeline (`exists_processAll_eq`), and a run is a fold over files that know
nothing of each other (`resolve_eq`). The pace of the disk decides at most which source is named if
the imports fail (`processAlone_of_pace`).
-/

namespace CustomProperties

/-! ### Passes without destinations -/

namespace Pipeline

variable {pipeline : Pipeline} (sheet : Stylesheet)

/-- Nothing is delivered, and all that a pass changes of the pipeline is what it imported. -/
lemma process_of_exportTo_nil (disk : Disk) (h : pipeline.options.exportTo = []) :
    (pipeline.process disk sheet).pipeline = pipeline.importing disk ∧
    (pipeline.process disk sheet).delivery.tree = disk.tree := by
  have hexport : (pipeline.importing disk).options.exportTo = [] := by simpa using h
  unfold process
  simp only
  split
  · simp only [processWith, hexport, exportTable_nil]
    constructor
    · rw [← hexport]
    · trivial
  · exact ⟨rfl, rfl⟩

/-- After importing, the pace of the disk has no say. -/
lemma process_importing {tree : FileTree} (pace later : Pace)
    (h : pipeline.options.exportTo = []) :
    (pipeline.importing ⟨tree, pace⟩).process ⟨tree, later⟩ sheet
      = pipeline.process ⟨tree, pace⟩ sheet := by
  have hexport : (pipeline.importing ⟨tree, pace⟩).options.exportTo = [] := by simpa using h
  rw [process, process, importing_importing]
  cases (pipeline.importing ⟨tree, pace⟩).importedTable with
  | error message => rfl
  | ok imported => simp only [processWith, hexport, exportTable_nil]

lemma isSync_importing (pipeline : Pipeline) (disk : Disk) :
    (pipeline.importing disk).isSync = pipeline.isSync := by
  simp [isSync]

end Pipeline

namespace CommandLine

/-! ### Files of an input -/

variable {tree : FileTree} {inputs files : List String} {file : String}

lemma isFile_of_mem_filesOf {input : String} (h : filesOf tree input = .ok files)
    (hfile : file ∈ files) : tree.isFile file := by
  unfold filesOf at h
  split at h
  · next hinput =>
    cases h
    obtain rfl := List.mem_singleton.mp hfile
    exact hinput
  · split at h
    · cases h
      simp only [List.mem_filter, Bool.and_eq_true] at hfile
      exact hfile.2.1
    · cases h

lemma exists_filesOf_of_mem {found : List (List String)} {l : List String}
    (h : inputs.mapM (filesOf tree) = .ok found) (hl : l ∈ found) :
    ∃ input, filesOf tree input = .ok l := by
  induction inputs generalizing found with
  | nil =>
    cases h
    cases hl
  | cons input inputs ih =>
    rw [List.mapM_cons] at h
    obtain ⟨first, hfirst, h⟩ := exists_of_bind_eq_ok h
    obtain ⟨others, hothers, h⟩ := exists_of_bind_eq_ok h
    cases h
    rcases List.mem_cons.mp hl with rfl | hl
    · exact ⟨input, hfirst⟩
    · exact ih hothers hl

/-- Inputs mean files and nothing else. -/
lemma isFile_of_mem_findStylesheets (h : findStylesheets tree inputs = .ok files)
    (hfile : file ∈ files) : tree.isFile file := by
  obtain ⟨found, hfound, h⟩ := exists_of_bind_eq_ok h
  split at h
  · cases h
  · cases h
    obtain ⟨l, hl, hfile⟩ := List.mem_flatten.mp hfile
    obtain ⟨input, hinput⟩ := exists_filesOf_of_mem hfound hl
    exact isFile_of_mem_filesOf hinput hfile

/-- The files that an input means. -/
def filesIn (tree : FileTree) (input : String) : List String :=
  (filesOf tree input).toOption.getD []

/-- What is there is a file or a directory. -/
lemma filesOf_of_pathExists {input : String} (h : tree.pathExists input) :
    filesOf tree input = .ok (filesIn tree input) := by
  have hfound : ∃ found, filesOf tree input = .ok found := by
    rw [filesOf, FileTree.isFile, FileTree.isDirectory]
    cases hlookup : tree.lookup input with
    | error e =>
      rw [FileTree.pathExists, hlookup] at h
      cases h
    | ok found =>
      obtain ⟨place, entry⟩ := found
      cases entry with
      | file content => exact ⟨_, rfl⟩
      | directory => exact ⟨_, rfl⟩
  obtain ⟨found, hfound⟩ := hfound
  rw [filesIn, hfound]
  rfl

lemma mapM_filesOf (h : ∀ input ∈ inputs, tree.pathExists input) :
    inputs.mapM (filesOf tree) = .ok (inputs.map (filesIn tree)) := by
  induction inputs with
  | nil => rfl
  | cons input inputs ih =>
    rw [List.forall_mem_cons] at h
    rw [List.mapM_cons, filesOf_of_pathExists h.1, ih h.2]
    rfl

/-- Inputs that are all there mean the files that each of them means, in order. -/
lemma findStylesheets_of_pathExists (h : ∀ input ∈ inputs, tree.pathExists input)
    (hsome : inputs.flatMap (filesIn tree) ≠ []) :
    findStylesheets tree inputs = .ok (inputs.flatMap (filesIn tree)) := by
  rw [findStylesheets, mapM_filesOf h]
  have hflatten : (inputs.map (filesIn tree)).flatten = inputs.flatMap (filesIn tree) := rfl
  change (if (inputs.map (filesIn tree)).flatten.isEmpty then _ else _) = _
  rw [hflatten, if_neg (by simpa using hsome)]

/-- A file as the only input means itself. -/
lemma findStylesheets_singleton (h : tree.isFile file) :
    findStylesheets tree [file] = .ok [file] := by
  have hfiles : filesOf tree file = .ok [file] := by rw [filesOf, if_pos h]
  rw [findStylesheets, List.mapM_cons, hfiles]
  rfl

/-! ### Files that are processed -/

section

variable {pipeline : Pipeline} {pace pace' : Pace}

/-- What comes of a file that is processed by itself. -/
def processAlone (pace : Pace) (tree : FileTree) (pipeline : Pipeline) (path : String) :
    Processed :=
  ⟨path, (readInput tree path).bind fun text =>
    if pipeline.isSync then pipeline.processTextSync text
    else
      let pass := pipeline.processText ⟨tree, pace⟩ text
      pass.result.map fun report => (report, pass.sheet.render)⟩

/-- A file that does not fail comes to the same whatever the pace of the disk. -/
lemma processAlone_of_pace {path : String} {result : PassReport × String}
    (h : (processAlone pace tree pipeline path).result = .ok result) :
    (processAlone pace' tree pipeline path).result = .ok result := by
  unfold processAlone at h ⊢
  cases htext : readInput tree path with
  | error failure =>
    rw [htext] at h
    cases h
  | ok text =>
    simp only [htext, Except.bind, Pipeline.processText] at h ⊢
    split at h
    · next hsync => rwa [if_pos hsync]
    · next hsync =>
      rw [if_neg hsync]
      cases hpass : (pipeline.process ⟨tree, pace⟩ (.parse text 0)).result with
      | error failure =>
        rw [hpass] at h
        cases h
      | ok report => rwa [Pipeline.process_of_pace hpass]

/-- Passes before change nothing. -/
lemma processAlone_importing (h : pipeline.options.exportTo = []) (pace later : Pace) :
    processAlone later tree (pipeline.importing ⟨tree, pace⟩)
      = processAlone pace tree pipeline := by
  funext path
  simp only [processAlone, Pipeline.isSync_importing, Pipeline.processText,
    Pipeline.process_importing _ pace later h, Pipeline.processTextSync, Pipeline.processSync,
    Pipeline.options_importing]

lemma processAllSync_eq (h : pipeline.isSync) (pace : Pace) (files : List String) :
    processAllSync tree pipeline files = files.map (processAlone pace tree pipeline) := by
  simp [processAllSync, processAlone, h]

/-- Files that are processed one after the other come to what each comes to by itself, with the pace
that the disk had when the sources were read. -/
lemma exists_processAll_eq (h : pipeline.options.exportTo = []) (hsync : ¬ pipeline.isSync)
    (paces : Nat → Pace) (files : List String) :
    ∃ pace, processAll paces tree pipeline files
      = (files.map (processAlone pace tree pipeline), tree) := by
  induction files generalizing pipeline paces with
  | nil => exact ⟨paces 0, rfl⟩
  | cons path paths ih =>
    rw [processAll]
    simp only [List.map_cons]
    cases htext : readInput tree path with
    | error failure =>
      -- there is no pass over a file that cannot be read
      obtain ⟨pace, hothers⟩ := ih h hsync fun place => paces (place + 1)
      refine ⟨pace, ?_⟩
      simp only [hothers]
      simp [processAlone, htext, Except.bind]
    | ok text =>
      refine ⟨paces 0, ?_⟩
      obtain ⟨hpipeline, hdelivery⟩ :=
        Pipeline.process_of_exportTo_nil (.parse text 0) ⟨tree, paces 0⟩ h
      have hexport : (pipeline.importing ⟨tree, paces 0⟩).options.exportTo = [] := by simpa using h
      obtain ⟨later, hothers⟩ := ih hexport (by rwa [Pipeline.isSync_importing])
        fun place => paces (place + 1)
      rw [processAlone_importing h] at hothers
      simp only [Pipeline.processText, hpipeline, hdelivery, hothers]
      simp [processAlone, htext, Except.bind, hsync, Pipeline.processText]

end

/-! ### Files that are written -/

section

variable {arguments : ResolveArguments} {path text output : String} {report : PassReport}
  {failure : Failure} {after : FileTree} (written : Written)

lemma writeNext_of_error :
    writeNext arguments written ⟨path, .error failure⟩ =
      { written with
        report := written.report ++ failedFileLine path failure
        failed := written.failed + 1 } := rfl

lemma writeNext_of_write_ok
    (h : writeResult arguments written.tree path text = .ok (after, output)) :
    writeNext arguments written ⟨path, .ok (report, text)⟩ =
      { written with
        tree := after
        output := written.output ++ output
        report := written.report ++ if arguments.verbose then fileLine path report else ""
        updated := written.updated + report.updated } := by
  simp [writeNext, h, bind, Except.bind, pure, Except.pure]

lemma writeNext_of_write_error
    (h : writeResult arguments written.tree path text = .error failure) :
    writeNext arguments written ⟨path, .ok (report, text)⟩ =
      { written with
        report := written.report ++ failedFileLine path failure
        failed := written.failed + 1 } := by
  simp [writeNext, h, bind, Except.bind]

end

/-! ### Runs -/

variable {loaded : LoadedConfig}

/-- The pipeline of a run. -/
def pipelineOf (loaded : LoadedConfig) (arguments : ResolveArguments) (tree : FileTree) :
    Pipeline where
  options := optionsOf loaded arguments (workingDirectory tree)

/-- What is written in a run over some files, one after the other. -/
def writtenOf (loaded : LoadedConfig) (arguments : ResolveArguments) (pace : Pace)
    (tree : FileTree) (files : List String) : Written :=
  (files.map (processAlone pace tree (pipelineOf loaded arguments tree))).foldl
    (writeNext arguments) { tree }

/-- A run that exports nothing writes files one after the other, each as it comes out by itself. -/
lemma resolve_eq (paces : Nat → Pace) (arguments : ResolveArguments)
    (hconfig : configOf tree arguments = .ok loaded)
    (hfiles : findStylesheets tree arguments.inputs = .ok files)
    (hexport : (optionsOf loaded arguments (workingDirectory tree)).exportTo = []) :
    ∃ pace lines,
      let written := writtenOf loaded arguments pace tree files
      resolve paces tree arguments =
        { tree := written.tree
          output := written.output
          report := lines ++ written.report
            ++ summaryLine files.length written.failed written.updated
          succeeded := written.failed == 0 } := by
  obtain ⟨pace, hprocessed⟩ : ∃ pace, (if (pipelineOf loaded arguments tree).isSync
      then (processAllSync tree (pipelineOf loaded arguments tree) files, tree)
      else processAll paces tree (pipelineOf loaded arguments tree) files)
        = (files.map (processAlone pace tree (pipelineOf loaded arguments tree)), tree) := by
    split
    · next hsync => exact ⟨paces 0, by rw [processAllSync_eq hsync]⟩
    · next hsync => exact exists_processAll_eq hexport hsync paces files
  refine ⟨pace, ?_⟩
  unfold resolve
  simp only [hconfig, hfiles]
  have hpipeline : ({ options := optionsOf loaded arguments (workingDirectory tree) } : Pipeline)
      = pipelineOf loaded arguments tree := rfl
  rw [hpipeline, hprocessed]
  exact ⟨_, rfl⟩

end CommandLine

end CustomProperties
