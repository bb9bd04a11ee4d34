import CustomProperties.Proofs.Passes.Runs
import Mathlib.Tactic.Common

/-!
# Passes that fail

A pass that fails leaves its sheet as it was. One that failed in an export leaves no trace in its
pipeline either: as long as the files of the sources stay the same, later passes end as if it had
never run, whatever others do to the destinations meanwhile. What it wrote into objects is no
exception, since the next export that succeeds writes over it.
-/

namespace CustomProperties

/-! ### Files of sources -/

/-- The files that a source reads. -/
def Source.paths : Source → List String
  | object _ => []
  | location path kind => if (SourceFormat.ofKind? (kindOf path kind)).isSome then [path] else []
  | callable source => source.paths
  | pending _ source => source.paths
  | rejected .. => []

/-- The files that the sources of a list read are the same in two trees. -/
def SameFiles (sources : List Source) (tree tree' : FileTree) : Prop :=
  ∀ source ∈ sources, ∀ path ∈ source.paths, tree.read path = tree'.read path

lemma SourceFormat.load_congr {tree tree' : FileTree} {path : String}
    (h : tree.read path = tree'.read path) (format : SourceFormat) :
    format.load tree path = format.load tree' path := by
  cases format <;> simp only [load, h]

lemma Source.settle_congr {tree tree' : FileTree} {source : Source}
    (h : ∀ path ∈ source.paths, tree.read path = tree'.read path) (turn : Nat) :
    source.settle tree turn = source.settle tree' turn := by
  induction source generalizing turn with
  | object value => rfl
  | location path kind =>
    simp only [settle]
    split
    · next format hformat =>
      have hpath : path ∈ (Source.location path kind).paths := by simp [paths, hformat]
      rw [format.load_congr (h path hpath)]
    · rfl
  | callable source ih => exact ih h turn
  | pending turns source ih => exact ih h (turn + turns)
  | rejected turns message => rfl

/-- Of the files an aggregation depends on nothing but those that the sources read. -/
lemma aggregate_congr {tree tree' : FileTree} {sources : List Source}
    (h : SameFiles sources tree tree') (pace : Pace) :
    aggregate ⟨tree, pace⟩ sources = aggregate ⟨tree', pace⟩ sources := by
  have hsettle : settleAll ⟨tree, pace⟩ sources = settleAll ⟨tree', pace⟩ sources := by
    rw [settleAll, settleAll, List.map_congr_left]
    intro source hsource
    exact Source.settle_congr (h source hsource) 0
  rw [aggregate, aggregate, hsettle]

namespace Pipeline

open Destination (Indistinct)

variable {pipeline other : Pipeline} {disk : Disk} {sheet : Stylesheet} {table : PropertyTable}
  {files : FileTree → Prop}

/-! ### Sheets of passes that fail -/

/-- A pass that does not wait, as it changes a sheet in place. -/
def changeSync (pipeline : Pipeline) : ExceptT Failure (StateM Stylesheet) PassReport := do
  if pipeline.isSync then
    let preserve := pipeline.options.preserve
    let sheet ← get
    let ignored := IgnoreSet.scan sheet
    let table ← modifyGet (·.collect ignored preserve)
    let updated ← modifyGet (·.update table ignored preserve sheet.freshId |>.swap)
    pure { collected := table.size, updated }
  else throw .mustWait

/-- Changing a sheet in place gives the sheet of the pass, or the old one if the pass fails. -/
lemma run_changeSync (pipeline : Pipeline) (sheet : Stylesheet) :
    pipeline.changeSync.run.run sheet = match pipeline.processSync sheet with
      | .ok (report, out) => (.ok report, out)
      | .error failure => (.error failure, sheet) := by
  unfold changeSync processSync
  split
  · rfl
  · rfl

lemma sheet_of_changeSync_error {failure : Failure}
    (h : (pipeline.changeSync.run.run sheet).1 = .error failure) :
    (pipeline.changeSync.run.run sheet).2 = sheet := by
  rw [run_changeSync] at h ⊢
  cases hresult : pipeline.processSync sheet with
  | error failure => rfl
  | ok result =>
    rw [hresult] at h
    cases h

lemma sheet_of_process_error {failure : Failure}
    (h : (pipeline.process disk sheet).result = .error failure) :
    (pipeline.process disk sheet).sheet = sheet := by
  unfold process processWith at h ⊢
  simp only at h ⊢
  split at h
  · split at h
    · cases h
    · rfl
  · rfl

/-! ### Pipelines that go on alike -/

/-- A pipeline goes on like another one as long as the files are among some: they have the same
settings but for destinations that no export can tell apart, and where the first one has imported
definitions once it imports, the other has imported the same. -/
structure GoesOnLike (files : FileTree → Prop) (pipeline other : Pipeline) : Prop where
  preserve : pipeline.options.preserve = other.options.preserve
  sources : pipeline.options.importFrom = other.options.importFrom
  destinations : List.Forall₂ Indistinct pipeline.options.exportTo other.options.exportTo
  imported : ∀ disk table, files disk.tree →
    (pipeline.importing disk).importedTable = .ok table →
    (pipeline.importing disk).imported = (other.importing disk).imported ∧
    (pipeline.importing disk).calls = (other.importing disk).calls

/-- Where no export can tell the destinations apart, a pass that succeeds is the same pass. -/
lemma processWith_congr {imported : PropertyTable} {report : PassReport}
    (hpreserve : pipeline.options.preserve = other.options.preserve)
    (hsources : pipeline.options.importFrom = other.options.importFrom)
    (hdestinations : List.Forall₂ Indistinct pipeline.options.exportTo other.options.exportTo)
    (himported : pipeline.imported = other.imported) (hcalls : pipeline.calls = other.calls)
    (h : (pipeline.processWith disk sheet imported).result = .ok report) :
    pipeline.processWith disk sheet imported = other.processWith disk sheet imported := by
  obtain ⟨⟨preserve, sources, destinations⟩, result, calls⟩ := pipeline
  obtain ⟨⟨_, _, destinations'⟩, _, _⟩ := other
  obtain rfl := hpreserve
  obtain rfl := hsources
  obtain rfl := himported
  obtain rfl := hcalls
  have huses := (uses_of_processWith h).exported
  have hexport := (exportTable_congr disk _ hdestinations).2.2 report.exported
    (congrArg Export.result huses)
  simp only [ownTable] at hexport
  simp only [processWith, hexport]

/-- What a pass imported stays. -/
lemma importedTable_process (pipeline : Pipeline) (disk : Disk) (sheet : Stylesheet) :
    (pipeline.process disk sheet).pipeline.importedTable
      = (pipeline.importing disk).importedTable := by
  obtain ⟨-, -, himported⟩ := pipeline_process pipeline disk sheet
  rw [importedTable, importedTable, himported]

namespace GoesOnLike

/-- A pass that succeeds is the same pass of all pipelines like which its own one goes on. -/
lemma process_eq {report : PassReport} (h : GoesOnLike files pipeline other)
    (hdisk : files disk.tree) (hresult : (pipeline.process disk sheet).result = .ok report) :
    pipeline.process disk sheet = other.process disk sheet := by
  obtain ⟨imported, htable, -⟩ := uses_of_process hresult
  obtain ⟨himported, hcalls⟩ := h.imported disk imported hdisk htable
  have htable' : (other.importing disk).importedTable = .ok imported := by
    rw [← htable, importedTable, importedTable, himported]
  rw [process, htable] at hresult ⊢
  rw [process, htable']
  apply processWith_congr
  · simpa using h.preserve
  · simpa using h.sources
  · simpa using h.destinations
  · exact himported
  · exact hcalls
  · exact hresult

/-- A pipeline goes on like another one after a pass of both over the same sheet, whatever comes of
it. -/
lemma process (h : GoesOnLike files pipeline other) (hdisk : files disk.tree)
    (sheet : Stylesheet) :
    GoesOnLike files (pipeline.process disk sheet).pipeline
      (other.process disk sheet).pipeline := by
  obtain ⟨hsources, hpreserve, himported⟩ := pipeline_process pipeline disk sheet
  obtain ⟨hsources', hpreserve', himported'⟩ := pipeline_process other disk sheet
  refine ⟨?_, ?_, ?_, ?_⟩
  · rw [hpreserve, hpreserve', h.preserve]
  · rw [hsources, hsources', h.sources]
  · have hleft := Indistinct.all_trans (indistinct_process pipeline disk sheet) h.destinations
    exact Indistinct.all_trans hleft (Indistinct.all_symm (indistinct_process other disk sheet))
  · intro later table _ htable
    rw [importing_process, importedTable_process] at htable
    rw [importing_process, importing_process, himported, himported', calls_process, calls_process]
    exact h.imported disk table hdisk htable

/-- Nor do changes that others make set them apart. -/
lemma next (h : GoesOnLike files pipeline other) {event : Event}
    (hevent : ∀ disk ∈ event.disk?, files disk.tree) :
    GoesOnLike files (pipeline.next event) (other.next event) := by
  cases event with
  | pass disk sheet => exact h.process (hevent disk rfl) sheet
  | change place new =>
    refine ⟨h.preserve, h.sources, Indistinct.all_change h.destinations place new, ?_⟩
    intro disk table hdisk htable
    rw [importing_next_change] at htable
    rw [importing_next_change, importing_next_change]
    exact h.imported disk table hdisk htable

lemma after (h : GoesOnLike files pipeline other) {events : List Event}
    (hevents : ∀ disk ∈ events.filterMap Event.disk?, files disk.tree) :
    GoesOnLike files (pipeline.after events) (other.after events) := by
  induction events generalizing pipeline other with
  | nil => exact h
  | cons event events ih =>
    refine ih (h.next fun disk hdisk => ?_) fun disk hdisk => ?_
    · exact hevents disk (List.mem_filterMap.mpr ⟨event, List.mem_cons_self, hdisk⟩)
    · obtain ⟨later, hlater, hsome⟩ := List.mem_filterMap.mp hdisk
      exact hevents disk (List.mem_filterMap.mpr ⟨later, List.mem_cons_of_mem _ hlater, hsome⟩)

end GoesOnLike

/-- Importing that succeeds comes to the same from the same files, whatever the pace of the
disk. -/
lemma importing_of_sameFiles {later : Disk}
    (hfiles : SameFiles pipeline.options.importFrom disk.tree later.tree)
    (h : (pipeline.importing disk).importedTable = .ok table) :
    pipeline.importing later = pipeline.importing disk := by
  obtain ⟨tree, pace⟩ := disk
  obtain ⟨tree', pace'⟩ := later
  calc pipeline.importing ⟨tree', pace'⟩
      = pipeline.importing ⟨tree, pace'⟩ := by
        unfold importing
        rw [aggregate_congr hfiles]
    _ = pipeline.importing ⟨tree, pace⟩ := importing_of_pace h

/-- After a pass over a sheet a pipeline goes on as if there had been none, as long as the files of
the sources stay as they were in the pass. -/
lemma goesOnLike_process (pipeline : Pipeline) (disk : Disk) (sheet : Stylesheet) :
    GoesOnLike (SameFiles pipeline.options.importFrom disk.tree)
      (pipeline.process disk sheet).pipeline pipeline := by
  obtain ⟨hsources, hpreserve, himported⟩ := pipeline_process pipeline disk sheet
  refine ⟨hpreserve, hsources, indistinct_process pipeline disk sheet, ?_⟩
  intro later table hlater htable
  rw [importing_process, importedTable_process] at htable
  -- importing later gives what importing gave in the pass
  rw [importing_process, himported, calls_process, importing_of_sameFiles hlater htable]
  exact ⟨rfl, rfl⟩

/-! ### Passes after a failure -/

/-- A pass that fails leaves its sheet as it was, whether it waits or not. It leaves no trace in
later passes either: if the files of the sources stay the same, a later pass that succeeds is the
pass that it would be had the failed one never run, with the same counts, the same sheet and the
same deliveries, and it leaves the same pipeline. That holds whatever happens in between, be it
other passes or what others make of the destinations, and however long the disk takes. (Nor does a
pass that succeeds leave a trace. One whose imports fail makes all later passes fail.) -/
theorem process_after_failure (pipeline : Pipeline) (disk : Disk) (sheet : Stylesheet) :
    (∀ failure, (pipeline.changeSync.run.run sheet).1 = .error failure →
      (pipeline.changeSync.run.run sheet).2 = sheet) ∧
    (∀ failure, (pipeline.process disk sheet).result = .error failure →
      (pipeline.process disk sheet).sheet = sheet) ∧
    ∀ (between : List Event) (later : Disk) (sheet' : Stylesheet) (report : PassReport),
      (∀ disk' ∈ (between ++ [Event.pass later sheet']).filterMap Event.disk?,
        SameFiles pipeline.options.importFrom disk.tree disk'.tree) →
      (((pipeline.process disk sheet).pipeline.after between).process later sheet').result
        = .ok report →
      ((pipeline.process disk sheet).pipeline.after between).process later sheet'
        = (pipeline.after between).process later sheet' := by
  refine ⟨fun _ => sheet_of_changeSync_error, fun _ => sheet_of_process_error, ?_⟩
  intro between later sheet' report hfiles hresult
  rw [List.filterMap_append, List.forall_mem_append] at hfiles
  have hlater : SameFiles pipeline.options.importFrom disk.tree later.tree :=
    hfiles.2 later List.mem_cons_self
  exact ((goesOnLike_process pipeline disk sheet).after hfiles.1).process_eq hlater hresult

lemma exists_ok_of_isOk {ε α : Type} {result : Except ε α} (h : result.isOk = true) :
    ∃ a, result = .ok a := by
  cases result with
  | error failure => cases h
  | ok a => exact ⟨a, rfl⟩

lemma exists_error_of_isOk_eq_false {ε α : Type} {result : Except ε α} (h : result.isOk = false) :
    ∃ failure, result = .error failure := by
  cases result with
  | error failure => exact ⟨failure, rfl⟩
  | ok a => cases h

/-- A pipeline with a file to import from, and an object, a file and a callback to export to. The
callback refuses what it is handed. -/
def objectAndFile : Pipeline where
  options := {
    importFrom := [.location "/in.json" none]
    exportTo := [.object (.object []), .location "/out/all.css" none none,
      .callable fun _ => some "No"] }

/-- The file to import from, and nothing else. -/
def importedFile : FileTree :=
  ⟨[(["in.json"], .file (.text "\x7b\"customProperties\":\x7b\"--b\":\"2px\"\x7d\x7d"))], []⟩

/-- The same file, and a place for the file to export to. -/
def importedFileAndOut : FileTree := ⟨importedFile.entries ++ [(["out"], .directory)], []⟩

/-- A pass that writes into the object, finds no place for the file and is refused by the callback,
another one that fails, a change of the callback's answer and of the object, and a pass that
succeeds on a slower disk. -/
theorem process_after_failure_objectAndFile :
    let disk : Disk := ⟨importedFile, .steady⟩
    let later : Disk := ⟨importedFileAndOut, fun _ => 3, fun _ => 2⟩
    let between := [.pass disk ⟨[], ""⟩, .change 2 (.callable fun _ => none),
      .change 0 (.object (.object [("custom-properties", .null)]))]
    let failed := objectAndFile.process disk ownSpacing
    let again := (failed.pipeline.after between).process later ownSpacing
    (∃ failure, failed.result = .error failure) ∧ failed.sheet = ownSpacing ∧
    (objectAndFile.changeSync.run.run ownSpacing).2 = ownSpacing ∧
    (∃ report, again.result = .ok report) ∧
    again = (objectAndFile.after between).process later ownSpacing := by
  intro disk later between failed again
  obtain ⟨hsync, hfull, hagain⟩ := process_after_failure objectAndFile disk ownSpacing
  obtain ⟨failure, hfailure⟩ := exists_error_of_isOk_eq_false
    (show failed.result.isOk = false by decide +kernel)
  obtain ⟨report, hreport⟩ := exists_ok_of_isOk (show again.result.isOk = true by decide +kernel)
  have hfiles : ∀ disk' ∈ (between ++ [Event.pass later ownSpacing]).filterMap Event.disk?,
      SameFiles objectAndFile.options.importFrom importedFile disk'.tree := by
    have hread : importedFile.read "/in.json" = importedFileAndOut.read "/in.json" := by
      decide +kernel
    have hpaths : ∀ source ∈ objectAndFile.options.importFrom, ∀ path ∈ source.paths,
        path = "/in.json" := by
      decide +kernel
    have hdisks : (between ++ [Event.pass later ownSpacing]).filterMap Event.disk?
        = [disk, later] := rfl
    intro disk' hdisk source hsource path hpath
    rw [hpaths source hsource path hpath]
    rw [hdisks, List.mem_cons, List.mem_singleton] at hdisk
    rcases hdisk with rfl | rfl
    · rfl
    · exact hread
  exact ⟨⟨failure, hfailure⟩, hfull failure hfailure, hsync .mustWait rfl, ⟨report, hreport⟩,
    hagain _ _ _ report hfiles hreport⟩

end Pipeline

end CustomProperties
