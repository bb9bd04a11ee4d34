import CustomProperties.Proofs.Files.Writing
import CustomProperties.Proofs.Merging.Sources
import CustomProperties.Proofs.Passes.Basic
import Mathlib.Tactic.Common

/-!
# The table of a pass

A pipeline imports in its first full pass, and all later passes use what came of that. Whatever
passes went before, and whatever others did to the destinations meanwhile, the table that a pass
exports and updates with has the definitions of the sheet and those of the sources in their order:
those of the sheet win, and of the others the last ones, while the names come in the order of their
first definitions.
-/

namespace CustomProperties

open PropertyTable (Tabulates)

/-- What others make of a destination: a callback may answer in another way from then on, and an
object may hold something else. A file stays the file it is. -/
def Destination.change : Destination → Destination → Destination
  | callable _, callable answer => callable answer
  | object _, object value => object value
  | old, _ => old

namespace Pipeline

variable {pipeline : Pipeline} {disk : Disk} {sheet out : Stylesheet} {report : PassReport}

/-! ### Runs -/

/-- What happens to a pipeline: a full pass over a sheet, with the disk as it is then, or a change
that others make to the destination at a place. -/
inductive Event where
  | pass (disk : Disk) (sheet : Stylesheet)
  | change (place : Nat) (new : Destination)

/-- The disk of a pass. -/
def Event.disk? : Event → Option Disk
  | pass disk _ => some disk
  | change .. => none

/-- The pipeline after an event. -/
def next (pipeline : Pipeline) : Event → Pipeline
  | .pass disk sheet => (pipeline.process disk sheet).pipeline
  | .change place new =>
    let exportTo := pipeline.options.exportTo.modify place (·.change new)
    { pipeline with options := { pipeline.options with exportTo } }

/-- The pipeline after some events. -/
def after (pipeline : Pipeline) (events : List Event) : Pipeline := events.foldl next pipeline

/-- The disk as it was when a pipeline imported, if a pass with the disk `disk` comes after some
events: that of the first pass. -/
def importDisk (events : List Event) (disk : Disk) : Disk :=
  (events.findSome? Event.disk?).getD disk

/-- The definitions of each source of a new pipeline that comes to a pass with the disk `disk` after
some events. -/
def importedDefinitions (options : Options) (events : List Event) (disk : Disk) :
    List Definitions :=
  options.importFrom.map (·.definitions (importDisk events disk).tree)

/-- A pass changes nothing of a pipeline but its destinations and what it imported. -/
lemma pipeline_process (pipeline : Pipeline) (disk : Disk) (sheet : Stylesheet) :
    (pipeline.process disk sheet).pipeline.options.importFrom = pipeline.options.importFrom ∧
    (pipeline.process disk sheet).pipeline.options.preserve = pipeline.options.preserve ∧
    (pipeline.process disk sheet).pipeline.imported = (pipeline.importing disk).imported := by
  unfold process processWith
  simp only
  split
  · split <;> simp
  · simp

lemma importing_of_imported {result : Except String PropertyTable}
    (h : pipeline.imported = some result) : pipeline.importing disk = pipeline := by
  simp [importing, h]

lemma imported_importing_of_none (h : pipeline.imported = none) :
    (pipeline.importing disk).imported
      = some ((aggregate disk pipeline.options.importFrom).result.mapError Failure.message) := by
  simp [importing, h]

lemma isSome_imported_importing (pipeline : Pipeline) (disk : Disk) :
    (pipeline.importing disk).imported.isSome := by
  unfold importing
  split
  · next himported => rw [himported]; rfl
  · rfl

/-- A pipeline imports once. -/
lemma importing_importing (pipeline : Pipeline) (disk later : Disk) :
    (pipeline.importing disk).importing later = pipeline.importing disk := by
  obtain ⟨result, hresult⟩ := Option.isSome_iff_exists.mp (isSome_imported_importing pipeline disk)
  exact importing_of_imported hresult

/-- After a pass there is nothing left to import. -/
lemma importing_process (pipeline : Pipeline) (disk later : Disk) (sheet : Stylesheet) :
    (pipeline.process disk sheet).pipeline.importing later
      = (pipeline.process disk sheet).pipeline := by
  obtain ⟨-, -, himported⟩ := pipeline_process pipeline disk sheet
  obtain ⟨result, hresult⟩ := Option.isSome_iff_exists.mp (isSome_imported_importing pipeline disk)
  exact importing_of_imported (himported.trans hresult)

/-- Importing does not look at destinations. -/
lemma importing_next_change (pipeline : Pipeline) (disk : Disk) (place : Nat)
    (new : Destination) :
    (pipeline.next (.change place new)).importing disk
      = (pipeline.importing disk).next (.change place new) := by
  cases himported : pipeline.imported <;> simp only [importing, next, himported]

/-- Importing that succeeds comes to the same whatever the pace of the disk. -/
lemma importing_of_pace {tree : FileTree} {pace pace' : Pace} {table : PropertyTable}
    (h : (pipeline.importing ⟨tree, pace⟩).importedTable = .ok table) :
    pipeline.importing ⟨tree, pace'⟩ = pipeline.importing ⟨tree, pace⟩ := by
  cases himported : pipeline.imported with
  | some result => rw [importing_of_imported himported, importing_of_imported himported]
  | none =>
    rw [importedTable, imported_importing_of_none himported] at h
    simp only [importing, himported, aggregate_of_result_eq_ok (eq_ok_of_mapError h)]

/-- A pass that succeeds is the same pass whatever the pace of the disk. -/
lemma process_of_pace {tree : FileTree} {pace pace' : Pace}
    (h : (pipeline.process ⟨tree, pace⟩ sheet).result = .ok report) :
    pipeline.process ⟨tree, pace'⟩ sheet = pipeline.process ⟨tree, pace⟩ sheet := by
  obtain ⟨imported, himported, huses⟩ := uses_of_process h
  have hexport : exportTable ⟨tree, pace'⟩ ((pipeline.ownTable sheet).fillFrom imported) _ = _ :=
    exportTable_of_result_eq_ok (congrArg Export.result huses.exported)
  rw [ownTable] at hexport
  rw [process, process, importing_of_pace himported, himported]
  simp only [processWith, options_importing, hexport]

/-- An event changes neither the sources nor whether definitions are kept. -/
lemma options_next (pipeline : Pipeline) (event : Event) :
    (pipeline.next event).options.importFrom = pipeline.options.importFrom ∧
    (pipeline.next event).options.preserve = pipeline.options.preserve := by
  cases event with
  | pass disk sheet =>
    obtain ⟨hsources, hpreserve, -⟩ := pipeline_process pipeline disk sheet
    exact ⟨hsources, hpreserve⟩
  | change place new => exact ⟨rfl, rfl⟩

lemma options_after (pipeline : Pipeline) (events : List Event) :
    (pipeline.after events).options.importFrom = pipeline.options.importFrom ∧
    (pipeline.after events).options.preserve = pipeline.options.preserve := by
  induction events generalizing pipeline with
  | nil => exact ⟨rfl, rfl⟩
  | cons event events ih =>
    obtain ⟨hsources, hpreserve⟩ := options_next pipeline event
    exact ⟨(ih _).1.trans hsources, (ih _).2.trans hpreserve⟩

/-- What was imported once stays in an event. -/
lemma imported_next {result : Except String PropertyTable} (h : pipeline.imported = some result)
    (event : Event) : (pipeline.next event).imported = some result := by
  cases event with
  | pass disk sheet =>
    obtain ⟨-, -, himported⟩ := pipeline_process pipeline disk sheet
    rwa [importing_of_imported h, h] at himported
  | change place new => exact h

lemma imported_after {result : Except String PropertyTable} (h : pipeline.imported = some result)
    (events : List Event) : (pipeline.after events).imported = some result := by
  induction events generalizing pipeline with
  | nil => exact h
  | cons event events ih => exact ih (imported_next h event)

/-- What a pipeline has imported when it comes to a pass is what its sources gave in the first
one. -/
lemma imported_importing_after (hnew : pipeline.imported = none) (events : List Event)
    (disk : Disk) :
    ((pipeline.after events).importing disk).imported
      = some ((aggregate (importDisk events disk) pipeline.options.importFrom).result.mapError
          Failure.message) := by
  induction events generalizing pipeline with
  | nil => exact imported_importing_of_none hnew
  | cons event events ih =>
    have hstep : pipeline.after (event :: events) = (pipeline.next event).after events := rfl
    cases event with
    | pass first sheet =>
      obtain ⟨-, -, himported⟩ := pipeline_process pipeline first sheet
      rw [imported_importing_of_none hnew] at himported
      have hafter := imported_after himported events
      rw [hstep, next, importing_of_imported hafter, hafter]
      rfl
    | change place new => exact ih hnew

end Pipeline

/-! ### The table -/

/-- A table holds the definitions of a sheet, and those of sources under the names that the sheet
does not define. A later source wins over an earlier one, and the names come in the order in which
they are first defined. -/
structure PropertyTable.Merges (own : Definitions) (sources : List Definitions)
    (table : PropertyTable) : Prop where
  get? : ∀ name, table.get? name
    = (lastValue? name own).or (sources.reverse.findSome? (lastValue? name))
  names : table.names = ((own ++ sources.flatten).map (·.1)).eraseDups

lemma merges_fillFrom {own : Definitions} {sources : List Definitions}
    {table imported : PropertyTable} (h : Tabulates own table)
    (himported : Tabulates sources.flatten imported) :
    (table.fillFrom imported).Merges own sources where
  get? name := by
    rw [PropertyTable.get?_fillFrom, h.get?, himported.get?, lastValue?_flatten]
  names := by
    rw [PropertyTable.names_fillFrom, h.names, himported.names, eraseDups_eraseDups_append,
      eraseDups_append_eraseDups, List.map_append]

/-! ### Passes -/

/-- A pass that succeeds uses the definitions of the sheet and of the sources, whatever happened
before and however long the sources and the disk take. Passes that do not wait change nothing of a
pipeline, so that they need not be among what happened. -/
theorem Pipeline.merges_of_pass (options : Options) (events : List Event) (disk : Disk)
    (sheet : Stylesheet) :
    (∀ report out,
      (after { options } events).processSync sheet = .ok (report, out) →
      ∃ table, (after { options } events).updatedWith sheet table = (out, report.updated) ∧
        table.Merges (sheet.definitions (.scan sheet))
          (importedDefinitions options events disk)) ∧
    (∀ report, ((after { options } events).process disk sheet).result = .ok report →
      ∃ table, Uses (after { options } events) disk sheet
          ((after { options } events).process disk sheet) report table ∧
        table.Merges (sheet.definitions (.scan sheet))
          (importedDefinitions options events disk)) := by
  have hown := tabulates_collect sheet (.scan sheet) (after { options } events).options.preserve
  constructor
  · intro report out h
    obtain ⟨hsources, -, hupdated⟩ := uses_of_processSync h
    -- there are no sources, so nothing is there to fill the table up with
    rw [(options_after _ events).1] at hsources
    have hnone : Tabulates ([] : List Definitions).flatten ∅ := PropertyTable.tabulates_empty
    rw [importedDefinitions, hsources]
    exact ⟨_, hupdated, merges_fillFrom hown hnone⟩
  · intro report h
    obtain ⟨imported, himported, huses⟩ := uses_of_process h
    have hnew : ({ options } : Pipeline).imported = none := rfl
    have hresult := imported_importing_after hnew events disk
    rw [importedTable, hresult] at himported
    have haggregate := eq_ok_of_mapError himported
    exact ⟨_, huses, merges_fillFrom hown (tabulates_aggregate haggregate)⟩

/-- Two sources, the first of which takes longer. -/
def slowFirst : List Source :=
  [.pending 2 (.object (.object [("customProperties",
    .object [("--a", .string "2px"), ("--b", .string "3px")])])),
  .callable (.object (.object [("custom-properties",
    .object [("--c", .string "4px"), ("--b", .string "5px")])]))]

/-- A host scope that holds a definition. -/
def ownSpacing : Stylesheet where
  nodes := [.rule ⟨1, "", ":root", ""⟩ [.declaration ⟨2, "", "--a", ":", "1px", "", "", true⟩]
    ⟨"", true⟩]
  after := ""

/-- The second pass over `ownSpacing` with the sources `slowFirst`. -/
theorem Pipeline.merges_of_pass_slowFirst :
    ∃ report, ∃ table : PropertyTable,
      (process (after { options := { importFrom := slowFirst } } [.pass emptyDisk ownSpacing])
        emptyDisk ownSpacing).result = .ok report ∧
      table.Merges (ownSpacing.definitions (.scan ownSpacing))
        (importedDefinitions { importFrom := slowFirst } [.pass emptyDisk ownSpacing] emptyDisk) ∧
      (importedDefinitions { importFrom := slowFirst } [.pass emptyDisk ownSpacing] emptyDisk).map
        (·.map (·.1)) = [["--a", "--b"], ["--c", "--b"]] := by
  have h := merges_of_pass { importFrom := slowFirst } [.pass emptyDisk ownSpacing] emptyDisk
    ownSpacing
  have hok : (process (after { options := { importFrom := slowFirst } }
      [.pass emptyDisk ownSpacing]) emptyDisk ownSpacing).result.isOk = true := by
    decide +kernel
  cases hresult : (process (after { options := { importFrom := slowFirst } }
      [.pass emptyDisk ownSpacing]) emptyDisk ownSpacing).result with
  | error failure =>
    rw [hresult] at hok
    cases hok
  | ok report =>
    obtain ⟨table, -, hmerges⟩ := h.2 report hresult
    exact ⟨report, table, rfl, hmerges, rfl⟩

end CustomProperties
