import CustomProperties.Pipeline
import CustomProperties.Proofs.Passes.Batches
import Mathlib.Tactic.Common

/-!
# What a pass does

A pass collects definitions, settles on one table, exports that table and updates the sheet with it.
`Pipeline.Uses` names the table; all that is proved about passes that succeed starts from
`uses_of_processSync` and `uses_of_process`, which say what this table is.
-/

namespace CustomProperties.Pipeline

variable {pipeline : Pipeline} {disk : Disk} {sheet out : Stylesheet} {report : PassReport}
  {table imported : PropertyTable} {pass : Pass}

/-- The definitions of a sheet itself. -/
def ownTable (pipeline : Pipeline) (sheet : Stylesheet) : PropertyTable :=
  (sheet.collect (.scan sheet) pipeline.options.preserve).1

/-- What updating with a table makes of a sheet after its definitions were collected, and how many
declarations are updated. -/
def updatedWith (pipeline : Pipeline) (sheet : Stylesheet) (table : PropertyTable) :
    Stylesheet × Nat :=
  (sheet.collect (.scan sheet) pipeline.options.preserve).2.update table (.scan sheet)
    pipeline.options.preserve sheet.freshId

/-- A pass that succeeds exports a table and updates the sheet with it. -/
structure Uses (pipeline : Pipeline) (disk : Disk) (sheet : Stylesheet) (pass : Pass)
    (report : PassReport) (table : PropertyTable) : Prop where
  result : pass.result = .ok report
  exported : exportTable disk table pipeline.options.exportTo
    = ⟨.ok report.exported, pass.pipeline.options.exportTo, pass.delivery⟩
  updated : pipeline.updatedWith sheet table = (pass.sheet, report.updated)

@[simp] lemma options_importing (pipeline : Pipeline) (disk : Disk) :
    (pipeline.importing disk).options = pipeline.options := by
  unfold importing
  split <;> rfl

/-- A pass that need not wait succeeds. -/
lemma processSync_of_isSync (h : pipeline.isSync) (sheet : Stylesheet) :
    pipeline.processSync sheet = .ok (
      { collected := (pipeline.ownTable sheet).size
        updated := (pipeline.updatedWith sheet (pipeline.ownTable sheet)).2 },
      (pipeline.updatedWith sheet (pipeline.ownTable sheet)).1) := by
  rw [processSync, if_pos h]
  rfl

/-- A pass that does not wait uses the definitions of the sheet alone. -/
lemma uses_of_processSync (h : pipeline.processSync sheet = .ok (report, out)) :
    pipeline.options.importFrom = [] ∧ pipeline.options.exportTo = [] ∧
    pipeline.updatedWith sheet (pipeline.ownTable sheet) = (out, report.updated) := by
  unfold processSync at h
  split at h
  · next hsync =>
    rw [isSync, Bool.and_eq_true, List.isEmpty_iff, List.isEmpty_iff] at hsync
    cases h
    exact ⟨hsync.1, hsync.2, rfl⟩
  · cases h

lemma uses_of_processWith (h : (pipeline.processWith disk sheet imported).result = .ok report) :
    Uses pipeline disk sheet (pipeline.processWith disk sheet imported) report
      ((pipeline.ownTable sheet).fillFrom imported) := by
  unfold processWith at h ⊢
  simp only at h ⊢
  -- the export of the table decides whether the pass succeeds
  rcases hexport : exportTable disk ((pipeline.ownTable sheet).fillFrom imported)
    pipeline.options.exportTo with ⟨result, destinations, delivery⟩
  rw [ownTable] at hexport
  rw [hexport] at h ⊢
  cases result with
  | error failure => cases h
  | ok count =>
    cases h
    exact ⟨rfl, hexport, rfl⟩

/-- A full pass uses the definitions of the sheet and those that were imported. -/
lemma uses_of_process (h : (pipeline.process disk sheet).result = .ok report) :
    ∃ imported, (pipeline.importing disk).importedTable = .ok imported ∧
      Uses pipeline disk sheet (pipeline.process disk sheet) report
        ((pipeline.ownTable sheet).fillFrom imported) := by
  unfold process at h ⊢
  simp only at h ⊢
  cases himported : (pipeline.importing disk).importedTable with
  | error message =>
    rw [himported] at h
    cases h
  | ok imported =>
    rw [himported] at h
    have huses := uses_of_processWith h
    refine ⟨imported, rfl, huses.result, ?_, ?_⟩
    · have hexported := huses.exported
      rw [ownTable, options_importing] at hexported
      exact hexported
    · have hupdated := huses.updated
      rw [updatedWith, ownTable, options_importing] at hupdated
      exact hupdated

end CustomProperties.Pipeline
