import CustomProperties.Proofs.Passes.Imports
import Mathlib.Tactic.Common

/-!
# Passes that wait for nothing

A pipeline without sources and destinations can run both kinds of passes. The full pass imports an
empty table and exports to no place, so that what remains of it is the pass that does not wait. A
pipeline stays such a pipeline in every pass, whatever it has cached before.
-/

namespace CustomProperties

/-! ### Nothing to import, nothing to export -/

lemma aggregate_nil (disk : Disk) : aggregate disk [] = ⟨.ok ∅, 0⟩ := rfl

lemma exportTable_nil (disk : Disk) (table : PropertyTable) :
    exportTable disk table [] = ⟨.ok 0, [], ⟨disk.tree, []⟩⟩ := rfl

@[simp] lemma PropertyTable.fillFrom_empty (table : PropertyTable) : table.fillFrom ∅ = table := rfl

@[simp] lemma PropertyTable.size_empty : (∅ : PropertyTable).size = 0 := rfl

namespace Pipeline

variable {pipeline : Pipeline} {disk : Disk} {sheet : Stylesheet} {preserve : Bool}

/-- A pipeline that has nothing to import and nothing to export, and has imported nothing. -/
structure Idle (pipeline : Pipeline) (preserve : Bool) : Prop where
  options : pipeline.options = { preserve }
  imported : ∀ result ∈ pipeline.imported, result = .ok ∅

namespace Idle

lemma importing (h : pipeline.Idle preserve) (disk : Disk) :
    (pipeline.importing disk).Idle preserve := by
  refine ⟨(options_importing pipeline disk).trans h.options, ?_⟩
  unfold Pipeline.importing
  split
  · exact h.imported
  · simp [h.options, aggregate_nil, Except.mapError]

lemma importedTable (h : pipeline.Idle preserve) : pipeline.importedTable = .ok ∅ := by
  unfold Pipeline.importedTable
  cases himported : pipeline.imported with
  | none => rfl
  | some result => exact h.imported result himported

/-- The full pass is the pass that does not wait, and delivers nothing. -/
lemma process_eq (h : pipeline.Idle preserve) (disk : Disk) (sheet : Stylesheet) :
    ∃ report out, pipeline.processSync sheet = .ok (report, out) ∧
      pipeline.process disk sheet
        = ⟨.ok report, out, pipeline.importing disk, ⟨disk.tree, []⟩⟩ := by
  have himporting := h.importing disk
  have hsync : pipeline.isSync = true := by simp [isSync, h.options]
  refine ⟨_, _, by rw [processSync, if_pos hsync], ?_⟩
  rw [process, himporting.importedTable]
  simp only [processWith, himporting.options, exportTable_nil, h.options,
    PropertyTable.fillFrom_empty, PropertyTable.size_empty]
  rw [← himporting.options]

lemma next (h : pipeline.Idle preserve) (event : Event) : (pipeline.next event).Idle preserve := by
  cases event with
  | pass disk sheet =>
    obtain ⟨report, out, -, hprocess⟩ := h.process_eq disk sheet
    rw [Pipeline.next, hprocess]
    exact h.importing disk
  | change place new =>
    -- there is no destination to change
    refine ⟨?_, h.imported⟩
    simp [Pipeline.next, h.options]

lemma after (h : pipeline.Idle preserve) (events : List Event) :
    (pipeline.after events).Idle preserve := by
  induction events generalizing pipeline with
  | nil => exact h
  | cons event events ih => exact ih (h.next event)

end Idle

lemma idle_new (preserve : Bool) : ({ options := { preserve } } : Pipeline).Idle preserve :=
  ⟨rfl, by simp⟩

/-- A pipeline with neither sources nor destinations, after any events: both kinds of passes succeed
with the same counts and leave the same sheet, the numbers of inserted declarations included. The
full pass delivers nothing. -/
theorem process_eq_processSync (preserve : Bool) (events : List Event) (disk : Disk)
    (sheet : Stylesheet) :
    let pipeline := after { options := { preserve } } events
    ∃ report out, pipeline.processSync sheet = .ok (report, out) ∧
      (pipeline.process disk sheet).result = .ok report ∧
      (pipeline.process disk sheet).sheet = out ∧
      (pipeline.process disk sheet).delivery = ⟨disk.tree, []⟩ := by
  intro pipeline
  have hidle : pipeline.Idle preserve := (idle_new preserve).after events
  obtain ⟨report, out, hsync, hprocess⟩ := hidle.process_eq disk sheet
  rw [hprocess]
  exact ⟨report, out, hsync, rfl, rfl, rfl⟩

end Pipeline

end CustomProperties
