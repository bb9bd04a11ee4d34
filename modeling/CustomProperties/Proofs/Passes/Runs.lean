import CustomProperties.Proofs.Exporting.Repeated
import CustomProperties.Proofs.Passes.Imports
import Mathlib.Tactic.Common

/-!
# Runs of full passes

A pipeline aggregates its sources in its first full pass and never again, so that no callable is
called twice. Every pass of a run ends as a pass of a new pipeline that is handed what the first
pass imported, or why it imported nothing. Of the sheets before, a pass can see nothing but what
stands in the destinations, and there no export can tell what passes wrote from what others left.
-/

namespace CustomProperties

/-! ### Changes of destinations -/

namespace Destination.Indistinct

/-- Where no export can tell two destinations apart, none can after others change both. -/
lemma change {d d' : Destination} (h : d.Indistinct d') (new : Destination) :
    (d.change new).Indistinct (d'.change new) := by
  -- a delivery shows whether a destination is a file, a callback or an object
  have hdelivered := congrArg Prod.fst (h.deliver ∅ ⟨⟨[], []⟩, []⟩)
  cases d with
  | location path kind transform =>
    cases d' with
    | location path' kind' transform' => exact h
    | _ => cases hdelivered
  | callable answer =>
    cases d' with
    | callable answer' =>
      cases new with
      | callable answer'' => rfl
      | _ => exact h
    | _ => cases hdelivered
  | object value =>
    cases d' with
    | object value' =>
      cases new with
      | object value'' => rfl
      | _ => exact h
    | _ => cases hdelivered

lemma all_change {ds ds' : List Destination} (h : List.Forall₂ Indistinct ds ds') (place : Nat)
    (new : Destination) :
    List.Forall₂ Indistinct (ds.modify place (·.change new))
      (ds'.modify place (·.change new)) := by
  induction h generalizing place with
  | nil => simpa only [List.modify_nil] using List.Forall₂.nil
  | cons hd hds ih =>
    cases place with
    | zero => simpa only [List.modify_zero_cons] using List.Forall₂.cons (hd.change new) hds
    | succ place => simpa only [List.modify_succ_cons] using List.Forall₂.cons hd (ih place)

end Destination.Indistinct

/-! ### Ends of passes -/

/-- Two passes end in the same way: with the same counts or the same failure, the same sheet, the
same destinations, and the same deliveries. -/
structure Pass.SameEnd (pass other : Pass) : Prop where
  result : pass.result = other.result
  sheet : pass.sheet = other.sheet
  destinations : pass.pipeline.options.exportTo = other.pipeline.options.exportTo
  delivery : pass.delivery = other.delivery

namespace Pipeline

open Destination (Indistinct)

variable {pipeline other : Pipeline} {disk : Disk} {sheet : Stylesheet}

/-- A new pipeline without sources that is handed definitions, or the message why there are none. -/
def handed (preserve : Bool) (exportTo : List Destination)
    (imports : Except String PropertyTable) : Pipeline where
  options := { preserve, exportTo }
  imported := some imports

/-- A pass depends on nothing but whether definitions are kept, the destinations, and what was
imported. -/
lemma sameEnd_process (hpreserve : pipeline.options.preserve = other.options.preserve)
    (hexport : pipeline.options.exportTo = other.options.exportTo)
    (himported : (pipeline.importing disk).importedTable = (other.importing disk).importedTable) :
    (pipeline.process disk sheet).SameEnd (other.process disk sheet) := by
  rw [process, process, himported]
  cases (other.importing disk).importedTable with
  | error message => exact ⟨rfl, rfl, by simpa using hexport, rfl⟩
  | ok imported =>
    simp only [processWith, options_importing, hpreserve, hexport]
    split
    · exact ⟨rfl, rfl, rfl, rfl⟩
    · exact ⟨rfl, rfl, rfl, rfl⟩

/-! ### Runs -/

/-- The disks with which a pipeline aggregates its sources in some events, once for each time it
does. -/
def aggregations (pipeline : Pipeline) : List Event → List Disk
  | [] => []
  | event :: events =>
    (if pipeline.imported.isNone then event.disk?.toList else [])
      ++ (pipeline.next event).aggregations events

lemma aggregations_of_imported {result : Except String PropertyTable}
    (h : pipeline.imported = some result) (events : List Event) :
    pipeline.aggregations events = [] := by
  induction events generalizing pipeline with
  | nil => rfl
  | cons event events ih =>
    rw [aggregations, ih (imported_next h event), h]
    rfl

/-- Sources are aggregated in the first pass, whatever comes of it, and in no other one. -/
lemma aggregations_of_none (hnew : pipeline.imported = none) (events : List Event) (disk : Disk)
    (sheet : Stylesheet) :
    pipeline.aggregations (events ++ [.pass disk sheet]) = [importDisk events disk] := by
  induction events generalizing pipeline with
  | nil => simp [aggregations, hnew, importDisk, Event.disk?]
  | cons event events ih =>
    rw [List.cons_append, aggregations, hnew]
    cases event with
    | pass first sheet' =>
      obtain ⟨-, -, himported⟩ := pipeline_process pipeline first sheet'
      rw [imported_importing_of_none hnew] at himported
      rw [next, aggregations_of_imported himported]
      rfl
    | change place new => exact ih hnew

/-- A pass counts the calls of the aggregation in it. -/
lemma calls_process (pipeline : Pipeline) (disk : Disk) (sheet : Stylesheet) :
    (pipeline.process disk sheet).pipeline.calls = (pipeline.importing disk).calls := by
  unfold process processWith
  simp only
  split
  · split <;> rfl
  · rfl

/-- The calls that are counted in an event are those of the aggregation in it, if there is one. -/
lemma calls_next (pipeline : Pipeline) (event : Event) :
    (pipeline.next event).calls = pipeline.calls
      + ((pipeline.aggregations [event]).flatMap
          (callsMade · pipeline.options.importFrom)).length := by
  cases event with
  | pass disk sheet =>
    rw [next, calls_process]
    cases himported : pipeline.imported with
    | some result => simp [aggregations, importing, himported]
    | none => simp [aggregations, Event.disk?, importing, himported, length_callsMade]
  | change place new => simp [aggregations, Event.disk?, next]

/-- The calls that a run counts are those of its aggregations. -/
lemma calls_after (pipeline : Pipeline) (events : List Event) :
    (pipeline.after events).calls = pipeline.calls
      + ((pipeline.aggregations events).flatMap
          (callsMade · pipeline.options.importFrom)).length := by
  induction events generalizing pipeline with
  | nil => rfl
  | cons event events ih =>
    have hstep : pipeline.after (event :: events) = (pipeline.next event).after events := rfl
    have hsplit : pipeline.aggregations (event :: events)
        = pipeline.aggregations [event] ++ (pipeline.next event).aggregations events := by
      simp only [aggregations, List.append_nil]
    rw [hstep, ih, calls_next, (options_next pipeline event).1, hsplit, List.flatMap_append,
      List.length_append, Nat.add_assoc]

/-- A pass leaves destinations that no export can tell from those before. -/
lemma indistinct_process (pipeline : Pipeline) (disk : Disk) (sheet : Stylesheet) :
    List.Forall₂ Indistinct (pipeline.process disk sheet).pipeline.options.exportTo
      pipeline.options.exportTo := by
  unfold process processWith
  simp only [options_importing]
  split
  · split <;> exact indistinct_exportTable ..
  · simpa using Indistinct.all_refl pipeline.options.exportTo

/-- What others make of the destinations of a list in an event. A pass is none of their doing. -/
def Event.changed (destinations : List Destination) : Event → List Destination
  | .pass .. => destinations
  | .change place new => destinations.modify place (·.change new)

/-- No export can tell the destinations after an event from what others alone make of those
before. -/
lemma indistinct_next (pipeline : Pipeline) (event : Event) :
    List.Forall₂ Indistinct (pipeline.next event).options.exportTo
      (event.changed pipeline.options.exportTo) := by
  cases event with
  | pass disk sheet => exact indistinct_process pipeline disk sheet
  | change place new => exact Indistinct.all_refl _

/-- Destinations that no export can tell apart stay so in the same changes. -/
lemma indistinct_changed {ds ds' : List Destination} (h : List.Forall₂ Indistinct ds ds')
    (event : Event) : List.Forall₂ Indistinct (event.changed ds) (event.changed ds') := by
  cases event with
  | pass disk sheet => exact h
  | change place new => exact Indistinct.all_change h place new

lemma indistinct_after (pipeline : Pipeline) (events : List Event) {ds : List Destination}
    (h : List.Forall₂ Indistinct pipeline.options.exportTo ds) :
    List.Forall₂ Indistinct (pipeline.after events).options.exportTo
      (events.foldl Event.changed ds) := by
  induction events generalizing pipeline ds with
  | nil => exact h
  | cons event events ih =>
    exact ih _ (Indistinct.all_trans (indistinct_next pipeline event) (indistinct_changed h event))

/-! ### Passes in a run -/

/-- A new pipeline aggregates its sources once in a run of full passes, however many there are, and
calls no callable twice, whatever the pace of the disk. Each pass ends as a pass of a new pipeline
that is handed what the sources gave in the first one, or the message of their failure. From the
sheets of the passes before it gets nothing but the destinations: for every export those are still
what they were, or what others made of them meanwhile, and where they are the same, so is the
pass. -/
theorem sameEnd_pass_of_run (options : Options) (events : List Event) (disk : Disk)
    (sheet : Stylesheet) :
    let pipeline := after { options } events
    let run := events ++ [.pass disk sheet]
    let calls := (aggregations { options } run).flatMap (callsMade · options.importFrom)
    let imports := (aggregate (importDisk events disk) options.importFrom).result.mapError
      Failure.message
    aggregations { options } run = [importDisk events disk] ∧
    calls.Nodup ∧ calls.length = (after { options } run).calls ∧
    (pipeline.process disk sheet).SameEnd
      ((handed options.preserve pipeline.options.exportTo imports).process disk sheet) ∧
    List.Forall₂ Indistinct pipeline.options.exportTo
      (events.foldl Event.changed options.exportTo) ∧
    ∀ others : List Event, importDisk others disk = importDisk events disk →
      (after { options } others).options.exportTo = pipeline.options.exportTo →
      ((after { options } others).process disk sheet).SameEnd (pipeline.process disk sheet) := by
  intro pipeline run calls imports
  have hnew : ({ options } : Pipeline).imported = none := rfl
  have honce : aggregations { options } run = [importDisk events disk] :=
    aggregations_of_none hnew events disk sheet
  -- what a pass has imported, told by the disk of the first pass
  have himports (others : List Event) :
      ((after { options } others).importing disk).importedTable
        = (aggregate (importDisk others disk) options.importFrom).result.mapError
          Failure.message := by
    rw [importedTable, imported_importing_after hnew others disk]
    rfl
  refine ⟨honce, ?_, ?_, ?_, indistinct_after _ events (Indistinct.all_refl _), ?_⟩
  · have hcalls : calls = callsMade (importDisk events disk) options.importFrom := by
      simp only [calls, honce, List.flatMap_cons, List.flatMap_nil, List.append_nil]
    rw [hcalls]
    exact nodup_callsMade _ _
  · rw [calls_after]
    exact (Nat.zero_add _).symm
  · apply sameEnd_process
    · exact (options_after _ events).2
    · rfl
    · exact himports events
  · intro others hdisk hexport
    apply sameEnd_process
    · exact (options_after _ others).2.trans (options_after _ events).2.symm
    · exact hexport
    · rw [himports, himports, hdisk]

/-- A source behind two calls, and a callback that refuses all it is handed. -/
def twiceCalled : Options where
  importFrom := [.callable (.pending 1 (.callable (.object (.object
    [("customProperties", .object [("--b", .string "2px")])]))))]
  exportTo := [.callable fun _ => some "No"]

/-- The third pass with `twiceCalled` in two runs over other sheets, in both of which the callback
takes another answer meanwhile. -/
theorem sameEnd_pass_of_run_twiceCalled :
    let accepting := Event.change 0 (.callable fun _ => none)
    let events := [.pass emptyDisk ownSpacing, accepting, .pass emptyDisk ⟨[], ""⟩]
    let others := [accepting, .pass emptyDisk ⟨[], "\n"⟩, .pass emptyDisk ownSpacing]
    let calls :=
      (aggregations { options := twiceCalled } (events ++ [.pass emptyDisk ownSpacing])).flatMap
        (callsMade · twiceCalled.importFrom)
    calls = [(0, 0), (0, 1)] ∧ calls.Nodup ∧
    ((after { options := twiceCalled } others).process emptyDisk ownSpacing).SameEnd
      ((after { options := twiceCalled } events).process emptyDisk ownSpacing) := by
  intro accepting events others calls
  obtain ⟨honce, hnodup, -, -, -, hothers⟩ :=
    sameEnd_pass_of_run twiceCalled events emptyDisk ownSpacing
  refine ⟨?_, hnodup, hothers others rfl ?_⟩
  · simp only [calls, honce]
    rfl
  · rfl

end Pipeline

end CustomProperties
