import CustomProperties.Destination
import CustomProperties.Source
import CustomProperties.Update

/-!
# Pipelines

A pass over a style sheet collects its definitions, adds the imported ones, exports all of them and
updates the declarations. A pipeline runs passes with the same settings. It imports once, in the
first pass that may wait, and all later passes use what came of that, a failure included. A pass
that fails leaves the sheet as it was.
-/

namespace CustomProperties

/-- The settings of a pipeline. -/
structure Options where
  /-- Whether definitions and old declarations are kept. -/
  preserve : Bool := true
  importFrom : List Source := []
  exportTo : List Destination := []
deriving Inhabited

/-- The counts of a pass. -/
structure PassReport where
  /-- Definitions found in the sheet itself. -/
  collected : Nat := 0
  /-- Definitions taken from sources. -/
  imported : Nat := 0
  /-- Declarations updated. -/
  updated : Nat := 0
  /-- Destinations written to. -/
  exported : Nat := 0
deriving DecidableEq, Repr, Inhabited

/-- A pipeline: its settings, what came of the imports if they are over, and how many calls they
made. -/
structure Pipeline where
  options : Options
  imported : Option (Except String PropertyTable) := none
  calls : Nat := 0
deriving Inhabited

/-- What comes of a pass, the sheet and the pipeline afterwards included. -/
structure Pass where
  result : Except Failure PassReport
  sheet : Stylesheet
  pipeline : Pipeline
  delivery : Delivery

namespace Pipeline

/-- Whether passes need not wait: there is nothing to import and nothing to export. -/
def isSync (pipeline : Pipeline) : Bool :=
  pipeline.options.importFrom.isEmpty && pipeline.options.exportTo.isEmpty

/-- A pass that does not wait, with the definitions of the sheet alone. Gives the counts and the
sheet. -/
def processSync (pipeline : Pipeline) (sheet : Stylesheet) :
    Except Failure (PassReport × Stylesheet) :=
  if pipeline.isSync then
    let preserve := pipeline.options.preserve
    let ignored := IgnoreSet.scan sheet
    let collected := sheet.collect ignored preserve
    let updated := collected.2.update collected.1 ignored preserve sheet.freshId
    .ok ({ collected := collected.1.size, updated := updated.2 }, updated.1)
  else .error .mustWait

/-- The pipeline after importing, which is done once. -/
def importing (pipeline : Pipeline) (disk : Disk) : Pipeline :=
  match pipeline.imported with
  | some _ => pipeline
  | none =>
    let aggregation := aggregate disk pipeline.options.importFrom
    { pipeline with
      imported := some (aggregation.result.mapError Failure.message)
      calls := pipeline.calls + aggregation.calls }

/-- The definitions that were imported, or why there are none. -/
def importedTable (pipeline : Pipeline) : Except String PropertyTable :=
  pipeline.imported.getD (.ok ∅)

/-- A pass with given imported definitions. -/
def processWith (pipeline : Pipeline) (disk : Disk) (sheet : Stylesheet)
    (imported : PropertyTable) : Pass :=
  let preserve := pipeline.options.preserve
  let ignored := IgnoreSet.scan sheet
  let collected := sheet.collect ignored preserve
  let table := collected.1.fillFrom imported
  let exported := exportTable disk table pipeline.options.exportTo
  let pipeline :=
    { pipeline with options := { pipeline.options with exportTo := exported.destinations } }
  match exported.result with
  | .ok count =>
    let updated := collected.2.update table ignored preserve sheet.freshId
    { result := .ok {
        collected := collected.1.size
        imported := imported.size
        updated := updated.2
        exported := count }
      sheet := updated.1
      pipeline
      delivery := exported.delivery }
  | .error failure =>
    { result := .error failure, sheet, pipeline, delivery := exported.delivery }

/-- A full pass: collect, import, export and update. -/
def process (pipeline : Pipeline) (disk : Disk) (sheet : Stylesheet) : Pass :=
  let pipeline := pipeline.importing disk
  match pipeline.importedTable with
  | .ok imported => pipeline.processWith disk sheet imported
  | .error message =>
    { result := .error (.refused message), sheet, pipeline, delivery := ⟨disk.tree, []⟩ }

/-- A pass over a text that does not wait. Gives the counts and the text. -/
def processTextSync (pipeline : Pipeline) (text : String) : Except Failure (PassReport × String) :=
  (pipeline.processSync (.parse text 0)).map fun (report, sheet) => (report, sheet.render)

/-- A full pass over a text. -/
def processText (pipeline : Pipeline) (disk : Disk) (text : String) : Pass :=
  pipeline.process disk (.parse text 0)

end Pipeline

end CustomProperties
