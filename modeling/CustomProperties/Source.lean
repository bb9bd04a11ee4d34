import CustomProperties.Collect
import CustomProperties.Concurrent
import CustomProperties.Failure
import CustomProperties.Format
import CustomProperties.Json.Parser
import CustomProperties.Module.Exports
import CustomProperties.Sheet.Parser

/-!
# Sources of definitions

Definitions come from objects and files, directly or through something that has to be called or
waited for first. All sources of a list settle side by side, and their tables are merged in the
order of the list, so that later sources win however long they take.
-/

namespace CustomProperties

/-- Where definitions come from. -/
inductive Source where
  | object (value : Json)
  /-- A file. A kind given explicitly goes before the extension of the path. -/
  | location (path : String) (kind : Option String)
  /-- A source to be asked for by a call. -/
  | callable (source : Source)
  /-- A source that is there after some turns. -/
  | pending (turns : Nat) (source : Source)
  /-- A source that fails after some turns. -/
  | rejected (turns : Nat) (message : String)
deriving Inhabited

/-- The definitions of a style sheet. -/
def PropertyTable.ofStylesheet (text : String) : PropertyTable :=
  let sheet := Stylesheet.parse text 0
  (sheet.collect (.scan sheet) true).1

/-- The definitions of a file in a format. -/
def SourceFormat.load (format : SourceFormat) (tree : FileTree) (path : String) :
    Except Failure PropertyTable :=
  match format with
  | stylesheet =>
    match tree.read path with
    | .ok text => .ok (.ofStylesheet text)
    | .error error => .error (.readStylesheet path error)
  | json =>
    match tree.read path with
    | .ok text =>
      match Json.parse text with
      | some value => .ok (.ofObject value)
      | none => .error (.parseJson path)
    | .error error => .error (.readJson path error)
  | module =>
    match tree.read path with
    | .ok text =>
      match Module.read text with
      | some value => .ok (.ofObject value)
      | none => .error (.parseModule path)
    | .error error => .error (.readModule path error)

namespace Source

/-- How a source settles that starts in a turn. Only files of a known format are read. -/
def settle (tree : FileTree) (turn : Nat) : Source → Ending Failure PropertyTable
  | object value => ⟨false, turn, .ok (.ofObject value)⟩
  | location path kind =>
    match SourceFormat.ofKind? (kindOf path kind) with
    | some format => ⟨true, turn, format.load tree path⟩
    | none => ⟨false, turn, .ok ∅⟩
  | callable source => source.settle tree turn
  | pending turns source => source.settle tree (turn + turns)
  | rejected turns message => ⟨false, turn + turns, .error (.refused message)⟩

/-- The turns in which a source that starts in a turn is called. -/
def callTurns (turn : Nat) : Source → List Nat
  | callable source => turn :: source.callTurns turn
  | pending turns source => source.callTurns (turn + turns)
  | _ => []

end Source

/-- What comes of a list of sources. -/
structure Aggregation where
  result : Except Failure PropertyTable
  /-- How many calls were made. -/
  calls : Nat

/-- The tables of a list in one, later ones winning. -/
def PropertyTable.merge (tables : List PropertyTable) : PropertyTable :=
  tables.foldl PropertyTable.extend ∅

/-- How the sources of a list settle. -/
def settleAll (disk : Disk) (sources : List Source) : BatchEnd Failure PropertyTable :=
  .ofEndings disk.pace.reading (sources.map (·.settle disk.tree 0))

/-- How many calls are made before a batch of `size` tasks ends, `task` being the place of the first
source. -/
def callsBefore (batch : BatchEnd Failure PropertyTable) (size task : Nat) : List Source → Nat
  | [] => 0
  | source :: sources =>
    ((source.callTurns 0).filter fun turn => batch.reaches (.ofTask size turn task)).length
      + callsBefore batch size (task + 1) sources

/-- Settle all sources of a list and merge their tables. The first failure in time is that of the
whole list. -/
def aggregate (disk : Disk) (sources : List Source) : Aggregation :=
  let batch := settleAll disk sources
  let result := match batch with
    | .finished tables => .ok (.merge tables)
    | .failed failure _ => .error failure
  ⟨result, callsBefore batch sources.length 0 sources⟩

end CustomProperties
