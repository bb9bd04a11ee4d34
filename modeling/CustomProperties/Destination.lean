import CustomProperties.Concurrent
import CustomProperties.Failure
import CustomProperties.Format

/-!
# Destinations of definitions

The final table is written to files, into objects, and handed to callbacks. All destinations of a
list start in their order; one that fails at once keeps the later ones from starting. A file of an
unknown kind is passed over.
-/

namespace CustomProperties

/-- Where definitions go. -/
inductive Destination where
  /-- A file. A kind given explicitly goes before the extension of the path, and a transform says
  what is written in place of the table. -/
  | location (path : String) (kind : Option String)
    (transform : Option (PropertyTable → PlainProperties))
  /-- A callback. It may refuse what it is handed, with the message that it answers. -/
  | callable (answer : PlainProperties → Option String)
  | object (value : Json)
deriving Inhabited

/-- Write definitions into an object: into the first of its members meant for definitions, or a new
one. -/
def Json.define (value : Json) (properties : PlainProperties) : Except Failure Json :=
  match value with
  | .object members =>
    let key := (definitionKeys.find? (OrderedMap.contains · members)).getD "customProperties"
    let definitions := properties.map fun p => (p.1, Json.string p.2)
    .ok (.object (OrderedMap.insert key (.object definitions) members))
  | _ => .error .notAnObject

/-- What an export has done so far: the files there are, and what callbacks were handed. -/
structure Delivery where
  tree : FileTree
  received : List PlainProperties

namespace Destination

/-- The text that is written for a table, unless the file is passed over. -/
def content? (table : PropertyTable) (path : String) (kind : Option String)
    (transform : Option (PropertyTable → PlainProperties)) : Option String :=
  (Format.ofKind? (kindOf path kind)).map fun format =>
    format.render (match transform with
      | some transform => transform table
      | none => table.toPlain)

/-- How writing a table to a destination ends: whether something was written. -/
def ending (tree : FileTree) (table : PropertyTable) : Destination → Ending Failure Bool
  | location path kind transform =>
    match content? table path kind transform with
    | some text =>
      match tree.write path text with
      | .ok _ => ⟨true, 0, .ok true⟩
      | .error error => ⟨true, 0, .error (.write path error)⟩
    | none => ⟨false, 0, .ok false⟩
  | callable answer =>
    match answer table.toPlain with
    | none => ⟨false, 0, .ok true⟩
    | some message => ⟨false, 0, .error (.refused message)⟩
  | object value => ⟨false, 0, (value.define table.toPlain).map fun _ => true⟩

/-- What a destination does with a table once it starts: the destination afterwards, and all that
was done. -/
def deliver (table : PropertyTable) (delivery : Delivery) :
    Destination → Destination × Delivery
  | location path kind transform =>
    let tree := match content? table path kind transform with
      | some text => (delivery.tree.write path text).toOption.getD delivery.tree
      | none => delivery.tree
    (location path kind transform, { delivery with tree })
  | callable answer =>
    (callable answer, { delivery with received := delivery.received ++ [table.toPlain] })
  | object value => (object ((value.define table.toPlain).toOption.getD value), delivery)

/-- What the destinations of a list do that start before a batch of `size` tasks ends, `task` being
the place of the first one. -/
def deliverAll (batch : BatchEnd Failure Bool) (table : PropertyTable) (size task : Nat)
    (delivery : Delivery) : List Destination → List Destination × Delivery
  | [] => ([], delivery)
  | destination :: destinations =>
    let first :=
      if batch.reaches (.ofTask size 0 task) then destination.deliver table delivery
      else (destination, delivery)
    let others := deliverAll batch table size (task + 1) first.2 destinations
    (first.1 :: others.1, others.2)

end Destination

/-- What comes of an export. -/
structure Export where
  /-- How many destinations were written to. -/
  result : Except Failure Nat
  destinations : List Destination
  delivery : Delivery

/-- Write a table to all destinations of a list. -/
def exportTable (disk : Disk) (table : PropertyTable) (destinations : List Destination) : Export :=
  let batch := BatchEnd.ofEndings disk.pace.writing (destinations.map (·.ending disk.tree table))
  let result := match batch with
    | .finished written => .ok (written.filter id).length
    | .failed failure _ => .error failure
  let delivered :=
    Destination.deliverAll batch table destinations.length 0 ⟨disk.tree, []⟩ destinations
  ⟨result, delivered.1, delivered.2⟩

end CustomProperties
