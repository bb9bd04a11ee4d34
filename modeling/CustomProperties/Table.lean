import CustomProperties.Text.OrderedMap
import CustomProperties.Text.Word
import CustomProperties.Value.Parser

/-!
# Property tables

A table maps the names of custom properties to the tokens of their values, in the order in which
the names came first.
-/

namespace CustomProperties

open Text (isWord)

/-- Whether a text is the name of a custom property: two hyphens, a letter or underscore of ASCII,
and then any word characters and hyphens. -/
def isCustomProperty (name : String) : Bool :=
  match name.toList with
  | '-' :: '-' :: c :: rest => (c.isAlpha || c == '_') && rest.all fun c => isWord c || c == '-'
  | _ => false

/-- Names and the texts of their values, in order. -/
abbrev PlainProperties := List (String × String)

/-- An ordered map from names to the tokens of values. -/
structure PropertyTable where
  entries : List (String × List ValueNode)
  nodup_names : (OrderedMap.names entries).Nodup := by decide

namespace PropertyTable

/-- The table without entries. -/
def empty : PropertyTable where
  entries := []
  nodup_names := List.nodup_nil

instance : Inhabited PropertyTable := ⟨empty⟩

instance : EmptyCollection PropertyTable := ⟨empty⟩

/-- Give a name a value. A name that is there keeps its place. -/
def insert (table : PropertyTable) (name : String) (value : List ValueNode) : PropertyTable where
  entries := OrderedMap.insert name value table.entries
  nodup_names := OrderedMap.nodup_names_insert name value table.nodup_names

/-- The tokens of a name's value. -/
def get? (table : PropertyTable) (name : String) : Option (List ValueNode) :=
  OrderedMap.get? name table.entries

/-- Whether a name has a value. -/
def contains (table : PropertyTable) (name : String) : Bool := (table.get? name).isSome

/-- How many names there are. -/
def size (table : PropertyTable) : Nat := table.entries.length

/-- Whether there are no names. -/
def isEmpty (table : PropertyTable) : Bool := table.entries.isEmpty

/-- The names, in order. -/
def names (table : PropertyTable) : List String := OrderedMap.names table.entries

/-- Add the entries of another table, whose values win. -/
def extend (table other : PropertyTable) : PropertyTable :=
  other.entries.foldl (fun table entry => table.insert entry.1 entry.2) table

/-- Add the entries of another table under names that have no value yet. -/
def fillFrom (table other : PropertyTable) : PropertyTable :=
  other.entries.foldl
    (fun table entry => if table.contains entry.1 then table else table.insert entry.1 entry.2) table

/-- The table of names and the texts of their values; of a repeated name the last value counts. -/
def ofPlain (properties : PlainProperties) : PropertyTable :=
  properties.foldl (fun table property => table.insert property.1 (Value.parse property.2).nodes)
    empty

/-- The text of a name's value. -/
def text? (table : PropertyTable) (name : String) : Option String :=
  (table.get? name).map ValueNode.plainText

/-- The names and the texts of their values. -/
def toPlain (table : PropertyTable) : PlainProperties :=
  table.entries.map fun entry => (entry.1, ValueNode.plainText entry.2)

/-- Whether two tables give the same names the same tokens, in whatever order. -/
def same (table other : PropertyTable) : Bool :=
  table.size == other.size && table.entries.all fun entry =>
    match other.get? entry.1 with
    | some value => ValueNode.sameAll entry.2 value
    | none => false

/-! ### Reading after writing -/

@[simp] theorem get?_empty (name : String) : empty.get? name = none := rfl

@[simp] theorem get?_insert (table : PropertyTable) (name other : String)
    (value : List ValueNode) :
    (table.insert name value).get? other = if name = other then some value else table.get? other :=
  OrderedMap.get?_insert ..

theorem mem_names_iff {table : PropertyTable} {name : String} :
    name ∈ table.names ↔ table.contains name := OrderedMap.mem_names_iff

theorem names_insert (table : PropertyTable) (name : String) (value : List ValueNode) :
    (table.insert name value).names
      = if name ∈ table.names then table.names else table.names ++ [name] :=
  OrderedMap.names_insert ..

end PropertyTable

end CustomProperties
