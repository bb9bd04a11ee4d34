import CustomProperties.Json.Basic
import CustomProperties.Module.Parser

/-!
# What a module exports

A module is never run. What it exports is put together from the literals in it: exported variables,
the members of a default export, and what is assigned to `exports`, `module.exports` and their
members at the top of the module. What is no literal is left out.
-/

namespace CustomProperties.Module

/-- The members that a module exports, under names in the order in which they came first. -/
abbrev Exports := List (String × Json)

namespace Expression

mutual

/-- The value that an expression writes, if it is a literal. -/
def literal? : Expression → Option Json
  | string value => value.map .string
  | number value => some (.string value.positional)
  | bool value => some (.bool value)
  | null => some .null
  | parens inner => inner.literal?
  | minus (number value) => some (.string value.neg.positional)
  | object members => some (.object (literals [] members))
  | _ => none

/-- The members of an object that are literals, added to some that come before them. -/
def literals (entries : Exports) : List Member → Exports
  | [] => entries
  | .property (some key) value :: members =>
    match value.literal? with
    | some json => literals (OrderedMap.insert key json entries) members
    | none => literals entries members
  | _ :: members => literals entries members

end

/-- Whether an expression is `module.exports`. -/
def isModuleExports : Expression → Bool
  | member (name "module") (some "exports") => true
  | _ => false

/-- Whether an expression is `exports` or `module.exports`. -/
def isExports : Expression → Bool
  | name "exports" => true
  | value => value.isModuleExports

end Expression

namespace Exports

/-- The exports after a literal was assigned to something. -/
def assign (exports : Exports) (target : Expression) (value : Json) : Exports :=
  if target.isModuleExports then (value.members?).getD exports
  else match target with
    | .member owner (some key) =>
      if owner.isExports then OrderedMap.insert key value exports else exports
    | _ => exports

/-- The exports after a variable was exported. -/
def declare (exports : Exports) : Binding → Exports
  | (some name, some value) =>
    match value.literal? with
    | some json => OrderedMap.insert name json exports
    | none => exports
  | _ => exports

/-- The exports after what an item says. -/
def take (exports : Exports) : Item → Exports
  | .exportVariables bindings => bindings.foldl declare exports
  | .exportDefault value =>
    OrderedMap.insertAll exports ((value.literal?.bind (·.members?)).getD [])
  | .expression (.assignment target value) =>
    match value.literal? with
    | some json => exports.assign target json
    | none => exports
  | _ => exports

end Exports

/-- The object that a module exports. -/
def exportsOf (items : List Item) : Json := .object (items.foldl Exports.take [])

/-- The object that a text exports as a module, unless it is none. -/
def read (text : String) : Option Json := (parse text).map exportsOf

end CustomProperties.Module
