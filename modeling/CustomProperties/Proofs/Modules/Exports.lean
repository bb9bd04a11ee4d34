import CustomProperties.Proofs.Merging.Insertion
import CustomProperties.Proofs.Modules.Written
import CustomProperties.Module.Exports

/-!
# Reading written modules

Definitions written as a module of either kind are what is read from that module: the same names
with the same texts, each at the place where it came first.
-/

namespace CustomProperties

namespace Module

open Grammar

/-- The members of a written object are read as the texts they hold. -/
lemma literals_memberOf (entries : Exports) (properties : PlainProperties) :
    Expression.literals entries (properties.map memberOf)
      = OrderedMap.insertAll entries (properties.map (Prod.map id Json.string)) := by
  induction properties generalizing entries with
  | nil => rfl
  | cons property properties ih => exact ih _

/-- What a written module of either kind exports. -/
def exported (properties : PlainProperties) : Json :=
  .object [("customProperties", .object (Expression.literals [] (properties.map memberOf)))]

lemma ofObject_exported (properties : PlainProperties) :
    PropertyTable.ofObject (exported properties) = .ofPlain properties := by
  have hobject : PropertyTable.ofObject (exported properties)
      = (∅ : PropertyTable).extend (.ofPlain ((Expression.literals []
          (properties.map memberOf)).map fun m => (m.1, m.2.plainText))) := rfl
  rw [hobject, PropertyTable.empty_extend, literals_memberOf, PropertyTable.ofPlain_strings]

lemma read_render_commonModule (properties : PlainProperties) :
    read (Format.render properties .commonModule) = some (exported properties) := by
  rw [read, parse_render_commonModule]
  rfl

lemma read_render_esModule (properties : PlainProperties) :
    read (Format.render properties .esModule) = some (exported properties) := by
  rw [read, parse_render_esModule]
  rfl

/-- Definitions written as a module of either kind are read back from it as they were. -/
theorem ofObject_read_render (properties : PlainProperties) :
    (read (Format.render properties .commonModule)).map PropertyTable.ofObject
        = some (.ofPlain properties)
      ∧ (read (Format.render properties .esModule)).map PropertyTable.ofObject
        = some (.ofPlain properties) := by
  rw [read_render_commonModule, read_render_esModule]
  exact ⟨congrArg some (ofObject_exported properties), congrArg some (ofObject_exported properties)⟩

end Module

end CustomProperties
