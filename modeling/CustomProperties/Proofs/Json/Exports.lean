import CustomProperties.Proofs.Json.Written
import CustomProperties.Proofs.Merging.Insertion

/-!
# Reading exported JSON

Definitions written as JSON are what is read from that JSON: the same names with the same texts,
each at the place where it came first.
-/

namespace CustomProperties

namespace Json

/-- The members that definitions are written as. -/
def definitionMembers (properties : PlainProperties) : List (String × Json) :=
  properties.map (Prod.map id string)

/-- The object that definitions are written as. -/
def exported (properties : PlainProperties) : Json :=
  .object [("custom-properties", .object (definitionMembers properties))]

lemma hasExactMembers_definitionMembers (properties : PlainProperties) :
    HasExactMembers (definitionMembers properties) := by
  induction properties with
  | nil => trivial
  | cons property properties ih => exact ⟨trivial, ih⟩

lemma nestingMembers_definitionMembers (properties : PlainProperties) :
    nestingMembers (definitionMembers properties) = 0 := by
  induction properties with
  | nil => rfl
  | cons property properties ih =>
    have hcons : nestingMembers (definitionMembers (property :: properties))
        = max 0 (nestingMembers (definitionMembers properties)) := rfl
    rw [hcons, ih]
    rfl

lemma mergedMembers_definitionMembers (properties : PlainProperties) :
    mergedMembers (definitionMembers properties) = definitionMembers properties := by
  induction properties with
  | nil => rfl
  | cons property properties ih => exact congrArg (_ :: ·) ih

/-- The text that definitions are written as is read as the object of these definitions. -/
lemma parse_render_json (properties : PlainProperties) :
    parse (Format.render properties .json)
      = some (.object [("custom-properties",
          .object (OrderedMap.insertAll [] (definitionMembers properties)))]) := by
  have hexact : (exported properties).IsExact :=
    ⟨hasExactMembers_definitionMembers properties, trivial⟩
  have hnesting : (exported properties).nesting ≤ maxDepth := by
    have hlevels : (exported properties).nesting
        = max (nestingMembers (definitionMembers properties) + 1) 0 + 1 := rfl
    rw [hlevels, nestingMembers_definitionMembers]
    decide
  have hread : parseRaw (fun _ => false) (Format.render properties .json)
      = some (exported properties) :=
    parseRaw_pretty hexact hnesting "\n" (List.forall_mem_singleton.mpr rfl) _
  rw [parse, hread]
  have hmerged : (exported properties).merged = .object [("custom-properties",
      .object (OrderedMap.insertAll [] (mergedMembers (definitionMembers properties))))] := rfl
  rw [Option.map_some, hmerged, mergedMembers_definitionMembers]

end Json

/-- Definitions written as JSON are read back from it as they were. -/
theorem PropertyTable.ofObject_parse_render (properties : PlainProperties) :
    (Json.parse (Format.render properties .json)).map PropertyTable.ofObject
      = some (.ofPlain properties) := by
  rw [Json.parse_render_json, Option.map_some]
  have hobject : PropertyTable.ofObject (.object [("custom-properties",
        .object (OrderedMap.insertAll [] (Json.definitionMembers properties)))])
      = (∅ : PropertyTable).extend (.ofPlain ((OrderedMap.insertAll []
          (Json.definitionMembers properties)).map fun m => (m.1, m.2.plainText))) := rfl
  rw [hobject, PropertyTable.empty_extend, Json.definitionMembers, PropertyTable.ofPlain_strings]

end CustomProperties
