import CustomProperties.Json.Basic
import CustomProperties.Proofs.Merging.Insertion
import Mathlib.Tactic.Common

/-!
# Parts of JSON values

`Json.induct` is induction over arrays and objects, and `Json.scalars` are the values in a value
that are neither. Merging the repeated names of a value makes no other values, and a value with
merged names stays as it is.
-/

namespace CustomProperties

namespace Json

/-! ### Induction -/

/-- Neither an array nor an object. -/
def isScalar : Json → Bool
  | array _ | object _ => false
  | null | bool _ | integer _ | double _ | string _ => true

mutual

/-- The scalars in a value. -/
def scalars : Json → List Json
  | array items => scalarsItems items
  | object members => scalarsMembers members
  | null => [null]
  | bool value => [bool value]
  | integer value => [integer value]
  | double value => [double value]
  | string value => [string value]

/-- The scalars in the values of an array. -/
def scalarsItems : List Json → List Json
  | [] => []
  | item :: items => item.scalars ++ scalarsItems items

/-- The scalars in the values of the members of an object. -/
def scalarsMembers : List (String × Json) → List Json
  | [] => []
  | (_, value) :: members => value.scalars ++ scalarsMembers members

end

/-- Induction over arrays and objects. -/
@[elab_as_elim]
lemma induct {motive : Json → Prop} (scalar : ∀ value, value.isScalar → motive value)
    (array : ∀ items, (∀ item ∈ items, motive item) → motive (.array items))
    (object : ∀ members, (∀ m ∈ members, motive m.2) → motive (.object members))
    (value : Json) : motive value := by
  match value with
  | .null | .bool _ | .integer _ | .double _ | .string _ => exact scalar _ rfl
  | .array items => exact array items fun item _ => induct scalar array object item
  | .object members => exact object members fun m _ => induct scalar array object m.2
termination_by sizeOf value
decreasing_by
  · have hlt := List.sizeOf_lt_of_mem ‹item ∈ items›
    rw [Json.array.sizeOf_spec]
    omega
  · obtain ⟨name, value⟩ := m
    have hlt := List.sizeOf_lt_of_mem ‹(name, value) ∈ members›
    rw [Prod.mk.sizeOf_spec] at hlt
    rw [Json.object.sizeOf_spec]
    show sizeOf value < _
    omega

/-- The values directly inside of an array or an object. -/
def parts : Json → List Json
  | array items => items
  | object members => members.map (·.2)
  | null | bool _ | integer _ | double _ | string _ => []

lemma mem_scalars_iff {value scalar : Json} (h : value.isScalar = false) :
    scalar ∈ value.scalars ↔ ∃ part ∈ value.parts, scalar ∈ part.scalars := by
  cases value with
  | array items =>
    rw [scalars, parts]
    induction items with
    | nil => simp [scalarsItems]
    | cons item items ih => simp [scalarsItems, ih rfl]
  | object members =>
    rw [scalars, parts]
    induction members with
    | nil => simp [scalarsMembers]
    | cons m members ih => simp [scalarsMembers, ih rfl]
  | _ => cases h

lemma scalars_of_isScalar {value : Json} (h : value.isScalar) : value.scalars = [value] := by
  cases value with
  | array | object => cases h
  | _ => rw [scalars]

/-! ### Merging -/

lemma merged_of_isScalar {value : Json} (h : value.isScalar) : value.merged = value := by
  cases value with
  | array | object => cases h
  | _ => rw [merged]

lemma merged_array (items : List Json) : (array items).merged = array (items.map merged) := by
  have hitems : mergedAll items = items.map merged := by
    induction items with
    | nil => rw [mergedAll, List.map_nil]
    | cons item items ih => rw [mergedAll, ih, List.map_cons]
  rw [merged, hitems]

lemma merged_object (members : List (String × Json)) :
    (object members).merged
      = object (OrderedMap.insertAll [] (members.map (Prod.map id merged))) := by
  have hmembers : mergedMembers members = members.map (Prod.map id merged) := by
    induction members with
    | nil => rw [mergedMembers, List.map_nil]
    | cons m members ih => rw [mergedMembers, ih, List.map_cons]; rfl
  rw [merged, hmembers]

/-- A value without repeated names stays as it is. -/
lemma merged_merged (value : Json) : value.merged.merged = value.merged := by
  induction value using induct with
  | scalar value h => rw [merged_of_isScalar h, merged_of_isScalar h]
  | array items ih =>
    rw [merged_array, merged_array, List.map_map]
    exact congrArg array (List.map_congr_left ih)
  | object members ih =>
    have hmembers : (members.map (Prod.map id merged)).map (Prod.map id merged)
        = members.map (Prod.map id merged) := by
      rw [List.map_map]
      exact List.map_congr_left fun m hm => Prod.ext rfl (ih m hm)
    rw [merged_object, merged_object, OrderedMap.map_insertAll, hmembers, List.map_nil,
      OrderedMap.insertAll_insertAll]

end Json

end CustomProperties
