import CustomProperties.Proofs.Exporting.Repeated
import CustomProperties.Proofs.Json.Exports
import CustomProperties.Proofs.Merging.Sources
import Mathlib

/-!
# Reading exported objects

Definitions are exported into one member of an object, and all other members stay as they are. They
are read back from it as long as no later member that is read has definitions of the same names:
that happens to an object with both of the members meant for definitions, since definitions are
written into the first of them and the second one goes before it in reading.
-/

namespace CustomProperties

/-! ### Objects -/

namespace Json

variable {members : List (String × Json)} {properties : PlainProperties}

/-- The name of the member of an object that definitions are written into. -/
def definitionKey (members : List (String × Json)) : String :=
  (definitionKeys.find? (OrderedMap.contains · members)).getD "customProperties"

/-- The members of an object after definitions were written into it. -/
def defined (members : List (String × Json)) (properties : PlainProperties) :
    List (String × Json) :=
  OrderedMap.insert (definitionKey members) (.object (definitionMembers properties)) members

lemma define_object (members : List (String × Json)) (properties : PlainProperties) :
    (Json.object members).define properties = .ok (.object (defined members properties)) := rfl

/-- The definitions of an object that are read after those written into it. -/
def overruling (members : List (String × Json)) : Definitions :=
  if OrderedMap.contains "customProperties" members then
    (Json.object members).memberDefinitions "custom-properties"
  else []

lemma memberDefinitions_defined (members : List (String × Json)) (properties : PlainProperties) :
    (Json.object (defined members properties)).memberDefinitions (definitionKey members)
      = properties.map fun p => (p.1, (Value.parse p.2).nodes) := by
  have hget : (Json.object (defined members properties)).get? (definitionKey members)
      = some (.object (definitionMembers properties)) := by
    simp [get?, members?, defined]
  rw [memberDefinitions, hget]
  simp only [definitionMembers, List.map_map]
  rfl

lemma get?_defined {key : String} (h : key ≠ definitionKey members) :
    OrderedMap.get? key (defined members properties) = OrderedMap.get? key members := by
  rw [defined, OrderedMap.get?_insert, if_neg h.symm]

lemma memberDefinitions_defined_of_ne {key : String} (h : key ≠ definitionKey members) :
    (Json.object (defined members properties)).memberDefinitions key
      = (Json.object members).memberDefinitions key := by
  have hget : (Json.object (defined members properties)).get? key
      = (Json.object members).get? key := get?_defined h
  rw [memberDefinitions, hget, memberDefinitions]

lemma memberDefinitions_of_not_contains {key : String} (h : ¬ OrderedMap.contains key members) :
    (Json.object members).memberDefinitions key = [] := by
  have hget : (Json.object members).get? key = none := Option.not_isSome_iff_eq_none.1 h
  rw [memberDefinitions, hget]

/-- What is read of an object after definitions were written into it: those that the other member
holds before or after them. -/
lemma definitions_defined (members : List (String × Json)) (properties : PlainProperties) :
    ∃ earlier, (Json.object (defined members properties)).definitions
      = earlier ++ (properties.map fun p => (p.1, (Value.parse p.2).nodes))
        ++ overruling members := by
  have hwritten := memberDefinitions_defined members properties
  have hother {key : String} (h : key ≠ definitionKey members) :
      (Json.object (defined members properties)).memberDefinitions key
        = (Json.object members).memberDefinitions key := memberDefinitions_defined_of_ne h
  by_cases hfirst : OrderedMap.contains "customProperties" members
  · have hkey : definitionKey members = "customProperties" := by
      simp [definitionKey, definitionKeys, hfirst]
    rw [hkey] at hwritten hother
    refine ⟨[], ?_⟩
    simp [definitions, definitionKeys, hwritten, hother, overruling, hfirst]
  · by_cases hsecond : OrderedMap.contains "custom-properties" members
    · have hkey : definitionKey members = "custom-properties" := by
        simp [definitionKey, definitionKeys, hfirst, hsecond]
      rw [hkey] at hwritten hother
      refine ⟨(Json.object members).memberDefinitions "customProperties", ?_⟩
      simp [definitions, definitionKeys, hwritten, hother, overruling, hfirst]
    · have hkey : definitionKey members = "customProperties" := by
        simp [definitionKey, definitionKeys, hfirst, hsecond]
      rw [hkey] at hwritten hother
      refine ⟨[], ?_⟩
      simp [definitions, definitionKeys, hwritten, hother, overruling, hfirst,
        memberDefinitions_of_not_contains hsecond]

end Json

/-- A name that definitions were written for is read with the value written, unless a definition
that is read later gives it another one. -/
lemma PropertyTable.get?_ofObject_defined (members : List (String × Json))
    {properties : PlainProperties} (hnodup : (OrderedMap.names properties).Nodup)
    {name text : String} (hmem : (name, text) ∈ properties) :
    (ofObject (.object (Json.defined members properties))).get? name
      = (lastValue? name (Json.overruling members)).or (some (Value.parse text).nodes) := by
  obtain ⟨earlier, hdefinitions⟩ := Json.definitions_defined members properties
  have hwritten : lastValue? name (properties.map fun p => (p.1, (Value.parse p.2).nodes))
      = some (Value.parse text).nodes := by
    have hnames : OrderedMap.names (properties.map fun p => (p.1, (Value.parse p.2).nodes))
        = OrderedMap.names properties := by
      simp [OrderedMap.names, Function.comp_def]
    rw [← hnames] at hnodup
    rw [lastValue?, OrderedMap.get?_reverse name hnodup]
    exact OrderedMap.get?_of_mem hnodup
      (List.mem_map_of_mem (f := fun p => (p.1, (Value.parse p.2).nodes)) hmem)
  rw [(tabulates_ofObject _).get?, hdefinitions, lastValue?_append, lastValue?_append, hwritten,
    Option.some_or]

/-! ### Exports -/

namespace Destination

/-- A destination after a table was written to it. -/
def written (table : PropertyTable) : Destination → Destination
  | object value => object ((value.define table.toPlain).toOption.getD value)
  | other => other

lemma written_object (table : PropertyTable) (members : List (String × Json)) :
    (object (.object members)).written table
      = object (.object (Json.defined members table.toPlain)) := by
  rw [written, Json.define_object]
  rfl

lemma fst_deliver (table : PropertyTable) (delivery : Delivery) (destination : Destination) :
    (destination.deliver table delivery).1 = destination.written table := by
  cases destination <;> rfl

/-- If nothing fails, all destinations are written to. -/
lemma fst_deliverAll_finished (results : List Bool) (table : PropertyTable) (size task : Nat)
    (delivery : Delivery) (destinations : List Destination) :
    (deliverAll (.finished results) table size task delivery destinations).1
      = destinations.map (·.written table) := by
  induction destinations generalizing task delivery with
  | nil => rfl
  | cons destination destinations ih =>
    rw [deliverAll, List.map_cons, ← fst_deliver table delivery, ← ih]
    rfl

end Destination

variable {disk : Disk} {table : PropertyTable} {destinations : List Destination} {count : Nat}

lemma destinations_of_result_eq_ok (h : (exportTable disk table destinations).result = .ok count) :
    (exportTable disk table destinations).destinations = destinations.map (·.written table) := by
  unfold exportTable at h ⊢
  cases hbatch : BatchEnd.ofEndings disk.pace.writing
      (destinations.map (·.ending disk.tree table)) with
  | finished results => exact Destination.fst_deliverAll_finished ..
  | failed failure moment =>
    rw [hbatch] at h
    cases h

/-- An object that a table was exported into holds all of its other members as before, and each name
of the table is read from it with the value that was exported, unless a definition that was there
before is read later. -/
theorem get?_ofObject_of_exported (h : (exportTable disk table destinations).result = .ok count)
    {i : Nat} {members : List (String × Json)}
    (hobject : destinations[i]? = some (.object (.object members))) :
    ∃ written,
      (exportTable disk table destinations).destinations[i]? = some (.object (.object written)) ∧
      (∀ key ≠ Json.definitionKey members,
        OrderedMap.get? key written = OrderedMap.get? key members) ∧
      ∀ name text, (name, text) ∈ table.toPlain →
        (PropertyTable.ofObject (.object written)).get? name
          = (lastValue? name (Json.overruling members)).or (some (Value.parse text).nodes) := by
  have hnodup : (OrderedMap.names table.toPlain).Nodup := by
    rw [PropertyTable.names_toPlain]
    exact table.nodup_names
  refine ⟨Json.defined members table.toPlain, ?_, fun key => Json.get?_defined, ?_⟩
  · rw [destinations_of_result_eq_ok h, List.getElem?_map, hobject, Option.map_some,
      Destination.written_object]
  · intro name text hmem
    exact PropertyTable.get?_ofObject_defined members hnodup hmem

/-- A table with one entry. -/
def gapOnly : PropertyTable where
  entries := [("--gap", [.word "" "4px"])]

lemma mem_toPlain_gapOnly : ("--gap", "4px") ∈ gapOnly.toPlain := by
  have hplain : gapOnly.toPlain = [("--gap", "4px")] := by cbv
  rw [hplain]
  exact List.mem_singleton_self _

/-- An object with both of the members meant for definitions, the second one without a gap. -/
def twoMembers : List (String × Json) :=
  [("x", .integer 1), ("customProperties", .object [("--gap", .string "old"), ("--b", .null)]),
    ("custom-properties", .object [("--c", .string "2px")])]

/-- A callback that takes all that it is handed, and the object. -/
def callbackAndObject : List Destination := [.callable fun _ => none, .object (.object twoMembers)]

/-- The old gap gives way to the one that is exported, and the second member stays. -/
theorem get?_ofObject_of_exported_twoMembers :
    (exportTable emptyDisk gapOnly callbackAndObject).result = .ok 2 ∧
      ∃ written,
        (exportTable emptyDisk gapOnly callbackAndObject).destinations[1]?
          = some (.object (.object written)) ∧
        OrderedMap.get? "custom-properties" written = some (.object [("--c", .string "2px")]) ∧
        (PropertyTable.ofObject (.object written)).get? "--gap"
          = some (Value.parse "4px").nodes := by
  have hresult : (exportTable emptyDisk gapOnly callbackAndObject).result = .ok 2 := by cbv
  have hobject : callbackAndObject[1]? = some (.object (.object twoMembers)) := rfl
  have hoverruling : lastValue? "--gap" (Json.overruling twoMembers) = none := by cbv
  obtain ⟨written, hwritten, hothers, hnames⟩ := get?_ofObject_of_exported hresult hobject
  refine ⟨hresult, written, hwritten, hothers "custom-properties" (by decide), ?_⟩
  rw [hnames "--gap" "4px" mem_toPlain_gapOnly, hoverruling, Option.none_or]

/-- An object the second member of which has a gap. -/
def secondMember : List (String × Json) :=
  [("customProperties", .object []), ("custom-properties", .object [("--gap", .string "old")])]

/-- The gap of the second member is read in place of the one that is exported. -/
theorem get?_ofObject_of_exported_secondMember_ne :
    ∃ written,
      (exportTable emptyDisk gapOnly [.object (.object secondMember)]).result = .ok 1 ∧
      (exportTable emptyDisk gapOnly [.object (.object secondMember)]).destinations
        = [.object (.object written)] ∧
      ("--gap", "4px") ∈ gapOnly.toPlain ∧
      (PropertyTable.ofObject (.object written)).get? "--gap"
        ≠ some (Value.parse "4px").nodes := by
  have hread : (PropertyTable.ofObject (.object (Json.defined secondMember gapOnly.toPlain))).get?
      "--gap" = some [.word "" "old"] := by cbv
  have htokens : (Value.parse "4px").nodes = [.word "" "4px"] := by cbv
  refine ⟨Json.defined secondMember gapOnly.toPlain, by cbv, rfl, mem_toPlain_gapOnly, ?_⟩
  rw [hread, htokens]
  simp

end CustomProperties
