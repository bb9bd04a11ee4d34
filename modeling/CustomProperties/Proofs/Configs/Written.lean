import CustomProperties.Config
import CustomProperties.Proofs.Json.Limits

/-!
# Reading written configurations

A configuration that was read is read back from what is written for it, on one line or over several.
Each entry is told by its form alone: a path is a string, and an object is inline if it has a member
for definitions and a location otherwise. What is written for an entry is nested no deeper and has
no longer integers than what it was read from, so that the limits of reading are kept.
-/

namespace CustomProperties

variable {value : Json} {members : List (String × Json)}

/-! ### Locations -/

namespace Json

variable (name path : String) (kind : Option String)

lemma isExact_ofLocation : (ofLocation name path kind).IsExact := by
  cases kind <;> simp [ofLocation, IsExact, HasExactMembers]

lemma within_ofLocation : (ofLocation name path kind).Within 2 := by
  have hstring (text : String) : (string text).Within 3 :=
    within_of_isNarrow ⟨rfl, nofun⟩ (by decide)
  cases kind <;> simp [ofLocation, within_object_iff, hstring, maxDepth]

end Json

/-! ### Entries -/

namespace ImportEntry

variable {entry : ImportEntry}

/-- An inline entry is an object with a member for definitions, repeated names merged. -/
lemma exists_of_ofJson?_inline (h : ofJson? value = some (.inline members)) :
    ∃ old, value = .object old ∧ definitionKeys.any (OrderedMap.contains · old) ∧
      value.merged = .object members := by
  unfold ofJson? at h
  split at h
  · cases h
  · next old =>
    split at h
    · next hdefines =>
      rw [Json.merged_object] at h ⊢
      cases h
      exact ⟨old, rfl, hdefines, rfl⟩
    · obtain ⟨_, _, heq⟩ := Option.map_eq_some_iff.1 h
      cases heq
  · cases h

/-- Merging repeated names leaves a member for definitions. -/
lemma defines_of_ofJson?_inline (h : ofJson? value = some (.inline members)) :
    definitionKeys.any (OrderedMap.contains · members) := by
  obtain ⟨old, rfl, hdefines, hmerged⟩ := exists_of_ofJson?_inline h
  rw [Json.merged_object, Json.object.injEq] at hmerged
  have hcontains (name : String) :
      OrderedMap.contains name members = OrderedMap.contains name old := by
    rw [← hmerged, OrderedMap.contains_insertAll, OrderedMap.contains_map]
    rfl
  simpa only [hcontains] using hdefines

/-- An entry that was read is read back from what is written for it. -/
lemma ofJson?_toJson (h : ofJson? value = some entry) : ofJson? entry.toJson = some entry := by
  cases entry with
  | path file => rfl
  | inline members =>
    obtain ⟨old, -, -, hmerged⟩ := exists_of_ofJson?_inline h
    rw [toJson, ofJson?, if_pos (defines_of_ofJson?_inline h), ← hmerged, Json.merged_merged,
      hmerged]
    rfl
  | location file kind => cases kind <;> rfl

/-- An entry that was read is inline if what is written for it is an object with a member for
definitions, and only then. -/
lemma exists_inline_iff (h : ofJson? value = some entry) :
    (∃ members, entry = .inline members) ↔
      ∃ members, entry.toJson = .object members ∧
        definitionKeys.any (OrderedMap.contains · members) := by
  cases entry with
  | path file => simp [toJson]
  | inline members =>
    refine ⟨fun _ => ⟨members, rfl, defines_of_ofJson?_inline h⟩, fun _ => ⟨members, rfl⟩⟩
  | location file kind =>
    cases kind <;> simp [toJson, Json.ofLocation, definitionKeys, OrderedMap.contains]

lemma within_toJson (h : ofJson? value = some entry) (hvalue : value.Within 2) :
    entry.toJson.Within 2 := by
  cases entry with
  | path file => exact Json.within_of_isNarrow ⟨rfl, nofun⟩ (by decide)
  | inline members =>
    obtain ⟨old, -, -, hmerged⟩ := exists_of_ofJson?_inline h
    rw [toJson, ← hmerged]
    exact hvalue.merged
  | location file kind => exact Json.within_ofLocation _ _ _

lemma isExact_toJson (hentry : entry.toJson.Within 2)
    (hdoubles : ∀ members, entry = .inline members →
      ∀ x, Json.double x ∉ (Json.object members).scalars) : entry.toJson.IsExact := by
  cases entry with
  | path file => trivial
  | inline members => exact hentry.isExact (hdoubles members rfl)
  | location file kind => exact Json.isExact_ofLocation _ _ _

end ImportEntry

namespace ExportEntry

lemma ofJson?_toJson (entry : ExportEntry) : ofJson? entry.toJson = some entry := by
  cases entry with
  | path file => rfl
  | location file kind => cases kind <;> rfl

lemma within_toJson (entry : ExportEntry) : entry.toJson.Within 2 := by
  cases entry with
  | path file => exact Json.within_of_isNarrow ⟨rfl, nofun⟩ (by decide)
  | location file kind => exact Json.within_ofLocation _ _ _

lemma isExact_toJson (entry : ExportEntry) : entry.toJson.IsExact := by
  cases entry with
  | path file => trivial
  | location file kind => exact Json.isExact_ofLocation _ _ _

end ExportEntry

/-! ### Configurations -/

lemma mapM_map_eq_some {α β : Type} {f : β → Option α} {g : α → β} {as : List α}
    (h : ∀ a ∈ as, f (g a) = some a) : (as.map g).mapM f = some as := by
  induction as with
  | nil => rfl
  | cons a as ih =>
    rw [List.forall_mem_cons] at h
    simp [h.1, ih h.2]

lemma exists_mem_of_mapM_eq_some {α β : Type} {f : β → Option α} {as : List α} {bs : List β}
    (h : bs.mapM f = some as) : ∀ a ∈ as, ∃ b ∈ bs, f b = some a := by
  induction bs generalizing as with
  | nil =>
    cases h
    simp
  | cons b bs ih =>
    rw [List.mapM_cons] at h
    obtain ⟨a, ha, h⟩ := Option.bind_eq_some_iff.1 h
    obtain ⟨rest, hrest, h⟩ := Option.bind_eq_some_iff.1 h
    cases h
    refine List.forall_mem_cons.2 ⟨⟨b, List.mem_cons_self, ha⟩, fun c hc => ?_⟩
    obtain ⟨d, hd, hfd⟩ := ih hrest c hc
    exact ⟨d, List.mem_cons_of_mem _ hd, hfd⟩

namespace Config

variable {config : Config}

lemma ofValues?_eq (preserve importFrom exportTo : Option Json) :
    ofValues? preserve importFrom exportTo =
      (preserve.elim (some true) Json.bool?).bind fun preserve =>
        (importFrom.elim (some []) (Json.itemsOf? ImportEntry.ofJson?)).bind fun importFrom =>
          (exportTo.elim (some []) (Json.itemsOf? ExportEntry.ofJson?)).bind fun exportTo =>
            some { preserve, importFrom, exportTo } := by
  cases preserve <;> cases importFrom <;> cases exportTo <;> rfl

/-- Import entries are read from the values of an array. -/
lemma exists_item_of_ofValues? {preserve importFrom exportTo : Option Json}
    (h : ofValues? preserve importFrom exportTo = some config) :
    ∀ entry ∈ config.importFrom, ∃ items, importFrom = some (.array items) ∧
      ∃ item ∈ items, ImportEntry.ofJson? item = some entry := by
  rw [ofValues?_eq] at h
  obtain ⟨preserve, -, h⟩ := Option.bind_eq_some_iff.1 h
  obtain ⟨imports, himports, h⟩ := Option.bind_eq_some_iff.1 h
  obtain ⟨exports, -, h⟩ := Option.bind_eq_some_iff.1 h
  cases h
  intro entry hentry
  cases importFrom with
  | none =>
    cases himports
    cases hentry
  | some value =>
    rw [Option.elim_some] at himports
    cases value with
    | array items => exact ⟨items, rfl, exists_mem_of_mapM_eq_some himports entry hentry⟩
    | _ => cases himports

lemma mem_of_single? {name : String} (h : Json.single? name members = some (some value)) :
    (name, value) ∈ members := by
  unfold Json.single? at h
  split at h
  · cases h
  · next member hfilter =>
    cases h
    have hmem : member ∈ members.filter (·.1 == name) := hfilter ▸ List.mem_singleton_self _
    obtain ⟨hmem, hname⟩ := List.mem_filter.1 hmem
    rwa [← eq_of_beq hname]
  · cases h

/-- Import entries are read from values two levels further in. -/
lemma exists_within_of_ofJson? (h : ofJson? value = some config)
    (hvalue : (value.kept fun name => !memberNames.contains name).Within 0) :
    ∀ entry ∈ config.importFrom, ∃ item, item.Within 2 ∧ ImportEntry.ofJson? item = some entry := by
  intro entry hentry
  have hitems (items : List Json) (himports : (Json.array items).Within 1)
      (hitem : ∃ item ∈ items, ImportEntry.ofJson? item = some entry) :
      ∃ item, item.Within 2 ∧ ImportEntry.ofJson? item = some entry := by
    obtain ⟨item, hmem, hitem⟩ := hitem
    exact ⟨item, (Json.within_array_iff.1 himports).2 item hmem, hitem⟩
  unfold ofJson? at h
  split at h
  · next members =>
    obtain ⟨preserve, -, h⟩ := Option.bind_eq_some_iff.1 h
    obtain ⟨imports, himports, h⟩ := Option.bind_eq_some_iff.1 h
    obtain ⟨exports, -, h⟩ := Option.bind_eq_some_iff.1 h
    obtain ⟨items, rfl, hitem⟩ := exists_item_of_ofValues? h entry hentry
    refine hitems items ((Json.within_object_iff.1 hvalue).2 ("importFrom", .array items) ?_) hitem
    exact List.mem_filter.2 ⟨mem_of_single? himports, rfl⟩
  · next values =>
    split at h
    · obtain ⟨items, hvalues, hitem⟩ := exists_item_of_ofValues? h entry hentry
      exact hitems items ((Json.within_array_iff.1 hvalue).2 _ (List.mem_of_getElem? hvalues)) hitem
    · cases h
  · cases h

/-- A configuration is read back from its values if its import entries are. -/
lemma ofJson?_toJson
    (h : ∀ entry ∈ config.importFrom, ImportEntry.ofJson? entry.toJson = some entry) :
    ofJson? config.toJson = some config := by
  have himports := mapM_map_eq_some h
  have hexports := mapM_map_eq_some fun entry (_ : entry ∈ config.exportTo) => entry.ofJson?_toJson
  have hmembers : ofJson? config.toJson = ofValues? (some (.bool config.preserve))
      (some (.array (config.importFrom.map (·.toJson))))
      (some (.array (config.exportTo.map (·.toJson)))) := rfl
  rw [hmembers]
  simp [ofValues?_eq, Json.itemsOf?, Json.bool?, himports, hexports]

lemma within_toJson (h : ∀ entry ∈ config.importFrom, entry.toJson.Within 2) :
    config.toJson.Within 0 := by
  have hpreserve : (Json.bool config.preserve).Within 1 :=
    Json.within_of_isNarrow ⟨rfl, nofun⟩ (by decide)
  have himports : (Json.array (config.importFrom.map (·.toJson))).Within 1 :=
    Json.within_array_iff.2 ⟨by decide, List.forall_mem_map.2 h⟩
  have hexports : (Json.array (config.exportTo.map (·.toJson))).Within 1 :=
    Json.within_array_iff.2
      ⟨by decide, List.forall_mem_map.2 fun entry _ => entry.within_toJson⟩
  refine Json.within_object_iff.2 ⟨by decide, ?_⟩
  simp [hpreserve, himports, hexports]

lemma isExact_toJson (h : ∀ entry ∈ config.importFrom, entry.toJson.IsExact) :
    config.toJson.IsExact := by
  have himports : Json.AreExact (config.importFrom.map (·.toJson)) :=
    Json.areExact_iff.2 (List.forall_mem_map.2 h)
  have hexports : Json.AreExact (config.exportTo.map (·.toJson)) :=
    Json.areExact_iff.2 (List.forall_mem_map.2 fun entry _ => entry.isExact_toJson)
  exact ⟨trivial, himports, hexports, trivial⟩

/-- A configuration that was read is read back from what is written for it, on one line or over
several, if there are no doubles in its inline definitions. An import entry is written as an object
with a member for definitions if it is inline, and only then. -/
theorem parse_toJson {text : String} (h : parse text = some config)
    (hdoubles : ∀ members, .inline members ∈ config.importFrom →
      ∀ x, Json.double x ∉ (Json.object members).scalars) :
    parse config.toJson.compact = some config ∧ parse config.toJson.pretty = some config ∧
      ∀ entry ∈ config.importFrom, (∃ members, entry = .inline members) ↔
        ∃ members, entry.toJson = .object members ∧
          definitionKeys.any (OrderedMap.contains · members) := by
  obtain ⟨value, hparse, hvalue⟩ := Option.bind_eq_some_iff.1 h
  have hread := exists_within_of_ofJson? hvalue (Json.within_of_parseRaw hparse)
  have hwithin : ∀ entry ∈ config.importFrom, entry.toJson.Within 2 := by
    intro entry hentry
    obtain ⟨item, hitem, hof⟩ := hread entry hentry
    exact ImportEntry.within_toJson hof hitem
  have hrestored : ofJson? config.toJson = some config := by
    refine ofJson?_toJson fun entry hentry => ?_
    obtain ⟨item, -, hof⟩ := hread entry hentry
    exact ImportEntry.ofJson?_toJson hof
  have hexact : config.toJson.IsExact := by
    refine isExact_toJson fun entry hentry => ImportEntry.isExact_toJson (hwithin entry hentry) ?_
    rintro members rfl
    exact hdoubles members hentry
  have hnesting := (within_toJson hwithin).nesting
  rw [Nat.zero_add] at hnesting
  refine ⟨?_, ?_, fun entry hentry => ?_⟩
  · rw [parse, Json.parseRaw_compact hexact hnesting]
    exact hrestored
  · have hpretty := Json.parseRaw_pretty hexact hnesting "" (by simp)
      fun name => !memberNames.contains name
    rw [String.append_empty] at hpretty
    rw [parse, hpretty]
    exact hrestored
  · obtain ⟨item, -, hof⟩ := hread entry hentry
    exact ImportEntry.exists_inline_iff hof

/-- A configuration with members that are passed over, a location without a kind, and an inline
entry with a path and a repeated name. -/
def mixedValue : Json :=
  .object [("version", .integer 2),
    ("importFrom", .array [.string "a.css",
      .object [("type", .null), ("from", .string "b.css")],
      .object [("from", .string "c.css"), ("customProperties", .object
        [("--a", .integer 1), ("--b", .string "2px"), ("--a", .integer (-3))])]]),
    ("exportTo", .array [.object [("to", .string "d.js"), ("mode", .array [])]])]

/-- The text of it. -/
def mixedText : String :=
  "\x7b\"version\":2,\"importFrom\":[\"a.css\",\x7b\"type\":null,\"from\":\"b.css\"\x7d,"
    ++ "\x7b\"from\":\"c.css\",\"customProperties\":\x7b\"--a\":1,\"--b\":\"2px\",\"--a\":-3"
    ++ "\x7d\x7d],\"exportTo\":[\x7b\"to\":\"d.js\",\"mode\":[]\x7d]\x7d"

/-- The members of the inline entry. -/
def mixedMembers : List (String × Json) :=
  [("from", .string "c.css"),
    ("customProperties", .object [("--a", .integer (-3)), ("--b", .string "2px")])]

/-- What is read of it. -/
def mixed : Config where
  importFrom := [.path "a.css", .location "b.css" none, .inline mixedMembers]
  exportTo := [.location "d.js" none]

lemma parse_mixedText : parse mixedText = some mixed := by
  have hcompact : mixedValue.compact = mixedText := by cbv
  have hexact : mixedValue.IsExact := by
    simp [mixedValue, Json.IsExact, Json.HasExactMembers, Json.AreExact]
  rw [parse, ← hcompact, Json.parseRaw_compact hexact (by decide)]
  rfl

/-- The repeated name is gone and the location stays without a kind, in both forms. -/
theorem parse_toJson_mixed :
    parse mixedText = some mixed ∧ parse mixed.toJson.compact = some mixed ∧
      parse mixed.toJson.pretty = some mixed := by
  have hdoubles : ∀ members, .inline members ∈ mixed.importFrom →
      ∀ x, Json.double x ∉ (Json.object members).scalars := by
    intro members hmembers
    have hinline : members = mixedMembers := by simpa [mixed] using hmembers
    have hscalars : (Json.object mixedMembers).scalars
        = [.string "c.css", .integer (-3), .string "2px"] := by cbv
    simp [hinline, hscalars]
  obtain ⟨hcompact, hpretty, -⟩ := parse_toJson parse_mixedText hdoubles
  exact ⟨parse_mixedText, hcompact, hpretty⟩

end Config

end CustomProperties
