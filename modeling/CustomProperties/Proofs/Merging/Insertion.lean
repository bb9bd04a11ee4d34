import CustomProperties.Format
import Mathlib.Data.List.Nodup
import Mathlib.Tactic.Common

/-!
# Writing entries again

Entries under names of their own are written one behind the other. So an empty table that takes in
another one becomes that one, and definitions make the same table if only the last one of each name
is kept.
-/

namespace CustomProperties

namespace OrderedMap

variable {α β : Type} {entries new : List (String × α)}

lemma contains_insert (name other : String) (value : α) (entries : List (String × α)) :
    contains other (insert name value entries) = (name == other || contains other entries) := by
  rw [contains, get?_insert]
  by_cases hname : name = other <;> simp [hname, contains]

lemma contains_insertAll (name : String) (entries new : List (String × α)) :
    contains name (insertAll entries new) = (contains name entries || contains name new) := by
  induction new generalizing entries with
  | nil => simp [insertAll, contains]
  | cons entry new ih =>
    have hcons : contains name (entry :: new) = (entry.1 == name || contains name new) := by
      obtain ⟨first, value⟩ := entry
      by_cases hname : first = name <;> simp [contains, hname]
    rw [insertAll, List.foldl_cons]
    refine (ih _).trans ?_
    rw [contains_insert, hcons, Bool.or_comm (entry.1 == name), Bool.or_assoc]

/-- Writing makes no entries but the one that is written. -/
lemma mem_insert {name : String} {value : α} {entry : String × α}
    (h : entry ∈ insert name value entries) : entry = (name, value) ∨ entry ∈ entries := by
  induction entries with
  | nil => exact .inl (List.mem_singleton.1 h)
  | cons first entries ih =>
    rw [insert] at h
    split at h
    · next hname =>
      subst hname
      exact (List.mem_cons.1 h).imp id (List.mem_cons_of_mem _)
    · rcases List.mem_cons.1 h with rfl | h
      · exact .inr List.mem_cons_self
      · exact (ih h).imp id (List.mem_cons_of_mem _)

lemma mem_insertAll {entry : String × α} (h : entry ∈ insertAll entries new) :
    entry ∈ entries ∨ entry ∈ new := by
  induction new generalizing entries with
  | nil => exact .inl h
  | cons first new ih =>
    rcases ih h with h | h
    · rcases mem_insert h with rfl | h
      · exact .inr List.mem_cons_self
      · exact .inl h
    · exact .inr (List.mem_cons_of_mem _ h)

lemma insert_of_not_mem {name : String} (h : name ∉ names entries) (value : α) :
    insert name value entries = entries ++ [(name, value)] := by
  induction entries with
  | nil => rfl
  | cons entry entries ih =>
    simp only [names, List.map_cons, List.mem_cons, not_or] at h ih
    rw [insert, if_neg (Ne.symm h.1), ih h.2, List.cons_append]

/-- Entries with names of their own are written behind the others. -/
lemma insertAll_of_nodup (h : (names (entries ++ new)).Nodup) :
    insertAll entries new = entries ++ new := by
  induction new generalizing entries with
  | nil => simp [insertAll]
  | cons entry new ih =>
    have hfresh : entry.1 ∉ names entries := by
      intro hmem
      simp only [names, List.map_append, List.map_cons, List.nodup_append, List.mem_cons] at h
      exact h.2.2 _ hmem _ (.inl rfl) rfl
    rw [List.append_cons] at h ⊢
    rw [← ih h, ← insert_of_not_mem hfresh]
    rfl

/-- Writing all entries of a map gives that map. -/
lemma insertAll_insertAll (new : List (String × α)) :
    insertAll [] (insertAll [] new) = insertAll [] new :=
  insertAll_of_nodup (nodup_names_insertAll (show (names []).Nodup from List.nodup_nil) new)

lemma map_insert (f : α → β) (name : String) (value : α) (entries : List (String × α)) :
    (insert name value entries).map (Prod.map id f)
      = insert name (f value) (entries.map (Prod.map id f)) := by
  induction entries with
  | nil => rfl
  | cons entry entries ih =>
    obtain ⟨other, old⟩ := entry
    rw [insert, List.map_cons, Prod.map_apply, id, insert]
    split
    · rfl
    · rw [List.map_cons, ih]
      rfl

lemma contains_map (f : α → β) (name : String) (entries : List (String × α)) :
    contains name (entries.map (Prod.map id f)) = contains name entries := by
  induction entries with
  | nil => rfl
  | cons entry entries ih =>
    obtain ⟨other, value⟩ := entry
    by_cases hname : other = name
    · simp [contains, hname]
    · simpa [contains, hname] using ih

lemma map_insertAll (f : α → β) (entries new : List (String × α)) :
    (insertAll entries new).map (Prod.map id f)
      = insertAll (entries.map (Prod.map id f)) (new.map (Prod.map id f)) := by
  induction new generalizing entries with
  | nil => rfl
  | cons entry new ih =>
    rw [insertAll, List.foldl_cons]
    exact (ih _).trans (by rw [map_insert]; rfl)

end OrderedMap

namespace PropertyTable

lemma ext_entries {table other : PropertyTable} (h : table.entries = other.entries) :
    table = other := by
  cases table
  cases other
  simpa using h

lemma entries_foldl_insert (table : PropertyTable) (new : List (String × List ValueNode)) :
    (new.foldl (fun table entry => table.insert entry.1 entry.2) table).entries
      = OrderedMap.insertAll table.entries new := by
  induction new generalizing table with
  | nil => rfl
  | cons entry new ih => exact ih (table.insert entry.1 entry.2)

lemma empty_extend (table : PropertyTable) : (∅ : PropertyTable).extend table = table := by
  apply ext_entries
  rw [extend, entries_foldl_insert]
  exact OrderedMap.insertAll_of_nodup table.nodup_names

lemma entries_ofPlain (properties : PlainProperties) :
    (ofPlain properties).entries = OrderedMap.insertAll []
      (properties.map (Prod.map id fun text => (Value.parse text).nodes)) := by
  have hentries := entries_foldl_insert empty
    (properties.map (Prod.map id fun text => (Value.parse text).nodes))
  rw [List.foldl_map] at hentries
  exact hentries

/-- Definitions of which only the last one of each name is kept come to the same table. -/
lemma ofPlain_insertAll (properties : PlainProperties) :
    ofPlain (OrderedMap.insertAll [] properties) = ofPlain properties := by
  apply ext_entries
  rw [entries_ofPlain, entries_ofPlain, OrderedMap.map_insertAll, List.map_nil,
    OrderedMap.insertAll_insertAll]

/-- Definitions written as the members of an object are the texts that these members hold. -/
lemma ofPlain_strings (properties : PlainProperties) :
    ofPlain ((OrderedMap.insertAll [] (properties.map (Prod.map id Json.string))).map
      fun m => (m.1, m.2.plainText)) = ofPlain properties := by
  have htexts : (OrderedMap.insertAll [] (properties.map (Prod.map id Json.string))).map
      (fun m => (m.1, m.2.plainText)) = OrderedMap.insertAll [] properties := by
    rw [← List.map_nil (f := Prod.map id Json.string), ← OrderedMap.map_insertAll, List.map_map]
    exact List.map_id _
  rw [htexts, ofPlain_insertAll]

end PropertyTable

end CustomProperties
