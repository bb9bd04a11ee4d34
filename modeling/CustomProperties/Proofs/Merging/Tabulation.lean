import CustomProperties.Table
import Mathlib.Data.List.Basic
import Mathlib.Tactic.Common

/-!
# Tables of definitions

A list of definitions gives each name the value of its last definition and the place of its first
one. `Tabulates` says that a table does so, and every operation on tables is one on such lists:
extending a table appends definitions, and filling it up appends them for names that have none.
-/

namespace CustomProperties

/-- Definitions in the order in which they come, repeated names included. -/
abbrev Definitions := List (String × List ValueNode)

/-! ### First occurrences -/

section

variable {α : Type}

lemma length_filter_lt_cons (p : α → Bool) (a : α) (as : List α) :
    (as.filter p).length < (a :: as).length :=
  Nat.lt_succ_of_le (List.length_filter_le p as)

variable [BEq α] [LawfulBEq α] {as : List α}

lemma filter_eraseDups (p : α → Bool) (as : List α) :
    as.eraseDups.filter p = (as.filter p).eraseDups := by
  match as with
  | [] => simp
  | a :: as =>
    have hrest := filter_eraseDups p (as.filter fun b => !b == a)
    rw [List.eraseDups_cons]
    by_cases ha : p a
    · rw [List.filter_cons_of_pos ha, List.filter_cons_of_pos ha, List.eraseDups_cons, hrest,
        List.filter_filter, List.filter_filter]
      simp only [Bool.and_comm]
    · rw [List.filter_cons_of_neg ha, List.filter_cons_of_neg ha, hrest, List.filter_filter]
      congr 1
      apply List.filter_congr
      intro b hb
      by_cases hba : b = a <;> simp_all
termination_by as.length
decreasing_by exact length_filter_lt_cons _ a as

lemma eraseDups_of_nodup (h : as.Nodup) : as.eraseDups = as := by
  induction as with
  | nil => simp
  | cons a as ih =>
    rw [List.nodup_cons] at h
    rw [List.eraseDups_cons, List.filter_eq_self.2, ih h.2]
    intro b hb
    have hne : b ≠ a := fun heq => h.1 (heq ▸ hb)
    simpa using hne

lemma nodup_eraseDups (as : List α) : as.eraseDups.Nodup := by
  match as with
  | [] => simp
  | a :: as =>
    have hrest := nodup_eraseDups (as.filter fun b => !b == a)
    rw [List.eraseDups_cons, List.nodup_cons]
    refine ⟨?_, hrest⟩
    simp [List.mem_eraseDups]
termination_by as.length
decreasing_by exact length_filter_lt_cons _ a as

lemma eraseDups_eraseDups_append (as bs : List α) :
    (as.eraseDups ++ bs).eraseDups = (as ++ bs).eraseDups := by
  rw [List.eraseDups_append, List.eraseDups_append, eraseDups_of_nodup (nodup_eraseDups as)]
  congr 2
  unfold List.removeAll
  apply List.filter_congr
  intro b hb
  simp [List.mem_eraseDups]

lemma eraseDups_append_eraseDups (as bs : List α) :
    (as ++ bs.eraseDups).eraseDups = (as ++ bs).eraseDups := by
  rw [List.eraseDups_append, List.eraseDups_append, List.removeAll, List.removeAll,
    filter_eraseDups, eraseDups_of_nodup (nodup_eraseDups _)]

lemma eraseDups_append_singleton (as : List α) (a : α) :
    (as ++ [a]).eraseDups = if a ∈ as then as.eraseDups else as.eraseDups ++ [a] := by
  by_cases h : a ∈ as <;> simp [List.eraseDups_append, List.removeAll, h, List.eraseDups_cons]

end

/-! ### Last values -/

/-- The value that definitions give a name: that of its last definition. -/
def lastValue? (name : String) (definitions : Definitions) : Option (List ValueNode) :=
  OrderedMap.get? name definitions.reverse

namespace OrderedMap

variable {α : Type} {name : String} {entries : List (String × α)}

lemma get?_append (name : String) (xs ys : List (String × α)) :
    get? name (xs ++ ys) = (get? name xs).or (get? name ys) := by
  induction xs with
  | nil => simp
  | cons x xs ih =>
    obtain ⟨n, a⟩ := x
    by_cases h : n = name <;> simp [h, ih]

lemma get?_eq_none_of_not_mem (h : name ∉ names entries) : get? name entries = none := by
  rw [mem_names_iff, contains] at h
  simpa using h

/-- Where no name is repeated, it does not matter from which end a name is looked up. -/
lemma get?_reverse (name : String) (h : (names entries).Nodup) :
    get? name entries.reverse = get? name entries := by
  induction entries with
  | nil => rfl
  | cons entry entries ih =>
    obtain ⟨n, a⟩ := entry
    rw [names, List.map_cons, List.nodup_cons] at h
    rw [List.reverse_cons, get?_append, ih h.2]
    by_cases hn : n = name
    · subst hn
      simp [get?_eq_none_of_not_mem h.1]
    · simp [hn]

/-- Where no name is repeated, each name has the value that it comes with. -/
lemma get?_of_mem {value : α} (h : (names entries).Nodup) (hmem : (name, value) ∈ entries) :
    get? name entries = some value := by
  induction entries with
  | nil => cases hmem
  | cons entry entries ih =>
    rw [names, List.map_cons, List.nodup_cons] at h
    rcases List.mem_cons.1 hmem with rfl | hmem
    · rw [get?_cons, if_pos rfl]
    · have hne : entry.1 ≠ name := fun heq => h.1 (heq ▸ List.mem_map_of_mem hmem)
      rw [get?_cons, if_neg hne, ih h.2 hmem]

end OrderedMap

lemma lastValue?_append (name : String) (ds es : Definitions) :
    lastValue? name (ds ++ es) = (lastValue? name es).or (lastValue? name ds) := by
  rw [lastValue?, List.reverse_append, OrderedMap.get?_append, lastValue?, lastValue?]

lemma lastValue?_singleton (name n : String) (value : List ValueNode) :
    lastValue? name [(n, value)] = if n = name then some value else none := by
  simp [lastValue?]

/-- The last value in several lists is that in the last list that has one. -/
lemma lastValue?_flatten (name : String) (lists : List Definitions) :
    lastValue? name lists.flatten = lists.reverse.findSome? (lastValue? name) := by
  induction lists with
  | nil => rfl
  | cons ds lists ih =>
    rw [List.flatten_cons, lastValue?_append, ih, List.reverse_cons, List.findSome?_append]
    simp

namespace PropertyTable

/-! ### Tabulating -/

/-- A table gives every name the value of its last definition and the place of its first one. -/
structure Tabulates (definitions : Definitions) (table : PropertyTable) : Prop where
  names : table.names = (definitions.map (·.1)).eraseDups
  get? : ∀ name, table.get? name = lastValue? name definitions

variable {ds es : Definitions} {table other : PropertyTable}

lemma eraseDups_names (table : PropertyTable) : table.names.eraseDups = table.names :=
  eraseDups_of_nodup table.nodup_names

lemma tabulates_empty : Tabulates [] ∅ where
  names := rfl
  get? _ := rfl

lemma Tabulates.insert (h : Tabulates ds table) (name : String) (value : List ValueNode) :
    Tabulates (ds ++ [(name, value)]) (table.insert name value) where
  names := by
    rw [names_insert, List.map_append, List.map_singleton, eraseDups_append_singleton, h.names]
    simp only [List.mem_eraseDups]
  get? other := by
    rw [get?_insert, lastValue?_append, lastValue?_singleton, h.get?]
    split <;> simp

lemma Tabulates.foldl (h : Tabulates ds table) (es : Definitions) :
    Tabulates (ds ++ es) (es.foldl (fun table e => table.insert e.1 e.2) table) := by
  induction es generalizing ds table with
  | nil => simpa using h
  | cons e es ih => simpa using ih (h.insert e.1 e.2)

lemma names_toPlain (table : PropertyTable) : OrderedMap.names table.toPlain = table.names := by
  simp [toPlain, names, OrderedMap.names, Function.comp_def]

/-- A table has the definitions that its entries are. -/
lemma tabulates_entries (table : PropertyTable) : Tabulates table.entries table where
  names := (eraseDups_names table).symm
  get? name := (OrderedMap.get?_reverse name table.nodup_names).symm

/-- Definitions that come to one table can stand for one another. -/
lemma Tabulates.congr {es' : Definitions} (h : Tabulates (ds ++ es) table)
    (hes : Tabulates es other) (hes' : Tabulates es' other) : Tabulates (ds ++ es') table where
  names := by
    rw [h.names, List.map_append, List.map_append, ← eraseDups_append_eraseDups,
      ← eraseDups_append_eraseDups _ (es'.map _), ← hes.names, ← hes'.names]
  get? name := by
    rw [h.get?, lastValue?_append, lastValue?_append, ← hes.get?, ← hes'.get?]

lemma Tabulates.extend (h : Tabulates ds table) (hother : Tabulates es other) :
    Tabulates (ds ++ es) (table.extend other) :=
  (h.foldl other.entries).congr (tabulates_entries other) hother

lemma tabulates_ofPlain (properties : PlainProperties) :
    Tabulates (properties.map fun p => (p.1, (Value.parse p.2).nodes)) (ofPlain properties) := by
  have h := tabulates_empty.foldl (properties.map fun p => (p.1, (Value.parse p.2).nodes))
  rw [List.foldl_map] at h
  exact h

/-! ### Filling up -/

/-- Give a name a value if it has none. -/
def fill (table : PropertyTable) (name : String) (value : List ValueNode) : PropertyTable :=
  if table.contains name then table else table.insert name value

lemma get?_fill (table : PropertyTable) (name other : String) (value : List ValueNode) :
    (table.fill name value).get? other
      = (table.get? other).or (if name = other then some value else none) := by
  unfold fill
  split
  · next h =>
    rw [contains, Option.isSome_iff_exists] at h
    obtain ⟨old, hold⟩ := h
    by_cases hname : name = other
    · subst hname
      simp [hold]
    · simp [hname]
  · next h =>
    rw [contains, Option.not_isSome_iff_eq_none] at h
    rw [get?_insert]
    by_cases hname : name = other
    · subst hname
      simp [h]
    · simp [hname]

lemma names_fill (table : PropertyTable) (name : String) (value : List ValueNode) :
    (table.fill name value).names = (table.names ++ [name]).eraseDups := by
  rw [eraseDups_append_singleton, eraseDups_names]
  unfold fill
  split
  · next h => rw [if_pos (mem_names_iff.2 h)]
  · next h =>
    have hname : name ∉ table.names := fun hmem => h (mem_names_iff.1 hmem)
    rw [names_insert, if_neg hname]

lemma fillFrom_eq (table other : PropertyTable) :
    table.fillFrom other = other.entries.foldl (fun table e => table.fill e.1 e.2) table := rfl

lemma get?_fillFrom (table other : PropertyTable) (name : String) :
    (table.fillFrom other).get? name = (table.get? name).or (other.get? name) := by
  change _ = (table.get? name).or (OrderedMap.get? name other.entries)
  rw [fillFrom_eq]
  generalize other.entries = es
  induction es generalizing table with
  | nil => simp
  | cons e es ih =>
    obtain ⟨n, value⟩ := e
    rw [List.foldl_cons, ih, get?_fill, Option.or_assoc, OrderedMap.get?_cons]
    by_cases hn : n = name <;> simp [hn]

lemma names_fillFrom (table other : PropertyTable) :
    (table.fillFrom other).names = (table.names ++ other.names).eraseDups := by
  change _ = (table.names ++ other.entries.map (·.1)).eraseDups
  rw [fillFrom_eq]
  generalize other.entries = es
  induction es generalizing table with
  | nil => simp [eraseDups_names]
  | cons e es ih =>
    rw [List.foldl_cons, ih, names_fill, eraseDups_eraseDups_append, List.append_assoc,
      List.map_cons, List.singleton_append]

end PropertyTable

end CustomProperties
