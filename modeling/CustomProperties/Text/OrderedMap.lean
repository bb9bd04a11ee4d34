/-!
# Ordered maps as lists of pairs

A map from names to values that keeps the order in which the names came first. Writing to a name
that is there replaces its value in place; writing to another name adds it at the end.
-/

namespace CustomProperties.OrderedMap

variable {α : Type}

/-- The value of a name. -/
def get? (name : String) : List (String × α) → Option α
  | [] => none
  | (n, a) :: rest => if n = name then some a else get? name rest

/-- Whether a name has a value. -/
def contains (name : String) (entries : List (String × α)) : Bool := (get? name entries).isSome

/-- Give a name a value. -/
def insert (name : String) (value : α) : List (String × α) → List (String × α)
  | [] => [(name, value)]
  | (n, a) :: rest => if n = name then (n, value) :: rest else (n, a) :: insert name value rest

/-- Write entries one after the other. -/
def insertAll (entries : List (String × α)) (new : List (String × α)) : List (String × α) :=
  new.foldl (fun entries entry => insert entry.1 entry.2 entries) entries

/-- The names, in order. -/
def names (entries : List (String × α)) : List String := entries.map (·.1)

@[simp] theorem get?_nil (name : String) : get? name ([] : List (String × α)) = none := rfl

@[simp] theorem get?_cons (name n : String) (a : α) (rest : List (String × α)) :
    get? name ((n, a) :: rest) = if n = name then some a else get? name rest := rfl

/-- Reading after writing. -/
@[simp] theorem get?_insert (name other : String) (value : α) (entries : List (String × α)) :
    get? other (insert name value entries)
      = if name = other then some value else get? other entries := by
  fun_induction insert name value entries <;> grind [get?]

theorem mem_names_iff {name : String} {entries : List (String × α)} :
    name ∈ names entries ↔ contains name entries := by
  induction entries with
  | nil => simp [names, contains]
  | cons entry rest ih =>
    obtain ⟨n, a⟩ := entry
    simp only [names, contains, List.map_cons, List.mem_cons, get?_cons] at ih ⊢
    split
    · simp_all
    · rw [← ih]
      grind

/-- The names after writing: the same ones, or one more at the end. -/
theorem names_insert (name : String) (value : α) (entries : List (String × α)) :
    names (insert name value entries)
      = if name ∈ names entries then names entries else names entries ++ [name] := by
  fun_induction insert name value entries <;> grind [names]

/-- Writing never repeats a name. -/
theorem nodup_names_insert (name : String) (value : α) {entries : List (String × α)}
    (h : (names entries).Nodup) : (names (insert name value entries)).Nodup := by
  rw [names_insert]
  split
  · exact h
  · rename_i hn
    rw [List.nodup_append]
    exact ⟨h, by simp, by grind⟩

theorem nodup_names_insertAll {entries : List (String × α)} (h : (names entries).Nodup)
    (new : List (String × α)) : (names (insertAll entries new)).Nodup := by
  induction new generalizing entries with
  | nil => exact h
  | cons entry new ih => exact ih (nodup_names_insert entry.1 entry.2 h)

end CustomProperties.OrderedMap
