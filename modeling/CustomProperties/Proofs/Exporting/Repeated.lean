import CustomProperties.Destination
import CustomProperties.Proofs.Merging.Insertion
import Mathlib.Data.List.Forall2
import Mathlib.Tactic.Common

/-!
# Exporting more than once

What is written to a destination replaces what was written before, so a destination stays what it
was for every later export: nothing that is delivered later shows what was delivered before.
-/

namespace CustomProperties

variable {tree : FileTree} {table : PropertyTable} {delivery : Delivery}

/-! ### Objects -/

namespace OrderedMap

variable {α : Type}

/-- Of two values written under one name the second one stays. -/
lemma insert_insert (name : String) (first second : α) (entries : List (String × α)) :
    insert name second (insert name first entries) = insert name second entries := by
  induction entries with
  | nil => simp [insert]
  | cons entry entries ih =>
    obtain ⟨n, a⟩ := entry
    by_cases hn : n = name
    · simp [insert, hn]
    · simp [insert, hn, ih]

end OrderedMap

/-- The member that definitions are written into stays the same one once it is there. -/
lemma find?_definitionKeys_insert (definitions : Json) (members : List (String × Json)) :
    let key := (definitionKeys.find? (OrderedMap.contains · members)).getD "customProperties"
    (definitionKeys.find?
      (OrderedMap.contains · (OrderedMap.insert key definitions members))).getD "customProperties"
      = key := by
  intro key
  by_cases hfirst : OrderedMap.contains "customProperties" members
  · have hkey : key = "customProperties" := by simp [key, definitionKeys, hfirst]
    simp [definitionKeys, hkey, OrderedMap.contains_insert]
  · by_cases hsecond : OrderedMap.contains "custom-properties" members
    · have hkey : key = "custom-properties" := by simp [key, definitionKeys, hfirst, hsecond]
      simp [definitionKeys, hkey, OrderedMap.contains_insert, hfirst]
    · have hkey : key = "customProperties" := by simp [key, definitionKeys, hfirst, hsecond]
      simp [definitionKeys, hkey, OrderedMap.contains_insert]

/-- Definitions written into an object replace those that were written into it before. -/
lemma Json.define_define {value written : Json} {first : PlainProperties}
    (h : value.define first = .ok written) (second : PlainProperties) :
    written.define second = value.define second := by
  cases value with
  | object members =>
    obtain rfl : Json.object _ = written := Except.ok.inj h
    simp only [Json.define]
    rw [find?_definitionKeys_insert, OrderedMap.insert_insert]
  | _ => cases h

/-! ### Destinations -/

namespace Destination

/-- Two destinations between which no export can tell: writing to them ends in the same way, and
leaves and delivers the same. -/
structure Indistinct (d d' : Destination) : Prop where
  ending : ∀ tree table, d.ending tree table = d'.ending tree table
  deliver : ∀ table delivery, d.deliver table delivery = d'.deliver table delivery

namespace Indistinct

variable {d d' d'' : Destination}

@[refl] lemma refl (d : Destination) : d.Indistinct d := ⟨fun _ _ => rfl, fun _ _ => rfl⟩

lemma symm (h : d.Indistinct d') : d'.Indistinct d :=
  ⟨fun tree table => (h.ending tree table).symm,
    fun table delivery => (h.deliver table delivery).symm⟩

lemma trans (h : d.Indistinct d') (h' : d'.Indistinct d'') : d.Indistinct d'' :=
  ⟨fun tree table => (h.ending tree table).trans (h'.ending tree table),
    fun table delivery => (h.deliver table delivery).trans (h'.deliver table delivery)⟩

/-- What no export can tell from a second list and that from a third, none can tell from the
third. -/
lemma all_trans {ds ds' ds'' : List Destination} (h : List.Forall₂ Indistinct ds ds')
    (h' : List.Forall₂ Indistinct ds' ds'') : List.Forall₂ Indistinct ds ds'' := by
  induction h generalizing ds'' with
  | nil => exact h'
  | cons hd _ ih =>
    cases h' with
    | cons hd' hds' => exact .cons (hd.trans hd') (ih hds')

lemma all_refl (ds : List Destination) : List.Forall₂ Indistinct ds ds :=
  List.forall₂_same.mpr fun d _ => .refl d

lemma all_symm {ds ds' : List Destination} (h : List.Forall₂ Indistinct ds ds') :
    List.Forall₂ Indistinct ds' ds :=
  h.flip.imp fun _ _ => symm

end Indistinct

/-- A destination is no other one after something was written to it. -/
lemma indistinct_deliver (table : PropertyTable) (delivery : Delivery) (d : Destination) :
    (d.deliver table delivery).1.Indistinct d := by
  cases d with
  | location path kind transform => rfl
  | callable answer => rfl
  | object value =>
    cases hwritten : value.define table.toPlain with
    | error failure =>
      simp only [deliver, hwritten]
      rfl
    | ok written =>
      simp only [deliver, hwritten]
      constructor
      · intro tree other
        simp only [ending, Except.toOption, Option.getD_some, Json.define_define hwritten]
      · intro other delivery
        simp only [deliver, Except.toOption, Option.getD_some, Json.define_define hwritten]
        -- an object that can be written to can be written to again
        cases value with
        | object members => rfl
        | _ => cases hwritten

/-- Whatever starts, what is delivered comes to the same for lists of destinations between which no
export can tell. -/
lemma deliverAll_congr (batch : BatchEnd Failure Bool) (table : PropertyTable) (size : Nat)
    {ds ds' : List Destination} (h : List.Forall₂ Indistinct ds ds') (task : Nat)
    (delivery : Delivery) :
    (deliverAll batch table size task delivery ds).2
        = (deliverAll batch table size task delivery ds').2 ∧
      ((∀ moment, batch.reaches moment) → deliverAll batch table size task delivery ds
        = deliverAll batch table size task delivery ds') := by
  induction h generalizing task delivery with
  | nil => exact ⟨rfl, fun _ => rfl⟩
  | cons hd _ ih =>
    simp only [deliverAll]
    by_cases hstarts : batch.reaches (.ofTask size 0 task)
    · simp only [hstarts, if_true, hd.deliver]
      obtain ⟨hdelivery, hall⟩ := ih (task + 1) (Destination.deliver table delivery _).2
      exact ⟨hdelivery, fun hreaches => by rw [hall hreaches]⟩
    · simp only [hstarts, if_false, Bool.false_eq_true]
      exact ⟨(ih (task + 1) delivery).1, fun hreaches => absurd (hreaches _) hstarts⟩

lemma indistinct_deliverAll (batch : BatchEnd Failure Bool) (table : PropertyTable)
    (size task : Nat) (delivery : Delivery) (ds : List Destination) :
    List.Forall₂ Indistinct (deliverAll batch table size task delivery ds).1 ds := by
  induction ds generalizing task delivery with
  | nil => exact .nil
  | cons d ds ih =>
    refine .cons ?_ (ih (task + 1) _)
    split
    · exact indistinct_deliver table delivery d
    · exact .refl d

end Destination

/-! ### Exports -/

open Destination (Indistinct)

/-- Between the destinations before and after an export no other export can tell. -/
lemma indistinct_exportTable (disk : Disk) (table : PropertyTable) (ds : List Destination) :
    List.Forall₂ Indistinct (exportTable disk table ds).destinations ds :=
  Destination.indistinct_deliverAll ..

/-- An export ends in the same way and delivers the same to destinations between which no export can
tell. If it succeeds it also leaves them the same. -/
lemma exportTable_congr (disk : Disk) (table : PropertyTable) {ds ds' : List Destination}
    (h : List.Forall₂ Indistinct ds ds') :
    (exportTable disk table ds).result = (exportTable disk table ds').result ∧
    (exportTable disk table ds).delivery = (exportTable disk table ds').delivery ∧
    ∀ count, (exportTable disk table ds).result = .ok count →
      exportTable disk table ds = exportTable disk table ds' := by
  have hendings : ds.map (·.ending disk.tree table) = ds'.map (·.ending disk.tree table) := by
    rw [← List.forall₂_eq_eq_eq, List.forall₂_map_left_iff, List.forall₂_map_right_iff]
    exact h.imp fun _ _ hd => hd.ending disk.tree table
  have hlength : ds.length = ds'.length := h.length_eq
  simp only [exportTable, hendings, hlength, true_and]
  let batch := BatchEnd.ofEndings disk.pace.writing (ds'.map (·.ending disk.tree table))
  obtain ⟨hdelivery, hall⟩ :=
    Destination.deliverAll_congr batch table ds'.length h 0 ⟨disk.tree, []⟩
  refine ⟨hdelivery, ?_⟩
  intro count hcount
  cases hbatch : batch with
  | finished written =>
    rw [hbatch] at hall
    simp only [batch] at hbatch
    rw [hbatch, hall fun _ => rfl]
  | failed failure moment =>
    simp only [batch] at hbatch
    rw [hbatch] at hcount
    cases hcount

end CustomProperties
