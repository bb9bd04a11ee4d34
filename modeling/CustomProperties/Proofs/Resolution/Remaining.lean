import CustomProperties.Proofs.Resolution.ReferenceGraph
import Mathlib

/-!
# References that remain

A reference stays where resolution meets it without a fallback and its name is hidden or has no
entry. A name is hidden only below the reference it was substituted for, so all that is met there
can be reached from it: a hidden name that is met again reaches itself.
-/

namespace CustomProperties

namespace ValueNode

mutual

/-- The references in a token that stand outside of other references. -/
def outerReferences : ValueNode → List ValueNode
  | word .. => []
  | comma _ => []
  | comment .. => []
  | function before name args after closed =>
    if (function before name args after closed).isReference then
      [function before name args after closed]
    else outerReferencesAll args
  | block _ _ nodes _ _ => outerReferencesAll nodes

/-- The references in a sequence of tokens that stand outside of other references. -/
def outerReferencesAll : List ValueNode → List ValueNode
  | [] => []
  | n :: ns => n.outerReferences ++ outerReferencesAll ns

end

@[simp] lemma outerReferencesAll_nil : outerReferencesAll [] = [] := by rw [outerReferencesAll]

@[simp] lemma outerReferencesAll_cons (n : ValueNode) (ns : List ValueNode) :
    outerReferencesAll (n :: ns) = n.outerReferences ++ outerReferencesAll ns := by
  rw [outerReferencesAll]

@[simp] lemma outerReferencesAll_append (ns ms : List ValueNode) :
    outerReferencesAll (ns ++ ms) = outerReferencesAll ns ++ outerReferencesAll ms := by
  induction ns with
  | nil => simp
  | cons n ns ih => simp [ih]

lemma outerReferences_of_isReference {n : ValueNode} (h : n.isReference) :
    n.outerReferences = [n] := by
  obtain ⟨before, name, args, after, closed, rfl⟩ := exists_function_of_isReference h
  rw [outerReferences, if_pos h]

/-- Around other children no other references come into sight. -/
lemma outerReferences_withChildren_subset {n : ValueNode} {nodes : List ValueNode}
    (h : ¬ (n.withChildren nodes).isReference) :
    (n.withChildren nodes).outerReferences ⊆ outerReferencesAll nodes := by
  cases n with
  | function before name args after closed =>
    rw [withChildren] at h ⊢
    rw [outerReferences, if_neg h]
    exact List.Subset.refl _
  | block before bracket nodes after closed =>
    rw [withChildren, outerReferences]
    exact List.Subset.refl _
  | _ => simp [withChildren, outerReferences]

end ValueNode

open Relation ValueNode

namespace PropertyTable

/-- Nothing can be put for a reference: it has no fallback, and its first argument is no word, or
a name without an entry, or a name that reaches itself. -/
structure Stuck (table : PropertyTable) (n : ValueNode) : Prop where
  no_fallback : afterComma n.children = []
  unknown_or_cyclic : ∀ name, referent? n.children = some name →
    table.get? name = none ∨ table.Reaches name name

/-- A name can be reached from every hidden name. -/
def Below (table : PropertyTable) (hidden : List String) (m : String) : Prop :=
  ∀ name ∈ hidden, table.Reaches name m

variable {table : PropertyTable} {hidden : List String} {n : ValueNode}

/-- The stored tokens of a name below the hidden ones stand below that name too. -/
lemma confines_below (table : PropertyTable) : table.Confines table.Below where
  stored := by
    intro hidden name nodes hname hg m hm h hh
    have edge : table.Refers name m := ⟨nodes, hg, hm⟩
    rcases List.mem_cons.1 hh with rfl | hh
    · exact .single edge
    · exact (hname h hh).tail edge
  of_cons := fun hm h hh => hm h (List.mem_cons_of_mem _ hh)

/-- A reference that stays below the hidden names is stuck. -/
lemma stuck_of_stays (hn : ∀ m ∈ n.mentioned, table.Below hidden m) (h : n.isReference)
    (hs : table.substitution hidden n.children = .stays) : table.Stuck n := by
  obtain ⟨hu, he⟩ := of_substitution_eq_stays hs
  refine ⟨he, fun name hr => ?_⟩
  rcases hu name hr with hh | hg
  · exact .inr (hn name (referent_mem_mentioned h hr) name hh)
  · exact .inl hg

/-- What stays of a sequence below the hidden names is stuck, if it is so of the part that is
done. -/
lemma stuck_resolveFrom (table : PropertyTable) (hidden : List String) (done : Settled)
    (todo : List ValueNode) (hdone : MentionsOnly (table.Below hidden) done.1)
    (htodo : MentionsOnly (table.Below hidden) todo) :
    (∀ n ∈ outerReferencesAll done.1, table.Stuck n) →
      ∀ n ∈ outerReferencesAll (resolveFrom table hidden done todo).1, table.Stuck n := by
  refine table.confines_below.induct ?nil ?stored ?fallback ?stays ?other hidden done todo
    hdone htodo
  case nil =>
    intro hidden done hstuck
    rwa [resolveFrom_nil]
  case stored =>
    intro hidden done n rest name nodes h hs ihstored ihrest hstuck
    rw [resolveFrom_stored h hs]
    refine ihrest ?_
    simp only [Settled.val_append, outerReferencesAll_append, List.mem_append]
    rintro m (hm | hm)
    · exact hstuck m hm
    · exact ihstored (by simp) m hm
  case fallback =>
    intro hidden done n rest nodes hn h hs ih hstuck
    rw [resolveFrom_fallback h hs]
    exact ih (by simp)
  case stays =>
    intro hidden done n rest hn h hs ih hstuck
    rw [resolveFrom_stays h hs]
    refine ih ?_
    simp only [Settled.val_append, Settled.val_single, outerReferencesAll_append,
      outerReferencesAll_cons, outerReferences_of_isReference h, outerReferencesAll_nil,
      List.mem_append, List.mem_singleton, List.append_nil]
    rintro m (hm | rfl)
    · exact hstuck m hm
    · exact stuck_of_stays hn h hs
  case other =>
    intro hidden done n rest h ihchildren ih hstuck
    rw [resolveFrom_other h]
    refine ih ?_
    simp only [Settled.val_append, val_resolvedAround, outerReferencesAll_append,
      outerReferencesAll_cons, outerReferencesAll_nil, List.mem_append, List.append_nil]
    rintro m (hm | hm)
    · exact hstuck m hm
    · exact ihchildren (by simp) m
        (outerReferences_withChildren_subset (not_isReference_around h) hm)

end PropertyTable

/-- Every reference that remains, other than in the arguments of another one that does, is
stuck. -/
theorem stuck_of_mem_outerReferencesAll_resolve (table : PropertyTable)
    (nodes : List ValueNode) :
    ∀ n ∈ outerReferencesAll (resolve table nodes), table.Stuck n := by
  rw [resolve_eq]
  refine PropertyTable.stuck_resolveFrom table [] .nil nodes mentionsOnly_nil ?_ (by simp)
  exact fun m _ name hname => absurd hname List.not_mem_nil

/-- Two entries that refer to each other, one of them behind another token. -/
def circular : PropertyTable where
  entries := [("--a", [.word "" "x", .function " " "var" [.word "" "--b"] "" true]),
    ("--b", [.function "" "var" [.word "" "--a"] "" true])]

/-- `calc(var(--a) var(--m,1px))` comes to `calc(x x var(--a) 1px)`. -/
theorem stuck_of_mem_outerReferencesAll_resolve_circular :
    .function " " "var" [.word "" "--a"] "" true ∈ outerReferencesAll (resolve circular
        [.function "" "calc" [.function "" "var" [.word "" "--a"] "" true,
          .function " " "var" [.word "" "--m", .comma "", .word "" "1px"] "" true] "" true]) ∧
      circular.Stuck (.function " " "var" [.word "" "--a"] "" true) := by
  have hres : resolve circular
      [.function "" "calc" [.function "" "var" [.word "" "--a"] "" true,
        .function " " "var" [.word "" "--m", .comma "", .word "" "1px"] "" true] "" true]
      = [.function "" "calc" [.word "" "x", .word " " "x",
          .function " " "var" [.word "" "--a"] "" true, .word " " "1px"] "" true] := by cbv
  have hmem : .function " " "var" [.word "" "--a"] "" true ∈ outerReferencesAll (resolve circular
      [.function "" "calc" [.function "" "var" [.word "" "--a"] "" true,
        .function " " "var" [.word "" "--m", .comma "", .word "" "1px"] "" true] "" true]) := by
    rw [hres]
    simp [outerReferences, isReference, Text.sameLetters]
  exact ⟨hmem, stuck_of_mem_outerReferencesAll_resolve _ _ _ hmem⟩

end CustomProperties
