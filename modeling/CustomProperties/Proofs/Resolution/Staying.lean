import CustomProperties.Proofs.Resolution.Remaining
import CustomProperties.Proofs.Resolution.Restart
import Mathlib.Tactic.Common

/-!
# Sequences that stay

A sequence stays as it is if nothing is put for the references in it: if none of them names an entry
and none has a fallback. Behind another sequence it has no part in what that one is resolved to.
-/

namespace CustomProperties

open ValueNode

variable {table : PropertyTable} {hidden : List String} {xs ys : List ValueNode}

lemma ValueNode.outerReferences_of_not_isReference {n : ValueNode} (h : ¬ n.isReference) :
    n.outerReferences = outerReferencesAll n.children := by
  cases n with
  | function => rw [outerReferences, if_neg h, children]
  | block => rw [outerReferences, children]
  | _ => simp [outerReferences, children]

/-- In a sequence in which no fallback can be taken, no reference has one. -/
lemma ValueNode.afterComma_of_mem_outerReferencesAll {ns : List ValueNode}
    (h : pendingAll ns = 0) : ∀ n ∈ outerReferencesAll ns, afterComma n.children = [] := by
  match ns with
  | [] => simp
  | m :: ms =>
    intro n hn
    rw [pendingAll_cons, Nat.add_eq_zero_iff] at h
    rw [outerReferencesAll_cons, List.mem_append] at hn
    rcases hn with hn | hn
    · by_cases href : m.isReference
      · rw [outerReferences_of_isReference href, List.mem_singleton] at hn
        rw [hn]
        exact afterComma_children_of_pending href h.1
      · rw [outerReferences_of_not_isReference href] at hn
        rw [pending_of_not_isReference href] at h
        exact afterComma_of_mem_outerReferencesAll h.1 n hn
    · exact afterComma_of_mem_outerReferencesAll h.2 n hn
termination_by sizeOf ns
decreasing_by
  · have := sizeOf_children_le m
    simp
    omega
  · simp

/-- Where nothing is put for the references of a sequence, the sequence stays. -/
lemma val_resolveFrom_of_stays (hidden : List String) (done : Settled) {todo : List ValueNode}
    (h : ∀ n ∈ outerReferencesAll todo, table.substitution hidden n.children = .stays) :
    (resolveFrom table hidden done todo).1 = done.1 ++ todo := by
  induction hidden, done, todo using resolveFrom_induct table with
  | nil => simp
  | stored _ _ n _ _ _ href hs =>
    have hstays := h n (by simp [outerReferences_of_isReference href])
    cases hs.symm.trans hstays
  | fallback _ _ n _ _ href hs =>
    have hstays := h n (by simp [outerReferences_of_isReference href])
    cases hs.symm.trans hstays
  | stays hidden done n rest href hs ih =>
    rw [outerReferencesAll_cons, List.forall_mem_append] at h
    rw [resolveFrom_stays href hs, ih h.2]
    simp
  | other hidden done n rest hother ihchildren ih =>
    rw [outerReferencesAll_cons, outerReferences_of_not_isReference hother,
      List.forall_mem_append] at h
    have hchildren : (resolveHiding table hidden n.children).1 = n.children := by
      simpa [resolveHiding] using ihchildren h.1
    rw [resolveFrom_other hother, ih h.2, Settled.val_append, val_resolvedAround, hchildren]
    simp

lemma resolve_of_stays (h : ∀ n ∈ outerReferencesAll xs, table.substitution [] n.children = .stays) :
    resolve table xs = xs := by
  simpa [resolve] using val_resolveFrom_of_stays [] .nil h

/-- What stays has no part in what the tokens before it are resolved to. -/
lemma resolve_append_of_stays
    (h : ∀ n ∈ outerReferencesAll ys, table.substitution [] n.children = .stays) :
    resolve table (xs ++ ys) = resolve table xs ++ ys := by
  rw [resolve_eq, resolveHiding, resolveFrom_append, val_resolveFrom_of_stays [] _ h]
  rfl

/-- Where no name is defined, a sequence in which no reference has a fallback stays. -/
lemma val_resolveFrom_empty (hidden : List String) (done : Settled) {todo : List ValueNode}
    (h : pendingAll todo = 0) : (resolveFrom ∅ hidden done todo).1 = done.1 ++ todo := by
  apply val_resolveFrom_of_stays
  intro n hn
  obtain ⟨_, _, -, -, hstored, -⟩ | ⟨-, hfallback, -⟩ | ⟨-, -, hs⟩ :=
    PropertyTable.substitution_cases ∅ hidden n.children
  · cases hstored
  · exact absurd (afterComma_of_mem_outerReferencesAll h n hn) hfallback
  · exact hs

/-! ### What a table leaves -/

namespace PropertyTable

/-- Nothing is put for a reference with these arguments: the table has no entry of its name, and it
has no fallback. -/
structure Leaves (table : PropertyTable) (args : List ValueNode) : Prop where
  unknown : ∀ name, referent? args = some name → table.get? name = none
  no_fallback : afterComma args = []

/-- Nothing is put for the references of a sequence. Those in the arguments of another one do not
count. -/
def LeavesAll (table : PropertyTable) (nodes : List ValueNode) : Prop :=
  ∀ n ∈ outerReferencesAll nodes, table.Leaves n.children

lemma Leaves.substitution_eq {args : List ValueNode} (h : table.Leaves args) :
    table.substitution [] args = .stays := by
  obtain ⟨name, nodes, hname, -, hget, -⟩ | ⟨-, hfallback, -⟩ | ⟨-, -, hs⟩ :=
    table.substitution_cases [] args
  · rw [h.unknown name hname] at hget
    cases hget
  · exact absurd h.no_fallback hfallback
  · exact hs

lemma LeavesAll.resolve_eq (h : table.LeavesAll xs) : resolve table xs = xs :=
  resolve_of_stays fun n hn => (h n hn).substitution_eq

end PropertyTable

/-- Comments hold no references. -/
lemma outerReferencesAll_eq_nil_of_comments (h : ∀ n ∈ xs, n.isComment) :
    outerReferencesAll xs = [] := by
  induction xs with
  | nil => simp
  | cons n xs ih =>
    rw [List.forall_mem_cons] at h
    obtain ⟨hn, hxs⟩ := h
    cases n with
    | comment => simp [outerReferences, ih hxs]
    | _ => simp [isComment] at hn

end CustomProperties
