import CustomProperties.Proofs.Resolution.Basic
import Mathlib.Tactic.Common

/-!
# White space

White space has no part in resolution: sequences of tokens that differ in nothing else are resolved
to sequences that differ in nothing else (`unspacedAll_resolveFrom`).
-/

namespace CustomProperties

namespace ValueNode

mutual

/-- A token without the white space before it and inside of it. -/
def unspaced : ValueNode → ValueNode
  | word _ text => word "" text
  | comma _ => comma ""
  | comment _ text => comment "" text
  | function _ name args _ closed => function "" name (unspacedAll args) "" closed
  | block _ bracket nodes _ closed => block "" bracket (unspacedAll nodes) "" closed

/-- A sequence of tokens without white space, at every depth. -/
def unspacedAll : List ValueNode → List ValueNode
  | [] => []
  | n :: ns => n.unspaced :: unspacedAll ns

end

variable {n m : ValueNode} {args args' ns : List ValueNode} {before : String}

@[simp] lemma unspacedAll_nil : unspacedAll [] = [] := by rw [unspacedAll]

@[simp] lemma unspacedAll_cons (n : ValueNode) (ns : List ValueNode) :
    unspacedAll (n :: ns) = n.unspaced :: unspacedAll ns := by rw [unspacedAll]

@[simp] lemma unspacedAll_append (ns ms : List ValueNode) :
    unspacedAll (ns ++ ms) = unspacedAll ns ++ unspacedAll ms := by
  induction ns with
  | nil => simp
  | cons n ns ih => simp [ih]

lemma unspacedAll_eq_nil : unspacedAll ns = [] ↔ ns = [] := by
  cases ns <;> simp

/-- What differs in white space only from a sequence with a first token has one as well. -/
lemma exists_cons_of_unspacedAll (h : unspacedAll (n :: ns) = unspacedAll args) :
    ∃ m ms, args = m :: ms ∧ n.unspaced = m.unspaced ∧ unspacedAll ns = unspacedAll ms := by
  cases args with
  | nil => simp at h
  | cons m ms =>
    rw [unspacedAll_cons, unspacedAll_cons, List.cons.injEq] at h
    exact ⟨m, ms, rfl, h⟩

@[simp] lemma unspaced_withBefore (before : String) (n : ValueNode) :
    (n.withBefore before).unspaced = n.unspaced := by
  cases n <;> simp [withBefore, unspaced]

@[simp] lemma unspacedAll_withLeading (before : String) (ns : List ValueNode) :
    unspacedAll (withLeading before ns) = unspacedAll ns := by
  cases ns <;> simp

lemma children_unspaced (n : ValueNode) : n.unspaced.children = unspacedAll n.children := by
  cases n <;> simp [unspaced, children]

lemma unspaced_withChildren (n : ValueNode) (ns : List ValueNode) :
    (n.withChildren ns).unspaced = n.unspaced.withChildren (unspacedAll ns) := by
  cases n <;> simp [unspaced, withChildren]

lemma isReference_unspaced (n : ValueNode) : n.unspaced.isReference = n.isReference := by
  cases n with
  | function _ _ args => cases args <;> simp [unspaced, isReference]
  | _ => simp [unspaced, isReference]

lemma isComma_unspaced (n : ValueNode) : n.unspaced.isComma = n.isComma := by
  cases n <;> simp [unspaced, isComma]

lemma referent?_unspacedAll (args : List ValueNode) :
    referent? (unspacedAll args) = referent? args := by
  cases args with
  | nil => simp
  | cons n ns => cases n <;> simp [referent?, unspaced, word?]

lemma afterComma_unspacedAll (args : List ValueNode) :
    afterComma (unspacedAll args) = unspacedAll (afterComma args) := by
  induction args with
  | nil => simp [afterComma]
  | cons n ns ih =>
    rw [unspacedAll_cons, afterComma, afterComma, isComma_unspaced, ih]
    split <;> rfl

/-! ### What differs in white space only -/

lemma isReference_congr (h : n.unspaced = m.unspaced) : n.isReference = m.isReference := by
  rw [← isReference_unspaced n, h, isReference_unspaced]

lemma children_congr (h : n.unspaced = m.unspaced) :
    unspacedAll n.children = unspacedAll m.children := by
  rw [← children_unspaced, h, children_unspaced]

lemma referent?_congr (h : unspacedAll args = unspacedAll args') :
    referent? args = referent? args' := by
  rw [← referent?_unspacedAll args, h, referent?_unspacedAll]

lemma afterComma_congr (h : unspacedAll args = unspacedAll args') :
    unspacedAll (afterComma args) = unspacedAll (afterComma args') := by
  rw [← afterComma_unspacedAll, h, afterComma_unspacedAll]

end ValueNode

open ValueNode

/-! ### References -/

namespace PropertyTable

variable {table : PropertyTable} {hidden : List String} {args args' nodes : List ValueNode}
  {name : String}

lemma substitution_stored_iff :
    table.substitution hidden args = .stored name nodes ↔
      referent? args = some name ∧ name ∉ hidden ∧ table.get? name = some nodes := by
  constructor
  · exact of_substitution_eq_stored
  · rintro ⟨hname, hvisible, hget⟩
    have hlookup := lookup?_eq_some_iff.2 ⟨hvisible, hget⟩
    simp [substitution, hname, hlookup]

/-- A reference to nothing in sight gives way to its fallback, if it has one. -/
lemma Unknown.substitution_eq (h : table.Unknown hidden args) :
    table.substitution hidden args
      = if afterComma args = [] then .stays else .fallback (afterComma args) := by
  obtain ⟨name, _, hname, hvisible, hget, -⟩ | ⟨-, hne, hs⟩ | ⟨-, hnil, hs⟩ :=
    table.substitution_cases hidden args
  · rcases h name hname with hmem | hnone
    · exact absurd hmem hvisible
    · cases hget.symm.trans hnone
  · rw [hs, if_neg hne]
  · rw [hs, if_pos hnil]

lemma Unknown.congr (h : table.Unknown hidden args) (heq : unspacedAll args = unspacedAll args') :
    table.Unknown hidden args' := by
  intro name hname
  rw [← referent?_congr heq] at hname
  exact h name hname

/-- White space makes no difference to what a reference gives way to. -/
lemma substitution_stored_congr (h : unspacedAll args = unspacedAll args')
    (hs : table.substitution hidden args = .stored name nodes) :
    table.substitution hidden args' = .stored name nodes := by
  rw [substitution_stored_iff] at hs ⊢
  rwa [← referent?_congr h]

lemma substitution_fallback_congr (h : unspacedAll args = unspacedAll args')
    (hs : table.substitution hidden args = .fallback nodes) :
    ∃ nodes', table.substitution hidden args' = .fallback nodes' ∧
      unspacedAll nodes = unspacedAll nodes' := by
  obtain ⟨hunknown, hne, rfl⟩ := of_substitution_eq_fallback hs
  have hfallback := afterComma_congr h
  have hne' : afterComma args' ≠ [] := by
    rwa [ne_eq, ← unspacedAll_eq_nil, ← hfallback, unspacedAll_eq_nil]
  refine ⟨_, ?_, hfallback⟩
  rw [(hunknown.congr h).substitution_eq, if_neg hne']

lemma substitution_stays_congr (h : unspacedAll args = unspacedAll args')
    (hs : table.substitution hidden args = .stays) : table.substitution hidden args' = .stays := by
  obtain ⟨hunknown, hnil⟩ := of_substitution_eq_stays hs
  have hnil' : afterComma args' = [] := by
    rw [← unspacedAll_eq_nil, ← afterComma_congr h, hnil, unspacedAll_nil]
  rw [(hunknown.congr h).substitution_eq, if_pos hnil']

end PropertyTable

/-! ### Resolution -/

/-- White space makes no difference to resolution but in the white space of the result. -/
lemma unspacedAll_resolveFrom {table : PropertyTable} {hidden : List String} {done done' : Settled}
    {todo todo' : List ValueNode} (hdone : unspacedAll done.1 = unspacedAll done'.1)
    (htodo : unspacedAll todo = unspacedAll todo') :
    unspacedAll (resolveFrom table hidden done todo).1
      = unspacedAll (resolveFrom table hidden done' todo').1 := by
  induction hidden, done, todo using resolveFrom_induct table generalizing done' todo' with
  | nil =>
    obtain rfl := unspacedAll_eq_nil.1 (htodo.symm.trans unspacedAll_nil)
    simpa using hdone
  | stored hidden done n rest name nodes href hs ihinner ih =>
    obtain ⟨m, rest', rfl, hn, hrest⟩ := exists_cons_of_unspacedAll htodo
    rw [resolveFrom_stored href hs, resolveFrom_stored ((isReference_congr hn).symm.trans href)
      (PropertyTable.substitution_stored_congr (children_congr hn) hs)]
    apply ih _ hrest
    rw [Settled.val_append, Settled.val_append, unspacedAll_append, unspacedAll_append, hdone]
    congr 1
    apply ihinner rfl
    simp
  | fallback hidden done n rest nodes href hs ih =>
    obtain ⟨m, rest', rfl, hn, hrest⟩ := exists_cons_of_unspacedAll htodo
    obtain ⟨nodes', hs', hnodes⟩ :=
      PropertyTable.substitution_fallback_congr (children_congr hn) hs
    rw [resolveFrom_fallback href hs,
      resolveFrom_fallback ((isReference_congr hn).symm.trans href) hs']
    apply ih rfl
    simp [hdone, hnodes, hrest]
  | stays hidden done n rest href hs ih =>
    obtain ⟨m, rest', rfl, hn, hrest⟩ := exists_cons_of_unspacedAll htodo
    rw [resolveFrom_stays href hs, resolveFrom_stays ((isReference_congr hn).symm.trans href)
      (PropertyTable.substitution_stays_congr (children_congr hn) hs)]
    apply ih _ hrest
    simp [hdone, hn]
  | other hidden done n rest hother ihchildren ih =>
    obtain ⟨m, rest', rfl, hn, hrest⟩ := exists_cons_of_unspacedAll htodo
    have hother' : ¬ m.isReference := by rwa [← isReference_congr hn]
    have hchildren : unspacedAll (resolveHiding table hidden n.children).1
        = unspacedAll (resolveHiding table hidden m.children).1 :=
      ihchildren rfl (children_congr hn)
    rw [resolveFrom_other hother, resolveFrom_other hother']
    apply ih _ hrest
    simp [hdone, unspaced_withChildren, hn, hchildren]

end CustomProperties
