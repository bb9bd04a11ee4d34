import CustomProperties.Resolve
import Mathlib.Tactic.Common

/-!
# Resolving a sequence step by step

A step of `resolveFrom` treats the first token that is still to do: a reference gives way to
stored tokens, to its fallback or to nothing, and any other token has its children resolved.
`resolveFrom_induct` is the induction over these steps. Everything that is proved about
resolution goes through the equations of this module and opens no definition of the resolver.
-/

namespace CustomProperties

namespace ValueNode

/-- In a sequence in which no fallback can be taken, a reference has none. -/
lemma afterComma_children_of_pending {n : ValueNode} (h : n.isReference) (hp : n.pending = 0) :
    afterComma n.children = [] := by
  rw [pending_of_isReference h, pendingFallback_eq] at hp
  by_contra hne
  simp_all

/-- What stands behind the first comma stands in the sequence. -/
lemma afterComma_suffix (args : List ValueNode) : afterComma args <:+ args := by
  induction args with
  | nil => exact List.nil_suffix
  | cons n ns ih =>
    rw [afterComma]
    split
    · exact List.suffix_cons n ns
    · exact ih.trans (List.suffix_cons n ns)

end ValueNode

open ValueNode

/-! ### What a reference gives way to -/

namespace PropertyTable

variable {table : PropertyTable} {hidden : List String} {args nodes : List ValueNode}
  {name : String}

lemma lookup?_eq_some_iff :
    table.lookup? hidden name = some nodes ↔ name ∉ hidden ∧ table.get? name = some nodes := by
  unfold lookup?
  split <;> simp_all

lemma lookup?_eq_none_iff :
    table.lookup? hidden name = none ↔ name ∈ hidden ∨ table.get? name = none := by
  unfold lookup?
  split <;> simp_all

/-- The first argument is not the name of an entry in sight. -/
def Unknown (table : PropertyTable) (hidden : List String) (args : List ValueNode) : Prop :=
  ∀ name, referent? args = some name → name ∈ hidden ∨ table.get? name = none

/-- What a reference gives way to, case by case. -/
lemma substitution_cases (table : PropertyTable) (hidden : List String)
    (args : List ValueNode) :
    (∃ name nodes, referent? args = some name ∧ name ∉ hidden ∧ table.get? name = some nodes ∧
      table.substitution hidden args = .stored name nodes) ∨
    (table.Unknown hidden args ∧ afterComma args ≠ [] ∧
      table.substitution hidden args = .fallback (afterComma args)) ∨
    (table.Unknown hidden args ∧ afterComma args = [] ∧
      table.substitution hidden args = .stays) := by
  cases hb : (referent? args).bind fun name => (table.lookup? hidden name).map (name, ·) with
  | some found =>
    obtain ⟨name, hr, hm⟩ := Option.bind_eq_some_iff.1 hb
    obtain ⟨nodes, hl, rfl⟩ := Option.map_eq_some_iff.1 hm
    obtain ⟨hv, hg⟩ := lookup?_eq_some_iff.1 hl
    exact .inl ⟨name, nodes, hr, hv, hg, by simp [substitution, hb]⟩
  | none =>
    have hu : table.Unknown hidden args := by
      intro name hr
      simpa [hr, lookup?_eq_none_iff] using hb
    by_cases he : afterComma args = []
    · exact .inr (.inr ⟨hu, he, by simp [substitution, hb, he]⟩)
    · exact .inr (.inl ⟨hu, he, by simp [substitution, hb, he]⟩)

lemma of_substitution_eq_stored (h : table.substitution hidden args = .stored name nodes) :
    referent? args = some name ∧ name ∉ hidden ∧ table.get? name = some nodes := by
  obtain ⟨_, _, hr, hv, hg, hs⟩ | ⟨-, -, hs⟩ | ⟨-, -, hs⟩ := table.substitution_cases hidden args
  all_goals rw [hs] at h; cases h
  exact ⟨hr, hv, hg⟩

lemma of_substitution_eq_fallback (h : table.substitution hidden args = .fallback nodes) :
    table.Unknown hidden args ∧ afterComma args ≠ [] ∧ nodes = afterComma args := by
  obtain ⟨_, _, -, -, -, hs⟩ | ⟨hu, he, hs⟩ | ⟨-, -, hs⟩ := table.substitution_cases hidden args
  all_goals rw [hs] at h; cases h
  exact ⟨hu, he, rfl⟩

lemma of_substitution_eq_stays (h : table.substitution hidden args = .stays) :
    table.Unknown hidden args ∧ afterComma args = [] := by
  obtain ⟨_, _, -, -, -, hs⟩ | ⟨-, -, hs⟩ | ⟨hu, he, -⟩ := table.substitution_cases hidden args
  · rw [hs] at h; cases h
  · rw [hs] at h; cases h
  · exact ⟨hu, he⟩

end PropertyTable

/-! ### One step -/

section Step

variable {table : PropertyTable} {hidden : List String} {done : Settled} {n : ValueNode}
  {rest nodes : List ValueNode} {name : String}

/-- Resolve a sequence with some names hidden. -/
def resolveHiding (table : PropertyTable) (hidden : List String) (nodes : List ValueNode) :
    Settled :=
  resolveFrom table hidden .nil nodes

@[simp] lemma resolveFrom_nil : resolveFrom table hidden done [] = done := by rw [resolveFrom]

@[simp] lemma resolveHiding_nil : resolveHiding table hidden [] = .nil := resolveFrom_nil

lemma not_isReference_around (h : ¬ n.isReference) :
    ¬ (n.withChildren (resolveHiding table hidden n.children).1).isReference :=
  not_isReference_withChildren h fun hc => by simp [hc]

lemma pending_around (h : ¬ n.isReference) :
    (n.withChildren (resolveHiding table hidden n.children).1).pending = 0 :=
  pending_withChildren h (fun hc => by simp [hc]) (resolveHiding table hidden n.children).2

/-- A token that is no reference, with its children resolved. -/
def resolvedAround (table : PropertyTable) (hidden : List String) (n : ValueNode)
    (h : ¬ n.isReference) : Settled :=
  .single (n.withChildren (resolveHiding table hidden n.children).1) (pending_around h)

@[simp] lemma val_resolvedAround (h : ¬ n.isReference) :
    (resolvedAround table hidden n h).1
      = [n.withChildren (resolveHiding table hidden n.children).1] := rfl

/-- An entry in sight: its tokens are resolved with its name hidden. -/
lemma resolveFrom_stored (h : n.isReference)
    (hs : table.substitution hidden n.children = .stored name nodes) :
    resolveFrom table hidden done (n :: rest)
      = resolveFrom table hidden
          (done.append (resolveHiding table (name :: hidden) (withLeading n.before nodes)))
          rest := by
  rw [resolveFrom, dif_pos h]
  split
  · next hs' =>
    cases hs'.symm.trans hs
    rfl
  · next hs' => cases hs'.symm.trans hs
  · next hs' => cases hs'.symm.trans hs

/-- A fallback: the sequence is resolved again from its start. -/
lemma resolveFrom_fallback (h : n.isReference)
    (hs : table.substitution hidden n.children = .fallback nodes) :
    resolveFrom table hidden done (n :: rest)
      = resolveHiding table hidden (done.1 ++ (withLeading n.before nodes ++ rest)) := by
  rw [resolveFrom, dif_pos h]
  split
  · next hs' => cases hs'.symm.trans hs
  · next hs' =>
    cases hs'.symm.trans hs
    rfl
  · next hs' => cases hs'.symm.trans hs

/-- A reference that gives way to nothing. -/
lemma resolveFrom_stays (h : n.isReference)
    (hs : table.substitution hidden n.children = .stays) :
    resolveFrom table hidden done (n :: rest)
      = resolveFrom table hidden (done.append (.single n (pending_of_stays h hs))) rest := by
  rw [resolveFrom, dif_pos h]
  split
  · next hs' => cases hs'.symm.trans hs
  · next hs' => cases hs'.symm.trans hs
  · rfl

/-- Without children, a token is its own resolution. -/
lemma resolvedAround_of_children_eq_nil (h : ¬ n.isReference) (hc : n.children = []) :
    resolvedAround table hidden n h = .single n (pending_of_children_eq_nil h hc) := by
  have hn : n.withChildren [] = n := by rw [← hc, withChildren_children]
  exact Subtype.ext (by simp [hc, hn])

/-- Any other token: its children are resolved. -/
lemma resolveFrom_other (h : ¬ n.isReference) :
    resolveFrom table hidden done (n :: rest)
      = resolveFrom table hidden (done.append (resolvedAround table hidden n h)) rest := by
  rw [resolveFrom, dif_neg h]
  split
  · next hc => rw [resolvedAround_of_children_eq_nil h hc]
  · rfl

/-- Induction over the steps of the resolver. -/
@[elab_as_elim]
lemma resolveFrom_induct (table : PropertyTable)
    {motive : List String → Settled → List ValueNode → Prop}
    (nil : ∀ hidden done, motive hidden done [])
    (stored : ∀ hidden done n rest name nodes, n.isReference →
      table.substitution hidden n.children = .stored name nodes →
      motive (name :: hidden) .nil (withLeading n.before nodes) →
      motive hidden
        (done.append (resolveHiding table (name :: hidden) (withLeading n.before nodes))) rest →
      motive hidden done (n :: rest))
    (fallback : ∀ hidden done n rest nodes, n.isReference →
      table.substitution hidden n.children = .fallback nodes →
      motive hidden .nil (done.1 ++ (withLeading n.before nodes ++ rest)) →
      motive hidden done (n :: rest))
    (stays : ∀ hidden done n rest (h : n.isReference)
      (hs : table.substitution hidden n.children = .stays),
      motive hidden (done.append (.single n (pending_of_stays h hs))) rest →
      motive hidden done (n :: rest))
    (other : ∀ hidden done n rest (h : ¬ n.isReference),
      motive hidden .nil n.children →
      motive hidden (done.append (resolvedAround table hidden n h)) rest →
      motive hidden done (n :: rest))
    (hidden : List String) (done : Settled) (todo : List ValueNode) :
    motive hidden done todo := by
  induction hidden, done, todo using resolveFrom.induct table with
  | case1 hidden done => exact nil hidden done
  | case2 hidden done n rest h name nodes hs _ ih ihrest =>
    exact stored _ _ _ _ _ _ h hs ih ihrest
  | case3 hidden done n rest h nodes hs ih => exact fallback _ _ _ _ _ h hs ih
  | case4 hidden done n rest h hs ih => exact stays _ _ _ _ h hs ih
  | case5 hidden done n rest h hc ih =>
    refine other _ _ _ _ h ?_ ?_
    · rw [hc]
      exact nil hidden .nil
    · rwa [resolvedAround_of_children_eq_nil h hc]
  | case6 hidden done n rest h hc _ ihchildren ih => exact other _ _ _ _ h ihchildren ih

end Step

lemma resolve_eq (table : PropertyTable) (nodes : List ValueNode) :
    resolve table nodes = (resolveHiding table [] nodes).1 := rfl

end CustomProperties
