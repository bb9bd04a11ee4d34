import CustomProperties.Proofs.Resolution.Basic
import Mathlib.Logic.Relation

/-!
# The reference graph of a table

There is an edge from a name to every name that a reference occurs of anywhere in its stored
tokens, in fallbacks and in the arguments of other functions too. What resolution does to a
sequence stays within the names that can be reached from it: a set of names that is closed under
the edges and holds the names mentioned in a sequence holds those mentioned in its resolution.
-/

namespace CustomProperties

open Relation (ReflTransGen TransGen)

namespace ValueNode

/-! ### Names mentioned -/

mutual

/-- The names of the references that occur anywhere in a token. -/
def mentioned : ValueNode → List String
  | word .. => []
  | comma _ => []
  | comment .. => []
  | function before name args after closed =>
    if (function before name args after closed).isReference then
      (referent? args).toList ++ mentionedAll args
    else mentionedAll args
  | block _ _ nodes _ _ => mentionedAll nodes

/-- The names of the references that occur anywhere in a sequence of tokens. -/
def mentionedAll : List ValueNode → List String
  | [] => []
  | n :: ns => n.mentioned ++ mentionedAll ns

end

@[simp] lemma mentionedAll_nil : mentionedAll [] = [] := by rw [mentionedAll]

@[simp] lemma mentionedAll_cons (n : ValueNode) (ns : List ValueNode) :
    mentionedAll (n :: ns) = n.mentioned ++ mentionedAll ns := by rw [mentionedAll]

@[simp] lemma mentionedAll_append (ns ms : List ValueNode) :
    mentionedAll (ns ++ ms) = mentionedAll ns ++ mentionedAll ms := by
  induction ns with
  | nil => simp
  | cons n ns ih => simp [ih]

lemma mentioned_of_isReference {n : ValueNode} (h : n.isReference) :
    n.mentioned = (referent? n.children).toList ++ mentionedAll n.children := by
  obtain ⟨before, name, args, after, closed, rfl⟩ := exists_function_of_isReference h
  rw [mentioned, if_pos h]
  rfl

lemma mentioned_of_not_isReference {n : ValueNode} (h : ¬ n.isReference) :
    n.mentioned = mentionedAll n.children := by
  cases n with
  | function before name args after closed =>
    rw [mentioned, if_neg h]
    rfl
  | block before bracket nodes after closed =>
    rw [mentioned]
    rfl
  | _ => simp [mentioned, children]

@[simp] lemma mentioned_withBefore (before : String) (n : ValueNode) :
    (n.withBefore before).mentioned = n.mentioned := by
  cases n <;> simp [withBefore, mentioned, isReference]

@[simp] lemma mentionedAll_withLeading (before : String) (ns : List ValueNode) :
    mentionedAll (withLeading before ns) = mentionedAll ns := by
  cases ns <;> simp

lemma mentionedAll_subset_of_suffix {ns ms : List ValueNode} (h : ns <:+ ms) :
    mentionedAll ns ⊆ mentionedAll ms := by
  obtain ⟨front, rfl⟩ := h
  simp

/-- A token around other children mentions nothing that the children do not. -/
lemma mentioned_withChildren_subset {n : ValueNode} {nodes : List ValueNode}
    (h : ¬ (n.withChildren nodes).isReference) :
    (n.withChildren nodes).mentioned ⊆ mentionedAll nodes := by
  rw [mentioned_of_not_isReference h]
  cases n <;> simp [withChildren, children]

lemma referent_mem_mentioned {n : ValueNode} {name : String} (h : n.isReference)
    (hr : referent? n.children = some name) : name ∈ n.mentioned := by
  simp [mentioned_of_isReference h, hr]

lemma mentionedAll_fallback_subset {n : ValueNode} (h : n.isReference) :
    mentionedAll (afterComma n.children) ⊆ n.mentioned := by
  rw [mentioned_of_isReference h]
  exact List.subset_append_of_subset_right _
    (mentionedAll_subset_of_suffix (afterComma_suffix n.children))

end ValueNode

open ValueNode

/-! ### Edges and paths -/

namespace PropertyTable

/-- A reference to the second name occurs anywhere in the stored tokens of the first. -/
def Refers (table : PropertyTable) (n m : String) : Prop :=
  ∃ stored, table.get? n = some stored ∧ m ∈ mentionedAll stored

/-- There is a path of at least one edge from a name to another. -/
def Reaches (table : PropertyTable) : String → String → Prop := TransGen table.Refers

/-- No name reaches itself. -/
def Acyclic (table : PropertyTable) : Prop := ∀ name, ¬ table.Reaches name name

/-- A table is acyclic if every edge goes down in some rank. -/
lemma acyclic_of_rank {table : PropertyTable} (rank : String → Nat)
    (h : ∀ n m, table.Refers n m → rank m < rank n) : table.Acyclic := by
  have down : ∀ n m, table.Reaches n m → rank m < rank n := by
    intro n m path
    induction path with
    | single edge => exact h _ _ edge
    | tail _ edge ih => exact Nat.lt_trans (h _ _ edge) ih
  exact fun name path => Nat.lt_irrefl _ (down name name path)

/-- A set of names that holds all the names its names refer to. -/
def Closed (table : PropertyTable) (names : String → Prop) : Prop :=
  ∀ n m, names n → table.Refers n m → names m

end PropertyTable

/-! ### Names mentioned in a resolution -/

/-- All names mentioned in a sequence are in a set. -/
def MentionsOnly (names : String → Prop) (nodes : List ValueNode) : Prop :=
  ∀ name ∈ mentionedAll nodes, names name

section MentionsOnly

variable {table : PropertyTable} {names : String → Prop} {hidden : List String}
  {n : ValueNode} {ns ms nodes : List ValueNode} {before name : String}

@[simp] lemma mentionsOnly_nil : MentionsOnly names [] := by simp [MentionsOnly]

@[simp] lemma mentionsOnly_cons :
    MentionsOnly names (n :: ns) ↔ (∀ name ∈ n.mentioned, names name) ∧ MentionsOnly names ns := by
  simp [MentionsOnly, or_imp, forall_and]

@[simp] lemma mentionsOnly_append :
    MentionsOnly names (ns ++ ms) ↔ MentionsOnly names ns ∧ MentionsOnly names ms := by
  simp [MentionsOnly, or_imp, forall_and]

@[simp] lemma mentionsOnly_withLeading :
    MentionsOnly names (withLeading before ns) ↔ MentionsOnly names ns := by
  simp [MentionsOnly]

lemma mentionsOnly_children (h : ¬ n.isReference) (hn : ∀ name ∈ n.mentioned, names name) :
    MentionsOnly names n.children := by
  rwa [mentioned_of_not_isReference h] at hn

/-- A token around other children mentions what they mention. -/
lemma mentionsOnly_withChildren (h : ¬ (n.withChildren nodes).isReference)
    (hnodes : MentionsOnly names nodes) : MentionsOnly names [n.withChildren nodes] := by
  refine mentionsOnly_cons.2 ⟨fun m hm => ?_, mentionsOnly_nil⟩
  exact hnodes m (mentioned_withChildren_subset h hm)

/-- The stored tokens of a name of a closed set mention only names of the set. -/
lemma mentionsOnly_stored (hc : table.Closed names) (hname : names name)
    (hg : table.get? name = some nodes) : MentionsOnly names nodes :=
  fun m hm => hc name m hname ⟨nodes, hg, hm⟩

/-- The name of a reference is one it mentions. -/
lemma names_of_stored (hn : ∀ name ∈ n.mentioned, names name) (h : n.isReference)
    (hs : table.substitution hidden n.children = .stored name nodes) : names name :=
  hn name (referent_mem_mentioned h (PropertyTable.of_substitution_eq_stored hs).1)

lemma mentionsOnly_fallback (hn : ∀ name ∈ n.mentioned, names name) (h : n.isReference)
    (hs : table.substitution hidden n.children = .fallback nodes) : MentionsOnly names nodes := by
  obtain ⟨-, -, rfl⟩ := PropertyTable.of_substitution_eq_fallback hs
  exact fun m hm => hn m (mentionedAll_fallback_subset h hm)

/-- Resolution mentions no names but those that can be reached. -/
lemma mentionsOnly_resolveFrom (hc : table.Closed names) (hidden : List String)
    (done : Settled) (todo : List ValueNode) (hdone : MentionsOnly names done.1)
    (htodo : MentionsOnly names todo) :
    MentionsOnly names (resolveFrom table hidden done todo).1 := by
  induction hidden, done, todo using resolveFrom_induct table with
  | nil hidden done => simpa using hdone
  | stored hidden done n rest name nodes h hs ihstored ihrest =>
    obtain ⟨hn, hrest⟩ := mentionsOnly_cons.1 htodo
    rw [resolveFrom_stored h hs]
    have hname : names name := names_of_stored hn h hs
    have hnodes : MentionsOnly names nodes :=
      mentionsOnly_stored hc hname (PropertyTable.of_substitution_eq_stored hs).2.2
    have hinner := ihstored mentionsOnly_nil (mentionsOnly_withLeading.2 hnodes)
    exact ihrest (mentionsOnly_append.2 ⟨hdone, hinner⟩) hrest
  | fallback hidden done n rest nodes h hs ih =>
    obtain ⟨hn, hrest⟩ := mentionsOnly_cons.1 htodo
    rw [resolveFrom_fallback h hs]
    refine ih mentionsOnly_nil ?_
    simp only [mentionsOnly_append, mentionsOnly_withLeading]
    exact ⟨hdone, mentionsOnly_fallback hn h hs, hrest⟩
  | stays hidden done n rest h hs ih =>
    obtain ⟨hn, hrest⟩ := mentionsOnly_cons.1 htodo
    rw [resolveFrom_stays h hs]
    exact ih (mentionsOnly_append.2 ⟨hdone, mentionsOnly_cons.2 ⟨hn, mentionsOnly_nil⟩⟩) hrest
  | other hidden done n rest h ihchildren ih =>
    obtain ⟨hn, hrest⟩ := mentionsOnly_cons.1 htodo
    rw [resolveFrom_other h]
    have hinner := ihchildren mentionsOnly_nil (mentionsOnly_children h hn)
    have hn' := mentionsOnly_withChildren (not_isReference_around h) hinner
    exact ih (mentionsOnly_append.2 ⟨hdone, hn'⟩) hrest

lemma mentionsOnly_resolveHiding (hc : table.Closed names) (hidden : List String)
    (nodes : List ValueNode) (h : MentionsOnly names nodes) :
    MentionsOnly names (resolveHiding table hidden nodes).1 :=
  mentionsOnly_resolveFrom hc hidden .nil nodes mentionsOnly_nil h

end MentionsOnly

/-! ### Names below the hidden ones -/

namespace PropertyTable

variable {table : PropertyTable} {within : List String → String → Prop}

/-- Sets of names, one for each list of hidden names, that resolution does not leave: the stored
tokens of a name of a set mention names of the set for that name hidden too, and to hide a name
makes the set no larger. -/
structure Confines (table : PropertyTable) (within : List String → String → Prop) : Prop where
  stored : ∀ {hidden name nodes}, within hidden name → table.get? name = some nodes →
    MentionsOnly (within (name :: hidden)) nodes
  of_cons : ∀ {hidden name m}, within (name :: hidden) m → within hidden m

namespace Confines

lemma closed (hw : table.Confines within) (hidden : List String) :
    table.Closed (within hidden) := by
  rintro n m hn ⟨stored, hg, hm⟩
  exact hw.of_cons (hw.stored hn hg m hm)

/-- Induction over the steps of the resolver on a sequence that mentions only names of the set for
the names hidden. -/
@[elab_as_elim]
lemma induct (hw : table.Confines within)
    {motive : List String → Settled → List ValueNode → Prop}
    (nil : ∀ hidden done, motive hidden done [])
    (stored : ∀ hidden done n rest name nodes, n.isReference →
      table.substitution hidden n.children = .stored name nodes →
      motive (name :: hidden) .nil (withLeading n.before nodes) →
      motive hidden
        (done.append (resolveHiding table (name :: hidden) (withLeading n.before nodes))) rest →
      motive hidden done (n :: rest))
    (fallback : ∀ hidden done n rest nodes, (∀ m ∈ n.mentioned, within hidden m) →
      n.isReference → table.substitution hidden n.children = .fallback nodes →
      motive hidden .nil (done.1 ++ (withLeading n.before nodes ++ rest)) →
      motive hidden done (n :: rest))
    (stays : ∀ hidden done n rest, (∀ m ∈ n.mentioned, within hidden m) →
      ∀ (h : n.isReference) (hs : table.substitution hidden n.children = .stays),
      motive hidden (done.append (.single n (pending_of_stays h hs))) rest →
      motive hidden done (n :: rest))
    (other : ∀ hidden done n rest (h : ¬ n.isReference),
      motive hidden .nil n.children →
      motive hidden (done.append (resolvedAround table hidden n h)) rest →
      motive hidden done (n :: rest))
    (hidden : List String) (done : Settled) (todo : List ValueNode)
    (hdone : MentionsOnly (within hidden) done.1) (htodo : MentionsOnly (within hidden) todo) :
    motive hidden done todo := by
  induction hidden, done, todo using resolveFrom_induct table with
  | nil hidden done => exact nil hidden done
  | stored hidden done n rest name nodes h hs ihstored ihrest =>
    obtain ⟨hn, hrest⟩ := mentionsOnly_cons.1 htodo
    have hnodes : MentionsOnly (within (name :: hidden)) (withLeading n.before nodes) :=
      mentionsOnly_withLeading.2
        (hw.stored (names_of_stored hn h hs) (of_substitution_eq_stored hs).2.2)
    have hinner := mentionsOnly_resolveHiding (hw.closed hidden) (name :: hidden)
      (withLeading n.before nodes) fun m hm => hw.of_cons (hnodes m hm)
    apply stored _ _ _ _ _ _ h hs
    · exact ihstored mentionsOnly_nil hnodes
    · exact ihrest (mentionsOnly_append.2 ⟨hdone, hinner⟩) hrest
  | fallback hidden done n rest nodes h hs ih =>
    obtain ⟨hn, hrest⟩ := mentionsOnly_cons.1 htodo
    have hnodes : MentionsOnly (within hidden) (withLeading n.before nodes) :=
      mentionsOnly_withLeading.2 (mentionsOnly_fallback hn h hs)
    apply fallback _ _ _ _ _ hn h hs
    exact ih mentionsOnly_nil
      (mentionsOnly_append.2 ⟨hdone, mentionsOnly_append.2 ⟨hnodes, hrest⟩⟩)
  | stays hidden done n rest h hs ih =>
    obtain ⟨hn, hrest⟩ := mentionsOnly_cons.1 htodo
    have hhead : MentionsOnly (within hidden) [n] := mentionsOnly_cons.2 ⟨hn, mentionsOnly_nil⟩
    apply stays _ _ _ _ hn h hs
    exact ih (mentionsOnly_append.2 ⟨hdone, hhead⟩) hrest
  | other hidden done n rest h ihchildren ih =>
    obtain ⟨hn, hrest⟩ := mentionsOnly_cons.1 htodo
    have hchildren := mentionsOnly_children h hn
    have hinner := mentionsOnly_resolveHiding (hw.closed hidden) hidden _ hchildren
    have hhead := mentionsOnly_withChildren (not_isReference_around h) hinner
    apply other _ _ _ _ h
    · exact ihchildren mentionsOnly_nil hchildren
    · exact ih (mentionsOnly_append.2 ⟨hdone, hhead⟩) hrest

end Confines

end PropertyTable

end CustomProperties
