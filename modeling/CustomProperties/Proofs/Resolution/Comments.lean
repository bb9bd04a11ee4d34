import CustomProperties.Proofs.Resolution.Spacing
import CustomProperties.Proofs.Updating.Calls
import CustomProperties.Value.Parser
import Mathlib.Tactic.Common

/-!
# Comments

A comment makes a difference to a reference only if it stands before the name, or if nothing but
comments stands behind the first comma. If no reference that is met is such, a value is resolved to
the same tokens with and without its comments (`Value.stripped_resolve`).
-/

namespace CustomProperties

namespace ValueNode

variable {n m : ValueNode} {args ns : List ValueNode} {name : String}

/-! ### Tokens without comments -/

@[simp] lemma strippedAll_nil : strippedAll [] = [] := by rw [strippedAll]

lemma strippedAll_cons_of_comment (h : n.isComment) (ns : List ValueNode) :
    strippedAll (n :: ns) = strippedAll ns := by
  rw [strippedAll, if_pos h]

lemma strippedAll_cons (h : ¬ n.isComment) (ns : List ValueNode) :
    strippedAll (n :: ns) = n.stripped :: strippedAll ns := by
  rw [strippedAll, if_neg h]

lemma stripped_eq (n : ValueNode) : n.stripped = n.withChildren (strippedAll n.children) := by
  cases n <;> rw [stripped] <;> rfl

lemma isComment_withChildren (n : ValueNode) (ns : List ValueNode) :
    (n.withChildren ns).isComment = n.isComment := by
  cases n <;> rfl

lemma isComment_stripped (n : ValueNode) : n.stripped.isComment = n.isComment := by
  rw [stripped_eq, isComment_withChildren]

lemma isComment_unspaced (n : ValueNode) : n.unspaced.isComment = n.isComment := by
  cases n <;> simp [unspaced, isComment]

lemma not_isComment_of_isReference (h : n.isReference) : ¬ n.isComment := by
  obtain ⟨_, _, _, _, _, rfl⟩ := exists_function_of_isReference h
  simp [isComment]

lemma children_stripped (n : ValueNode) : n.stripped.children = strippedAll n.children := by
  rw [stripped_eq, children_withChildren]
  intro hnil
  rw [hnil, strippedAll_nil]

lemma isComma_stripped (n : ValueNode) : n.stripped.isComma = n.isComma := by
  cases n <;> simp [stripped, isComma]

lemma word?_stripped (n : ValueNode) : n.stripped.word? = n.word? := by
  cases n <;> simp [stripped, word?]

lemma afterComma_cons_of_comment (h : n.isComment) (ns : List ValueNode) :
    afterComma (n :: ns) = afterComma ns := by
  have hcomma : ¬ n.isComma := by cases n <;> simp_all [isComment, isComma]
  rw [afterComma, if_neg hcomma]

/-- Comments are no commas. -/
lemma afterComma_strippedAll (args : List ValueNode) :
    afterComma (strippedAll args) = strippedAll (afterComma args) := by
  induction args with
  | nil => simp [afterComma]
  | cons n ns ih =>
    by_cases hn : n.isComment
    · rw [strippedAll_cons_of_comment hn, afterComma_cons_of_comment hn, ih]
    · rw [strippedAll_cons hn, afterComma, afterComma, isComma_stripped, ih]
      split <;> rfl

lemma referent?_strippedAll_cons (h : ¬ n.isComment) (ns : List ValueNode) :
    referent? (strippedAll (n :: ns)) = referent? (n :: ns) := by
  rw [strippedAll_cons h]
  exact word?_stripped n

lemma referent?_strippedAll (h : referent? args = some name) :
    referent? (strippedAll args) = some name := by
  cases args with
  | nil => cases h
  | cons n ns =>
    have hn : ¬ n.isComment := by
      intro hcomment
      cases n with
      | comment => cases h
      | _ => cases hcomment
    rwa [referent?_strippedAll_cons hn]

mutual

lemma stripped_unspaced (n : ValueNode) : n.unspaced.stripped = n.stripped.unspaced := by
  match n with
  | word .. => simp [unspaced, stripped]
  | comma _ => simp [unspaced, stripped]
  | comment .. => simp [unspaced, stripped]
  | function _ _ args _ _ => simp [unspaced, stripped, strippedAll_unspacedAll args]
  | block _ _ nodes _ _ => simp [unspaced, stripped, strippedAll_unspacedAll nodes]

lemma strippedAll_unspacedAll (ns : List ValueNode) :
    strippedAll (unspacedAll ns) = unspacedAll (strippedAll ns) := by
  match ns with
  | [] => simp
  | n :: ns =>
    rw [unspacedAll_cons, strippedAll, strippedAll, isComment_unspaced, stripped_unspaced n,
      strippedAll_unspacedAll ns]
    split <;> simp

end

mutual

lemma stripped_stripped (n : ValueNode) : n.stripped.stripped = n.stripped := by
  match n with
  | word .. => simp [stripped]
  | comma _ => simp [stripped]
  | comment .. => simp [stripped]
  | function _ _ args _ _ => simp [stripped, strippedAll_strippedAll args]
  | block _ _ nodes _ _ => simp [stripped, strippedAll_strippedAll nodes]

lemma strippedAll_strippedAll (ns : List ValueNode) :
    strippedAll (strippedAll ns) = strippedAll ns := by
  match ns with
  | [] => simp
  | n :: ns =>
    by_cases hn : n.isComment
    · rw [strippedAll_cons_of_comment hn, strippedAll_strippedAll ns]
    · rw [strippedAll_cons hn, strippedAll_cons (by rwa [isComment_stripped]), stripped_stripped n,
        strippedAll_strippedAll ns]

end

@[simp] lemma isReference_withBefore (before : String) (n : ValueNode) :
    (n.withBefore before).isReference = n.isReference := by
  cases n <;> rfl

@[simp] lemma children_withBefore (before : String) (n : ValueNode) :
    (n.withBefore before).children = n.children := by
  cases n <;> rfl

@[simp] lemma isComment_withBefore (before : String) (n : ValueNode) :
    (n.withBefore before).isComment = n.isComment := by
  cases n <;> rfl

lemma withChildren_withBefore (before : String) (n : ValueNode) (ns : List ValueNode) :
    (n.withBefore before).withChildren ns = (n.withChildren ns).withBefore before := by
  cases n <;> rfl

/-- A token without comments and white space. -/
def bare (n : ValueNode) : ValueNode := n.stripped.unspaced

/-- A sequence of tokens without comments and white space, at every depth. -/
def bareAll (ns : List ValueNode) : List ValueNode := unspacedAll (strippedAll ns)

lemma bareAll_cons (n : ValueNode) (ns : List ValueNode) :
    bareAll (n :: ns) = if n.isComment then bareAll ns else n.bare :: bareAll ns := by
  rw [bareAll, strippedAll]
  split <;> simp [bareAll, bare]

lemma bare_eq (n : ValueNode) : n.bare = n.unspaced.withChildren (bareAll n.children) := by
  rw [bare, stripped_eq, unspaced_withChildren, bareAll]

lemma isComment_bare (n : ValueNode) : n.bare.isComment = n.isComment := by
  rw [bare, isComment_unspaced, isComment_stripped]

lemma bare_congr (h : n.unspaced = m.unspaced) : n.bare = m.bare := by
  rw [bare, bare, ← stripped_unspaced, h, stripped_unspaced]

@[simp] lemma bare_withBefore (before : String) (n : ValueNode) :
    (n.withBefore before).bare = n.bare :=
  bare_congr (unspaced_withBefore before n)

lemma bareAll_congr (h : n.bare = m.bare) (hns : bareAll ns = bareAll args) :
    bareAll (n :: ns) = bareAll (m :: args) := by
  rw [bareAll_cons, bareAll_cons, ← isComment_bare n, h, isComment_bare, hns]

end ValueNode

open ValueNode

/-! ### Two sequences -/

/-- Two tokens are the same but for their children and white space. -/
def SameHead (n m : ValueNode) : Prop :=
  ∀ ns, (n.withChildren ns).unspaced = (m.withChildren ns).unspaced

variable {table : PropertyTable} {hidden : List String} {n m : ValueNode}
  {xs ys xs' ys' nodes : List ValueNode} {name : String}

lemma SameHead.unspaced_withChildren (h : SameHead n m) (ns : List ValueNode) :
    n.unspaced.withChildren (unspacedAll ns) = m.unspaced.withChildren (unspacedAll ns) := by
  rw [← ValueNode.unspaced_withChildren, h, ValueNode.unspaced_withChildren]

lemma SameHead.withBefore_left (h : SameHead n m) (before : String) :
    SameHead (n.withBefore before) m := by
  intro ns
  rw [withChildren_withBefore, unspaced_withBefore, h]

lemma SameHead.withBefore_right (h : SameHead n m) (before : String) :
    SameHead n (m.withBefore before) := by
  intro ns
  rw [withChildren_withBefore, unspaced_withBefore, h]

/-- The second sequence is the first one without some of its comments, white space aside, and the
comments that it lacks make no difference to what its references give way to. -/
inductive Sheds (table : PropertyTable) (hidden : List String) :
    List ValueNode → List ValueNode → Prop where
  | nil : Sheds table hidden [] []
  | dropped {n : ValueNode} {xs ys : List ValueNode} (hn : n.isComment)
      (hrest : Sheds table hidden xs ys) : Sheds table hidden (n :: xs) ys
  /-- A token in which no comment is dropped. -/
  | same {n m : ValueNode} {xs ys : List ValueNode} (hsame : n.unspaced = m.unspaced)
      (hrest : Sheds table hidden xs ys) : Sheds table hidden (n :: xs) (m :: ys)
  | around {n m : ValueNode} {xs ys : List ValueNode} (hn : ¬ n.isReference)
      (hm : ¬ m.isReference) (hhead : SameHead n m)
      (hchildren : Sheds table hidden n.children m.children) (hrest : Sheds table hidden xs ys) :
      Sheds table hidden (n :: xs) (m :: ys)
  | stored {n m : ValueNode} {xs ys nodes : List ValueNode} {name : String} (hn : n.isReference)
      (hm : m.isReference) (hbare : n.bare = m.bare)
      (hs : table.substitution hidden n.children = .stored name nodes)
      (hs' : table.substitution hidden m.children = .stored name nodes)
      (hrest : Sheds table hidden xs ys) : Sheds table hidden (n :: xs) (m :: ys)
  | fallback {n m : ValueNode} {xs ys fs gs : List ValueNode} (hn : n.isReference)
      (hm : m.isReference) (hbare : n.bare = m.bare)
      (hs : table.substitution hidden n.children = .fallback fs)
      (hs' : table.substitution hidden m.children = .fallback gs)
      (hfallback : Sheds table hidden fs gs) (hrest : Sheds table hidden xs ys) :
      Sheds table hidden (n :: xs) (m :: ys)
  /-- A reference all of whose arguments are comments is none without them. -/
  | stays {n m : ValueNode} {xs ys : List ValueNode} (hn : n.isReference) (hbare : n.bare = m.bare)
      (hs : table.substitution hidden n.children = .stays)
      (hm : m.isReference → table.substitution hidden m.children = .stays)
      (hm' : ¬ m.isReference → m.children = []) (hrest : Sheds table hidden xs ys) :
      Sheds table hidden (n :: xs) (m :: ys)

namespace Sheds

lemma of_unspacedAll (h : unspacedAll xs = unspacedAll ys) : Sheds table hidden xs ys := by
  induction xs generalizing ys with
  | nil =>
    obtain rfl := unspacedAll_eq_nil.1 (h.symm.trans unspacedAll_nil)
    exact .nil
  | cons n xs ih =>
    obtain ⟨m, ys, rfl, hn, hrest⟩ := exists_cons_of_unspacedAll h
    exact .same hn (ih hrest)

lemma append (h : Sheds table hidden xs ys) (h' : Sheds table hidden xs' ys') :
    Sheds table hidden (xs ++ xs') (ys ++ ys') := by
  induction h with
  | nil => exact h'
  | dropped hn _ ih => exact .dropped hn ih
  | same hsame _ ih => exact .same hsame ih
  | around hn hm hhead hchildren _ _ ih => exact .around hn hm hhead hchildren ih
  | stored hn hm hbare hs hs' _ ih => exact .stored hn hm hbare hs hs' ih
  | fallback hn hm hbare hs hs' hfallback _ _ ih => exact .fallback hn hm hbare hs hs' hfallback ih
  | stays hn hbare hs hm hm' _ ih => exact .stays hn hbare hs hm hm' ih

/-- What is left without any comments is the same. -/
lemma bareAll_eq (h : Sheds table hidden xs ys) : bareAll xs = bareAll ys := by
  induction h with
  | nil => rfl
  | dropped hn _ ih => rw [bareAll_cons, if_pos hn, ih]
  | same hsame _ ih => exact bareAll_congr (bare_congr hsame) ih
  | around hn hm hhead hchildren _ ihchildren ih =>
    apply bareAll_congr _ ih
    rw [bare_eq, bare_eq, ← ihchildren]
    exact hhead.unspaced_withChildren _
  | stored _ _ hbare _ _ _ ih => exact bareAll_congr hbare ih
  | fallback _ _ hbare _ _ _ _ _ ih => exact bareAll_congr hbare ih
  | stays _ hbare _ _ _ _ ih => exact bareAll_congr hbare ih

lemma withLeading_left (h : Sheds table hidden xs ys) (before : String) :
    Sheds table hidden (withLeading before xs) ys := by
  cases h with
  | nil => exact .nil
  | dropped hn hrest => exact .dropped (by simpa using hn) hrest
  | same hsame hrest => exact .same (by simpa using hsame) hrest
  | around hn hm hhead hchildren hrest =>
    exact .around (by simpa using hn) hm (hhead.withBefore_left before) (by simpa using hchildren)
      hrest
  | stored hn hm hbare hs hs' hrest =>
    exact .stored (by simpa using hn) hm (by simpa using hbare) (by simpa using hs) hs' hrest
  | fallback hn hm hbare hs hs' hfallback hrest =>
    exact .fallback (by simpa using hn) hm (by simpa using hbare) (by simpa using hs) hs' hfallback
      hrest
  | stays hn hbare hs hm hm' hrest =>
    exact .stays (by simpa using hn) (by simpa using hbare) (by simpa using hs) hm hm' hrest

lemma withLeading_right (h : Sheds table hidden xs ys) (before : String) :
    Sheds table hidden xs (withLeading before ys) := by
  induction h with
  | nil => exact .nil
  | dropped hn _ ih => exact .dropped hn ih
  | same hsame hrest => exact .same (by simpa using hsame) hrest
  | around hn hm hhead hchildren hrest =>
    exact .around hn (by simpa using hm) (hhead.withBefore_right before) (by simpa using hchildren)
      hrest
  | stored hn hm hbare hs hs' hrest =>
    exact .stored hn (by simpa using hm) (by simpa using hbare) hs (by simpa using hs') hrest
  | fallback hn hm hbare hs hs' hfallback hrest =>
    exact .fallback hn (by simpa using hm) (by simpa using hbare) hs (by simpa using hs') hfallback
      hrest
  | stays hn hbare hs hm hm' hrest =>
    exact .stays hn (by simpa using hbare) hs (by simpa using hm) (by simpa using hm') hrest

/-! ### The first token -/

lemma cons_of_stored (h : Sheds table hidden (n :: xs) ys) (hn : n.isReference)
    (hs : table.substitution hidden n.children = .stored name nodes) :
    ∃ m zs, ys = m :: zs ∧ m.isReference ∧
      table.substitution hidden m.children = .stored name nodes ∧ Sheds table hidden xs zs := by
  cases h with
  | dropped hcomment => exact absurd hcomment (not_isComment_of_isReference hn)
  | same hsame hrest =>
    exact ⟨_, _, rfl, (isReference_congr hsame).symm.trans hn,
      PropertyTable.substitution_stored_congr (children_congr hsame) hs, hrest⟩
  | around hother => exact absurd hn hother
  | stored _ hm _ hsub hs' hrest =>
    cases hs.symm.trans hsub
    exact ⟨_, _, rfl, hm, hs', hrest⟩
  | fallback _ _ _ hsub => cases hs.symm.trans hsub
  | stays _ _ hsub => cases hs.symm.trans hsub

lemma cons_of_fallback {fs : List ValueNode} (h : Sheds table hidden (n :: xs) ys)
    (hn : n.isReference) (hs : table.substitution hidden n.children = .fallback fs) :
    ∃ m zs gs, ys = m :: zs ∧ m.isReference ∧
      table.substitution hidden m.children = .fallback gs ∧ Sheds table hidden fs gs ∧
      Sheds table hidden xs zs := by
  cases h with
  | dropped hcomment => exact absurd hcomment (not_isComment_of_isReference hn)
  | same hsame hrest =>
    obtain ⟨gs, hs', hfallback⟩ :=
      PropertyTable.substitution_fallback_congr (children_congr hsame) hs
    exact ⟨_, _, gs, rfl, (isReference_congr hsame).symm.trans hn, hs', .of_unspacedAll hfallback,
      hrest⟩
  | around hother => exact absurd hn hother
  | stored _ _ _ hsub => cases hs.symm.trans hsub
  | fallback _ hm _ hsub hs' hfallback hrest =>
    cases hs.symm.trans hsub
    exact ⟨_, _, _, rfl, hm, hs', hfallback, hrest⟩
  | stays _ _ hsub => cases hs.symm.trans hsub

lemma cons_of_stays (h : Sheds table hidden (n :: xs) ys) (hn : n.isReference)
    (hs : table.substitution hidden n.children = .stays) :
    ∃ m zs, ys = m :: zs ∧ (m.isReference → table.substitution hidden m.children = .stays) ∧
      (¬ m.isReference → m.children = []) ∧ Sheds table hidden [n] [m] ∧
      Sheds table hidden xs zs := by
  cases h with
  | dropped hcomment => exact absurd hcomment (not_isComment_of_isReference hn)
  | @same _ m _ _ hsame hrest =>
    have hm : m.isReference := (isReference_congr hsame).symm.trans hn
    exact ⟨m, _, rfl, fun _ => PropertyTable.substitution_stays_congr (children_congr hsame) hs,
      fun hother => absurd hm hother, .same hsame .nil, hrest⟩
  | around hother => exact absurd hn hother
  | stored _ _ _ hsub => cases hs.symm.trans hsub
  | fallback _ _ _ hsub => cases hs.symm.trans hsub
  | stays _ hbare _ hm hm' hrest =>
    exact ⟨_, _, rfl, hm, hm', .stays hn hbare hs hm hm' .nil, hrest⟩

/-- A token that is no reference is a comment that is dropped, or the other one has what it has. -/
lemma cons_of_other (h : Sheds table hidden (n :: xs) ys) (hn : ¬ n.isReference) :
    (n.isComment ∧ Sheds table hidden xs ys) ∨
    ∃ m zs, ys = m :: zs ∧ ¬ m.isReference ∧ SameHead n m ∧
      Sheds table hidden n.children m.children ∧ Sheds table hidden xs zs := by
  cases h with
  | dropped hcomment hrest => exact .inl ⟨hcomment, hrest⟩
  | same hsame hrest =>
    refine .inr ⟨_, _, rfl, ?_, ?_, .of_unspacedAll (children_congr hsame), hrest⟩
    · rwa [← isReference_congr hsame]
    · intro ns
      rw [unspaced_withChildren, unspaced_withChildren, hsame]
  | around _ hm hhead hchildren hrest => exact .inr ⟨_, _, rfl, hm, hhead, hchildren, hrest⟩
  | stored href => exact absurd href hn
  | fallback href => exact absurd href hn
  | stays href => exact absurd href hn

end Sheds

/-! ### Resolution -/

/-- A token that nothing is done to. -/
lemma resolveFrom_idle (done : Settled) (rest : List ValueNode)
    (href : n.isReference → table.substitution hidden n.children = .stays)
    (hother : ¬ n.isReference → n.children = []) :
    ∃ next : Settled, next.1 = [n] ∧
      resolveFrom table hidden done (n :: rest)
        = resolveFrom table hidden (done.append next) rest := by
  by_cases hn : n.isReference
  · exact ⟨_, rfl, resolveFrom_stays hn (href hn)⟩
  · refine ⟨_, ?_, resolveFrom_other hn⟩
    rw [resolvedAround_of_children_eq_nil hn (hother hn), Settled.val_single]

/-- Resolution drops no comments that it does not drop in both sequences. -/
lemma Sheds.resolveFrom {done done' : Settled} {todo todo' : List ValueNode}
    (hdone : Sheds table hidden done.1 done'.1) (h : Sheds table hidden todo todo') :
    Sheds table hidden (resolveFrom table hidden done todo).1
      (resolveFrom table hidden done' todo').1 := by
  induction hidden, done, todo using resolveFrom_induct table generalizing done' todo' with
  | nil =>
    cases h
    simpa using hdone
  | stored hidden done n rest name nodes hn hs _ ih =>
    obtain ⟨m, rest', rfl, hm, hs', hrest⟩ := h.cons_of_stored hn hs
    rw [resolveFrom_stored hn hs, resolveFrom_stored hm hs']
    -- the stored tokens are the same in both, so their comments do not matter
    have hinner : unspacedAll (resolveHiding table (name :: hidden) (withLeading n.before nodes)).1
        = unspacedAll (resolveHiding table (name :: hidden) (withLeading m.before nodes)).1 :=
      unspacedAll_resolveFrom rfl (by simp)
    exact ih (hdone.append (.of_unspacedAll hinner)) hrest
  | fallback hidden done n rest fs hn hs ih =>
    obtain ⟨m, rest', gs, rfl, hm, hs', hfallback, hrest⟩ := h.cons_of_fallback hn hs
    rw [resolveFrom_fallback hn hs, resolveFrom_fallback hm hs']
    apply ih .nil
    apply hdone.append
    exact ((hfallback.withLeading_left _).withLeading_right _).append hrest
  | stays hidden done n rest hn hs ih =>
    obtain ⟨m, rest', rfl, hm, hm', hfirst, hrest⟩ := h.cons_of_stays hn hs
    obtain ⟨next, hnext, heq⟩ := resolveFrom_idle done' rest' hm hm'
    rw [resolveFrom_stays hn hs, heq]
    apply ih _ hrest
    rw [Settled.val_append, Settled.val_append, hnext]
    exact hdone.append hfirst
  | other hidden done n rest hn ihchildren ih =>
    rw [resolveFrom_other hn]
    rcases h.cons_of_other hn with ⟨hcomment, hrest⟩ | ⟨m, rest', rfl, hm, hhead, hchildren, hrest⟩
    · apply ih _ hrest
      rw [Settled.val_append, val_resolvedAround, ← List.append_nil done'.1]
      apply hdone.append
      exact .dropped (by rwa [isComment_withChildren]) .nil
    · rw [resolveFrom_other hm]
      apply ih _ hrest
      have hinner : Sheds table hidden (resolveHiding table hidden n.children).1
          (resolveHiding table hidden m.children).1 := ihchildren .nil hchildren
      apply hdone.append
      apply Sheds.around (not_isReference_around hn) (not_isReference_around hm)
      · intro ns
        rw [withChildren_withChildren, withChildren_withChildren, hhead]
      · rwa [children_withChildren (by intro hnil; simp [hnil]),
          children_withChildren (by intro hnil; simp [hnil])]
      · exact .nil

/-! ### Values -/

lemma ValueNode.isReference_stripped (h : n.isReference) (hne : strippedAll n.children ≠ []) :
    n.stripped.isReference := by
  obtain ⟨before, name, args, after, closed, rfl⟩ := exists_function_of_isReference h
  rw [children] at hne
  simp only [isReference, stripped, Bool.and_eq_true, Bool.not_eq_true',
    List.isEmpty_eq_false_iff] at h ⊢
  exact ⟨h.1, hne⟩

lemma ValueNode.not_isReference_stripped (h : ¬ n.isReference) : ¬ n.stripped.isReference := by
  rw [stripped_eq]
  apply not_isReference_withChildren h
  intro hnil
  rw [hnil, strippedAll_nil]

lemma sameHead_stripped (n : ValueNode) : SameHead n n.stripped := by
  intro ns
  rw [stripped_eq, withChildren_withChildren]

lemma ValueNode.bare_stripped (n : ValueNode) : n.stripped.bare = n.bare := by
  rw [bare, stripped_stripped, bare]

/-- The comments of a sequence make no difference to the references that are met in it: none stands
before the name of an entry, and there are no fallbacks of comments only. The arguments of a
reference are not met, except for its fallback if that is put for it. -/
inductive PropertyTable.CommentsIdle (table : PropertyTable) : List ValueNode → Prop where
  | nil : CommentsIdle table []
  | other {n : ValueNode} {ns : List ValueNode} (hn : ¬ n.isReference)
      (hchildren : CommentsIdle table n.children) (hrest : CommentsIdle table ns) :
      CommentsIdle table (n :: ns)
  | stored {n : ValueNode} {ns nodes : List ValueNode} {name : String} (hn : n.isReference)
      (hname : referent? n.children = some name) (hget : table.get? name = some nodes)
      (hrest : CommentsIdle table ns) : CommentsIdle table (n :: ns)
  | fallback {n : ValueNode} {ns : List ValueNode} (hn : n.isReference)
      (hunknown : table.Unknown [] (strippedAll n.children))
      (hne : strippedAll (afterComma n.children) ≠ [])
      (hfallback : CommentsIdle table (afterComma n.children)) (hrest : CommentsIdle table ns) :
      CommentsIdle table (n :: ns)
  | stays {n : ValueNode} {ns : List ValueNode} (hn : n.isReference)
      (hunknown : table.Unknown [] (strippedAll n.children)) (hnil : afterComma n.children = [])
      (hrest : CommentsIdle table ns) : CommentsIdle table (n :: ns)

namespace PropertyTable

lemma Unknown.of_strippedAll (h : table.Unknown hidden (strippedAll xs)) :
    table.Unknown hidden xs := by
  intro name hname
  exact h name (referent?_strippedAll hname)

/-- Without its comments, a sequence in which they make no difference has lost nothing else. -/
lemma CommentsIdle.sheds (h : table.CommentsIdle xs) : Sheds table [] xs (strippedAll xs) := by
  induction h with
  | nil =>
    rw [strippedAll_nil]
    exact .nil
  | @other n ns hn _ _ ihchildren ih =>
    by_cases hcomment : n.isComment
    · rw [strippedAll_cons_of_comment hcomment]
      exact .dropped hcomment ih
    · rw [strippedAll_cons hcomment]
      apply Sheds.around hn (not_isReference_stripped hn) (sameHead_stripped n) _ ih
      rwa [children_stripped]
  | @stored n ns nodes name hn hname hget _ ih =>
    have hname' := referent?_strippedAll hname
    have hne : strippedAll n.children ≠ [] := by
      intro hnil
      rw [hnil] at hname'
      cases hname'
    have hs : table.substitution [] n.children = .stored name nodes :=
      substitution_stored_iff.2 ⟨hname, by simp, hget⟩
    have hs' : table.substitution [] n.stripped.children = .stored name nodes := by
      rw [children_stripped]
      exact substitution_stored_iff.2 ⟨hname', by simp, hget⟩
    rw [strippedAll_cons (not_isComment_of_isReference hn)]
    exact .stored hn (isReference_stripped hn hne) (bare_stripped n).symm hs hs' ih
  | @fallback n ns hn hunknown hne _ _ ihfallback ih =>
    have hfallback : afterComma n.children ≠ [] := by
      intro hnil
      rw [hnil] at hne
      exact hne strippedAll_nil
    have hargs : strippedAll n.children ≠ [] := by
      intro hnil
      rw [← afterComma_strippedAll, hnil] at hne
      exact hne rfl
    rw [strippedAll_cons (not_isComment_of_isReference hn)]
    apply Sheds.fallback hn (isReference_stripped hn hargs) (bare_stripped n).symm _ _ ihfallback ih
    · rw [hunknown.of_strippedAll.substitution_eq, if_neg hfallback]
    · rw [children_stripped, hunknown.substitution_eq, afterComma_strippedAll, if_neg hne]
  | @stays n ns hn hunknown hnil _ ih =>
    rw [strippedAll_cons (not_isComment_of_isReference hn)]
    apply Sheds.stays hn (bare_stripped n).symm _ _ _ ih
    · rw [hunknown.of_strippedAll.substitution_eq, if_pos hnil]
    · intro _
      rw [children_stripped, hunknown.substitution_eq, afterComma_strippedAll, hnil,
        strippedAll_nil, if_pos rfl]
    · intro hm
      by_contra hne
      rw [children_stripped] at hne
      exact hm (isReference_stripped hn hne)

end PropertyTable

/-! ### References without such comments -/

namespace ValueNode

lemma sizeOf_le_of_suffix (h : xs <:+ ys) : sizeOf xs ≤ sizeOf ys := by
  obtain ⟨front, rfl⟩ := h
  induction front with
  | nil => simp
  | cons n front ih =>
    rw [List.cons_append, List.cons.sizeOf_spec]
    omega

lemma references_of_isReference (h : n.isReference) :
    n.references = n :: referencesAll n.children := by
  obtain ⟨before, name, args, after, closed, rfl⟩ := exists_function_of_isReference h
  rw [references, if_pos h]
  rfl

lemma references_of_not_isReference (h : ¬ n.isReference) :
    n.references = referencesAll n.children := by
  cases n with
  | function => rw [references, if_neg h, children, List.nil_append]
  | block => rw [references, children]
  | _ => simp [references, children]

lemma referencesAll_subset_of_suffix (h : xs <:+ ys) : referencesAll xs ⊆ referencesAll ys := by
  induction ys with
  | nil =>
    rw [List.suffix_nil.1 h]
    exact List.Subset.refl _
  | cons n ys ih =>
    rw [List.suffix_cons_iff] at h
    rcases h with rfl | h
    · exact List.Subset.refl _
    · rw [referencesAll_cons]
      exact List.subset_append_of_subset_right _ (ih h)

/-- No comment stands before the first argument of a reference, and a fallback is not made of
comments only. -/
structure ClearOfComments (n : ValueNode) : Prop where
  first : ∀ c ∈ n.children.head?, ¬ c.isComment
  fallback : afterComma n.children ≠ [] → strippedAll (afterComma n.children) ≠ []

lemma ClearOfComments.referent?_eq (h : n.ClearOfComments) :
    referent? (strippedAll n.children) = referent? n.children := by
  cases hargs : n.children with
  | nil => simp
  | cons c args =>
    apply referent?_strippedAll_cons
    apply h.first
    rw [hargs]
    rfl

end ValueNode

/-- Where all references are clear of comments, comments make no difference, whatever the table. -/
lemma PropertyTable.commentsIdle_of_clear (table : PropertyTable) {xs : List ValueNode}
    (h : ∀ n ∈ referencesAll xs, n.ClearOfComments) : table.CommentsIdle xs := by
  match xs with
  | [] => exact .nil
  | n :: ns =>
    rw [referencesAll_cons, List.forall_mem_append] at h
    have hrest := table.commentsIdle_of_clear h.2
    by_cases hn : n.isReference
    · rw [references_of_isReference hn, List.forall_mem_cons] at h
      obtain ⟨⟨hclear, hinside⟩, -⟩ := h
      have hsuffix := afterComma_suffix n.children
      have hfallback := table.commentsIdle_of_clear fun m hm =>
        hinside m (referencesAll_subset_of_suffix hsuffix hm)
      obtain ⟨name, nodes, hname, -, hget, -⟩ | ⟨hunknown, hne, -⟩ | ⟨hunknown, hnil, -⟩ :=
        table.substitution_cases [] n.children
      · exact .stored hn hname hget hrest
      · refine .fallback hn ?_ (hclear.fallback hne) hfallback hrest
        rwa [Unknown, hclear.referent?_eq]
      · refine .stays hn ?_ hnil hrest
        rwa [Unknown, hclear.referent?_eq]
    · rw [references_of_not_isReference hn] at h
      exact .other hn (table.commentsIdle_of_clear h.1) hrest
termination_by sizeOf xs
decreasing_by
  · simp
  · have := sizeOf_children_le n
    have := sizeOf_le_of_suffix hsuffix
    simp
    omega
  · have := sizeOf_children_le n
    simp
    omega

/-! ### Resolution with and without comments -/

/-- A value without white space. -/
def Value.unspaced (value : Value) : Value := ⟨unspacedAll value.nodes, ""⟩

/-- A value whose comments make no difference to the references met in it is resolved to the same
tokens with and without them, white space and comments aside. -/
theorem Value.stripped_resolve (table : PropertyTable) (value : Value)
    (h : table.CommentsIdle value.nodes) :
    (value.resolve table).stripped.unspaced = (value.stripped.resolve table).stripped.unspaced := by
  have hstart : Sheds table [] Settled.nil.1 Settled.nil.1 := .nil
  exact congrArg (Value.mk · "") (hstart.resolveFrom h.sheds).bareAll_eq

/-- Comments between other tokens, behind a name and in a fallback, and one in the table. -/
theorem Value.stripped_resolve_fallback :
    let table : PropertyTable := .ofPlain [("--a", "x/*g*/ y")]
    let value := Value.parse "a/*c*/ var(--a /*d*/) var(--m, /*f*/ 2px)"
    table.CommentsIdle value.nodes ∧
    (value.resolve table).stripped.unspaced = (value.stripped.resolve table).stripped.unspaced := by
  intro table value
  have hnodes : (Value.parse "a/*c*/ var(--a /*d*/) var(--m, /*f*/ 2px)").nodes
      = [.word "" "a", .comment "" "/*c*/",
          .function " " "var" [.word "" "--a", .comment " " "/*d*/"] "" true,
          .function " " "var" [.word "" "--m", .comma "", .comment " " "/*f*/", .word " " "2px"] ""
            true] := by
    cbv
  have hclear : ∀ n ∈ referencesAll value.nodes, n.ClearOfComments := by
    have hreferences : referencesAll value.nodes
        = [.function " " "var" [.word "" "--a", .comment " " "/*d*/"] "" true,
          .function " " "var" [.word "" "--m", .comma "", .comment " " "/*f*/", .word " " "2px"] ""
            true] := by
      rw [show value.nodes = _ from hnodes]
      cbv
    rw [hreferences, List.forall_mem_cons, List.forall_mem_singleton]
    constructor
    · constructor
      · simp [children, isComment]
      · simp [children, afterComma, isComma]
    · constructor
      · simp [children, isComment]
      · simp [children, afterComma, isComma, strippedAll, isComment]
  have hidle : table.CommentsIdle value.nodes := table.commentsIdle_of_clear hclear
  exact ⟨hidle, Value.stripped_resolve table value hidle⟩

/-- A comment before the name makes a difference: the reference is substituted only without it. -/
theorem Value.stripped_resolve_leading_ne :
    ((Value.parse "var(/*c*/--a)").resolve (.ofPlain [("--a", "red")])).stripped.unspaced
      ≠ ((Value.parse "var(/*c*/--a)").stripped.resolve
          (.ofPlain [("--a", "red")])).stripped.unspaced := by
  have hwith : ((Value.parse "var(/*c*/--a)").resolve (.ofPlain [("--a", "red")])).stripped.unspaced
      = ⟨[.function "" "var" [.word "" "--a"] "" true], ""⟩ := by
    cbv
  have hwithout : ((Value.parse "var(/*c*/--a)").stripped.resolve
      (.ofPlain [("--a", "red")])).stripped.unspaced = ⟨[.word "" "red"], ""⟩ := by
    cbv
  rw [hwith, hwithout]
  intro heq
  cases heq

end CustomProperties
