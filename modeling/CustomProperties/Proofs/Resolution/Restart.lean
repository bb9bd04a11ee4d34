import CustomProperties.Proofs.Resolution.Basic
import Mathlib

/-!
# Resolving two sequences one after the other

A fallback sends the resolver back to the start of the sequence it stands in. The part in front
is resolved then, but it is resolved once more with nothing hidden, and references that stayed
because they stood below their own name may give way now. So the front of a sequence is resolved
once and then once more for every fallback that is taken behind it.
-/

namespace CustomProperties

open ValueNode

section Restart

variable {table : PropertyTable} {hidden : List String} {n : ValueNode}
  {rest nodes : List ValueNode}

/-- The fallback that a token gives way to, if it does so. -/
def PropertyTable.fallback? (table : PropertyTable) (hidden : List String) (n : ValueNode) :
    Option (List ValueNode) :=
  if n.isReference then
    match table.substitution hidden n.children with
    | .fallback nodes => some nodes
    | _ => none
  else none

lemma PropertyTable.fallback?_eq_some_iff :
    table.fallback? hidden n = some nodes
      ↔ n.isReference ∧ table.substitution hidden n.children = .fallback nodes := by
  unfold fallback?
  split
  · split <;> simp_all
  · simp_all

/-- A token that does not fall back adds the same tokens whatever stands around it. -/
lemma exists_resolveFrom_cons (h : table.fallback? hidden n = none) :
    ∃ head : Settled, ∀ done rest,
      resolveFrom table hidden done (n :: rest)
        = resolveFrom table hidden (done.append head) rest := by
  by_cases href : n.isReference
  · cases hs : table.substitution hidden n.children with
    | stored name nodes => exact ⟨_, fun _ _ => resolveFrom_stored href hs⟩
    | fallback nodes =>
      rw [PropertyTable.fallback?_eq_some_iff.2 ⟨href, hs⟩] at h
      cases h
    | stays => exact ⟨_, fun _ _ => resolveFrom_stays href hs⟩
  · exact ⟨_, fun _ _ => resolveFrom_other href⟩

lemma pendingAll_fallback_lt (rest : List ValueNode)
    (h : table.fallback? hidden n = some nodes) :
    pendingAll (withLeading n.before nodes ++ rest) < pendingAll (n :: rest) := by
  obtain ⟨href, hs⟩ := PropertyTable.fallback?_eq_some_iff.1 h
  have hp := PropertyTable.pendingFallback_of_substitution hs
  rw [pendingAll_append, pendingAll_withLeading, pendingAll_cons, pending_of_isReference href, hp]
  omega

/-- How often a sequence is taken again from its start: once for every reference in it that falls
back, those that come into sight by a fallback among them. -/
def restarts (table : PropertyTable) (hidden : List String) (todo : List ValueNode) : Nat :=
  match todo with
  | [] => 0
  | n :: rest =>
    match h : table.fallback? hidden n with
    | some nodes => restarts table hidden (withLeading n.before nodes ++ rest) + 1
    | none => restarts table hidden rest
termination_by (pendingAll todo, todo.length)
decreasing_by
  · exact Prod.Lex.left _ _ (pendingAll_fallback_lt rest h)
  · rw [pendingAll_cons]
    rcases Nat.eq_zero_or_pos n.pending with hn | hn
    · rw [hn, Nat.zero_add]
      exact Prod.Lex.right _ (by simp)
    · exact Prod.Lex.left _ _ (by omega)

@[simp] lemma restarts_nil : restarts table hidden [] = 0 := by rw [restarts]

lemma restarts_fallback (h : table.fallback? hidden n = some nodes) :
    restarts table hidden (n :: rest)
      = restarts table hidden (withLeading n.before nodes ++ rest) + 1 := by
  rw [restarts]
  split <;> simp_all

lemma restarts_cons (h : table.fallback? hidden n = none) :
    restarts table hidden (n :: rest) = restarts table hidden rest := by
  rw [restarts]
  split <;> simp_all

/-- Resolving goes on behind a sequence as it would behind its resolution. -/
lemma resolveFrom_append (table : PropertyTable) (hidden : List String) (done : Settled)
    (xs ys : List ValueNode) :
    resolveFrom table hidden done (xs ++ ys)
      = resolveFrom table hidden (resolveFrom table hidden done xs) ys := by
  induction hidden, done, xs using resolveFrom_induct table with
  | nil hidden done => simp
  | stored hidden done n rest name nodes h hs _ ih =>
    rw [List.cons_append, resolveFrom_stored h hs, resolveFrom_stored h hs, ih]
  | fallback hidden done n rest nodes h hs ih =>
    rw [List.cons_append, resolveFrom_fallback h hs, resolveFrom_fallback h hs]
    rw [resolveHiding, resolveHiding, ← ih]
    simp
  | stays hidden done n rest h hs ih =>
    rw [List.cons_append, resolveFrom_stays h hs, resolveFrom_stays h hs, ih]
  | other hidden done n rest h _ ih =>
    rw [List.cons_append, resolveFrom_other h, resolveFrom_other h, ih]

/-- No token of a settled sequence falls back. -/
lemma fallback?_of_pending (h : n.pending = 0) : table.fallback? hidden n = none := by
  rw [Option.eq_none_iff_forall_ne_some]
  intro nodes hf
  obtain ⟨href, hs⟩ := PropertyTable.fallback?_eq_some_iff.1 hf
  obtain ⟨-, hne, -⟩ := PropertyTable.of_substitution_eq_fallback hs
  exact hne (afterComma_children_of_pending href h)

/-- The resolution of a settled sequence does not depend on what is done before. -/
lemma resolveFrom_settled (done : Settled) {xs : List ValueNode} (h : pendingAll xs = 0) :
    resolveFrom table hidden done xs = done.append (resolveHiding table hidden xs) := by
  induction xs generalizing done with
  | nil => simp
  | cons n xs ih =>
    rw [pendingAll_cons, Nat.add_eq_zero_iff] at h
    have hn : table.fallback? hidden n = none := fallback?_of_pending h.1
    obtain ⟨head, hhead⟩ := exists_resolveFrom_cons hn
    rw [resolveHiding, hhead, hhead, ih _ h.2, ih _ h.2]
    simp [Settled.append_assoc]

/-- Resolve a settled sequence again. -/
def again (table : PropertyTable) (hidden : List String) (xs : Settled) : Settled :=
  resolveHiding table hidden xs.1

/-- A settled sequence is resolved piece by piece. -/
lemma again_append (xs ys : Settled) :
    again table hidden (xs.append ys) = (again table hidden xs).append (again table hidden ys) := by
  rw [again, Settled.val_append, resolveHiding, resolveFrom_append, resolveFrom_settled _ ys.2]
  rfl

lemma iterate_again_append (k : Nat) (xs ys : Settled) :
    (again table hidden)^[k] (xs.append ys)
      = ((again table hidden)^[k] xs).append ((again table hidden)^[k] ys) := by
  have hom : Function.Semiconj₂ (again table hidden) Settled.append Settled.append := again_append
  exact hom.iterate k xs ys

/-- What is done is resolved again for every fallback that is taken behind it. -/
lemma resolveFrom_eq_append (table : PropertyTable) (hidden : List String) (done : Settled)
    (todo : List ValueNode) :
    resolveFrom table hidden done todo
      = ((again table hidden)^[restarts table hidden todo] done).append
          (resolveHiding table hidden todo) := by
  -- along the restarts of this sequence only: what the tokens on the way add is the same for
  -- every `done`, and is itself resolved again by the restarts behind it
  induction todo using restarts.induct table hidden generalizing done with
  | case1 => simp
  | case2 n rest nodes h ih =>
    obtain ⟨href, hs⟩ := PropertyTable.fallback?_eq_some_iff.1 h
    have hhere : resolveHiding table hidden (n :: rest)
        = resolveHiding table hidden (withLeading n.before nodes ++ rest) :=
      resolveFrom_fallback href hs
    rw [resolveFrom_fallback href hs, resolveHiding, resolveFrom_append, ih, hhere,
      restarts_fallback h, Function.iterate_succ_apply]
    rfl
  | case3 n rest h ih =>
    obtain ⟨head, hhead⟩ := exists_resolveFrom_cons h
    have hhere : resolveHiding table hidden (n :: rest)
        = ((again table hidden)^[restarts table hidden rest] head).append
            (resolveHiding table hidden rest) := by
      rw [resolveHiding, hhead, Settled.nil_append, ih]
    rw [hhead, ih, restarts_cons h, iterate_again_append, hhere, Settled.append_assoc]

end Restart

/-! ### With nothing hidden -/

variable (table : PropertyTable)

lemma val_iterate_again (k : Nat) (xs : Settled) :
    ((again table [])^[k] xs).1 = (resolve table)^[k] xs.1 :=
  Function.Semiconj.iterate_right (f := Subtype.val) (fun _ => rfl) k xs

lemma resolve_append_eq (xs ys : List ValueNode) :
    resolve table (xs ++ ys)
      = (resolve table)^[restarts table [] ys] (resolve table xs) ++ resolve table ys := by
  rw [resolve_eq, resolveHiding, resolveFrom_append, resolveFrom_eq_append, Settled.val_append,
    val_iterate_again]
  rfl

/-- The resolution of two sequences one after the other: the first is resolved once more for
every fallback taken in the second. The two are resolved independently exactly if that changes
nothing. -/
theorem resolve_append (xs ys : List ValueNode) :
    resolve table (xs ++ ys)
        = (resolve table)^[restarts table [] ys] (resolve table xs) ++ resolve table ys ∧
      (resolve table (xs ++ ys) = resolve table xs ++ resolve table ys
        ↔ (resolve table)^[restarts table [] ys] (resolve table xs) = resolve table xs) := by
  refine ⟨resolve_append_eq table xs ys, ?_⟩
  rw [resolve_append_eq]
  constructor
  · intro h
    exact List.append_cancel_right h
  · intro h
    rw [h]

/-- An entry that refers to itself behind another token. -/
def growing : PropertyTable where
  entries := [("--a", [.word "" "x", .function " " "var" [.word "" "--a"] "" true])]

/-- A fallback behind a reference to such an entry has it substituted twice: `var(--a)` alone
comes to `x var(--a)`, and `var(--a) var(--m,1px)` to `x x var(--a) 1px`. -/
theorem resolve_append_growing_ne :
    resolve growing
        ([.function "" "var" [.word "" "--a"] "" true] ++
          [.function " " "var" [.word "" "--m", .comma "", .word "" "1px"] "" true])
      ≠ resolve growing [.function "" "var" [.word "" "--a"] "" true] ++
          resolve growing
            [.function " " "var" [.word "" "--m", .comma "", .word "" "1px"] "" true] := by
  have htogether : resolve growing
      ([.function "" "var" [.word "" "--a"] "" true] ++
        [.function " " "var" [.word "" "--m", .comma "", .word "" "1px"] "" true])
      = [.word "" "x", .word " " "x", .function " " "var" [.word "" "--a"] "" true,
          .word " " "1px"] := by cbv
  have hfirst : resolve growing [.function "" "var" [.word "" "--a"] "" true]
      = [.word "" "x", .function " " "var" [.word "" "--a"] "" true] := by cbv
  have hsecond : resolve growing
      [.function " " "var" [.word "" "--m", .comma "", .word "" "1px"] "" true]
      = [.word " " "1px"] := by cbv
  rw [htogether, hfirst, hsecond]
  simp

end CustomProperties
