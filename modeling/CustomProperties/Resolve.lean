import CustomProperties.Table

/-!
# Resolving references

`resolve` substitutes the references of a sequence of tokens, from left to right:

* a reference to a name of the table gives way to the stored tokens, which are resolved with that
  name hidden, so that a property that reaches itself is substituted once and no more;
* a reference to any other name gives way to its fallback, and the whole sequence it stands in is
  resolved again from its start;
* a reference to any other name without a fallback stays as it is;
* every other function or bracket has its contents resolved.

A resolved sequence is settled: no reference in it has a fallback left, other than in the
arguments of a reference that stays.
-/

namespace CustomProperties

namespace ValueNode

/-- The tokens behind the first comma of a sequence. -/
def afterComma : List ValueNode → List ValueNode
  | [] => []
  | n :: ns => if n.isComma then ns else afterComma ns

/-- The name that a reference with these arguments refers to: its first argument, if that is a
word. -/
def referent? (args : List ValueNode) : Option String := args.head?.bind word?

mutual

/-- How many fallbacks can be taken in a token. A fallback counts one and what can be taken in it;
the arguments of a reference count nothing apart from their fallback. -/
def pending : ValueNode → Nat
  | word .. => 0
  | comma _ => 0
  | comment .. => 0
  | function before name args after closed =>
    if (function before name args after closed).isReference then pendingFallback args
    else pendingAll args
  | block _ _ nodes _ _ => pendingAll nodes

/-- How many fallbacks can be taken in a sequence of tokens. -/
def pendingAll : List ValueNode → Nat
  | [] => 0
  | n :: ns => n.pending + pendingAll ns

/-- How many fallbacks can be taken in a reference with these arguments. -/
def pendingFallback : List ValueNode → Nat
  | [] => 0
  | n :: ns =>
    if n.isComma then (if ns.isEmpty then 0 else pendingAll ns + 1) else pendingFallback ns

end

@[simp] theorem pendingAll_nil : pendingAll [] = 0 := by rw [pendingAll]

@[simp] theorem pendingAll_cons (n : ValueNode) (ns : List ValueNode) :
    pendingAll (n :: ns) = n.pending + pendingAll ns := by rw [pendingAll]

@[simp] theorem pendingAll_append (ns ms : List ValueNode) :
    pendingAll (ns ++ ms) = pendingAll ns + pendingAll ms := by
  induction ns with
  | nil => simp
  | cons n ns ih => simp [ih, Nat.add_assoc]

@[simp] theorem pending_withBefore (before : String) (n : ValueNode) :
    (n.withBefore before).pending = n.pending := by
  cases n <;> simp [withBefore, pending, isReference]

@[simp] theorem pendingAll_withLeading (before : String) (ns : List ValueNode) :
    pendingAll (withLeading before ns) = pendingAll ns := by
  cases ns <;> simp

theorem pending_of_isReference {n : ValueNode} (h : n.isReference) :
    n.pending = pendingFallback n.children := by
  obtain ⟨before, name, args, after, closed, rfl⟩ := exists_function_of_isReference h
  rw [pending, if_pos h, children]

theorem pending_of_not_isReference {n : ValueNode} (h : ¬ n.isReference) :
    n.pending = pendingAll n.children := by
  cases n with
  | function => rw [pending, if_neg h, children]
  | block => rw [pending, children]
  | _ => simp [pending, children]

/-- No fallback can be taken in a token if none can in its children. -/
theorem pending_withChildren {n : ValueNode} {nodes : List ValueNode} (h : ¬ n.isReference)
    (hnil : n.children = [] → nodes = []) (hp : pendingAll nodes = 0) :
    (n.withChildren nodes).pending = 0 := by
  rw [pending_of_not_isReference (not_isReference_withChildren h hnil),
    children_withChildren hnil, hp]

theorem pendingFallback_eq (args : List ValueNode) :
    pendingFallback args
      = if (afterComma args).isEmpty then 0 else pendingAll (afterComma args) + 1 := by
  induction args with
  | nil => simp [pendingFallback, afterComma]
  | cons n ns ih => rw [pendingFallback, afterComma]; split <;> simp_all

end ValueNode

open ValueNode

/-- A sequence of tokens in which no fallback can be taken. -/
abbrev Settled := { nodes : List ValueNode // pendingAll nodes = 0 }

namespace Settled

/-- The sequence without tokens. -/
def nil : Settled := ⟨[], pendingAll_nil⟩

/-- The sequence of one token in which no fallback can be taken. -/
def single (n : ValueNode) (h : n.pending = 0) : Settled := ⟨[n], by simp [h]⟩

/-- One settled sequence after the other. -/
def append (xs ys : Settled) : Settled := ⟨xs.1 ++ ys.1, by simp [xs.2, ys.2]⟩

@[simp] theorem val_nil : nil.1 = [] := rfl

@[simp] theorem val_single (n : ValueNode) (h : n.pending = 0) : (single n h).1 = [n] := rfl

@[simp] theorem val_append (xs ys : Settled) : (xs.append ys).1 = xs.1 ++ ys.1 := rfl

@[simp] theorem append_nil (xs : Settled) : xs.append nil = xs := Subtype.ext (List.append_nil _)

@[simp] theorem nil_append (xs : Settled) : nil.append xs = xs := rfl

theorem append_assoc (xs ys zs : Settled) :
    (xs.append ys).append zs = xs.append (ys.append zs) :=
  Subtype.ext (List.append_assoc ..)

end Settled

/-- How many names of a table are not hidden. -/
def PropertyTable.visible (table : PropertyTable) (hidden : List String) : Nat :=
  (table.names.filter (· ∉ hidden)).length

/-- The stored tokens of a name that is not hidden. -/
def PropertyTable.lookup? (table : PropertyTable) (hidden : List String) (name : String) :
    Option (List ValueNode) :=
  if name ∈ hidden then none else table.get? name

theorem PropertyTable.not_mem_of_lookup? {table : PropertyTable} {hidden : List String}
    {name : String} {stored : List ValueNode} (h : table.lookup? hidden name = some stored) :
    name ∉ hidden ∧ name ∈ table.names := by
  unfold lookup? at h
  split at h
  · cases h
  · exact ⟨‹_›, mem_names_iff.2 (by simp [contains, h])⟩

/-- Hiding a visible name leaves fewer names visible. -/
theorem PropertyTable.visible_lt {table : PropertyTable} {hidden : List String} {name : String}
    {stored : List ValueNode} (h : table.lookup? hidden name = some stored) :
    table.visible (name :: hidden) < table.visible hidden := by
  obtain ⟨hv, hm⟩ := not_mem_of_lookup? h
  have key : table.names.filter (· ∉ name :: hidden)
      = (table.names.filter (· ∉ hidden)).filter (· ≠ name) := by
    rw [List.filter_filter]
    exact List.filter_congr fun n _ => by simp
  unfold visible
  rw [key, List.length_filter_lt_length_iff_exists]
  exact ⟨name, by simp [hm, hv], by simp⟩

/-- What a reference gives way to. -/
inductive Substitution where
  /-- The stored tokens of a name. -/
  | stored (name : String) (nodes : List ValueNode)
  /-- The fallback, which is not empty. -/
  | fallback (nodes : List ValueNode)
  /-- Nothing: the reference stays. -/
  | stays
deriving Inhabited

/-- What a reference with these arguments gives way to. -/
def PropertyTable.substitution (table : PropertyTable) (hidden : List String)
    (args : List ValueNode) : Substitution :=
  match (referent? args).bind fun name => (table.lookup? hidden name).map (name, ·) with
  | some (name, nodes) => .stored name nodes
  | none => if (afterComma args).isEmpty then .stays else .fallback (afterComma args)

theorem PropertyTable.visible_lt_of_substitution {table : PropertyTable} {hidden : List String}
    {args nodes : List ValueNode} {name : String}
    (h : table.substitution hidden args = .stored name nodes) :
    table.visible (name :: hidden) < table.visible hidden := by
  unfold substitution at h
  split at h
  · rename_i n ns hs
    cases h
    simp only [Option.bind_eq_some_iff, Option.map_eq_some_iff, Prod.mk.injEq] at hs
    obtain ⟨_, _, _, hl, rfl, rfl⟩ := hs
    exact visible_lt hl
  · split at h <;> cases h

theorem PropertyTable.pendingFallback_of_substitution {table : PropertyTable}
    {hidden : List String} {args nodes : List ValueNode}
    (h : table.substitution hidden args = .fallback nodes) :
    pendingFallback args = pendingAll nodes + 1 := by
  unfold substitution at h
  split at h
  · cases h
  · split at h
    · cases h
    · cases h
      rw [pendingFallback_eq]
      simp_all

theorem PropertyTable.pendingFallback_of_stays {table : PropertyTable}
    {hidden : List String} {args : List ValueNode}
    (h : table.substitution hidden args = .stays) : pendingFallback args = 0 := by
  unfold substitution at h
  split at h
  · cases h
  · split at h
    · rw [pendingFallback_eq]
      simp_all
    · cases h

theorem pending_of_stays {table : PropertyTable} {hidden : List String} {n : ValueNode}
    (h : n.isReference) (hs : table.substitution hidden n.children = .stays) : n.pending = 0 := by
  rw [pending_of_isReference h, PropertyTable.pendingFallback_of_stays hs]

theorem pending_of_children_eq_nil {n : ValueNode} (h : ¬ n.isReference)
    (hc : n.children = []) : n.pending = 0 := by
  rw [pending_of_not_isReference h, hc, pendingAll_nil]

/-- No more fallbacks and less to go make a step smaller. -/
private theorem lex_of_le {v p q s t : Nat} (hp : p ≤ q) (hs : s < t) :
    Prod.Lex (· < ·) (Prod.Lex (· < ·) (· < ·)) (v, p, s) (v, q, t) := by
  rcases Nat.lt_or_eq_of_le hp with hp | rfl
  · exact .right _ (.left _ _ hp)
  · exact .right _ (.right _ hs)

private theorem lex_rest (v : Nat) (n : ValueNode) (rest : List ValueNode) :
    Prod.Lex (· < ·) (Prod.Lex (· < ·) (· < ·)) (v, pendingAll rest, sizeOf rest)
      (v, pendingAll (n :: rest), sizeOf (n :: rest)) :=
  lex_of_le (by simp) (by rw [List.cons.sizeOf_spec]; omega)

private theorem lex_children (v : Nat) {n : ValueNode} (h : ¬ n.isReference)
    (rest : List ValueNode) :
    Prod.Lex (· < ·) (Prod.Lex (· < ·) (· < ·)) (v, pendingAll n.children, sizeOf n.children)
      (v, pendingAll (n :: rest), sizeOf (n :: rest)) :=
  lex_of_le (by simp [pending_of_not_isReference h])
    (by have := sizeOf_children_le n; rw [List.cons.sizeOf_spec]; omega)

/-- Resolve the tokens that follow an already resolved part of their sequence, with some names
hidden. The names in sight, the fallbacks that can be taken, and the tokens to go decrease in that
order. -/
def resolveFrom (table : PropertyTable) (hidden : List String) (done : Settled)
    (todo : List ValueNode) : Settled :=
  match todo with
  | [] => done
  | n :: rest =>
    if h : n.isReference then
      match hs : table.substitution hidden n.children with
      | .stored name nodes =>
        let inner := resolveFrom table (name :: hidden) .nil (withLeading n.before nodes)
        resolveFrom table hidden (done.append inner) rest
      | .fallback nodes =>
        resolveFrom table hidden .nil (done.1 ++ (withLeading n.before nodes ++ rest))
      | .stays =>
        resolveFrom table hidden (done.append (.single n (pending_of_stays h hs))) rest
    else if hc : n.children = [] then
      resolveFrom table hidden (done.append (.single n (pending_of_children_eq_nil h hc))) rest
    else
      let inner := resolveFrom table hidden .nil n.children
      resolveFrom table hidden
        (done.append (.single (n.withChildren inner.1)
          (pending_withChildren h (fun h => absurd h hc) inner.2))) rest
termination_by (table.visible hidden, pendingAll todo, sizeOf todo)
decreasing_by
  · exact Prod.Lex.left _ _ (PropertyTable.visible_lt_of_substitution hs)
  · exact lex_rest ..
  · refine Prod.Lex.right _ (Prod.Lex.left _ _ ?_)
    have := PropertyTable.pendingFallback_of_substitution hs
    simp [pending_of_isReference h, done.2]
    omega
  · exact lex_rest ..
  · exact lex_rest ..
  · exact lex_children _ h rest
  · exact lex_rest ..

/-- Resolve every reference of a sequence of tokens. -/
def resolve (table : PropertyTable) (nodes : List ValueNode) : List ValueNode :=
  (resolveFrom table [] .nil nodes).1

/-- Resolve every reference of a value. -/
def Value.resolve (table : PropertyTable) (value : Value) : Value :=
  { value with nodes := CustomProperties.resolve table value.nodes }

/-- Resolve every reference of a text. -/
def resolveText (table : PropertyTable) (text : String) : String :=
  ((Value.parse text).resolve table).render

end CustomProperties
