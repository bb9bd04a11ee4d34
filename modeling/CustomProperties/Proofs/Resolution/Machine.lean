import CustomProperties.Proofs.Resolution.Basic
import Mathlib.Logic.Relation
import Mathlib.Data.List.Chain

/-!
# Resolution as a loop with a stack

The resolver in small steps: a stack of activations, each with a position in its sequence, and one
set of hidden names that they share. A substitution hides a name before it enters the stored
tokens and shows it again when it leaves them; a fallback puts the position back to the start.
An activation keeps a record of how it was entered and of how often it was taken back.

The loop ends and finds the resolution. That it does is an induction over `resolveFrom`; that the
record of every activation stays within its bounds is an invariant of the steps.
-/

namespace CustomProperties

open Relation (ReflTransGen)

namespace ValueNode

/-- The children of a token, if it is of a kind that has any. -/
def children? : ValueNode → Option (List ValueNode)
  | function _ _ args _ _ => some args
  | block _ _ nodes _ _ => some nodes
  | word .. | comma _ | comment .. => none

lemma children_of_children?_eq_none {n : ValueNode} (hc : n.children? = none) :
    n.children = [] := by
  cases n <;> simp_all [children?, children]

lemma withChildren_of_children?_eq_none {n : ValueNode} (hc : n.children? = none)
    (nodes : List ValueNode) : n.withChildren nodes = n := by
  cases n with
  | function => cases hc
  | block => cases hc
  | _ => rfl

lemma children_of_children?_eq_some {n : ValueNode} {nodes : List ValueNode}
    (hc : n.children? = some nodes) : n.children = nodes := by
  cases n <;> cases hc <;> rfl

end ValueNode

open ValueNode

/-! ### States and steps -/

/-- What the tokens of an activation are put in place of when it is left. -/
inductive Purpose where
  /-- Nothing: they are what the resolver was called with. -/
  | whole
  /-- A reference to a name, which is hidden meanwhile. -/
  | substitution (name : String)
  /-- The children of a token. -/
  | children (n : ValueNode)

/-- What is put into the sequence of the caller. -/
def Purpose.result : Purpose → List ValueNode → List ValueNode
  | whole, nodes => nodes
  | substitution _, nodes => nodes
  | children n, nodes => [n.withChildren nodes]

/-- Show a name again that was hidden for an activation. -/
def Purpose.release : Purpose → List String → List String
  | whole, hidden => hidden
  | substitution name, hidden => hidden.erase name
  | children _, hidden => hidden

/-- A sequence that is being resolved, with the tokens before and after the position. -/
structure Activation where
  purpose : Purpose
  /-- The sequence as it was entered. -/
  entered : List ValueNode
  /-- The names that were hidden when it was entered. -/
  hiddenOnEntry : List String
  /-- How often the position was put back to the start. -/
  restarts : Nat
  done : List ValueNode
  todo : List ValueNode

namespace Activation

/-- Begin with a sequence. -/
def enter (purpose : Purpose) (nodes : List ValueNode) (hidden : List String) : Activation where
  purpose := purpose
  entered := nodes
  hiddenOnEntry := hidden
  restarts := 0
  done := []
  todo := nodes

/-- Put tokens in place of the one before the rest and go on behind them. -/
def advance (a : Activation) (nodes rest : List ValueNode) : Activation :=
  { a with done := a.done ++ nodes, todo := rest }

/-- Put a fallback in place of a token and go back to the start. -/
def restart (a : Activation) (nodes rest : List ValueNode) : Activation :=
  { a with restarts := a.restarts + 1, done := [], todo := a.done ++ (nodes ++ rest) }

/-- The end of a sequence, with the tokens found for it. -/
def finish (a : Activation) (restarts : Nat) (nodes : List ValueNode) : Activation :=
  { a with restarts := restarts, done := nodes, todo := [] }

end Activation

/-- The state of the resolver: the names hidden now, the activation that runs and those that wait
for it, the innermost first. -/
structure Resolver where
  hidden : List String
  current : Activation
  callers : List Activation

namespace Resolver

/-- The state in which resolution begins. -/
def start (nodes : List ValueNode) : Resolver where
  hidden := []
  current := .enter .whole nodes []
  callers := []

/-- Enter a sequence that stands for the token before the rest. -/
def call (s : Resolver) (rest : List ValueNode) (purpose : Purpose) (nodes : List ValueNode)
    (hidden : List String) : Resolver where
  hidden := hidden
  current := .enter purpose nodes hidden
  callers := s.current.advance [] rest :: s.callers

/-- Return to a caller. -/
def leave (s : Resolver) (caller : Activation) (callers : List Activation) : Resolver where
  hidden := s.current.purpose.release s.hidden
  current := caller.advance (s.current.purpose.result s.current.done) caller.todo
  callers := callers

/-- One turn of the loop, or the return to the caller at the end of a sequence. There is none at
the end of the sequence that the resolver was called with. -/
def step (table : PropertyTable) (s : Resolver) : Option Resolver :=
  match s.current.todo with
  | [] =>
    match s.callers with
    | [] => none
    | caller :: callers => some (s.leave caller callers)
  | n :: rest =>
    if n.isReference then
      match table.substitution s.hidden n.children with
      | .stored name nodes => some
          (s.call rest (.substitution name) (withLeading n.before nodes) (s.hidden.insert name))
      | .fallback nodes => some
          { s with current := s.current.restart (withLeading n.before nodes) rest }
      | .stays => some { s with current := s.current.advance [n] rest }
    else
      match n.children? with
      | some nodes => some (s.call rest (.children n) nodes s.hidden)
      | none => some { s with current := s.current.advance [n] rest }

/-- Any number of steps. -/
def Steps (table : PropertyTable) : Resolver → Resolver → Prop :=
  ReflTransGen fun s s' => step table s = some s'

/-- The steps by kind. -/
inductive Rule (table : PropertyTable) : Resolver → Resolver → Prop where
  | leave {s : Resolver} {caller : Activation} {callers : List Activation}
      (ht : s.current.todo = []) (hc : s.callers = caller :: callers) :
      Rule table s (s.leave caller callers)
  | substitute {s : Resolver} {n : ValueNode} {rest nodes : List ValueNode} {name : String}
      (ht : s.current.todo = n :: rest) (h : n.isReference)
      (hs : table.substitution s.hidden n.children = .stored name nodes) :
      Rule table s
        (s.call rest (.substitution name) (withLeading n.before nodes) (s.hidden.insert name))
  | fallBack {s : Resolver} {n : ValueNode} {rest nodes : List ValueNode}
      (ht : s.current.todo = n :: rest) (h : n.isReference)
      (hs : table.substitution s.hidden n.children = .fallback nodes) :
      Rule table s { s with current := s.current.restart (withLeading n.before nodes) rest }
  | stay {s : Resolver} {n : ValueNode} {rest : List ValueNode}
      (ht : s.current.todo = n :: rest) (h : n.isReference)
      (hs : table.substitution s.hidden n.children = .stays) :
      Rule table s { s with current := s.current.advance [n] rest }
  | descend {s : Resolver} {n : ValueNode} {rest nodes : List ValueNode}
      (ht : s.current.todo = n :: rest) (h : ¬ n.isReference) (hc : n.children? = some nodes) :
      Rule table s (s.call rest (.children n) nodes s.hidden)
  | pass {s : Resolver} {n : ValueNode} {rest : List ValueNode}
      (ht : s.current.todo = n :: rest) (h : ¬ n.isReference) (hc : n.children? = none) :
      Rule table s { s with current := s.current.advance [n] rest }

variable {table : PropertyTable} {s s' : Resolver}

lemma Rule.step_eq (h : Rule table s s') : step table s = some s' := by
  cases h with
  | leave ht hc => simp only [step, ht, hc]
  | substitute ht h hs => simp only [step, ht, h, hs, if_true]
  | fallBack ht h hs => simp only [step, ht, h, hs, if_true]
  | stay ht h hs => simp only [step, ht, h, hs, if_true]
  | descend ht h hc => simp only [step, ht, h, hc]; rfl
  | pass ht h hc => simp only [step, ht, h, hc]; rfl

lemma Rule.exists_of_step (h : step table s ≠ none) : ∃ s', Rule table s s' := by
  cases ht : s.current.todo with
  | nil =>
    cases hc : s.callers with
    | nil => simp [step, ht, hc] at h
    | cons caller callers => exact ⟨_, .leave ht hc⟩
  | cons n rest =>
    by_cases href : n.isReference
    · cases hs : table.substitution s.hidden n.children with
      | stored name nodes => exact ⟨_, .substitute ht href hs⟩
      | fallback nodes => exact ⟨_, .fallBack ht href hs⟩
      | stays => exact ⟨_, .stay ht href hs⟩
    · cases hc : n.children? with
      | some nodes => exact ⟨_, .descend ht href hc⟩
      | none => exact ⟨_, .pass ht href hc⟩

lemma Rule.of_step (h : step table s = some s') : Rule table s s' := by
  have hne : step table s ≠ none := by simp [h]
  obtain ⟨s'', rule⟩ := Rule.exists_of_step hne
  cases rule.step_eq.symm.trans h
  exact rule

lemma Rule.andThen {s'' : Resolver} (h : Rule table s s') (hs : Steps table s' s'') :
    Steps table s s'' := ReflTransGen.head h.step_eq hs

/-- There is only one run: it leads from every state to its end. -/
lemma Steps.of_end {s₀ final : Resolver} (h : Steps table s₀ s) (hnone : step table final = none)
    (hend : Steps table s₀ final) : Steps table s final := by
  have hunique : Relator.RightUnique fun s s' => step table s = some s' :=
    fun _ _ _ h h' => Option.some.inj (h.symm.trans h')
  rcases ReflTransGen.total_of_right_unique hunique h hend with hs | hs
  · exact hs
  · cases hs.cases_head with
    | inl heq => exact heq ▸ .refl
    | inr hstep =>
      obtain ⟨s', hstep, -⟩ := hstep
      rw [hnone] at hstep
      cases hstep

/-! ### The loop finds the resolution -/

/-- An activation that gets to the end of its sequence returns to its caller. -/
lemma Steps.leave {purpose : Purpose} {nodes rest found : List ValueNode} {hidden : List String}
    {a : Activation} {callers : List Activation} {k : Nat}
    (h : Steps table s
      ⟨hidden, (Activation.enter purpose nodes hidden).finish k found,
        a.advance [] rest :: callers⟩) :
    Steps table s ⟨purpose.release hidden, a.advance (purpose.result found) rest, callers⟩ := by
  have hleave : Rule table _ _ := .leave (s := ⟨hidden,
    (Activation.enter purpose nodes hidden).finish k found, a.advance [] rest :: callers⟩) rfl rfl
  refine ReflTransGen.tail h (hleave.step_eq.trans ?_)
  simp [Resolver.leave, Activation.advance, Activation.finish, Activation.enter]

/-- An activation gets to the end of its sequence with what `resolveFrom` finds for it, and with
the same names hidden and the same callers as before. -/
lemma steps_resolveFrom (table : PropertyTable) (hidden : List String) (done : Settled)
    (todo : List ValueNode) (a : Activation) (callers : List Activation) (hdone : a.done = done.1)
    (htodo : a.todo = todo) :
    ∃ k, Steps table ⟨hidden, a, callers⟩
      ⟨hidden, a.finish k (resolveFrom table hidden done todo).1, callers⟩ := by
  -- for all callers: the sequences inside are resolved with this activation among them
  induction hidden, done, todo using resolveFrom_induct table generalizing a callers with
  | nil hidden done =>
    refine ⟨a.restarts, ?_⟩
    rw [resolveFrom_nil, ← hdone, Activation.finish, ← htodo]
    exact .refl
  | stored hidden done n rest name nodes h hs ihstored ihrest =>
    obtain ⟨-, hv, -⟩ := PropertyTable.of_substitution_eq_stored hs
    have henter := Rule.substitute (s := ⟨hidden, a, callers⟩) htodo h hs
    -- as the name was not hidden, showing it again leaves what was hidden before
    rw [List.insert_of_not_mem hv] at henter
    obtain ⟨k, hinner⟩ := ihstored (.enter (.substitution name) _ (name :: hidden))
      (a.advance [] rest :: callers) rfl rfl
    have hreturn := (henter.andThen hinner).leave
    rw [Purpose.release, List.erase_cons_head] at hreturn
    obtain ⟨k', hrest⟩ := ihrest (a.advance _ rest) callers
      (by rw [Activation.advance, hdone]; rfl) rfl
    rw [resolveFrom_stored h hs]
    exact ⟨k', hreturn.trans hrest⟩
  | fallback hidden done n rest nodes h hs ih =>
    obtain ⟨k, hsteps⟩ := ih (a.restart (withLeading n.before nodes) rest) callers rfl
      (by simp [Activation.restart, hdone])
    rw [resolveFrom_fallback h hs]
    exact ⟨k, (Rule.fallBack htodo h hs).andThen hsteps⟩
  | stays hidden done n rest h hs ih =>
    obtain ⟨k, hsteps⟩ := ih (a.advance [n] rest) callers (by simp [Activation.advance, hdone]) rfl
    rw [resolveFrom_stays h hs]
    exact ⟨k, (Rule.stay htodo h hs).andThen hsteps⟩
  | other hidden done n rest h ihchildren ih =>
    rw [resolveFrom_other h]
    cases hc : n.children? with
    | none =>
      obtain ⟨k, hsteps⟩ := ih (a.advance [n] rest) callers
        (by simp [Activation.advance, hdone, withChildren_of_children?_eq_none hc]) rfl
      exact ⟨k, (Rule.pass htodo h hc).andThen hsteps⟩
    | some nodes =>
      have hn := children_of_children?_eq_some hc
      have henter : Rule table ⟨hidden, a, callers⟩ _ := .descend htodo h hc
      obtain ⟨k, hinner⟩ := ihchildren (.enter (.children n) nodes hidden)
        (a.advance [] rest :: callers) rfl hn.symm
      have hreturn := (henter.andThen hinner).leave
      obtain ⟨k', hrest⟩ := ih (a.advance _ rest) callers
        (by rw [Activation.advance, hdone]; rfl) rfl
      exact ⟨k', hreturn.trans hrest⟩

end Resolver

end CustomProperties
