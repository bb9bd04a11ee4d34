import CustomProperties.Proofs.Resolution.Machine
import CustomProperties.Proofs.Resolution.Restart

/-!
# Resolution ends

What bounds the loop of the resolver in every state it gets to: each substitution on the stack has
hidden one more name of the table, and each activation is taken back at most as often as there are
references with a fallback in the sequence it was entered with.
-/

namespace CustomProperties

open Relation (ReflTransGen)

namespace ValueNode

/-! ### References with a fallback -/

mutual

/-- How many references with a fallback occur anywhere in a token. -/
def fallbacks : ValueNode → Nat
  | word .. => 0
  | comma _ => 0
  | comment .. => 0
  | function before name args after closed =>
    if (function before name args after closed).isReference && !(afterComma args).isEmpty then
      fallbacksAll args + 1
    else fallbacksAll args
  | block _ _ nodes _ _ => fallbacksAll nodes

/-- How many references with a fallback occur anywhere in a sequence of tokens. -/
def fallbacksAll : List ValueNode → Nat
  | [] => 0
  | n :: ns => n.fallbacks + fallbacksAll ns

end

mutual

/-- Only a reference with a fallback can fall back. -/
lemma pending_le_fallbacks (n : ValueNode) : n.pending ≤ n.fallbacks := by
  match n with
  | word .. | comma _ | comment .. => simp [pending]
  | block _ _ nodes _ _ =>
    rw [pending, fallbacks]
    exact pendingAll_le_fallbacksAll nodes
  | function before name args after closed =>
    rw [pending, fallbacks]
    have hargs := pendingFallback_le_fallbacksAll args
    have hall := pendingAll_le_fallbacksAll args
    by_cases h : (function before name args after closed).isReference
    · by_cases he : (afterComma args).isEmpty <;> simp_all
    · simpa [h] using hall

lemma pendingAll_le_fallbacksAll (ns : List ValueNode) : pendingAll ns ≤ fallbacksAll ns := by
  match ns with
  | [] => simp
  | n :: ns =>
    rw [pendingAll_cons, fallbacksAll]
    exact Nat.add_le_add (pending_le_fallbacks n) (pendingAll_le_fallbacksAll ns)

lemma pendingFallback_le_fallbacksAll (args : List ValueNode) :
    pendingFallback args ≤ fallbacksAll args + if (afterComma args).isEmpty then 0 else 1 := by
  match args with
  | [] => simp [pendingFallback]
  | n :: ns =>
    rw [pendingFallback, afterComma, fallbacksAll]
    have hns := pendingFallback_le_fallbacksAll ns
    have hall := pendingAll_le_fallbacksAll ns
    by_cases hc : n.isComma
    · by_cases he : ns.isEmpty
      · simp [hc, he]
      · simp only [hc, he, if_true, Bool.false_eq_true, if_false]
        omega
    · simp only [hc, Bool.false_eq_true, if_false]
      omega

end

end ValueNode

open ValueNode

/-! ### The record of an activation -/

namespace Activation

/-- What holds of an activation at all times. The restarts so far and the fallbacks that can still
be taken are no more than the fallbacks that could be taken at the beginning. -/
structure Bounded (a : Activation) : Prop where
  settled : pendingAll a.done = 0
  restarts_le : a.restarts + pendingAll a.todo ≤ pendingAll a.entered
  around : ∀ n, a.purpose = .children n → ¬ n.isReference ∧ a.entered = n.children
  idle : a.entered = [] → a.done = [] ∧ a.todo = []

variable {a : Activation} {nodes rest : List ValueNode} {n : ValueNode}

lemma bounded_enter {purpose : Purpose} (hidden : List String)
    (h : ∀ n, purpose = .children n → ¬ n.isReference ∧ nodes = n.children) :
    (enter purpose nodes hidden).Bounded where
  settled := rfl
  restarts_le := by simp [enter]
  around := h
  idle := fun he => ⟨rfl, he⟩

namespace Bounded

lemma entered_ne_nil (ha : a.Bounded) (ht : a.todo = n :: rest) : a.entered ≠ [] := by
  intro he
  simp [(ha.idle he).2] at ht

/-- Tokens in which no fallback can be taken come to what is done. -/
lemma advance (ha : a.Bounded) (he : a.entered ≠ []) (hn : pendingAll nodes = 0)
    (hr : pendingAll rest ≤ pendingAll a.todo) : (a.advance nodes rest).Bounded where
  settled := by simp [Activation.advance, ha.settled, hn]
  restarts_le := (Nat.add_le_add_left hr _).trans ha.restarts_le
  around := ha.around
  idle := fun h => absurd h he

/-- A restart uses up the fallback it is made for. -/
lemma restart {table : PropertyTable} {hidden : List String} (ha : a.Bounded)
    (ht : a.todo = n :: rest) (hf : table.fallback? hidden n = some nodes) :
    (a.restart (withLeading n.before nodes) rest).Bounded where
  settled := rfl
  restarts_le := by
    -- the tokens that are taken back are settled and bring no fallback with them
    have hlt := pendingAll_fallback_lt rest hf
    have hle := ha.restarts_le
    rw [ht] at hle
    simp only [Activation.restart, pendingAll_append a.done, ha.settled]
    omega
  around := ha.around
  idle := fun h => absurd h (ha.entered_ne_nil ht)

/-- What an activation has found at its end can be put into the sequence of its caller. -/
lemma pendingAll_result (ha : a.Bounded) : pendingAll (a.purpose.result a.done) = 0 := by
  cases hp : a.purpose with
  | whole => exact ha.settled
  | substitution name => exact ha.settled
  | children n =>
    obtain ⟨hn, he⟩ := ha.around n hp
    have hnil : n.children = [] → a.done = [] := fun hc => (ha.idle (he.trans hc)).1
    simp [Purpose.result, pending_withChildren hn hnil ha.settled]

lemma restarts_le_fallbacksAll (ha : a.Bounded) : a.restarts ≤ fallbacksAll a.entered :=
  calc a.restarts ≤ a.restarts + pendingAll a.todo := Nat.le_add_right ..
    _ ≤ pendingAll a.entered := ha.restarts_le
    _ ≤ fallbacksAll a.entered := pendingAll_le_fallbacksAll a.entered

end Bounded

/-- What the names hidden on entry to an activation are to those of its caller: a substitution
has hidden one more name, which is one of the table and was not hidden. -/
def CalledBy (table : PropertyTable) (callee caller : Activation) : Prop :=
  match callee.purpose with
  | .substitution name =>
    name ∈ table.names ∧ name ∉ caller.hiddenOnEntry ∧
      callee.hiddenOnEntry = name :: caller.hiddenOnEntry
  | .whole | .children _ => callee.hiddenOnEntry = caller.hiddenOnEntry

/-- The name that a substitution has hidden is shown again, and no other. -/
lemma CalledBy.release_eq {table : PropertyTable} {callee caller : Activation}
    (h : CalledBy table callee caller) :
    callee.purpose.release callee.hiddenOnEntry = caller.hiddenOnEntry := by
  unfold CalledBy at h
  split at h
  · next name hp =>
    rw [hp, h.2.2]
    exact List.erase_cons_head ..
  · next hp => rwa [hp]
  · next hp => rwa [hp]

/-- The stack does not see how far its innermost activation is. -/
lemma isChain_calledBy_congr {table : PropertyTable} {a b : Activation} {callers : List Activation}
    (hp : b.purpose = a.purpose) (hh : b.hiddenOnEntry = a.hiddenOnEntry)
    (h : (a :: callers).IsChain (CalledBy table)) : (b :: callers).IsChain (CalledBy table) := by
  cases callers with
  | nil => exact .singleton b
  | cons caller callers =>
    rw [List.isChain_cons_cons] at h ⊢
    refine ⟨?_, h.2⟩
    rw [CalledBy, hp, hh]
    exact h.1

end Activation

open Activation

namespace Resolver

/-! ### The invariant of the stack -/

/-- What holds in every state: the hidden names are those hidden on entry to the activation that
runs, and so on down the stack. -/
structure Sound (table : PropertyTable) (s : Resolver) : Prop where
  hidden_eq : s.hidden = s.current.hiddenOnEntry
  nested : (s.current :: s.callers).IsChain (CalledBy table)
  bounded : ∀ a ∈ s.current :: s.callers, a.Bounded
  waiting : ∀ a ∈ s.callers, a.entered ≠ []

variable {table : PropertyTable} {s s' : Resolver} {rest nodes : List ValueNode} {n : ValueNode}

lemma sound_start (table : PropertyTable) (nodes : List ValueNode) :
    (start nodes).Sound table where
  hidden_eq := rfl
  nested := .singleton _
  bounded := by
    intro a ha
    cases List.mem_singleton.1 ha
    exact bounded_enter [] fun _ h => nomatch h
  waiting := fun _ h => nomatch h

namespace Sound

lemma bounded_current (hs : s.Sound table) : s.current.Bounded :=
  hs.bounded s.current List.mem_cons_self

/-- The innermost activation goes on. -/
lemma replace {a : Activation} (hs : s.Sound table) (hp : a.purpose = s.current.purpose)
    (hh : a.hiddenOnEntry = s.current.hiddenOnEntry) (ha : a.Bounded) :
    ({ s with current := a } : Resolver).Sound table where
  hidden_eq := hs.hidden_eq.trans hh.symm
  nested := isChain_calledBy_congr hp hh hs.nested
  bounded := by
    intro b hb
    rcases List.mem_cons.1 hb with rfl | hb
    · exact ha
    · exact hs.bounded b (List.mem_cons_of_mem _ hb)
  waiting := hs.waiting

lemma advance (hs : s.Sound table) (ht : s.current.todo = n :: rest) (hn : n.pending = 0) :
    ({ s with current := s.current.advance [n] rest } : Resolver).Sound table := by
  have hcurrent := hs.bounded_current
  refine hs.replace rfl rfl (hcurrent.advance (hcurrent.entered_ne_nil ht) ?_ ?_)
  · simp [hn]
  · simp [ht]

lemma call {purpose : Purpose} {hidden : List String} (hs : s.Sound table)
    (ht : s.current.todo = n :: rest)
    (hp : ∀ n, purpose = .children n → ¬ n.isReference ∧ nodes = n.children)
    (hcalled : CalledBy table (.enter purpose nodes hidden) s.current) :
    (s.call rest purpose nodes hidden).Sound table := by
  have hcurrent := hs.bounded_current
  have hne := hcurrent.entered_ne_nil ht
  have hwaits : (s.current.advance [] rest).Bounded :=
    hcurrent.advance hne rfl (by simp [ht])
  refine ⟨rfl, ?_, ?_, ?_⟩
  · have hnested : (s.current.advance [] rest :: s.callers).IsChain (CalledBy table) :=
      isChain_calledBy_congr (a := s.current) rfl rfl hs.nested
    exact List.isChain_cons_cons.2 ⟨hcalled, hnested⟩
  · intro a ha
    rcases List.mem_cons.1 ha with rfl | ha
    · exact bounded_enter hidden hp
    · rcases List.mem_cons.1 ha with rfl | ha
      · exact hwaits
      · exact hs.bounded a (List.mem_cons_of_mem _ ha)
  · intro a ha
    rcases List.mem_cons.1 ha with rfl | ha
    · exact hne
    · exact hs.waiting a ha

lemma leave {caller : Activation} {callers : List Activation} (hs : s.Sound table)
    (hc : s.callers = caller :: callers) : (s.leave caller callers).Sound table := by
  obtain ⟨hhidden, hnested, hbounded, hwaiting⟩ := hs
  rw [hc] at hnested hbounded hwaiting
  obtain ⟨hcalled, hrest⟩ := List.isChain_cons_cons.1 hnested
  refine ⟨?_, ?_, ?_, ?_⟩
  · rw [Resolver.leave, hhidden]
    exact hcalled.release_eq
  · exact isChain_calledBy_congr (a := caller) rfl rfl hrest
  · intro a ha
    rcases List.mem_cons.1 ha with rfl | ha
    · have hcaller := hbounded caller (List.mem_cons_of_mem _ List.mem_cons_self)
      exact hcaller.advance (hwaiting caller List.mem_cons_self)
        (hbounded _ List.mem_cons_self).pendingAll_result (Nat.le_refl _)
    · exact hbounded a (List.mem_cons_of_mem _ (List.mem_cons_of_mem _ ha))
  · exact fun a ha => hwaiting a (List.mem_cons_of_mem _ ha)

/-- One step preserves the invariant. -/
lemma of_rule (h : Rule table s s') (hs : s.Sound table) : s'.Sound table := by
  cases h with
  | leave _ hc => exact hs.leave hc
  | @substitute n rest nodes name ht h hsub =>
    obtain ⟨-, hv, hg⟩ := PropertyTable.of_substitution_eq_stored hsub
    refine hs.call ht (fun _ hp => nomatch hp) ?_
    rw [List.insert_of_not_mem hv, hs.hidden_eq]
    refine ⟨?_, hs.hidden_eq ▸ hv, rfl⟩
    exact PropertyTable.mem_names_iff.2 (by simp [PropertyTable.contains, hg])
  | fallBack ht h hsub =>
    have hf := PropertyTable.fallback?_eq_some_iff.2 ⟨h, hsub⟩
    exact hs.replace rfl rfl (hs.bounded_current.restart ht hf)
  | stay ht h hsub => exact hs.advance ht (pending_of_stays h hsub)
  | @descend n rest nodes ht h hc =>
    refine hs.call ht ?_ hs.hidden_eq
    rintro m hm
    cases hm
    exact ⟨h, (children_of_children?_eq_some hc).symm⟩
  | @pass n rest ht h hc =>
    refine hs.advance ht (pending_of_children_eq_nil h ?_)
    exact children_of_children?_eq_none hc

/-- Any number of steps preserves the invariant. -/
lemma of_steps (h : Steps table s s') (hs : s.Sound table) : s'.Sound table := by
  induction h with
  | refl => exact hs
  | tail _ hstep ih => exact .of_rule (Rule.of_step hstep) ih

end Sound

end Resolver

open Resolver

/-- The loop of the resolver ends, with the resolution and with nothing hidden, and every state
that it gets to leads there. In such a state the names hidden are those that were hidden on entry
to the activation that runs, each substitution on the stack has hidden one more name of the table,
and no activation has been taken back more often than there are references with a fallback in the
sequence it was entered with. -/
theorem resolver_ends (table : PropertyTable) (nodes : List ValueNode) :
    ∃ final, step table final = none ∧ final.current.done = resolve table nodes ∧
      final.hidden = [] ∧
      ∀ s, Steps table (start nodes) s →
        Steps table s final ∧
        s.hidden = s.current.hiddenOnEntry ∧
        (s.current :: s.callers).IsChain (CalledBy table) ∧
        ∀ a ∈ s.current :: s.callers, a.restarts ≤ fallbacksAll a.entered := by
  let whole := Activation.enter .whole nodes []
  obtain ⟨k, hend⟩ := steps_resolveFrom table [] .nil nodes whole [] rfl rfl
  refine ⟨⟨[], whole.finish k (resolve table nodes), []⟩, rfl, rfl, rfl, fun s hsteps => ?_⟩
  have hsound : s.Sound table := .of_steps hsteps (sound_start table nodes)
  refine ⟨hsteps.of_end rfl hend, hsound.hidden_eq, hsound.nested, ?_⟩
  exact fun a ha => (hsound.bounded a ha).restarts_le_fallbacksAll

/-- Two entries that refer to each other and have fallbacks for it. -/
def fallingBack : PropertyTable where
  entries := [
    ("--a", [.function "" "var" [.word "" "--b", .comma "", .word "" "1px"] "" true]),
    ("--b", [.word "" "x",
      .function " " "var" [.word "" "--a", .comma "", .word "" "2px"] "" true])]

/-- The state for `var(--a) y` in which `--b` has been substituted below `--a` and has fallen
back. -/
def belowBoth : Resolver where
  hidden := ["--b", "--a"]
  current :=
    { purpose := .substitution "--b"
      entered := [.word "" "x",
        .function " " "var" [.word "" "--a", .comma "", .word "" "2px"] "" true]
      hiddenOnEntry := ["--b", "--a"]
      restarts := 1
      done := []
      todo := [.word "" "x", .word " " "2px"] }
  callers := [
    { purpose := .substitution "--a"
      entered := [.function "" "var" [.word "" "--b", .comma "", .word "" "1px"] "" true]
      hiddenOnEntry := ["--a"]
      restarts := 0
      done := []
      todo := [] },
    { purpose := .whole
      entered := [.function "" "var" [.word "" "--a"] "" true, .word " " "y"]
      hiddenOnEntry := []
      restarts := 0
      done := []
      todo := [.word " " "y"] }]

theorem resolver_ends_belowBoth :
    Steps fallingBack (start [.function "" "var" [.word "" "--a"] "" true, .word " " "y"])
        belowBoth ∧
      ∃ final, step fallingBack final = none ∧ final.hidden = [] ∧
        Steps fallingBack belowBoth final ∧
        (belowBoth.current :: belowBoth.callers).IsChain (CalledBy fallingBack) ∧
        ∀ a ∈ belowBoth.current :: belowBoth.callers, a.restarts ≤ fallbacksAll a.entered := by
  have hsteps : Steps fallingBack
      (start [.function "" "var" [.word "" "--a"] "" true, .word " " "y"]) belowBoth :=
    .head rfl (.head rfl (.head rfl (.head rfl .refl)))
  obtain ⟨final, hnone, -, hhidden, hall⟩ := resolver_ends fallingBack
    [.function "" "var" [.word "" "--a"] "" true, .word " " "y"]
  obtain ⟨hend, -, hchain, hbound⟩ := hall belowBoth hsteps
  exact ⟨hsteps, final, hnone, hhidden, hend, hchain, hbound⟩

end CustomProperties
