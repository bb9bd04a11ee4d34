import CustomProperties.Proofs.Lexing.Lexemes
import CustomProperties.Proofs.RoundTrip.OpenEnd
import Mathlib.Tactic.Common

/-!
# Grouping lexemes again

Components whose brackets are all closed, and that hold no mark that would close a bracket around
them, are what their lexemes group to (`group_lexemesAll`). The components of a text are such if its
brackets are all closed (`fits_components`).
-/

namespace CustomProperties.Css.Component

/-- A component with all its brackets closed that can stand directly inside of a bracket of the kind
`outer`, or at the top if there is none. -/
inductive Fits : Option Bracket → Component → Prop where
  | token {outer : Option Bracket} {l : Lexeme} (hopens : l.token.opens? = none)
      (hcloses : ∀ bracket ∈ outer, l.token.closes bracket = false) : Fits outer (token l)
  | block {outer : Option Bracket} {opener closer : Lexeme} {bracket : Bracket}
      {contents : List Component} (hopens : opener.token.opens? = some bracket)
      (hcontents : ∀ c ∈ contents, Fits (some bracket) c)
      (hcloses : closer.token.closes bracket = true) :
      Fits outer (block opener bracket contents (some closer))

/-- A component that fits at the top and is no mark of the given kind fits into a bracket. -/
lemma Fits.inside {bracket : Bracket} {c : Component} (h : Fits none c)
    (hmark : ∀ l, c = Component.token l → l.token.closes bracket = false) :
    Fits (some bracket) c := by
  cases h with
  | token hopens => exact .token hopens (by simpa using hmark _ rfl)
  | block hopens hcontents hcloses => exact .block hopens hcontents hcloses

/-! ### From components to lexemes and back -/

namespace Grouping

lemma step_of_opens {frames : List Frame} {inner : List Component} {l : Lexeme} {bracket : Bracket}
    (h : l.token.opens? = some bracket) :
    step ⟨frames, inner⟩ l = ⟨⟨inner, l, bracket⟩ :: frames, []⟩ := by
  rw [step, h]

lemma step_of_closes {frame : Frame} {frames : List Frame} {inner : List Component} {l : Lexeme}
    (hopens : l.token.opens? = none) (h : l.token.closes frame.bracket = true) :
    step ⟨frame :: frames, inner⟩ l = ⟨frames, frame.finish inner (some l)⟩ := by
  rw [step, hopens]
  simp [h]

lemma step_of_token {frames : List Frame} {inner : List Component} {l : Lexeme}
    (hopens : l.token.opens? = none)
    (h : ∀ bracket ∈ frames.head?.map (·.bracket), l.token.closes bracket = false) :
    step ⟨frames, inner⟩ l = ⟨frames, Component.token l :: inner⟩ := by
  rw [step, hopens]
  cases frames with
  | nil => rfl
  | cons frame frames => simp [h frame.bracket rfl]

lemma opens?_of_closes {l : Lexeme} {bracket : Bracket} (h : l.token.closes bracket = true) :
    l.token.opens? = none := by
  unfold Token.closes at h
  split at h
  · next hl => rw [hl]; rfl
  · cases h

mutual

/-- Taking in the lexemes of a component that fits adds that component. -/
lemma foldl_step_lexemes {frames : List Frame} {inner : List Component} {c : Component}
    (h : Fits (frames.head?.map (·.bracket)) c) :
    c.lexemes.foldl step ⟨frames, inner⟩ = ⟨frames, c :: inner⟩ := by
  match c with
  | Component.token l =>
    cases h with
    | token hopens hcloses => simp [step_of_token hopens hcloses]
  | Component.block opener bracket contents closer =>
    cases h with
    | block hopens hcontents hcloses =>
      rw [lexemes_block, List.foldl_cons, step_of_opens hopens, List.foldl_append,
        foldl_step_lexemesAll hcontents, Option.toList_some, List.foldl_cons, List.foldl_nil,
        step_of_closes (opens?_of_closes hcloses) hcloses, Frame.finish]
      simp

/-- Taking in the lexemes of components that fit adds these components. -/
lemma foldl_step_lexemesAll {frames : List Frame} {inner cs : List Component}
    (h : ∀ c ∈ cs, Fits (frames.head?.map (·.bracket)) c) :
    (lexemesAll cs).foldl step ⟨frames, inner⟩ = ⟨frames, cs.reverse ++ inner⟩ := by
  match cs with
  | [] => simp
  | c :: cs =>
    rw [List.forall_mem_cons] at h
    rw [lexemesAll_cons, List.foldl_append, foldl_step_lexemes h.1, foldl_step_lexemesAll h.2]
    simp

end

end Grouping

/-- Components that fit at the top are what their lexemes group to. -/
lemma group_lexemesAll {cs : List Component} (h : ∀ c ∈ cs, Fits none c) :
    group (lexemesAll cs) = cs := by
  rw [group, Grouping.start, Grouping.foldl_step_lexemesAll h]
  simp [Grouping.finish]

/-! ### The components of a text -/

namespace Grouping

/-- What was grouped so far fits where it stands. -/
inductive Nests : List Frame → List Component → Prop where
  | nil {inner : List Component} (hinner : ∀ c ∈ inner, Fits none c) : Nests [] inner
  | cons {frame : Frame} {frames : List Frame} {inner : List Component}
      (hopens : frame.opener.token.opens? = some frame.bracket)
      (hinner : ∀ c ∈ inner, Fits (some frame.bracket) c) (houter : Nests frames frame.outer) :
      Nests (frame :: frames) inner

lemma Nests.add {frames : List Frame} {inner : List Component} {c : Component}
    (h : Nests frames inner) (hc : Fits (frames.head?.map (·.bracket)) c) :
    Nests frames (c :: inner) := by
  cases h with
  | nil hinner => exact .nil (List.forall_mem_cons.2 ⟨hc, hinner⟩)
  | cons hopens hinner houter => exact .cons hopens (List.forall_mem_cons.2 ⟨hc, hinner⟩) houter

lemma Nests.step {g : Grouping} (h : Nests g.frames g.inner) (l : Lexeme) :
    Nests (g.step l).frames (g.step l).inner := by
  obtain ⟨frames, inner⟩ := g
  cases hopens : l.token.opens? with
  | some bracket =>
    rw [step_of_opens hopens]
    exact .cons hopens (by simp) h
  | none =>
    by_cases hcloses : ∃ bracket ∈ frames.head?.map (·.bracket), l.token.closes bracket = true
    · obtain ⟨bracket, hbracket, hcloses⟩ := hcloses
      cases h with
      | nil => cases hbracket
      | cons hframe hinner houter =>
        cases hbracket
        rw [step_of_closes hopens hcloses]
        exact houter.add (.block hframe (by simpa using hinner) hcloses)
    · have hnone : ∀ bracket ∈ frames.head?.map (·.bracket), l.token.closes bracket = false := by
        simpa using hcloses
      rw [step_of_token hopens hnone]
      exact h.add (.token hopens hnone)

lemma Nests.foldl {g : Grouping} (h : Nests g.frames g.inner) (ls : List Lexeme) :
    Nests (ls.foldl Grouping.step g).frames (ls.foldl Grouping.step g).inner := by
  induction ls generalizing g with
  | nil => exact h
  | cons l ls ih => exact ih (h.step l)

/-- What is not closed stays so. -/
lemma exists_not_closed_finish {frames : List Frame} {inner : List Component}
    (h : frames ≠ [] ∨ ∃ c ∈ inner, ¬ c.Closed) : ∃ c ∈ finish frames inner, ¬ c.Closed := by
  induction frames generalizing inner with
  | nil => simpa [finish] using h
  | cons frame frames ih =>
    refine ih (.inr ⟨_, List.mem_cons_self, fun hclosed => ?_⟩)
    cases hclosed

end Grouping

end Component

/-- The components of a text all fit at the top if all of its brackets are closed. -/
lemma fits_components {text : List Char} (h : ∀ c ∈ components text, c.Closed) :
    ∀ c ∈ components text, Component.Fits none c := by
  have hnests := Component.Grouping.Nests.foldl (g := .start)
    (.nil (by simp [Component.Grouping.start])) (lex text)
  unfold components Component.group at h ⊢
  generalize (lex text).foldl Component.Grouping.step .start = g at h hnests
  obtain ⟨frames, inner⟩ := g
  cases hnests with
  | nil hinner => simpa [Component.Grouping.finish] using hinner
  | @cons frame frames =>
    have hne : frame :: frames ≠ [] ∨ ∃ c ∈ inner, ¬ c.Closed := .inl (List.cons_ne_nil _ _)
    obtain ⟨c, hc, hopen⟩ := Component.Grouping.exists_not_closed_finish hne
    exact absurd (h c hc) hopen

end CustomProperties.Css
