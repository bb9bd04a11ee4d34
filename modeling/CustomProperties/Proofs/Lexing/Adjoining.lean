import CustomProperties.Proofs.Lexing.Joins
import CustomProperties.Proofs.Lexing.Nesting
import Mathlib.Tactic.Common

/-!
# Components one after the other

Components whose brackets are all closed leave nothing open, so that what comes behind them is
grouped as it is on its own (`group_append`). If their lexemes are read again whatever comes behind
them, the same is true of texts (`components_append`).
-/

namespace CustomProperties.Css

namespace Component

variable {base inner inner' : List Component} {frames frames' : List Frame} {c : Component}

namespace Grouping

/-- The second state of grouping is the first one with `base`, in reverse, before all it holds. -/
inductive Over (base : List Component) :
    List Frame → List Component → List Frame → List Component → Prop where
  | nil {inner : List Component} : Over base [] inner [] (inner ++ base)
  | cons {opener : Lexeme} {bracket : Bracket} {frames frames' : List Frame}
      {outer outer' inner : List Component} (houter : Over base frames outer frames' outer') :
      Over base (⟨outer, opener, bracket⟩ :: frames) inner (⟨outer', opener, bracket⟩ :: frames')
        inner

lemma Over.add (h : Over base frames inner frames' inner') (c : Component) :
    Over base frames (c :: inner) frames' (c :: inner') := by
  cases h with
  | nil => exact .nil
  | cons houter => exact .cons houter

lemma Over.step {g g' : Grouping} (h : Over base g.frames g.inner g'.frames g'.inner) (l : Lexeme) :
    Over base (g.step l).frames (g.step l).inner (g'.step l).frames (g'.step l).inner := by
  obtain ⟨frames, inner⟩ := g
  obtain ⟨frames', inner'⟩ := g'
  cases hopens : l.token.opens? with
  | some bracket =>
    rw [step_of_opens hopens, step_of_opens hopens]
    exact .cons h
  | none =>
    cases h with
    | nil =>
      rw [step_of_token hopens (by simp), step_of_token hopens (by simp)]
      exact .nil
    | @cons opener bracket _ _ _ _ _ houter =>
      cases hcloses : l.token.closes bracket with
      | true =>
        rw [step_of_closes hopens hcloses, step_of_closes hopens hcloses]
        exact houter.add _
      | false =>
        rw [step_of_token hopens (by simpa using hcloses),
          step_of_token hopens (by simpa using hcloses)]
        exact .cons houter

lemma Over.foldl {g g' : Grouping} (h : Over base g.frames g.inner g'.frames g'.inner)
    (ls : List Lexeme) :
    Over base (ls.foldl Grouping.step g).frames (ls.foldl Grouping.step g).inner
      (ls.foldl Grouping.step g').frames (ls.foldl Grouping.step g').inner := by
  induction ls generalizing g g' with
  | nil => exact h
  | cons l ls ih => exact ih (h.step l)

lemma Over.finish_eq (h : Over base frames inner frames' inner') :
    finish frames' inner' = base.reverse ++ finish frames inner := by
  induction frames generalizing inner frames' inner' with
  | nil =>
    cases h
    simp [finish]
  | cons frame frames ih =>
    cases h with
    | cons houter =>
      rw [finish, finish]
      exact ih (houter.add _)

end Grouping

/-- What comes behind components that are closed is grouped as it is on its own. -/
lemma group_append {front : List Component} (h : ∀ c ∈ front, Fits none c) (ls : List Lexeme) :
    group (lexemesAll front ++ ls) = front ++ group ls := by
  have hover : Grouping.Over front.reverse Grouping.start.frames Grouping.start.inner
      (Grouping.mk [] front.reverse).frames (Grouping.mk [] front.reverse).inner := .nil
  have hfront : (lexemesAll front).foldl Grouping.step .start = ⟨[], front.reverse⟩ := by
    rw [Grouping.start, Grouping.foldl_step_lexemesAll h, List.append_nil]
  have hall := (hover.foldl ls).finish_eq
  rw [List.reverse_reverse] at hall
  rw [group, List.foldl_append, hfront, group]
  exact hall

end Component

/-- The components of a text that comes behind others, if they can stand before anything. -/
lemma components_append {front : List Component} (hfits : ∀ c ∈ front, Component.Fits none c)
    (hfirm : Firm (Component.lexemesAll front)) (text : List Char) :
    components (Component.textOf front ++ text) = front ++ components text := by
  rw [components, ← Component.textOf_lexemesAll, hfirm, Component.group_append hfits, components]

end CustomProperties.Css
