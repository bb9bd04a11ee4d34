import CustomProperties.Proofs.Lexing.Nesting
import Mathlib.Tactic.Common

/-!
# Brackets left open

Which brackets are open at the end of a text is told by its lexemes, one after the other
(`openBrackets`). Of the components of the text, the last one is the outermost of these brackets, the
last component inside of it the next one, and so on; every other component is closed
(`leavesOpen_components`).
-/

namespace CustomProperties.Css

/-- The brackets that are open after a lexeme, innermost first, given those open before it. A mark
closes the innermost bracket or none. -/
def openAfter (opened : List Bracket) (l : Lexeme) : List Bracket :=
  match l.token.opens?, opened with
  | some bracket, _ => bracket :: opened
  | none, bracket :: outer => if l.token.closes bracket then outer else opened
  | none, [] => []

/-- The functions and brackets that are open at the end of a text, innermost first. -/
def openBrackets (text : List Char) : List Bracket := (lex text).foldl openAfter []

namespace Component

/-- Components that stand directly inside of a bracket of the kind `outer`, and the brackets that
they leave open, outermost first. -/
inductive LeavesOpen : Option Bracket → List Component → List Bracket → Prop where
  | none {outer : Option Bracket} {cs : List Component} (hcs : ∀ c ∈ cs, Fits outer c) :
      LeavesOpen outer cs []
  | last {outer : Option Bracket} {front contents : List Component} {opener : Lexeme}
      {bracket : Bracket} {opened : List Bracket} (hfront : ∀ c ∈ front, Fits outer c)
      (hopens : opener.token.opens? = some bracket)
      (hcontents : LeavesOpen (some bracket) contents opened) :
      LeavesOpen outer (front ++ [block opener bracket contents Option.none]) (bracket :: opened)

namespace Grouping

/-- Grouping keeps the brackets that are open. -/
lemma map_bracket_step (g : Grouping) (l : Lexeme) :
    (g.step l).frames.map (·.bracket) = openAfter (g.frames.map (·.bracket)) l := by
  obtain ⟨frames, inner⟩ := g
  cases hopens : l.token.opens? with
  | some bracket => simp [step_of_opens hopens, openAfter, hopens]
  | none =>
    cases frames with
    | nil =>
      have htop : ∀ bracket ∈ ([] : List Frame).head?.map (·.bracket),
          l.token.closes bracket = false := by simp
      simp [step_of_token hopens htop, openAfter, hopens]
    | cons frame frames =>
      cases hcloses : l.token.closes frame.bracket with
      | true => simp [step_of_closes hopens hcloses, openAfter, hopens, hcloses]
      | false =>
        have hinside : ∀ bracket ∈ (frame :: frames).head?.map (·.bracket),
            l.token.closes bracket = false := by simpa using hcloses
        simp [step_of_token hopens hinside, openAfter, hopens, hcloses]

lemma map_bracket_foldl (ls : List Lexeme) (g : Grouping) :
    (ls.foldl step g).frames.map (·.bracket)
      = ls.foldl openAfter (g.frames.map (·.bracket)) := by
  induction ls generalizing g with
  | nil => rfl
  | cons l ls ih => rw [List.foldl_cons, List.foldl_cons, ih, map_bracket_step]

variable {frames : List Frame} {inner : List Component}

lemma Nests.fits (h : Nests frames inner) :
    ∀ c ∈ inner, Fits (frames.head?.map (·.bracket)) c := by
  cases h with
  | nil hinner => exact hinner
  | cons hopens hinner houter => exact hinner

lemma Nests.surrounds (h : Nests frames inner) : Nests frames [] := by
  cases h with
  | nil hinner => exact .nil (by simp)
  | cons hopens hinner houter => exact .cons hopens (by simp) houter

/-- What stands open when the text ends is ended from the innermost bracket outwards. -/
lemma leavesOpen_finish {opened : List Bracket} (hframes : Nests frames [])
    (hinner : LeavesOpen (frames.head?.map (·.bracket)) inner.reverse opened) :
    LeavesOpen none (finish frames inner) ((frames.map (·.bracket)).reverse ++ opened) := by
  induction frames generalizing inner opened with
  | nil => exact hinner
  | cons frame frames ih =>
    cases hframes with
    | cons hopens _ houter =>
      rw [finish, List.map_cons, List.reverse_cons, List.append_assoc]
      apply ih houter.surrounds
      rw [Frame.finish, List.reverse_cons]
      exact .last (by simpa using houter.fits) hopens hinner

end Grouping

end Component

open Component in
/-- The components of a text leave those brackets open that its lexemes do. -/
lemma leavesOpen_components (text : List Char) :
    LeavesOpen none (components text) (openBrackets text).reverse := by
  have hnests := Grouping.Nests.foldl (g := .start) (.nil (by simp [Grouping.start])) (lex text)
  have hbrackets := Grouping.map_bracket_foldl (lex text) .start
  rw [components, group, openBrackets, ← List.append_nil (List.reverse _)]
  have hstart : Grouping.start.frames.map (·.bracket) = [] := rfl
  rw [hstart] at hbrackets
  rw [← hbrackets]
  exact Grouping.leavesOpen_finish hnests.surrounds (.none (by simpa using hnests.fits))

end CustomProperties.Css
