import CustomProperties.Proofs.Lexing.Lexemes
import Mathlib.Tactic.Common

/-!
# Brackets that are never closed

A bracket is open at the end of a text if nothing closes it. Whatever comes after it then stands
inside of it, so open brackets hold one another: `openEnd_components` says that in every sequence of
components only the last one can be open, and that the same is true inside of it.
-/

namespace CustomProperties.Css

/-! ### Spelling -/

/-- Whether a lexeme is written as its token says, for the tokens that have one spelling. -/
def Lexeme.Spelled (l : Lexeme) : Prop :=
  match l.token with
  | .atKeyword => ∃ name, l.text = '@' :: name
  | .opening bracket => l.text = [bracket.opening]
  | .closing bracket => l.text = [bracket.closing]
  | .semicolon => l.text = [';']
  | _ => True

lemma spelled_readName (c : Char) (rest : List Char) :
    Lexeme.Spelled ⟨(readName c rest).token, (readName c rest).cut.1⟩ := by
  unfold readName
  simp only
  split
  · split <;> exact trivial
  · exact trivial

lemma spelled_readPunctuation (c : Char) (rest : List Char) :
    Lexeme.Spelled ⟨(readPunctuation c rest).token, (readPunctuation c rest).cut.1⟩ := by
  unfold readPunctuation
  repeat' split
  case h_2.isTrue => exact ⟨_, rfl⟩
  all_goals first | exact trivial | exact spelled_readName ..

lemma spelled_read (c : Char) (rest : List Char) :
    Lexeme.Spelled ⟨(read c rest).token, (read c rest).cut.1⟩ := by
  unfold read
  repeat' split
  all_goals first
    | exact trivial | exact rfl | exact spelled_readName .. | exact spelled_readPunctuation ..

lemma spelled_of_mem_lex {text : List Char} {l : Lexeme} (h : l ∈ lex text) : l.Spelled :=
  of_mem_lex spelled_read h

/-- Whether a lexeme opens a bracket, and is written as such. -/
structure Lexeme.Opens (l : Lexeme) (bracket : Bracket) : Prop where
  opens : l.token.opens? = some bracket
  spelled : l.Spelled

lemma Lexeme.Opens.text_eq {l : Lexeme} (h : l.Opens .curly) : l.text = ['{'] := by
  obtain ⟨opens, spelled⟩ := h
  unfold Token.opens? at opens
  unfold Lexeme.Spelled at spelled
  split at opens
  · cases opens
  · next bracket ht =>
    cases opens
    rwa [ht] at spelled
  · cases opens

lemma Lexeme.text_eq_of_semicolon {l : Lexeme} (h : l.Spelled) (hl : l.token = .semicolon) :
    l.text = [';'] := by
  unfold Lexeme.Spelled at h
  rwa [hl] at h

lemma Lexeme.text_eq_of_atKeyword {l : Lexeme} (h : l.Spelled) (hl : l.token = .atKeyword) :
    ∃ name, l.text = '@' :: name := by
  unfold Lexeme.Spelled at h
  rwa [hl] at h

lemma Lexeme.text_eq_of_closes {l : Lexeme} {bracket : Bracket} (h : l.Spelled)
    (hcloses : l.token.closes bracket) : l.text = [bracket.closing] := by
  unfold Token.closes at hcloses
  unfold Lexeme.Spelled at h
  split at hcloses
  · next b ht =>
    rw [ht] at h
    rw [h, eq_of_beq hcloses]
  · cases hcloses

namespace Component

/-! ### Open and closed components -/

/-- Every bracket of a component is closed by its mark, those inside included. -/
inductive Closed : Component → Prop where
  | token {l : Lexeme} (hl : l.Spelled) : Closed (token l)
  | block {opener closer : Lexeme} {bracket : Bracket} {contents : List Component}
      (hopener : opener.Opens bracket) (hcontents : ∀ c ∈ contents, Closed c)
      (hcloser : closer.text = [bracket.closing]) :
      Closed (block opener bracket contents (some closer))

lemma Closed.spelled {l : Lexeme} (h : (Component.token l).Closed) : l.Spelled := by
  cases h with
  | token hl => exact hl

/-- The components of a sequence are closed, except that the last one may be an open bracket that
holds such a sequence in turn. -/
inductive OpenEnd : List Component → Prop where
  | nil : OpenEnd []
  | cons {c : Component} {cs : List Component} (hc : c.Closed) (hcs : OpenEnd cs) :
      OpenEnd (c :: cs)
  | opened {opener : Lexeme} {bracket : Bracket} {contents : List Component}
      (hopener : opener.Opens bracket) (hcontents : OpenEnd contents) :
      OpenEnd [block opener bracket contents none]

namespace OpenEnd

variable {c : Component} {cs front : List Component}

lemma append (hfront : ∀ c ∈ front, Closed c) (hcs : OpenEnd cs) : OpenEnd (front ++ cs) := by
  induction front with
  | nil => exact hcs
  | cons c front ih =>
    exact .cons (hfront c List.mem_cons_self) (ih fun d hd => hfront d (List.mem_cons_of_mem _ hd))

lemma of_closed (h : ∀ c ∈ cs, Closed c) : OpenEnd cs := by
  simpa using append h .nil

/-- Something comes after a component: then it is closed. -/
lemma of_append (h : OpenEnd (front ++ cs)) (hcs : cs ≠ []) :
    (∀ c ∈ front, Closed c) ∧ OpenEnd cs := by
  induction front with
  | nil => exact ⟨by simp, h⟩
  | cons d front ih =>
    rw [List.cons_append] at h
    generalize htail : front ++ cs = tail at h
    cases h with
    | cons hd htl =>
      subst htail
      obtain ⟨hfront, hcs⟩ := ih htl
      exact ⟨List.forall_mem_cons.2 ⟨hd, hfront⟩, hcs⟩
    | opened => exact absurd (List.append_eq_nil_iff.1 htail).2 hcs

lemma tail (h : OpenEnd (c :: cs)) : OpenEnd cs := by
  cases h with
  | cons _ hcs => exact hcs
  | opened => exact .nil

lemma spelled {l : Lexeme} (h : OpenEnd (token l :: cs)) : l.Spelled := by
  cases h with
  | cons hl _ => exact hl.spelled

end OpenEnd

/-! ### Grouping -/

/-- All that was grouped so far is closed, and what stands open was opened. -/
structure Grouping.Sound (g : Grouping) : Prop where
  inner : ∀ c ∈ g.inner, c.Closed
  outer : ∀ frame ∈ g.frames, ∀ c ∈ frame.outer, c.Closed
  opens : ∀ frame ∈ g.frames, frame.opener.Opens frame.bracket

namespace Grouping

lemma Sound.step {g : Grouping} {l : Lexeme} (h : g.Sound) (hl : l.Spelled) :
    (g.step l).Sound := by
  obtain ⟨frames, inner⟩ := g
  obtain ⟨hinner, houter, hopens⟩ := h
  unfold Grouping.step
  split
  · next bracket hb =>
    exact ⟨by simp, List.forall_mem_cons.2 ⟨hinner, houter⟩,
      List.forall_mem_cons.2 ⟨⟨hb, hl⟩, hopens⟩⟩
  · next hb =>
    cases frames with
    | nil => exact ⟨List.forall_mem_cons.2 ⟨.token hl, hinner⟩, houter, hopens⟩
    | cons frame frames =>
      simp only
      split
      · next hcloses =>
        have hblock : Closed (block frame.opener frame.bracket inner.reverse (some l)) :=
          .block (hopens frame List.mem_cons_self) (by simpa using hinner)
            (Lexeme.text_eq_of_closes hl hcloses)
        exact ⟨List.forall_mem_cons.2 ⟨hblock, houter frame List.mem_cons_self⟩,
          fun f hf => houter f (List.mem_cons_of_mem _ hf),
          fun f hf => hopens f (List.mem_cons_of_mem _ hf)⟩
      · exact ⟨List.forall_mem_cons.2 ⟨.token hl, hinner⟩, houter, hopens⟩

lemma Sound.foldl {lexemes : List Lexeme} {g : Grouping} (h : g.Sound)
    (hl : ∀ l ∈ lexemes, l.Spelled) : (lexemes.foldl Grouping.step g).Sound := by
  induction lexemes generalizing g with
  | nil => exact h
  | cons l lexemes ih =>
    rw [List.forall_mem_cons] at hl
    exact ih (h.step hl.1) hl.2

/-- The brackets that are still open are ended inside of one another. -/
lemma openEnd_finish {frames : List Frame} {inner : List Component}
    (hinner : OpenEnd inner.reverse) (houter : ∀ frame ∈ frames, ∀ c ∈ frame.outer, c.Closed)
    (hopens : ∀ frame ∈ frames, frame.opener.Opens frame.bracket) :
    OpenEnd (finish frames inner) := by
  induction frames generalizing inner with
  | nil => exact hinner
  | cons frame frames ih =>
    rw [List.forall_mem_cons] at houter hopens
    refine ih ?_ houter.2 hopens.2
    rw [Frame.finish, List.reverse_cons]
    exact .append (by simpa using houter.1) (.opened hopens.1 hinner)

end Grouping

end Component

/-- Of the components of a text only the last one can be open. -/
lemma openEnd_components (text : List Char) : Component.OpenEnd (components text) := by
  have hstart : Component.Grouping.start.Sound := ⟨by simp [Component.Grouping.start],
    by simp [Component.Grouping.start], by simp [Component.Grouping.start]⟩
  obtain ⟨hinner, houter, hopens⟩ := hstart.foldl fun l (hl : l ∈ lex text) => spelled_of_mem_lex hl
  exact Component.Grouping.openEnd_finish (.of_closed (by simpa using hinner)) houter hopens

end CustomProperties.Css
