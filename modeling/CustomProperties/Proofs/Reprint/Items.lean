import CustomProperties.Proofs.RoundTrip.Grammar
import Mathlib.Tactic.Common

/-!
# Items in other places

An item that a mark ends reads as the same node whatever stands behind it, and gaps read as gaps
before every item. The one exception is a rule with nothing before its block: what comes after such
a block decides whether it is a rule.
-/

namespace CustomProperties

open Css (Component Lexeme)

namespace Css.Component

variable {c stop stop' : Component} {front rest rest' : List Component}

/-! ### Kinds of items -/

lemma startsRule_congr (hstop : stop.endsHead) (hstop' : stop'.endsHead)
    (hcurly : stop.isCurly = stop'.isCurly) :
    c.startsRule (front ++ stop :: rest) = c.startsRule (front ++ stop' :: rest') := by
  simp only [startsRule, List.find?_append, List.find?_cons_of_pos hstop,
    List.find?_cons_of_pos hstop']
  cases front.find? endsHead <;> simp [hcurly]

/-- What ends the head of an item decides its kind, and nothing behind that. -/
lemma itemKind_congr (hstop : stop.endsHead) (hstop' : stop'.endsHead)
    (hcurly : stop.isCurly = stop'.isCurly) :
    c.itemKind (front ++ stop :: rest) = c.itemKind (front ++ stop' :: rest') := by
  unfold itemKind
  rw [startsRule_congr hstop hstop' hcurly]

/-- A semicolon makes as little of a rule as the end of the text. -/
lemma itemKind_semicolon {semicolon : Lexeme} (h : semicolon.token = .semicolon) :
    c.itemKind (front ++ token semicolon :: rest) = c.itemKind front := by
  have hstarts : c.startsRule (front ++ token semicolon :: rest) = c.startsRule front := by
    have hcurly : (token semicolon).isCurly = false := rfl
    simp only [startsRule, List.find?_append, List.find?_cons_of_pos (endsHead_of_semicolon h)]
    cases front.find? endsHead <;> simp [hcurly]
  unfold itemKind
  rw [hstarts]

/-- White space or a semicolon. -/
def IsGap (c : Component) : Prop :=
  ∃ l, c = token l ∧ (l.token = .blank ∨ l.token = .semicolon)

lemma IsGap.itemKind (h : c.IsGap) (rest : List Component) : c.itemKind rest = .gap := by
  obtain ⟨l, rfl, hl | hl⟩ := h <;> simp [Component.itemKind, hl]

lemma isGap_of_itemKind (h : c.itemKind rest = .gap) : c.IsGap := by
  unfold Component.itemKind at h
  simp only at h
  split at h
  · next l =>
    split at h
    · next hl => exact ⟨l, rfl, .inl hl⟩
    · next hl => exact ⟨l, rfl, .inr hl⟩
    · cases h
    · cases h
    · split at h <;> cases h
  · split at h <;> cases h

/-- A declaration has something in front of its semicolon. -/
lemma exists_cons_of_declaration {semicolon : Lexeme} {tail : List Component}
    (hkind : c.itemKind tail = .declaration) (heq : c :: tail = front ++ token semicolon :: rest)
    (hsemicolon : semicolon.token = .semicolon) :
    ∃ items, front = c :: items ∧ tail = items ++ token semicolon :: rest := by
  cases front with
  | nil =>
    cases heq
    have hgap : IsGap (token semicolon) := ⟨semicolon, rfl, .inr hsemicolon⟩
    rw [hgap.itemKind] at hkind
    cases hkind
  | cons d items =>
    cases heq
    exact ⟨items, rfl, rfl⟩

lemma exists_comment_of_itemKind (h : c.itemKind rest = .comment) :
    ∃ l, c = token l ∧ l.token = .comment := by
  unfold Component.itemKind at h
  simp only at h
  split at h
  · next l =>
    split at h
    · cases h
    · cases h
    · next hl => exact ⟨l, rfl, hl⟩
    · cases h
    · split at h <;> cases h
  · split at h <;> cases h

lemma itemKind_comment {l : Lexeme} (h : l.token = .comment) :
    (token l).itemKind rest = .comment := by
  simp [Component.itemKind, h]

end Css.Component

namespace Stylesheet

open Css.Component

variable {before : List Char} {cs gaps : List Component} {sheet : Stylesheet}

/-! ### One reading -/

/-- A sequence of components reads in one way only. -/
lemma Reads.ofComponentsAfter_eq (h : Reads before cs sheet) :
    ofComponentsAfter before cs = sheet := by
  induction h with
  | nil => exact ofComponentsAfter_nil _
  | gap hkind _ ih => rw [ofComponentsAfter, hkind, ih]
  | comment hkind _ ih => rw [ofComponentsAfter, hkind, ih]
  | @atBlock _ keyword opener closer front contents cs _ _ hkind hfront _ _ ihinner ih =>
    have hitem : (token keyword).itemKind (front ++ block opener .curly contents closer :: cs)
        = .atRule := by simp [itemKind, hkind]
    have hsplit : splitAt endsHead (front ++ block opener .curly contents closer :: cs) = _ :=
      splitAt_append_cons hfront rfl
    rw [ofComponentsAfter, hitem]
    simp only
    generalize splitAt endsHead (front ++ block opener .curly contents closer :: cs) = split
      at hsplit
    subst hsplit
    rw [ih, ← ihinner]
    rfl
  | @atStatement before keyword semicolon front cs sheet hkind hfront hsemicolon _ ih =>
    have hitem : (token keyword).itemKind (front ++ token semicolon :: cs) = .atRule := by
      simp [itemKind, hkind]
    have hsplit : splitAt endsHead (front ++ token semicolon :: cs) = _ :=
      splitAt_append_cons hfront (endsHead_of_semicolon hsemicolon)
    rw [ofComponentsAfter, hitem]
    simp only
    generalize splitAt endsHead (front ++ token semicolon :: cs) = split at hsplit
    subst hsplit
    rw [ih]
    rfl
  | @atUnended before keyword front hkind hfront =>
    have hitem : (token keyword).itemKind front = .atRule := by simp [itemKind, hkind]
    have hsplit : splitAt endsHead front = _ := splitAt_of_forall hfront
    rw [ofComponentsAfter, hitem]
    simp only
    generalize splitAt endsHead front = split at hsplit
    subst hsplit
    rw [ofComponentsAfter_nil]
    rfl
  | @rule _ c _ _ tail _ _ _ _ _ hkind heq hfront _ _ ihinner ih =>
    have hsplit : splitAt isCurly (c :: tail) = _ :=
      (congrArg _ heq).trans (splitAt_append_cons hfront rfl)
    rw [ofComponentsAfter, hkind]
    simp only
    generalize splitAt isCurly (c :: tail) = split at hsplit
    subst hsplit
    rw [ih, ← ihinner]
    rfl
  | @declaration before c semicolon tail front cs sheet hkind heq hfront hsemicolon _ ih =>
    have hsplit : splitAt isSemicolon (c :: tail) = _ :=
      (congrArg _ heq).trans (splitAt_append_cons hfront (isSemicolon_of_semicolon hsemicolon))
    rw [ofComponentsAfter, hkind]
    simp only
    rw [hsplit, ih]
    rfl
  | @unended before c tail hkind hfront =>
    have hsplit : splitAt isSemicolon (c :: tail) = _ := splitAt_of_forall hfront
    rw [ofComponentsAfter, hkind]
    simp only
    rw [hsplit, ofComponentsAfter_nil]
    rfl

/-! ### Gaps -/

/-- Gaps read as gaps before anything. -/
lemma Reads.of_gaps (hgaps : ∀ c ∈ gaps, c.IsGap) (h : Reads (before ++ textOf gaps) cs sheet) :
    Reads before (gaps ++ cs) sheet := by
  induction gaps generalizing before with
  | nil => simpa using h
  | cons c gaps ih =>
    rw [List.forall_mem_cons] at hgaps
    refine .gap (hgaps.1.itemKind _) (ih hgaps.2 ?_)
    simpa using h

/-- A sheet without nodes is all gaps. -/
lemma Reads.isGap_of_nodes_eq_nil (h : Reads before cs sheet) (hnodes : sheet.nodes = []) :
    (∀ c ∈ cs, c.IsGap) ∧ sheet.after.toList = before ++ textOf cs := by
  induction h with
  | nil => simp
  | gap hkind _ ih =>
    obtain ⟨hgaps, hafter⟩ := ih hnodes
    exact ⟨List.forall_mem_cons.2 ⟨isGap_of_itemKind hkind, hgaps⟩, by simpa using hafter⟩
  | comment => cases hnodes
  | atBlock => cases hnodes
  | atStatement => cases hnodes
  | atUnended => cases hnodes
  | rule => cases hnodes
  | declaration => cases hnodes
  | unended => cases hnodes

end Stylesheet

end CustomProperties
