import CustomProperties.Proofs.RoundTrip.Grammar
import CustomProperties.Proofs.RoundTrip.OpenEnd
import Mathlib.Tactic.Common

/-!
# Blocks of rules

`ruleBlocks` lists the blocks of a text that belong to rules and at-rules, and `openBlocks` counts
those that nothing closes. A bracket in a declaration or in the head of a rule is none of them,
open or not.
-/

namespace CustomProperties

open Css (Component Lexeme)

namespace Css.Component

/-- A block of a rule or an at-rule as it stands in a text: what it holds, and the mark that closes
it, if one does. -/
structure RuleBlock where
  contents : List Component
  closer : Option Lexeme

/-- The cut at the end of the head of the item that starts at a component: an at-rule's head ends at
a block or a semicolon, a rule's at a block, and a declaration has none and ends at a semicolon. -/
def headCut (c : Component) (rest : List Component) : Split :=
  match c.itemKind rest with
  | .gap | .comment => ⟨[c], none, rest⟩
  | .atRule => splitAt endsHead rest
  | .rule => splitAt isCurly (c :: rest)
  | .declaration => splitAt isSemicolon (c :: rest)

section

variable {c stop : Component} {rest front cs : List Component} {keyword : Lexeme}

lemma headCut_gap (h : c.itemKind rest = .gap) : headCut c rest = ⟨[c], none, rest⟩ := by
  rw [headCut, h]

lemma headCut_comment (h : c.itemKind rest = .comment) : headCut c rest = ⟨[c], none, rest⟩ := by
  rw [headCut, h]

lemma headCut_token_of_atKeyword (h : keyword.token = .atKeyword) :
    headCut (token keyword) rest = splitAt endsHead rest := by
  have hkind : (token keyword).itemKind rest = .atRule := by simp [itemKind, h]
  rw [headCut, hkind]

lemma headCut_atRule (h : keyword.token = .atKeyword) (hfront : ∀ d ∈ front, d.endsHead = false)
    (hstop : stop.endsHead) :
    headCut (token keyword) (front ++ stop :: cs) = ⟨front, some stop, cs⟩ := by
  rw [headCut_token_of_atKeyword h, splitAt_append_cons hfront hstop]

lemma headCut_atStatement {semicolon : Lexeme} (h : keyword.token = .atKeyword)
    (hfront : ∀ d ∈ front, d.endsHead = false) (hsemicolon : semicolon.token = .semicolon) :
    headCut (token keyword) (front ++ token semicolon :: cs)
      = ⟨front, some (token semicolon), cs⟩ :=
  headCut_atRule h hfront (endsHead_of_semicolon hsemicolon)

lemma headCut_atRule_unended (h : keyword.token = .atKeyword)
    (hfront : ∀ d ∈ front, d.endsHead = false) :
    headCut (token keyword) front = ⟨front, none, []⟩ := by
  rw [headCut_token_of_atKeyword h, splitAt_of_forall hfront]

lemma headCut_rule (h : c.itemKind rest = .rule) (heq : c :: rest = front ++ stop :: cs)
    (hfront : ∀ d ∈ front, d.isCurly = false) (hstop : stop.isCurly) :
    headCut c rest = ⟨front, some stop, cs⟩ := by
  rw [headCut, h]
  simp only
  rw [heq, splitAt_append_cons hfront hstop]

lemma headCut_declaration {semicolon : Lexeme} (h : c.itemKind rest = .declaration)
    (heq : c :: rest = front ++ token semicolon :: cs)
    (hfront : ∀ d ∈ front, d.isSemicolon = false) (hsemicolon : semicolon.token = .semicolon) :
    headCut c rest = ⟨front, some (token semicolon), cs⟩ := by
  rw [headCut, h]
  simp only
  rw [heq, splitAt_append_cons hfront (isSemicolon_of_semicolon hsemicolon)]

lemma headCut_declaration_unended (h : c.itemKind rest = .declaration)
    (hfront : ∀ d ∈ c :: rest, d.isSemicolon = false) :
    headCut c rest = ⟨c :: rest, none, []⟩ := by
  rw [headCut, h]
  simp only
  rw [splitAt_of_forall hfront]

end

lemma sizeOf_headCut_rest_lt (c : Component) (rest : List Component) :
    sizeOf (headCut c rest).rest < sizeOf (c :: rest) := by
  unfold headCut
  split
  · exact sizeOf_lt_cons (Nat.le_refl _)
  · exact sizeOf_lt_cons (Nat.le_refl _)
  · exact sizeOf_lt_cons (sizeOf_splitAt_rest_le _ _)
  · exact sizeOf_splitAt_rest_lt ..
  · exact sizeOf_splitAt_rest_lt ..

lemma sizeOf_headCut_contents_lt {c : Component} {rest contents : List Component}
    {opener : Lexeme} {bracket : Css.Bracket} {closer : Option Lexeme}
    (h : (headCut c rest).stop = some (block opener bracket contents closer)) :
    sizeOf contents < sizeOf (c :: rest) := by
  unfold headCut at h
  split at h
  · cases h
  · cases h
  · exact sizeOf_lt_cons (Nat.le_of_lt (sizeOf_contents_lt h))
  · exact sizeOf_contents_lt h
  · exact sizeOf_contents_lt h

/-- The blocks of the rules and at-rules in a sequence of components, outer ones first. -/
def ruleBlocks : List Component → List RuleBlock
  | [] => []
  | c :: rest =>
    match _h : (headCut c rest).stop with
    | some (block _ _ contents closer) =>
      ⟨contents, closer⟩ :: (ruleBlocks contents ++ ruleBlocks (headCut c rest).rest)
    | _ => ruleBlocks (headCut c rest).rest
termination_by components => sizeOf components
decreasing_by
  · exact sizeOf_headCut_contents_lt _h
  · exact sizeOf_headCut_rest_lt c rest
  · exact sizeOf_headCut_rest_lt c rest

@[simp] lemma ruleBlocks_nil : ruleBlocks [] = [] := by rw [ruleBlocks]

variable {c : Component} {rest front cs contents : List Component}

lemma ruleBlocks_of_block {opener : Lexeme} {bracket : Css.Bracket} {closer : Option Lexeme}
    (h : headCut c rest = ⟨front, some (block opener bracket contents closer), cs⟩) :
    ruleBlocks (c :: rest) = ⟨contents, closer⟩ :: (ruleBlocks contents ++ ruleBlocks cs) := by
  rw [ruleBlocks]
  split
  · next heq =>
    rw [h] at heq ⊢
    cases heq
    rfl
  · next hne =>
    rw [h] at hne
    exact absurd rfl (hne _ _ _ _)

lemma ruleBlocks_of_no_block {stop : Option Component} (h : headCut c rest = ⟨front, stop, cs⟩)
    (hstop : ∀ d ∈ stop, ∃ l, d = token l) : ruleBlocks (c :: rest) = ruleBlocks cs := by
  rw [ruleBlocks]
  split
  · next heq =>
    rw [h] at heq
    obtain ⟨l, hl⟩ := hstop _ heq
    cases hl
  · rw [h]

lemma stop_append_rest_suffix (p : Component → Bool) (cs : List Component) :
    (splitAt p cs).stop.toList ++ (splitAt p cs).rest <:+ cs :=
  ⟨(splitAt p cs).front, by rw [← List.append_assoc, splitAt_append]⟩

/-- What ends the head of an item and what comes after it stand in the sequence. -/
lemma headCut_suffix (c : Component) (rest : List Component) :
    (headCut c rest).stop.toList ++ (headCut c rest).rest <:+ c :: rest := by
  unfold headCut
  split
  · exact List.suffix_cons c rest
  · exact List.suffix_cons c rest
  · exact (stop_append_rest_suffix _ _).trans (List.suffix_cons c rest)
  · exact stop_append_rest_suffix _ _
  · exact stop_append_rest_suffix _ _

/-- How many blocks of rules and at-rules nothing closes. -/
def openBlocks (components : List Component) : Nat :=
  (ruleBlocks components).countP (·.closer.isNone)

@[simp] lemma openBlocks_nil : openBlocks [] = 0 := by simp [openBlocks]

lemma openBlocks_of_block {opener : Lexeme} {bracket : Css.Bracket} {closer : Option Lexeme}
    (h : headCut c rest = ⟨front, some (block opener bracket contents closer), cs⟩) :
    openBlocks (c :: rest)
      = openBlocks contents + openBlocks cs + (if closer.isNone then 1 else 0) := by
  simp [openBlocks, ruleBlocks_of_block h, List.countP_cons]

lemma openBlocks_of_no_block {stop : Option Component} (h : headCut c rest = ⟨front, stop, cs⟩)
    (hstop : ∀ d ∈ stop, ∃ l, d = token l) : openBlocks (c :: rest) = openBlocks cs := by
  rw [openBlocks, ruleBlocks_of_no_block h hstop, openBlocks]

/-- In components that are all closed no block is open. -/
lemma openBlocks_of_closed (h : ∀ c ∈ cs, Closed c) : openBlocks cs = 0 := by
  rw [openBlocks, List.countP_eq_zero]
  fun_induction ruleBlocks cs with
  | case1 => simp
  | case2 c rest opener bracket contents closer hstop ihcontents ih =>
    have hsuffix := headCut_suffix c rest
    rw [hstop] at hsuffix
    have hblock := h _ (hsuffix.subset List.mem_cons_self)
    have hrest := ih fun d hd => h d (hsuffix.subset (List.mem_cons_of_mem _ hd))
    cases hblock with
    | block _ hcontents _ =>
      intro b hb
      rcases List.mem_cons.1 hb with rfl | hb
      · simp
      · exact (List.mem_append.1 hb).elim (ihcontents hcontents b) (hrest b)
  | case3 c rest hstop ih =>
    exact ih fun d hd => h d ((headCut_suffix c rest).subset (List.mem_append_right _ hd))

end Css.Component

end CustomProperties
