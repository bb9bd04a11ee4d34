import CustomProperties.Sheet.Parser
import Mathlib.Tactic.Common

/-!
# The grammar of style sheets

`Stylesheet.Reads before cs sheet` says which sheet a sequence of components is: what an item starts
with, where it ends, and which nodes are inside of it. The parser follows it (`reads_ofComponents`),
so that all that is proved about parsed sheets is proved by induction over the grammar.
-/

namespace CustomProperties

open Css (Component Lexeme)
open Text (trimEnd trailingBlanks)

namespace Css.Component

/-! ### Cuts -/

variable {p : Component → Bool} {c stop : Component} {cs front rest : List Component}

/-- A cut at the first component that satisfies `p`. -/
lemma splitAt_append_cons (hfront : ∀ c ∈ front, p c = false) (hstop : p stop = true) :
    splitAt p (front ++ stop :: rest) = ⟨front, some stop, rest⟩ := by
  induction front with
  | nil => simp [splitAt, hstop]
  | cons c front ih =>
    rw [List.forall_mem_cons] at hfront
    simp [splitAt, hfront.1, ih hfront.2]

/-- Without such a component all is in front. -/
lemma splitAt_of_forall (h : ∀ c ∈ cs, p c = false) : splitAt p cs = ⟨cs, none, []⟩ := by
  induction cs with
  | nil => rfl
  | cons c cs ih =>
    rw [List.forall_mem_cons] at h
    simp [splitAt, h.1, ih h.2]

/-- A sequence has a first component that satisfies `p`, or none. -/
lemma exists_eq_append_or_forall (p : Component → Bool) (cs : List Component) :
    (∃ front stop rest, cs = front ++ stop :: rest ∧ (∀ c ∈ front, p c = false) ∧ p stop = true) ∨
    (∀ c ∈ cs, p c = false) := by
  induction cs with
  | nil => exact .inr (by simp)
  | cons c cs ih =>
    cases hc : p c with
    | true => exact .inl ⟨[], c, cs, rfl, by simp, hc⟩
    | false =>
      rcases ih with ⟨front, stop, rest, rfl, hfront, hstop⟩ | h
      · exact .inl ⟨c :: front, stop, rest, rfl, List.forall_mem_cons.2 ⟨hc, hfront⟩, hstop⟩
      · exact .inr (List.forall_mem_cons.2 ⟨hc, h⟩)

lemma exists_eq_block_of_isCurly (h : stop.isCurly) :
    ∃ opener contents closer, stop = block opener .curly contents closer := by
  unfold isCurly at h
  split at h
  · exact ⟨_, _, _, rfl⟩
  · cases h

lemma endsHead_of_semicolon {l : Lexeme} (h : l.token = .semicolon) : (token l).endsHead := by
  simp [endsHead, isSemicolon, h]

lemma isSemicolon_of_semicolon {l : Lexeme} (h : l.token = .semicolon) : (token l).isSemicolon := by
  simp [isSemicolon, h]

lemma exists_eq_token_of_isSemicolon (h : stop.isSemicolon) :
    ∃ l, stop = token l ∧ l.token = .semicolon := by
  cases stop with
  | token l => exact ⟨l, rfl, eq_of_beq h⟩
  | block => cases h

/-- What starts a rule has a block. -/
lemma exists_isCurly_of_rule (h : c.itemKind cs = .rule) : ∃ d ∈ c :: cs, d.isCurly := by
  have hstarts : c.startsRule cs := by cases c <;> grind [itemKind]
  rw [startsRule, Bool.and_eq_true, Option.any_eq_true] at hstarts
  obtain ⟨-, d, hd, hcurly⟩ := hstarts
  exact ⟨d, List.mem_cons_of_mem _ (List.mem_of_find?_eq_some hd), hcurly⟩

lemma token_eq_of_itemKind_atRule (h : c.itemKind cs = .atRule) :
    ∃ l, c = token l ∧ l.token = .atKeyword := by
  cases c <;> grind [itemKind]

end Css.Component

/-! ### Heads -/

/-- The head of a rule, given its selector with the blanks after it. -/
def RuleHead.ofText (before selector : List Char) : RuleHead :=
  ⟨0, String.ofList before, String.ofList (trimEnd selector), String.ofList (trailingBlanks selector)⟩

/-- The head of an at-rule, given its keyword and its parameters with the blanks around them. -/
def AtHead.ofText (before keyword params : List Char) : AtHead :=
  ⟨0, String.ofList before, String.ofList (keyword.drop 1), String.ofList (trimEnd params),
    String.ofList (trailingBlanks params)⟩

/-- The end of a block, given the nodes inside and what the block is in the text. -/
def BlockEnd.ofText (inner : Stylesheet) (contents : List Component) (closer : Option Lexeme) :
    BlockEnd :=
  ⟨inner.after, Component.countsAsClosed .curly contents closer⟩

namespace Stylesheet

open Css.Component

/-- A sequence of components, with some gaps seen before it, reads as a sheet. -/
inductive Reads : List Char → List Component → Stylesheet → Prop where
  | nil {before : List Char} : Reads before [] ⟨[], String.ofList before⟩
  /-- White space and semicolons go before the next item. -/
  | gap {before : List Char} {c : Component} {cs : List Component} {sheet : Stylesheet}
      (hkind : c.itemKind cs = .gap) (hrest : Reads (before ++ c.text) cs sheet) :
      Reads before (c :: cs) sheet
  | comment {before : List Char} {c : Component} {cs : List Component} {sheet : Stylesheet}
      (hkind : c.itemKind cs = .comment) (hrest : Reads [] cs sheet) :
      Reads before (c :: cs)
        (sheet.cons (.comment ⟨0, String.ofList before, String.ofList c.text⟩))
  /-- An at-rule whose head is ended by a block. -/
  | atBlock {before : List Char} {keyword opener : Lexeme} {closer : Option Lexeme}
      {front contents cs : List Component} {inner sheet : Stylesheet}
      (hkind : keyword.token = .atKeyword) (hfront : ∀ c ∈ front, c.endsHead = false)
      (hinner : Reads [] contents inner) (hrest : Reads [] cs sheet) :
      Reads before (token keyword :: (front ++ block opener .curly contents closer :: cs))
        (sheet.cons (.atBlock (.ofText before keyword.text (textOf front)) inner.nodes
          (.ofText inner contents closer)))
  /-- An at-rule ended by a semicolon. -/
  | atStatement {before : List Char} {keyword semicolon : Lexeme} {front cs : List Component}
      {sheet : Stylesheet} (hkind : keyword.token = .atKeyword)
      (hfront : ∀ c ∈ front, c.endsHead = false) (hsemicolon : semicolon.token = .semicolon)
      (hrest : Reads [] cs sheet) :
      Reads before (token keyword :: (front ++ token semicolon :: cs))
        (sheet.cons (.atStatement (.ofText before keyword.text (textOf front)) true))
  /-- An at-rule that nothing ends. -/
  | atUnended {before : List Char} {keyword : Lexeme} {front : List Component}
      (hkind : keyword.token = .atKeyword) (hfront : ∀ c ∈ front, c.endsHead = false) :
      Reads before (token keyword :: front)
        ⟨[.atStatement (.ofText before keyword.text (textOf front)) false], ""⟩
  /-- A rule: all before its block is the selector. -/
  | rule {before : List Char} {c : Component} {opener : Lexeme} {closer : Option Lexeme}
      {tail front contents cs : List Component} {inner sheet : Stylesheet}
      (hkind : c.itemKind tail = .rule)
      (heq : c :: tail = front ++ block opener .curly contents closer :: cs)
      (hfront : ∀ c ∈ front, c.isCurly = false)
      (hinner : Reads [] contents inner) (hrest : Reads [] cs sheet) :
      Reads before (c :: tail)
        (sheet.cons (.rule (.ofText before (textOf front)) inner.nodes
          (.ofText inner contents closer)))
  /-- A declaration ended by a semicolon. -/
  | declaration {before : List Char} {c : Component} {semicolon : Lexeme}
      {tail front cs : List Component} {sheet : Stylesheet}
      (hkind : c.itemKind tail = .declaration) (heq : c :: tail = front ++ token semicolon :: cs)
      (hfront : ∀ c ∈ front, c.isSemicolon = false) (hsemicolon : semicolon.token = .semicolon)
      (hrest : Reads [] cs sheet) :
      Reads before (c :: tail)
        (sheet.cons (.declaration (.ofText (String.ofList before) (textOf front) true)))
  /-- A declaration that nothing ends. -/
  | unended {before : List Char} {c : Component} {tail : List Component}
      (hkind : c.itemKind tail = .declaration) (hfront : ∀ d ∈ c :: tail, d.isSemicolon = false) :
      Reads before (c :: tail)
        ⟨[.declaration (.ofText (String.ofList before) (textOf (c :: tail)) false)], ""⟩

lemma ofComponentsAfter_nil (before : List Char) :
    ofComponentsAfter before [] = ⟨[], String.ofList before⟩ := by
  rw [ofComponentsAfter]

/-- The parser follows the grammar. -/
lemma reads_ofComponents (before : List Char) (cs : List Component) :
    Reads before cs (ofComponentsAfter before cs) := by
  fun_induction ofComponentsAfter before cs with
  | case1 before => exact .nil
  | case2 before c cs hkind ih => exact .gap hkind ih
  | case3 before space c cs hkind ih => exact .comment hkind ih
  | case4 before space c cs hkind split params head node ihinner ih =>
    obtain ⟨keyword, rfl, hk⟩ := token_eq_of_itemKind_atRule hkind
    rcases exists_eq_append_or_forall endsHead cs with ⟨front, stop, rest, rfl, hfront, hstop⟩ | h
    · have hs : split = ⟨front, some stop, rest⟩ := splitAt_append_cons hfront hstop
      clear_value split
      subst hs
      rw [endsHead, Bool.or_eq_true] at hstop
      rcases hstop with hsemi | hcurly
      · obtain ⟨l, rfl, hl⟩ := exists_eq_token_of_isSemicolon hsemi
        exact .atStatement hk hfront hl ih
      · obtain ⟨opener, contents, closer, rfl⟩ := exists_eq_block_of_isCurly hcurly
        exact .atBlock hk hfront (ihinner opener .curly contents closer rfl) ih
    · have hs : split = ⟨cs, none, []⟩ := splitAt_of_forall h
      clear_value split
      subst hs
      rw [ofComponentsAfter_nil]
      exact .atUnended hk h
  | case5 before space c cs hkind split selector head node ihinner ih =>
    rcases exists_eq_append_or_forall isCurly (c :: cs) with ⟨front, stop, rest, heq, hfront, hstop⟩ | h
    · have hs : split = ⟨front, some stop, rest⟩ :=
        (congrArg _ heq).trans (splitAt_append_cons hfront hstop)
      clear_value split
      subst hs
      obtain ⟨opener, contents, closer, rfl⟩ := exists_eq_block_of_isCurly hstop
      exact .rule hkind heq hfront (ihinner opener .curly contents closer rfl) ih
    · obtain ⟨d, hd, hcurly⟩ := exists_isCurly_of_rule hkind
      exact absurd hcurly (by simp [h d hd])
  | case6 before space c cs hkind split ih =>
    rcases exists_eq_append_or_forall isSemicolon (c :: cs) with
      ⟨front, stop, rest, heq, hfront, hstop⟩ | h
    · have hs : split = ⟨front, some stop, rest⟩ :=
        (congrArg _ heq).trans (splitAt_append_cons hfront hstop)
      clear_value split
      subst hs
      obtain ⟨l, rfl, hl⟩ := exists_eq_token_of_isSemicolon hstop
      exact .declaration hkind heq hfront hl ih
    · have hs : split = ⟨c :: cs, none, []⟩ := splitAt_of_forall h
      clear_value split
      subst hs
      rw [ofComponentsAfter_nil]
      exact .unended hkind h

end Stylesheet

end CustomProperties
