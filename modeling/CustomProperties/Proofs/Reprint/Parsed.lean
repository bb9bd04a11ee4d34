import CustomProperties.Proofs.Reprint.Printable
import Mathlib.Tactic.Common

/-!
# Parsed sheets read back

The sheet of a text whose brackets are all closed and whose comments are all ended is printable,
unless it has a rule with nothing before its block.
-/

namespace CustomProperties

open Css (Bracket Component EndsInStop Firm Lexeme Soft lex)
open Css.Component
open Stylesheet (Reads)

/-! ### Heads of rules -/

namespace Node

mutual

/-- Whether something stands before the block of each rule of a node. -/
def headed : Node → Bool
  | rule head body _ => head.selector ++ head.between != "" && headedAll body
  | atBlock _ body _ => headedAll body
  | atStatement _ _ => true
  | declaration _ => true
  | comment _ => true
  | document _ body _ => headedAll body

/-- Whether something stands before the block of each rule of a sequence of nodes. -/
def headedAll : List Node → Bool
  | [] => true
  | n :: ns => n.headed && headedAll ns

end

@[simp] lemma headedAll_numberAll (next : NodeId) (ns : List Node) :
    headedAll (numberAll next ns) = headedAll ns := by
  induction ns using Node.induct generalizing next with
  | nil => rfl
  | rule head body tail rest ihbody ih => simp [numberAll, number, headedAll, headed, ihbody, ih]
  | atBlock head body tail rest ihbody ih => simp [numberAll, number, headedAll, headed, ihbody, ih]
  | atStatement head semicolon rest ih => simp [numberAll, number, headedAll, headed, ih]
  | declaration d rest ih => simp [numberAll, number, headedAll, headed, ih]
  | comment c rest ih => simp [numberAll, number, headedAll, headed, ih]
  | document id body after rest ihbody ih =>
    simp [numberAll, number, headedAll, headed, ihbody, ih]

end Node

/-! ### Components of a text -/

/-- Components as they stand in a text, where `outer` is around them and the gaps come first: all
brackets are closed and all comments are ended. -/
structure Placed (outer : Option Bracket) (gaps cs : List Component) : Prop where
  isGap : ∀ c ∈ gaps, c.IsGap
  closing : Closing outer (lexemesAll (gaps ++ cs))
  fits : ∀ c ∈ gaps ++ cs, Fits outer c
  spelled : ∀ l ∈ lexemesAll (gaps ++ cs), l.Spelled
  comments : ∀ l ∈ lexemesAll (gaps ++ cs), l.Ended

/-- A lexeme that opens a curly bracket is its mark. -/
lemma eq_openingMark {l : Lexeme} (h : l.token.opens? = some .curly) (hspelled : l.Spelled) :
    l = openingMark := by
  obtain ⟨token, text⟩ := l
  cases token <;> cases h
  exact congrArg (Lexeme.mk _) hspelled

/-- A lexeme that closes a curly bracket is its mark. -/
lemma eq_closingMark {l : Lexeme} (h : l.token.closes .curly = true) (hspelled : l.Spelled) :
    l = closingMark := by
  obtain ⟨token, text⟩ := l
  cases token with
  | closing bracket =>
    cases eq_of_beq h
    exact congrArg (Lexeme.mk _) hspelled
  | _ => cases h

/-- A lexeme that is a semicolon is its mark. -/
lemma eq_semicolon {l : Lexeme} (h : l.token = .semicolon) (hspelled : l.Spelled) :
    l = ⟨.semicolon, [';']⟩ := by
  obtain ⟨token, text⟩ := l
  cases h
  exact congrArg (Lexeme.mk _) hspelled

namespace Placed

variable {outer : Option Bracket} {gaps front cs contents : List Component} {c : Component}
  {l opener : Lexeme} {closer : Option Lexeme}

lemma rest (front : List Component) (h : Placed outer gaps (front ++ cs)) : Placed outer [] cs where
  isGap := by simp
  closing := by
    have hclosing := h.closing
    rw [← List.append_assoc, lexemesAll_append] at hclosing
    exact hclosing.of_append
  fits c hc := h.fits c (by simp [show c ∈ cs from hc])
  spelled l hl := h.spelled l (by simp [show l ∈ lexemesAll cs from hl])
  comments l hl := h.comments l (by simp [show l ∈ lexemesAll cs from hl])

lemma tail (h : Placed outer gaps (c :: cs)) : Placed outer [] cs :=
  rest [c] h

/-- One more gap. -/
lemma gap (h : Placed outer gaps (c :: cs)) (hc : c.IsGap) : Placed outer (gaps ++ [c]) cs where
  isGap := List.forall_mem_append.2 ⟨h.isGap, by simpa using hc⟩
  closing := by simpa using h.closing
  fits := by simpa using h.fits
  spelled := by simpa using h.spelled
  comments := by simpa using h.comments

/-- What goes up to a final lexeme reads back before anything. -/
lemma firm (front : List Component) (h : Placed outer gaps (front ++ token l :: cs))
    (hl : l.Final) : Firm (lexemesAll (gaps ++ (front ++ [token l]))) := by
  have hlex := h.closing.lex_eq
  have hlexemes : lexemesAll (gaps ++ (front ++ token l :: cs))
      = lexemesAll (gaps ++ front) ++ l :: lexemesAll cs := by simp
  rw [hlexemes] at hlex
  have hfirm := Css.firm_of_lex hl hlex
  simpa using hfirm

/-- A block as it stands in a text. -/
lemma of_block (front : List Component)
    (h : Placed outer gaps (front ++ Component.block opener .curly contents closer :: cs)) :
    opener = openingMark ∧ closer = some closingMark ∧
    Firm (lexemesAll (gaps ++ front) ++ [openingMark]) ∧ Placed (some .curly) [] contents := by
  have hfits := h.fits (Component.block opener .curly contents closer) (by simp)
  cases hfits with
  | @block _ _ closer _ _ hopens hcontents hcloses =>
    have hopener := eq_openingMark hopens (h.spelled opener (by simp))
    have hcloser := eq_closingMark hcloses (h.spelled closer (by simp))
    subst hopener hcloser
    have hlex := h.closing.lex_eq
    have hlexemes : lexemesAll (gaps ++ (front ++ Component.block openingMark .curly contents
        (some closingMark) :: cs)) = lexemesAll (gaps ++ front) ++ openingMark ::
          (lexemesAll contents ++ closingMark :: lexemesAll cs) := by simp
    rw [hlexemes] at hlex
    refine ⟨rfl, rfl, Css.firm_of_lex Css.final_opening hlex, ?_⟩
    have hinner := Css.lex_textOf_of_append
      (show _ = (lexemesAll (gaps ++ front) ++ [openingMark]) ++ _ by simpa using hlex)
    exact {
      isGap := by simp
      closing := closing_of_soft (Css.soft_of_lex_final Css.final_closing hinner)
      fits := hcontents
      spelled := fun l hl => h.spelled l (by simp [show l ∈ lexemesAll contents from hl])
      comments := fun l hl => h.comments l (by simp [show l ∈ lexemesAll contents from hl]) }

end Placed

/-! ### Parsed sheets -/

section

variable {outer : Option Bracket} {gaps front contents cs tail : List Component} {c : Component}
  {before : List Char} {l keyword semicolon opener : Lexeme} {sheet inner : Stylesheet}

lemma headedAll_tail {n : Node} (h : Node.headedAll (sheet.cons n).nodes) :
    Node.headedAll sheet.nodes := by
  rw [Stylesheet.cons, Node.headedAll, Bool.and_eq_true] at h
  exact h.2

lemma Placed.afterPiece (h : Placed outer gaps []) (hgaps : textOf gaps = before) :
    AfterPiece outer gaps (String.ofList before) where
  text := by simpa using hgaps
  closing := by simpa using h.closing
  fits := by simpa using h.fits
  reads := by
    have hreads : Reads [] (gaps ++ []) ⟨[], String.ofList ([] ++ textOf gaps)⟩ :=
      .of_gaps h.isGap .nil
    rwa [List.append_nil, List.nil_append, hgaps] at hreads

lemma Placed.comment (h : Placed outer gaps (token l :: cs)) (hgaps : textOf gaps = before)
    (hl : l.token = .comment) :
    Piece outer (gaps ++ [token l]) (.comment ⟨0, String.ofList before, String.ofList l.text⟩) where
  text := by simp [Node.render, Comment.render, hgaps]
  firm := by
    have hlex := h.closing.lex_eq
    have hlexemes : lexemesAll (gaps ++ token l :: cs) = lexemesAll gaps ++ l :: lexemesAll cs := by
      simp
    rw [hlexemes] at hlex
    have hfinal := Css.final_of_comment hlex hl (h.comments l (by simp))
    exact h.firm [] hfinal
  fits d hd := h.fits d (by
    rw [List.mem_append, List.mem_singleton] at hd
    rw [List.mem_append, List.mem_cons]
    exact hd.imp_right .inl)
  reads := by
    refine ⟨_, .comment 0, fun rest sheet hrest => ?_⟩
    rw [List.append_assoc]
    refine .of_gaps h.isGap ?_
    rw [List.nil_append, hgaps]
    exact .comment (itemKind_comment hl) hrest

lemma Placed.atStatement (h : Placed outer gaps (token keyword :: (front ++ token semicolon :: cs)))
    (hgaps : textOf gaps = before) (hkeyword : keyword.token = .atKeyword)
    (hfront : ∀ c ∈ front, c.endsHead = false) (hsemicolon : semicolon.token = .semicolon) :
    Piece outer (gaps ++ (token keyword :: (front ++ [token semicolon])))
      (.atStatement (.ofText before keyword.text (textOf front)) true) where
  text := by
    obtain ⟨name, hname⟩ := Lexeme.text_eq_of_atKeyword (h.spelled keyword (by simp)) hkeyword
    have hmark := Lexeme.text_eq_of_semicolon (h.spelled semicolon (by simp)) hsemicolon
    rw [Node.render, String.toList_append, hname, toList_render_atHead]
    simp [hname, hmark, hgaps]
  firm := by
    have heq := eq_semicolon hsemicolon (h.spelled semicolon (by simp))
    subst heq
    exact h.firm (token keyword :: front) Css.final_semicolon
  fits d hd := h.fits d (by
    simp only [List.mem_append, List.mem_cons, List.not_mem_nil, or_false] at hd ⊢
    tauto)
  reads := by
    refine ⟨_, .atStatement 0, fun rest sheet hrest => ?_⟩
    rw [List.append_assoc, List.cons_append, List.append_assoc, List.singleton_append]
    refine .of_gaps h.isGap ?_
    rw [List.nil_append, hgaps]
    exact .atStatement hkeyword hfront hsemicolon hrest

lemma Placed.atUnended (h : Placed outer gaps (token keyword :: front))
    (hgaps : textOf gaps = before) (hkeyword : keyword.token = .atKeyword)
    (hfront : ∀ c ∈ front, c.endsHead = false) :
    LastPiece outer (gaps ++ token keyword :: front)
      (.atStatement (.ofText before keyword.text (textOf front)) false) where
  text := by
    obtain ⟨name, hname⟩ := Lexeme.text_eq_of_atKeyword (h.spelled keyword (by simp)) hkeyword
    rw [Node.render, String.toList_append, hname, toList_render_atHead]
    simp [hname, hgaps]
  closing := h.closing
  fits := h.fits
  reads := by
    refine ⟨_, .atStatement 0, .of_gaps h.isGap ?_⟩
    rw [List.nil_append, hgaps]
    exact .atUnended hkeyword hfront

lemma Placed.declaration (h : Placed outer gaps (c :: tail ++ token semicolon :: cs))
    (hgaps : textOf gaps = before)
    (hkind : c.itemKind (tail ++ token semicolon :: cs) = .declaration)
    (hfront : ∀ d ∈ c :: tail, d.isSemicolon = false) (hsemicolon : semicolon.token = .semicolon) :
    Piece outer (gaps ++ (c :: tail ++ [token semicolon]))
      (.declaration (.ofText (String.ofList before) (textOf (c :: tail)) true)) where
  text := by
    have hmark := Lexeme.text_eq_of_semicolon (h.spelled semicolon (by simp)) hsemicolon
    rw [Node.render, toList_render_declaration]
    simp [hmark, hgaps]
  firm := by
    have heq := eq_semicolon hsemicolon (h.spelled semicolon (by simp))
    subst heq
    exact h.firm (c :: tail) Css.final_semicolon
  fits d hd := h.fits d (by
    simp only [List.mem_append, List.mem_cons, List.not_mem_nil, or_false] at hd ⊢
    tauto)
  reads := by
    refine ⟨_, .declaration rfl rfl rfl, fun rest sheet hrest => ?_⟩
    rw [itemKind_semicolon hsemicolon] at hkind
    rw [List.append_assoc, List.append_assoc, List.singleton_append]
    refine .of_gaps h.isGap ?_
    rw [List.nil_append, hgaps]
    exact .declaration ((itemKind_semicolon hsemicolon).trans hkind)
      (show _ = (c :: tail) ++ _ from rfl) hfront hsemicolon hrest

lemma Placed.unended (h : Placed outer gaps (c :: tail)) (hgaps : textOf gaps = before)
    (hkind : c.itemKind tail = .declaration) (hfront : ∀ d ∈ c :: tail, d.isSemicolon = false) :
    LastPiece outer (gaps ++ c :: tail)
      (.declaration (.ofText (String.ofList before) (textOf (c :: tail)) false)) where
  text := by
    rw [Node.render, toList_render_declaration]
    simp [hgaps]
  closing := h.closing
  fits := h.fits
  reads := by
    refine ⟨_, .declaration rfl rfl rfl, .of_gaps h.isGap ?_⟩
    rw [List.nil_append, hgaps]
    exact .unended hkind hfront

lemma Placed.ruleHead
    (h : Placed outer gaps (c :: front ++ block opener .curly contents closer :: cs))
    (hgaps : textOf gaps = before)
    (hkind : c.itemKind (front ++ block opener .curly contents closer :: cs) = .rule)
    (hfront : ∀ d ∈ c :: front, d.isCurly = false) :
    HeadPiece outer (gaps ++ c :: front) (.rule (.ofText before (textOf (c :: front))))
      (.rule (.ofText before (textOf (c :: front)))) where
  text body tail := by
    simp [Node.render, toList_render_ruleHead, hgaps]
  firm := (h.of_block _).2.2.1
  fits d hd := h.fits d (by
    rw [← List.append_assoc]
    exact List.mem_append_left _ hd)
  reads contents' closer' rest inner sheet hinner hrest := by
    rw [List.append_assoc]
    refine .of_gaps h.isGap ?_
    rw [List.nil_append, hgaps]
    have hkind' :
        c.itemKind (front ++ block openingMark .curly contents' closer' :: rest) = .rule := by
      rw [← hkind]
      exact itemKind_congr rfl rfl rfl
    exact .rule hkind' (show _ = (c :: front) ++ _ from rfl) hfront hinner hrest

lemma Placed.atHead
    (h : Placed outer gaps (token keyword :: front ++ block opener .curly contents closer :: cs))
    (hgaps : textOf gaps = before) (hkeyword : keyword.token = .atKeyword)
    (hfront : ∀ c ∈ front, c.endsHead = false) :
    HeadPiece outer (gaps ++ token keyword :: front)
      (.atBlock (.ofText before keyword.text (textOf front)))
      (.atBlock (.ofText before keyword.text (textOf front))) where
  text body tail := by
    obtain ⟨name, hname⟩ := Lexeme.text_eq_of_atKeyword (h.spelled keyword (by simp)) hkeyword
    simp only [Node.render, String.toList_append, hname, toList_render_atHead]
    simp [hname, hgaps]
  firm := (h.of_block _).2.2.1
  fits d hd := h.fits d (by
    rw [← List.append_assoc]
    exact List.mem_append_left _ hd)
  reads contents' closer' rest inner sheet hinner hrest := by
    rw [List.append_assoc]
    refine .of_gaps h.isGap ?_
    rw [List.nil_append, hgaps]
    exact .atBlock hkeyword hfront hinner hrest

/-- What is read from components that stand in a text reads back. -/
lemma Stylesheet.Reads.printable (h : Reads before cs sheet) (hplaced : Placed outer gaps cs)
    (hgaps : textOf gaps = before) (hheaded : Node.headedAll sheet.nodes) :
    Printable outer sheet.nodes sheet.after := by
  induction h generalizing outer gaps with
  | nil => exact .nil ⟨gaps, hplaced.afterPiece hgaps⟩
  | gap hkind _ ih => exact ih (hplaced.gap (isGap_of_itemKind hkind)) (by simp [hgaps]) hheaded
  | comment hkind _ ih =>
    obtain ⟨l, rfl, hl⟩ := exists_comment_of_itemKind hkind
    have hends : EndsInStop (String.ofList (token l).text).toList := by
      simpa using (hplaced.comments l (by simp)).endsInStop hl
    exact .leaf hends ⟨_, hplaced.comment hgaps hl⟩ (ih hplaced.tail rfl (headedAll_tail hheaded))
  | @atBlock _ keyword _ _ front _ _ _ _ hkeyword hfront _ _ ihinner ih =>
    obtain ⟨rfl, rfl, -, hinner⟩ := hplaced.of_block (token keyword :: front)
    rw [Stylesheet.cons, Node.headedAll, Node.headed, Bool.and_eq_true] at hheaded
    exact .atBlock ⟨_, hplaced.atHead hgaps hkeyword hfront⟩ rfl (ihinner hinner rfl hheaded.1)
      (ih (hplaced.rest (token keyword :: front)).tail rfl hheaded.2)
  | @atStatement _ keyword semicolon front _ _ hkeyword hfront hsemicolon _ ih =>
    exact .leaf rfl ⟨_, hplaced.atStatement hgaps hkeyword hfront hsemicolon⟩
      (ih (hplaced.rest (token keyword :: front)).tail rfl (headedAll_tail hheaded))
  | atUnended hkeyword hfront =>
    exact .last (by simp [Node.Ended]) ⟨_, hplaced.atUnended hgaps hkeyword hfront⟩
  | @rule _ c _ _ tail front _ _ _ _ hkind heq hfront _ _ ihinner ih =>
    rw [heq] at hplaced
    obtain ⟨rfl, rfl, -, hinner⟩ := hplaced.of_block _
    rw [Stylesheet.cons, Node.headedAll, Node.headed, Bool.and_eq_true, Bool.and_eq_true] at hheaded
    obtain ⟨⟨hhead, hbody⟩, hrest⟩ := hheaded
    cases front with
    | nil => simp [RuleHead.ofText, Text.trimEnd, Text.trailingBlanks] at hhead
    | cons d front =>
      cases heq
      exact .rule ⟨_, hplaced.ruleHead hgaps hkind hfront⟩ rfl (ihinner hinner rfl hbody)
        (ih (hplaced.rest (c :: front)).tail rfl hrest)
  | @declaration _ c semicolon tail front _ _ hkind heq hfront hsemicolon _ ih =>
    obtain ⟨items, rfl, rfl⟩ := exists_cons_of_declaration hkind heq hsemicolon
    exact .leaf rfl ⟨_, hplaced.declaration hgaps hkind hfront hsemicolon⟩
      (ih (hplaced.rest (c :: items)).tail rfl (headedAll_tail hheaded))
  | unended hkind hfront =>
    exact .last (by simp [Node.Ended, Declaration.ofText]) ⟨_, hplaced.unended hgaps hkind hfront⟩

end

/-! ### Numbers -/

section

variable {outer : Option Bracket} {cs front : List Component} {n : Node} {ns : List Node}
  {after : String} {next : NodeId}

lemma Node.SameLeaf.number_left {m : Node} (h : n.SameLeaf m) (next : NodeId) :
    (n.number next).SameLeaf m := by
  cases h with
  | atStatement id => exact .atStatement id
  | comment id => exact .comment id
  | declaration hprop hrender hsemicolon => exact .declaration hprop hrender hsemicolon

lemma Node.SameLeaf.ended_number {m : Node} (h : n.SameLeaf m) :
    (n.number next).Ended ↔ n.Ended := by
  cases h <;> rfl

/-- A printable tree is so whatever its numbers are. -/
lemma Printable.numberAll (h : Printable outer ns after) (next : NodeId) :
    Printable outer (Node.numberAll next ns) after := by
  induction h generalizing next with
  | nil hafter => exact .nil hafter
  | last hends hpiece =>
    obtain ⟨cs, htext, hclosing, hfits, n', hleaf, hreads⟩ := hpiece
    refine .last (by rwa [hleaf.ended_number]) ⟨cs, ?_, hclosing, hfits, n', ?_, hreads⟩
    · rw [htext, ← hleaf.render_eq, (hleaf.number_left next).render_eq]
    · exact hleaf.number_left next
  | leaf hends hpiece _ ih =>
    obtain ⟨cs, htext, hfirm, hfits, n', hleaf, hreads⟩ := hpiece
    refine .leaf (by rwa [hleaf.ended_number]) ⟨cs, ?_, hfirm, hfits, n', ?_, hreads⟩ (ih _)
    · rw [htext, ← hleaf.render_eq, (hleaf.number_left next).render_eq]
    · exact hleaf.number_left next
  | rule hhead hclosed _ _ ihbody ih =>
    obtain ⟨front, htext, hfirm, hfits, hreads⟩ := hhead
    exact .rule ⟨front, htext, hfirm, hfits, hreads⟩ hclosed (ihbody _) (ih _)
  | atBlock hhead hclosed _ _ ihbody ih =>
    obtain ⟨front, htext, hfirm, hfits, hreads⟩ := hhead
    exact .atBlock ⟨front, htext, hfirm, hfits, hreads⟩ hclosed (ihbody _) (ih _)

end

/-! ### Texts -/

/-- All brackets of a text are closed, and all its comments are ended. -/
structure Terminated (text : String) : Prop where
  closed : ∀ c ∈ Css.components text.toList, c.Closed
  ended : ∀ l ∈ lex text.toList, l.Ended

/-- A text is terminated if its last component is a bracket that is closed, or a lexeme that is no
comment. -/
lemma terminated_of_components {text : String} {c : Component} (front : List Component)
    (h : Css.components text.toList = front ++ [c])
    (hblock : ∀ opener bracket contents, c ≠ block opener bracket contents none)
    (hcomment : ∀ l, c = token l → l.token ≠ .comment) : Terminated text := by
  have hclosed : ∀ d ∈ Css.components text.toList, d.Closed := by
    have hopen := Css.openEnd_components text.toList
    rw [h] at hopen ⊢
    obtain ⟨hfront, hlast⟩ := hopen.of_append (List.cons_ne_nil _ _)
    refine List.forall_mem_append.2 ⟨hfront, ?_⟩
    cases hlast with
    | cons hc => simpa using hc
    | opened => exact absurd rfl (hblock _ _ _)
  refine ⟨hclosed, fun l hl => ?_⟩
  have hlex : lex text.toList = lexemesAll front ++ c.lexemes := by
    rw [← Css.lexemesAll_components, h]
    simp
  -- the last lexeme closes a bracket or is no comment
  obtain ⟨ls, last, hlast, hend⟩ : ∃ ls last, c.lexemes = ls ++ [last] ∧ last.token ≠ .comment := by
    have hfits := Css.fits_components hclosed c (by simp [h])
    cases hfits with
    | @token _ l => exact ⟨[], l, by simp, hcomment l rfl⟩
    | @block _ opener closer bracket contents _ _ hcloses =>
      refine ⟨opener :: lexemesAll contents, closer, by simp, fun htoken => ?_⟩
      rw [htoken] at hcloses
      cases hcloses
  rw [hlast, ← List.append_assoc] at hlex
  have hdrop : (lex text.toList).dropLast = lexemesAll front ++ ls := by
    rw [hlex, List.dropLast_concat]
  rw [hlex, List.mem_append, List.mem_singleton] at hl
  rcases hl with hl | rfl
  · exact Css.ended_of_mem_dropLast_lex (show l ∈ (lex text.toList).dropLast from hdrop ▸ hl)
  · exact fun htoken => absurd htoken hend

namespace Stylesheet

variable {text : String} {next : NodeId}

/-- The sheet of a text is printable if nothing is left open in the text and each rule has a
head. -/
lemma printable_parse (h : Terminated text)
    (hheaded : Node.headedAll (Stylesheet.parse text next).nodes) :
    Printable none (Stylesheet.parse text next).nodes (Stylesheet.parse text next).after := by
  have hplaced : Placed none [] (Css.components text.toList) := {
    isGap := by simp
    closing := by
      intro s _ hs
      rw [hs rfl, List.nil_append, Css.lexemesAll_components, Css.textOf_lex]
      simp
    fits := Css.fits_components h.closed
    spelled := by
      rw [List.nil_append, Css.lexemesAll_components]
      exact fun l hl => Css.spelled_of_mem_lex hl
    comments := by
      rw [List.nil_append, Css.lexemesAll_components]
      exact h.ended }
  rw [Stylesheet.parse, Stylesheet.number, Node.headedAll_numberAll] at hheaded
  exact ((reads_ofComponents [] _).printable hplaced rfl hheaded).numberAll next

lemma parse_of_reads {cs : List Component} {sheet : Stylesheet}
    (hcs : Css.components text.toList = cs) (h : Reads [] cs sheet) (next : NodeId) :
    Stylesheet.parse text next = sheet.number next := by
  rw [Stylesheet.parse, hcs, h.ofComponentsAfter_eq]

/-- What is read from the text of a printable sheet is alike. -/
lemma alike_parse_render {sheet : Stylesheet} (h : Printable none sheet.nodes sheet.after)
    (next : NodeId) :
    Alike sheet.nodes (Stylesheet.parse sheet.render next).nodes ∧
    (Stylesheet.parse sheet.render next).after = sheet.after := by
  obtain ⟨cs, again, hagain⟩ := h.exists_reprint
  have htext : sheet.render.toList = Lexeme.textOf (lexemesAll cs) := by
    rw [textOf_lexemesAll, hagain.text, Stylesheet.render, String.toList_append]
  have hcomponents : Css.components sheet.render.toList = cs := by
    rw [Css.components, htext, hagain.closing.lex_eq, group_lexemesAll hagain.fits]
  rw [parse_of_reads hcomponents hagain.reads]
  exact ⟨hagain.alike.numberAll next, hagain.after_eq⟩

end Stylesheet

end CustomProperties
