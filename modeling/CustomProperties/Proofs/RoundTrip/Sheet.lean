import CustomProperties.Proofs.RoundTrip.Items
import CustomProperties.Proofs.RoundTrip.RuleBlocks
import CustomProperties.Proofs.Sheet.Induction
import Mathlib

/-!
# Printing a parsed sheet

Every character of a text lands in one field of one node, so that printing a parsed sheet gives the
text back. The one exception are blocks that nothing closes: where the text ends in a closing mark
all the same, each of them counts as closed and is printed with a mark of its own.
-/

namespace CustomProperties

open Css (Component Lexeme)
open Css.Component

/-! ### Marks for open blocks -/

/-- Whether a text ends in a closing curly bracket, for a text that is not empty. -/
def EndsIn (marked : Bool) (text : List Char) : Prop :=
  ∀ c ∈ text.getLast?, (c == '}') = marked

lemma endsIn_self (text : List Char) : EndsIn (text.getLast? == some '}') text := by
  intro c hc
  rw [Option.mem_def] at hc
  simp [hc]

lemma EndsIn.of_append {marked : Bool} {front text : List Char} (h : EndsIn marked (front ++ text)) :
    EndsIn marked text := by
  intro c hc
  apply h
  rw [Option.mem_def] at hc ⊢
  rw [List.getLast?_append, hc]
  rfl

/-- The marks that printing adds to a text, which ends in one itself if `marked`. -/
def addedMarks (marked : Bool) (cs : List Component) : List Char :=
  if marked then List.replicate (openBlocks cs) '}' else []

section

variable {marked : Bool} {c : Component} {cs ds rest front : List Component}

@[simp] lemma addedMarks_nil : addedMarks marked [] = [] := by simp [addedMarks]

lemma addedMarks_of_closed (h : ∀ c ∈ cs, Closed c) : addedMarks marked cs = [] := by
  simp [addedMarks, openBlocks_of_closed h]

lemma addedMarks_congr (h : openBlocks cs = openBlocks ds) :
    addedMarks marked cs = addedMarks marked ds := by
  rw [addedMarks, addedMarks, h]

/-- An item without a block adds no mark. -/
lemma addedMarks_of_no_block {stop : Option Component} (h : headCut c rest = ⟨front, stop, cs⟩)
    (hstop : ∀ d ∈ stop, ∃ l, d = token l) :
    addedMarks marked (c :: rest) = addedMarks marked cs :=
  addedMarks_congr (openBlocks_of_no_block h hstop)

end

namespace Stylesheet

lemma toList_render_cons (node : Node) (sheet : Stylesheet) :
    (sheet.cons node).render.toList = node.render.toList ++ sheet.render.toList := by
  simp [Stylesheet.render, Stylesheet.cons]

/-- Printing a sheet gives back the text it was read from, with marks for its open blocks if the
text ends in a mark. -/
def PrintsBack (before : List Char) (cs : List Component) (sheet : Stylesheet) : Prop :=
  OpenEnd cs → ∀ marked, EndsIn marked (textOf cs) →
    sheet.render.toList = before ++ textOf cs ++ addedMarks marked cs

variable {before : List Char} {cs contents : List Component} {inner sheet : Stylesheet}

/-- A block and all that comes after it. An open block comes last, and what it holds ends as the
whole text does. -/
lemma toList_render_block {c : Component} {rest front : List Component} {opener : Lexeme}
    {closer : Option Lexeme} {marked : Bool}
    (hinner : PrintsBack [] contents inner) (hrest : PrintsBack [] cs sheet)
    (hcut : headCut c rest = ⟨front, some (block opener .curly contents closer), cs⟩)
    (hopen : OpenEnd (block opener .curly contents closer :: cs))
    (hend : EndsIn marked (textOf (block opener .curly contents closer :: cs))) :
    '{' :: inner.render.toList ++ (if countsAsClosed .curly contents closer then ['}'] else [])
        ++ sheet.render.toList
      = textOf (block opener .curly contents closer :: cs) ++ addedMarks marked (c :: rest) := by
  have hcount := openBlocks_of_block hcut
  rw [textOf_cons] at hend
  have hsheet := hrest hopen.tail marked hend.of_append
  cases hopen with
  | cons hc hcs =>
    cases hc with
    | @block _ closer _ _ hopener hcontents hcloser =>
      have hinside := hinner (.of_closed hcontents) _ (endsIn_self _)
      rw [addedMarks_of_closed hcontents] at hinside
      have hmarks : addedMarks marked (c :: rest) = addedMarks marked cs :=
        addedMarks_congr (by simpa [openBlocks_of_closed hcontents] using hcount)
      simp [hinside, hsheet, hmarks, hopener.text_eq, hcloser, countsAsClosed,
        Css.Bracket.closing]
  | opened hopener hcontents =>
    have hend' : EndsIn marked (['{'] ++ textOf contents) := by simpa [hopener.text_eq] using hend
    have hends : EndsIn marked (textOf contents) := hend'.of_append
    have hlast : countsAsClosed .curly contents none = marked := by
      cases hl : (textOf contents).getLast? with
      | none =>
        -- nothing comes after the opening bracket
        rw [List.getLast?_eq_none_iff] at hl
        simpa [countsAsClosed, hl] using hend' '{' (by simp [hl])
      | some c => simpa [countsAsClosed, hl, Css.Bracket.closing] using hends c hl
    have hinside := hinner hcontents marked hends
    rw [hlast, hinside, hsheet]
    cases marked with
    | false => simp [addedMarks, hopener.text_eq]
    | true =>
      simp only [openBlocks_nil, Nat.add_zero, Option.isNone_none, if_true] at hcount
      simp [addedMarks, hcount, hopener.text_eq, List.replicate_succ']

/-- An item without a block and all that comes after it. -/
lemma toList_render_cons_of_no_block {c : Component} {rest front : List Component}
    {stop : Option Component} {node : Node} {written : List Char} {marked : Bool}
    (hrest : PrintsBack [] cs sheet) (hcut : headCut c rest = ⟨front, stop, cs⟩)
    (hstop : ∀ d ∈ stop, ∃ l, d = token l) (hopen : OpenEnd cs)
    (htext : textOf (c :: rest) = written ++ textOf cs)
    (hnode : node.render.toList = before ++ written) (hend : EndsIn marked (textOf (c :: rest))) :
    (sheet.cons node).render.toList
      = before ++ textOf (c :: rest) ++ addedMarks marked (c :: rest) := by
  rw [htext] at hend ⊢
  have hmarks : addedMarks marked (c :: rest) = addedMarks marked cs :=
    addedMarks_of_no_block hcut hstop
  rw [toList_render_cons, hnode, hrest hopen marked hend.of_append, hmarks]
  simp

lemma toList_render_body (inner : Stylesheet) (contents : List Component)
    (closer : Option Lexeme) :
    (Node.renderAll inner.nodes).toList ++ (BlockEnd.ofText inner contents closer).render.toList
      = inner.render.toList ++ (if countsAsClosed .curly contents closer then ['}'] else []) := by
  cases h : countsAsClosed .curly contents closer <;>
    simp [BlockEnd.render, BlockEnd.ofText, Stylesheet.render, h]

lemma toList_render_rule (head : RuleHead) (inner : Stylesheet) (contents : List Component)
    (closer : Option Lexeme) :
    (Node.rule head inner.nodes (.ofText inner contents closer)).render.toList
      = head.render.toList ++ ('{' :: inner.render.toList
        ++ (if countsAsClosed .curly contents closer then ['}'] else [])) := by
  simp [Node.render, toList_render_body]

lemma toList_render_atBlock (head : AtHead) (inner : Stylesheet) (contents : List Component)
    (closer : Option Lexeme) :
    (Node.atBlock head inner.nodes (.ofText inner contents closer)).render.toList
      = head.render.toList ++ ('{' :: inner.render.toList
        ++ (if countsAsClosed .curly contents closer then ['}'] else [])) := by
  simp [Node.render, toList_render_body]

/-- A sheet prints back as its components. -/
lemma Reads.printsBack (h : Reads before cs sheet) : PrintsBack before cs sheet := by
  induction h with
  | nil =>
    intro hopen marked hend
    simp [Stylesheet.render, addedMarks]
  | @gap before c cs sheet hkind hrest ih =>
    intro hopen marked hend
    rw [textOf_cons] at hend ⊢
    have hmarks : addedMarks marked (c :: cs) = addedMarks marked cs :=
      addedMarks_of_no_block (headCut_gap hkind) (by simp)
    rw [ih hopen.tail marked hend.of_append, hmarks, List.append_assoc before]
  | @comment before c cs sheet hkind hrest ih =>
    intro hopen marked hend
    apply toList_render_cons_of_no_block ih (headCut_comment hkind) (by simp) hopen.tail
      (textOf_cons ..) _ hend
    simp [Node.render, Comment.render]
  | @atBlock before keyword opener closer front contents cs inner sheet hkind hfront hinner hrest
      ihinner ih =>
    intro hopen marked hend
    rw [← List.cons_append] at hopen
    obtain ⟨hhead, hblock⟩ := hopen.of_append (by simp)
    obtain ⟨name, hname⟩ := Lexeme.text_eq_of_atKeyword (hhead _ List.mem_cons_self).spelled hkind
    have hcut : headCut (token keyword) (front ++ block opener .curly contents closer :: cs)
        = ⟨front, some (block opener .curly contents closer), cs⟩ :=
      headCut_atRule hkind hfront rfl
    have htext : textOf (token keyword :: (front ++ block opener .curly contents closer :: cs))
        = keyword.text ++ textOf front ++ textOf (block opener .curly contents closer :: cs) := by
      simp
    rw [htext] at hend ⊢
    have hbody := toList_render_block ihinner ih hcut hblock hend.of_append
    rw [toList_render_cons, toList_render_atBlock, hname, toList_render_atHead, List.append_assoc,
      hbody]
    simp
  | @atStatement before keyword semicolon front cs sheet hkind hfront hsemicolon hrest ih =>
    intro hopen marked hend
    rw [← List.cons_append] at hopen
    obtain ⟨hhead, hstop⟩ := hopen.of_append (by simp)
    obtain ⟨name, hname⟩ := Lexeme.text_eq_of_atKeyword (hhead _ List.mem_cons_self).spelled hkind
    have hsemi := Lexeme.text_eq_of_semicolon hstop.spelled hsemicolon
    have htext : textOf (token keyword :: (front ++ token semicolon :: cs))
        = (keyword.text ++ textOf front ++ semicolon.text) ++ textOf cs := by simp
    apply toList_render_cons_of_no_block ih (headCut_atStatement hkind hfront hsemicolon) (by simp)
      hstop.tail htext _ hend
    rw [Node.render, hname, hsemi]
    simp [toList_render_atHead]
  | @atUnended before keyword front hkind hfront =>
    intro hopen marked hend
    obtain ⟨name, hname⟩ := Lexeme.text_eq_of_atKeyword hopen.spelled hkind
    rw [addedMarks_of_no_block (headCut_atRule_unended hkind hfront) (by simp)]
    simp [Stylesheet.render, Node.render, toList_render_atHead, hname]
  | @rule before c opener closer tail front contents cs inner sheet hkind heq hfront hinner hrest
      ihinner ih =>
    intro hopen marked hend
    have hcut := headCut_rule hkind heq hfront rfl
    rw [heq] at hopen
    have htext : textOf (c :: tail)
        = textOf front ++ textOf (block opener .curly contents closer :: cs) := by
      rw [heq, textOf_append]
    rw [htext] at hend ⊢
    obtain ⟨-, hblock⟩ := hopen.of_append (by simp)
    have hbody := toList_render_block ihinner ih hcut hblock hend.of_append
    rw [toList_render_cons, toList_render_rule, toList_render_ruleHead, List.append_assoc, hbody]
    simp
  | @declaration before c semicolon tail front cs sheet hkind heq hfront hsemicolon hrest ih =>
    intro hopen marked hend
    rw [heq] at hopen
    obtain ⟨-, hstop⟩ := hopen.of_append (by simp)
    have hsemi := Lexeme.text_eq_of_semicolon hstop.spelled hsemicolon
    have htext : textOf (c :: tail) = (textOf front ++ semicolon.text) ++ textOf cs := by
      rw [heq]
      simp
    apply toList_render_cons_of_no_block ih (headCut_declaration hkind heq hfront hsemicolon)
      (by simp) hstop.tail htext _ hend
    rw [Node.render, toList_render_declaration, hsemi]
    simp
  | @unended before c tail hkind hfront =>
    intro hopen marked hend
    rw [addedMarks_of_no_block (headCut_declaration_unended hkind hfront) (by simp)]
    simp [Stylesheet.render, Node.render, toList_render_declaration]

end Stylesheet

/-! ### Blocks of the tree -/

namespace Node

mutual

/-- The ends of the blocks of a node, outer ones first. -/
def blockEnds : Node → List BlockEnd
  | rule _ body tail => tail :: blockEndsAll body
  | atBlock _ body tail => tail :: blockEndsAll body
  | atStatement _ _ => []
  | declaration _ => []
  | comment _ => []
  | document _ body _ => blockEndsAll body

/-- The ends of the blocks of a sequence of nodes, in the order of the text. -/
def blockEndsAll : List Node → List BlockEnd
  | [] => []
  | n :: ns => n.blockEnds ++ blockEndsAll ns

end

/-- Numbering changes no block. -/
@[simp] lemma blockEndsAll_numberAll (next : NodeId) (nodes : List Node) :
    blockEndsAll (numberAll next nodes) = blockEndsAll nodes := by
  induction nodes using Node.induct generalizing next with
  | nil => simp [numberAll]
  | rule head body tail rest ihbody ih =>
    simp [numberAll, number, blockEndsAll, blockEnds, ihbody, ih]
  | atBlock head body tail rest ihbody ih =>
    simp [numberAll, number, blockEndsAll, blockEnds, ihbody, ih]
  | atStatement head semicolon rest ih => simp [numberAll, number, blockEndsAll, blockEnds, ih]
  | declaration d rest ih => simp [numberAll, number, blockEndsAll, blockEnds, ih]
  | comment c rest ih => simp [numberAll, number, blockEndsAll, blockEnds, ih]
  | document id body after rest ihbody ih =>
    simp [numberAll, number, blockEndsAll, blockEnds, ihbody, ih]

end Node

namespace Stylesheet

open Node (blockEndsAll)

variable {before : List Char} {cs : List Component} {sheet : Stylesheet}

/-- The blocks of the tree are those of the components, in the same order. -/
lemma Reads.closed_blockEnds (h : Reads before cs sheet) :
    (blockEndsAll sheet.nodes).map (·.closed)
      = (ruleBlocks cs).map fun b => countsAsClosed .curly b.contents b.closer := by
  induction h with
  | nil => simp [blockEndsAll]
  | gap hkind _ ih => rw [ruleBlocks_of_no_block (headCut_gap hkind) (by simp), ih]
  | comment hkind _ ih =>
    rw [ruleBlocks_of_no_block (headCut_comment hkind) (by simp), ← ih]
    simp [Stylesheet.cons, blockEndsAll, Node.blockEnds]
  | atBlock hkind hfront _ _ ihinner ih =>
    rw [ruleBlocks_of_block (headCut_atRule hkind hfront rfl)]
    simp [Stylesheet.cons, blockEndsAll, Node.blockEnds, BlockEnd.ofText, ihinner, ih]
  | atStatement hkind hfront hsemicolon _ ih =>
    rw [ruleBlocks_of_no_block (headCut_atStatement hkind hfront hsemicolon) (by simp), ← ih]
    simp [Stylesheet.cons, blockEndsAll, Node.blockEnds]
  | atUnended hkind hfront =>
    rw [ruleBlocks_of_no_block (headCut_atRule_unended hkind hfront) (by simp)]
    simp [blockEndsAll, Node.blockEnds]
  | rule hkind heq hfront _ _ ihinner ih =>
    rw [ruleBlocks_of_block (headCut_rule hkind heq hfront rfl)]
    simp [Stylesheet.cons, blockEndsAll, Node.blockEnds, BlockEnd.ofText, ihinner, ih]
  | declaration hkind heq hfront hsemicolon _ ih =>
    rw [ruleBlocks_of_no_block (headCut_declaration hkind heq hfront hsemicolon) (by simp), ← ih]
    simp [Stylesheet.cons, blockEndsAll, Node.blockEnds]
  | unended hkind hfront =>
    rw [ruleBlocks_of_no_block (headCut_declaration_unended hkind hfront) (by simp)]
    simp [blockEndsAll, Node.blockEnds]

/-! ### Round trip -/

lemma render_number (sheet : Stylesheet) (next : NodeId) :
    (sheet.number next).render = sheet.render := by
  simp [Stylesheet.render, Stylesheet.number]

lemma toList_render_parse (text : String) (next : NodeId) :
    (Stylesheet.parse text next).render.toList = text.toList
      ++ addedMarks (text.toList.getLast? == some '}') (Css.components text.toList) := by
  have hreads := reads_ofComponents [] (Css.components text.toList)
  have h := hreads.printsBack (Css.openEnd_components _) _ (endsIn_self _)
  rw [Css.textOf_components, List.nil_append] at h
  rw [Stylesheet.parse, render_number, h]

/-- Printing a parsed sheet gives its text back, followed by a closing mark for each block of a rule
or an at-rule that nothing closes if the text ends in such a mark, and by nothing otherwise. -/
theorem render_parse (text : String) (next : NodeId) :
    let blocks := ruleBlocks (Css.components text.toList)
    -- these are the blocks of the tree
    (blockEndsAll (Stylesheet.parse text next).nodes).map (·.closed)
      = blocks.map (fun b => countsAsClosed .curly b.contents b.closer) ∧
    (Stylesheet.parse text next).render = text ++ String.ofList
      (List.replicate (if text.toList.getLast? = some '}' then blocks.countP (·.closer.isNone) else 0)
        '}') ∧
    ((∀ b ∈ blocks, b.closer.isSome) → (Stylesheet.parse text next).render = text) := by
  have htext := toList_render_parse text next
  have hrender : (Stylesheet.parse text next).render = text ++ String.ofList (List.replicate
      (if text.toList.getLast? = some '}'
        then (ruleBlocks (Css.components text.toList)).countP (·.closer.isNone) else 0) '}') := by
    rw [← String.toList_inj, htext, String.toList_append, String.toList_ofList, addedMarks, openBlocks]
    split <;> simp_all
  refine ⟨?_, hrender, ?_⟩
  · rw [← (reads_ofComponents [] _).closed_blockEnds]
    simp [Stylesheet.parse, Stylesheet.number]
  · intro hclosed
    have hnone : (ruleBlocks (Css.components text.toList)).countP (·.closer.isNone) = 0 := by
      rw [List.countP_eq_zero]
      intro b hb
      simpa [Option.isSome_iff_ne_none] using hclosed b hb
    rw [hrender, hnone]
    simp

/-- Two blocks are open in `a{b{--c:{}`, which ends in the mark that closes the value of
`--c`: printing it adds two marks. With them every block is closed. -/
theorem render_parse_open :
    (Stylesheet.parse "a\x7bb\x7b--c:\x7b\x7d" 0).render = "a\x7bb\x7b--c:\x7b\x7d\x7d\x7d" ∧
    (Stylesheet.parse "a\x7bb\x7b--c:\x7b\x7d\x7d\x7d" 0).render
      = "a\x7bb\x7b--c:\x7b\x7d\x7d\x7d" := by
  constructor
  · have hopen : (ruleBlocks (Css.components "a\x7bb\x7b--c:\x7b\x7d".toList)).countP
        (·.closer.isNone) = 2 := by cbv
    rw [(render_parse _ _).2.1, hopen]
    rfl
  · have hclosed : ∀ b ∈ ruleBlocks (Css.components "a\x7bb\x7b--c:\x7b\x7d\x7d\x7d".toList),
        b.closer.isSome := by
      rw [← List.all_eq_true]
      cbv
    exact (render_parse _ _).2.2 hclosed

end Stylesheet

end CustomProperties
