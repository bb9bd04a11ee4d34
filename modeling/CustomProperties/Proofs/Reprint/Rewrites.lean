import CustomProperties.Collect
import CustomProperties.Proofs.Editing.Modes
import CustomProperties.Proofs.Reprint.Parsed
import CustomProperties.Update
import Mathlib

/-!
# Collecting and updating keep trees printable

Taking definitions out leaves a printable tree printable. So does writing a new value, if the
declaration it is written in reads back by itself (`Declaration.ReadsBack`): nothing is asked of the
nodes around it.
-/

namespace CustomProperties

open Css (Bracket Component Lexeme lex)
open Css.Component
open Node (declarationsAll)
open Stylesheet (Reads)

/-! ### Declarations by themselves -/

/-- The text of a declaration, ended by a semicolon, is read as one declaration of the same name and
nothing else, and holds no mark that would close a block around it. -/
structure Declaration.ReadsBack (d : Declaration) : Prop where
  reads : ∃ d', Stylesheet.parse { d with semicolon := true }.render 0 = ⟨[.declaration d'], ""⟩ ∧
    d'.prop = d.prop ∧ d'.semicolon
  stays : ∀ l, token l ∈ Css.components { d with semicolon := true }.render.toList →
    l.token.closes .curly = false

/-- The declaration that holds the new value of `d`. -/
def Declaration.written (preserve : Bool) (d : Declaration) (value : String) : Declaration :=
  if preserve then d.withValue d.id value else { d with value }

variable {outer : Option Bracket} {before : List Char} {cs gaps tail : List Component}
  {c : Component} {semicolon : Lexeme} {sheet : Stylesheet} {d d' : Declaration} {n m : Node}
  {ns : List Node} {after : String}

/-- What reads as one declaration ended by a semicolon is that declaration, with gaps before it. -/
lemma Stylesheet.Reads.eq_of_declaration (h : Reads before cs sheet)
    (hnodes : sheet.nodes = [.declaration d]) (hafter : sheet.after = "")
    (hsemicolon : d.semicolon) (hne : ∀ l ∈ lexemesAll cs, l.text ≠ []) :
    ∃ gaps c tail semicolon, cs = gaps ++ (c :: tail ++ [token semicolon]) ∧
      (∀ g ∈ gaps, g.IsGap) ∧ c.itemKind (tail ++ [token semicolon]) = .declaration ∧
      (∀ g ∈ c :: tail, g.isSemicolon = false) ∧ semicolon.token = .semicolon ∧
      d = .ofText (String.ofList (before ++ textOf gaps)) (textOf (c :: tail)) true := by
  induction h with
  | nil => cases hnodes
  | @gap _ g _ _ hkind _ ih =>
    obtain ⟨gaps, c, tail, semicolon, rfl, hgaps, hrest⟩ :=
      ih hnodes hafter (fun l hl => hne l (by simp [hl]))
    refine ⟨g :: gaps, c, tail, semicolon, rfl,
      List.forall_mem_cons.2 ⟨isGap_of_itemKind hkind, hgaps⟩, ?_⟩
    simpa using hrest
  | @declaration _ c semicolon tail front cs _ hkind heq hfront hmark hrest _ =>
    rw [Stylesheet.cons, List.cons.injEq, Node.declaration.injEq] at hnodes
    obtain ⟨rfl, hnodes⟩ := hnodes
    obtain ⟨-, hnil⟩ := hrest.isGap_of_nodes_eq_nil hnodes
    -- the rest of the text is empty, and so are its components
    have hcs : cs = [] := by
      by_contra hcs
      obtain ⟨l, ls, hls⟩ := List.exists_cons_of_ne_nil (lexemesAll_ne_nil hcs)
      have htext : textOf cs = [] := by
        have hempty : (Stylesheet.after _).toList = _ := congrArg String.toList hafter
        simpa [Stylesheet.cons, hnil] using hempty
      rw [← textOf_lexemesAll, hls, Lexeme.textOf_cons, List.append_eq_nil_iff] at htext
      exact hne l (by rw [heq]; simp [hls]) htext.1
    subst hcs
    obtain ⟨items, rfl, rfl⟩ := exists_cons_of_declaration hkind heq hmark
    exact ⟨[], c, items, semicolon, rfl, by simp, hkind, hfront, hmark, by simp⟩
  | unended =>
    cases hnodes
    cases hsemicolon
  | _ => cases hnodes

/-- The components of a text that a semicolon ends can stand elsewhere, inside of a bracket if no
mark among them closes it. -/
lemma Placed.of_components {text : String} {front : List Component}
    (h : Css.components text.toList = gaps ++ (front ++ [token semicolon]))
    (hgaps : ∀ g ∈ gaps, g.IsGap) (hsemicolon : semicolon.token = .semicolon)
    (hstays : ∀ bracket ∈ outer, ∀ l, token l ∈ Css.components text.toList →
      l.token.closes bracket = false) :
    Placed outer gaps (front ++ [token semicolon]) := by
  have hlexemes : lexemesAll (gaps ++ (front ++ [token semicolon])) = lex text.toList := by
    rw [← h, Css.lexemesAll_components]
  have hterminated : Terminated text := by
    refine terminated_of_components _ (h.trans (List.append_assoc ..).symm) (by simp) ?_
    rintro l hl
    cases hl
    simp [hsemicolon]
  refine ⟨hgaps, ?_, ?_, ?_, ?_⟩
  · have hlex : lex text.toList = lexemesAll (gaps ++ front) ++ [semicolon] := by
      rw [← hlexemes]
      simp
    have hmark := eq_semicolon hsemicolon
      (Css.spelled_of_mem_lex (show semicolon ∈ lex text.toList by simp [hlex]))
    subst hmark
    have hfirm := Css.firm_of_lex Css.final_semicolon hlex
    rw [hlexemes, hlex]
    exact fun s _ _ => hfirm s
  · rw [← h]
    intro c hc
    have hfits := Css.fits_components hterminated.closed c hc
    cases outer with
    | none => exact hfits
    | some bracket =>
      refine hfits.inside ?_
      rintro l rfl
      exact hstays bracket rfl l hc
  · rw [hlexemes]
    exact fun l hl => Css.spelled_of_mem_lex hl
  · rw [hlexemes]
    exact hterminated.ended

/-- A semicolon can be left out where nothing comes behind it. -/
lemma Placed.init (h : Placed outer gaps (cs ++ [token semicolon]))
    (hsemicolon : semicolon.token = .semicolon) : Placed outer gaps cs where
  isGap := h.isGap
  closing := by
    have hmark := eq_semicolon hsemicolon (h.spelled semicolon (by simp))
    have hlex := h.closing.lex_eq
    rw [← List.append_assoc, lexemesAll_append, lexemesAll_cons, lexemes_token] at hlex
    subst hmark
    exact closing_of_soft (Css.soft_of_lex_final Css.final_semicolon hlex)
  fits g hg := h.fits g (by
    rw [← List.append_assoc]
    exact List.mem_append_left _ hg)
  spelled l hl := h.spelled l (by
    rw [← List.append_assoc, lexemesAll_append]
    exact List.mem_append_left _ hl)
  comments l hl := h.comments l (by
    rw [← List.append_assoc, lexemesAll_append]
    exact List.mem_append_left _ hl)

/-- The components of a declaration that reads back can stand where that declaration stands, with
its semicolon and, where nothing comes behind them, without it. -/
lemma Declaration.ReadsBack.exists_placed (h : d.ReadsBack)
    (houter : ∀ bracket ∈ outer, bracket = .curly) :
    ∃ gaps c tail semicolon, Placed outer gaps (c :: tail ++ [token semicolon]) ∧
      c.itemKind (tail ++ [token semicolon]) = .declaration ∧
      (∀ g ∈ c :: tail, g.isSemicolon = false) ∧ semicolon.token = .semicolon ∧
      { d with semicolon := true }.render.toList
        = textOf gaps ++ textOf (c :: tail) ++ [';'] ∧
      (Declaration.ofText (String.ofList (textOf gaps)) (textOf (c :: tail)) true).prop
        = d.prop := by
  obtain ⟨d', hparse, hprop, hsemicolon⟩ := h.reads
  have hstays := h.stays
  generalize { d with semicolon := true }.render = text at hparse hstays ⊢
  rw [Stylesheet.parse, Stylesheet.number] at hparse
  have hreads := Stylesheet.reads_ofComponents [] (Css.components text.toList)
  generalize Stylesheet.ofComponentsAfter [] (Css.components text.toList) = sheet at hparse hreads
  obtain ⟨nodes, after⟩ := sheet
  rw [Stylesheet.mk.injEq] at hparse
  obtain ⟨hnodes, rfl⟩ := hparse
  obtain ⟨d₀, rfl, rfl⟩ : ∃ d₀, nodes = [.declaration d₀] ∧ d' = { d₀ with id := 0 } := by
    cases nodes with
    | nil => simp [Node.numberAll] at hnodes
    | cons n rest =>
      rw [Node.numberAll, List.cons.injEq] at hnodes
      obtain ⟨hnode, hrest⟩ := hnodes
      obtain rfl : rest = [] := by
        cases rest with
        | nil => rfl
        | cons => simp [Node.numberAll] at hrest
      cases n with
      | declaration d₀ => simpa [Node.number, eq_comm] using hnode
      | rule | atBlock | atStatement | comment | document => simp [Node.number] at hnode
  obtain ⟨gaps, c, tail, semicolon, hcs, hgaps, hkind, hfront, hmark, rfl⟩ :=
    hreads.eq_of_declaration rfl rfl hsemicolon (fun l hl => by
      rw [Css.lexemesAll_components] at hl
      exact Css.ne_nil_of_mem_lex hl)
  have hplaced : Placed outer gaps (c :: tail ++ [token semicolon]) :=
    .of_components hcs hgaps hmark fun bracket hbracket => houter bracket hbracket ▸ hstays
  refine ⟨gaps, c, tail, semicolon, hplaced, hkind, hfront, hmark, ?_, hprop⟩
  have htext := Css.textOf_components text.toList
  have hspelled := Lexeme.text_eq_of_semicolon (hplaced.spelled semicolon (by simp)) hmark
  rw [← htext, hcs]
  simp [hspelled]

lemma Piece.of_sameLeaf (h : Piece outer cs m) (hleaf : n.SameLeaf m) : Piece outer cs n where
  text := by rw [h.text, hleaf.render_eq]
  firm := h.firm
  fits := h.fits
  reads := by
    obtain ⟨m', hm, hreads⟩ := h.reads
    exact ⟨m', hleaf.trans hm, hreads⟩

lemma LastPiece.of_sameLeaf (h : LastPiece outer cs m) (hleaf : n.SameLeaf m) :
    LastPiece outer cs n where
  text := by rw [h.text, hleaf.render_eq]
  closing := h.closing
  fits := h.fits
  reads := by
    obtain ⟨m', hm, hreads⟩ := h.reads
    exact ⟨m', hleaf.trans hm, hreads⟩

/-- A declaration that reads back and has a semicolon reads back wherever it stands. -/
lemma Declaration.ReadsBack.exists_piece (h : d.ReadsBack) (hd : d.semicolon)
    (houter : ∀ bracket ∈ outer, bracket = .curly) : ∃ cs, Piece outer cs (.declaration d) := by
  obtain ⟨gaps, c, tail, semicolon, hplaced, hkind, hfront, hmark, htext, hprop⟩ :=
    h.exists_placed houter
  refine ⟨_, (hplaced.declaration rfl hkind hfront hmark).of_sameLeaf
    (.declaration hprop ?_ hd.symm)⟩
  rw [← String.toList_inj, toList_render_declaration, String.toList_ofList, if_pos rfl, ← htext]
  rw [show { d with semicolon := true } = d from by rw [← hd]]

/-- A declaration that reads back, but has no semicolon, does so where nothing comes behind it. -/
lemma Declaration.ReadsBack.exists_lastPiece (h : d.ReadsBack) (hd : d.semicolon = false)
    (houter : ∀ bracket ∈ outer, bracket = .curly) : ∃ cs, LastPiece outer cs (.declaration d) := by
  obtain ⟨gaps, c, tail, semicolon, hplaced, hkind, hfront, hmark, htext, hprop⟩ :=
    h.exists_placed houter
  rw [itemKind_semicolon hmark] at hkind
  refine ⟨_, ((hplaced.init hmark).unended rfl hkind hfront).of_sameLeaf
    (.declaration hprop ?_ hd.symm)⟩
  have hrender : { d with semicolon := true }.render = d.render ++ ";" := by
    simp [Declaration.render, hd]
  rw [hrender, String.toList_append] at htext
  rw [← String.toList_inj, toList_render_declaration, String.toList_ofList]
  simpa using (List.append_cancel_right htext).symm

/-! ### Trees -/

lemma Node.SameLeaf.children? (h : n.SameLeaf m) : n.children? = none := by
  cases h <;> rfl

namespace Printable

variable {preserve : Bool} {ignored : IgnoreSet}

lemma empty : Printable outer [] "" :=
  .nil ⟨[], rfl, closing_nil, by simp, .nil⟩

/-- Nodes can be taken out of a printable tree. -/
lemma filter (h : Printable outer ns after) (p : Node → Bool) :
    Printable outer (ns.filter p) after := by
  induction h with
  | nil hafter => exact .nil hafter
  | @last _ n hends hpiece =>
    cases hn : p n with
    | true => simpa [hn] using .last hends hpiece
    | false => simpa [hn] using .empty
  | @leaf _ n _ _ hends hpiece _ ih =>
    cases hn : p n with
    | true => simpa [hn] using .leaf hends hpiece ih
    | false => simpa [hn] using ih
  | @rule _ head body _ tail _ hhead hclosed hbody _ _ ih =>
    cases hn : p (.rule head body tail) with
    | true => simpa [hn] using .rule hhead hclosed hbody ih
    | false => simpa [hn] using ih
  | @atBlock _ head body _ tail _ hhead hclosed hbody _ _ ih =>
    cases hn : p (.atBlock head body tail) with
    | true => simpa [hn] using .atBlock hhead hclosed hbody ih
    | false => simpa [hn] using ih

lemma snd_collectFrom_cons_leaf (hn : n.children? = none) (table : PropertyTable) (ns : List Node) :
    (collectFrom ignored preserve table (n :: ns)).2
      = n :: (collectFrom ignored preserve table ns).2 := by
  cases n with
  | rule | atBlock | document => cases hn
  | atStatement | declaration | comment => rw [collectFrom]

/-- Collecting leaves a printable tree. -/
lemma collectFrom (h : Printable outer ns after) (table : PropertyTable) :
    Printable outer (collectFrom ignored preserve table ns).2 after := by
  induction h generalizing table with
  | nil hafter => simpa [CustomProperties.collectFrom] using .nil hafter
  | last hends hpiece =>
    obtain ⟨_, _, _, _, _, hleaf, _⟩ := id hpiece
    rw [snd_collectFrom_cons_leaf hleaf.children?]
    simpa [CustomProperties.collectFrom] using .last hends hpiece
  | leaf hends hpiece _ ih =>
    obtain ⟨_, _, _, _, _, hleaf, _⟩ := id hpiece
    rw [snd_collectFrom_cons_leaf hleaf.children?]
    exact .leaf hends hpiece (ih table)
  | @rule _ head body _ tail _ hhead hclosed hbody _ _ ih =>
    have hleft : Printable (some .curly)
        (if preserve then body else withoutDefinitions ignored body) tail.after := by
      split
      · exact hbody
      · exact hbody.filter _
    rw [CustomProperties.collectFrom]
    simp only
    generalize (if preserve then body else withoutDefinitions ignored body) = left at hleft ⊢
    split
    · split
      · exact ih _
      · exact .rule hhead hclosed hleft (ih _)
    · exact .rule hhead hclosed hbody (ih _)
  | atBlock hhead hclosed hbody _ _ ih =>
    rw [CustomProperties.collectFrom]
    exact .atBlock hhead hclosed hbody (ih _)

/-- What a node without others inside becomes: it stays, or it is a declaration with a new value. -/
lemma fst_updateNode_leaf {edit : Declaration → Option String} (hn : n.children? = none)
    (next : NodeId) :
    (updateNode edit preserve next n).1 = [n] ∨
    ∃ d value, n = .declaration d ∧ edit d = some value ∧ (updateNode edit preserve next n).1
      = if preserve then [.declaration (d.withValue next value), .declaration d]
        else [.declaration { d with value }] := by
  cases n with
  | declaration d =>
    cases hvalue : edit d with
    | none => exact .inl (by simp [updateNode, Declaration.updateTo, hvalue])
    | some value =>
      refine .inr ⟨d, value, rfl, hvalue, ?_⟩
      cases preserve <;> simp [updateNode, Declaration.updateTo, hvalue]
  | rule | atBlock | document => cases hn
  | atStatement | comment => exact .inl (by simp [updateNode])

/-- Writing new values leaves a printable tree if each declaration they are written in reads
back. -/
lemma updateNodes {edit : Declaration → Option String} (h : Printable outer ns after)
    (hreads : ∀ d ∈ declarationsAll ns, ∀ value, edit d = some value →
      (d.written preserve value).ReadsBack)
    (houter : ∀ bracket ∈ outer, bracket = .curly) (next : NodeId) :
    Printable outer (updateNodes edit preserve next ns).1 after := by
  induction h generalizing next with
  | nil hafter => simpa [CustomProperties.updateNodes] using .nil hafter
  | last hends hpiece =>
    obtain ⟨_, _, _, _, _, hleaf, _⟩ := id hpiece
    rw [CustomProperties.updateNodes, CustomProperties.updateNodes, List.append_nil]
    rcases fst_updateNode_leaf hleaf.children? next with hstays | ⟨d, value, rfl, hvalue, hnew⟩
    · rw [hstays]
      exact .last hends hpiece
    · have hback := hreads d (by simp [Node.declarations]) value hvalue
      rw [hnew]
      cases preserve with
      | true =>
        exact .leaf rfl (Declaration.ReadsBack.exists_piece ⟨hback.reads, hback.stays⟩ rfl houter)
          (.last hends hpiece)
      | false =>
        have hd : d.semicolon = false := by simpa [Node.Ended] using hends
        exact .last hends (hback.exists_lastPiece hd houter)
  | leaf hends hpiece _ ih =>
    obtain ⟨_, _, _, _, _, hleaf, _⟩ := id hpiece
    rw [Node.declarationsAll_cons, List.forall_mem_append] at hreads
    rw [CustomProperties.updateNodes]
    have hrest := ih hreads.2 houter
    rcases fst_updateNode_leaf hleaf.children? next with hstays | ⟨d, value, rfl, hvalue, hnew⟩
    · rw [hstays]
      exact .leaf hends hpiece (hrest _)
    · have hback := hreads.1 d (by simp [Node.declarations]) value hvalue
      rw [hnew]
      cases preserve with
      | true =>
        exact .leaf rfl (Declaration.ReadsBack.exists_piece ⟨hback.reads, hback.stays⟩ rfl houter)
          (.leaf hends hpiece (hrest _))
      | false => exact .leaf hends (hback.exists_piece hends houter) (hrest _)
  | rule hhead hclosed _ _ ihbody ih =>
    rw [Node.declarationsAll_cons, Node.declarations, List.forall_mem_append] at hreads
    rw [CustomProperties.updateNodes, updateNode]
    exact .rule hhead hclosed (ihbody hreads.1 (by simp) _) (ih hreads.2 houter _)
  | atBlock hhead hclosed _ _ ihbody ih =>
    rw [Node.declarationsAll_cons, Node.declarations, List.forall_mem_append] at hreads
    rw [CustomProperties.updateNodes, updateNode]
    exact .atBlock hhead hclosed (ihbody hreads.1 (by simp) _) (ih hreads.2 houter _)

end Printable

end CustomProperties
