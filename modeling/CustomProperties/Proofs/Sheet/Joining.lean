import CustomProperties.Proofs.Editing.Endings
import CustomProperties.Proofs.Lexing.Adjoining
import CustomProperties.Proofs.Reprint.Parsed
import Mathlib.Tactic.Common

/-!
# Sheets one after the other

An item that is ended reads as the same node whatever comes behind it. So a text whose last node is
finished, with another text behind it, reads as the one sheet with the other behind it
(`parse_append`). What is left behind the last node of the first sheet goes before the first node of
the second one.
-/

namespace CustomProperties

open Css (Component Firm Lexeme isSpace lex)
open Css.Component
open Stylesheet (Reads ofComponentsAfter reads_ofComponents)

/-! ### Joining -/

/-- A node with more text before it. An embedded sheet has nothing before it. -/
def Node.prepend (space : String) : Node → Node
  | rule head body tail => rule { head with before := space ++ head.before } body tail
  | atBlock head body tail => atBlock { head with before := space ++ head.before } body tail
  | atStatement head semicolon => atStatement { head with before := space ++ head.before } semicolon
  | declaration d => declaration { d with before := space ++ d.before }
  | comment c => comment { c with before := space ++ c.before }
  | document id body after => document id body after

/-- A sheet with more text before its first node, or before what follows if it has no node. -/
def Stylesheet.prepend (space : String) (sheet : Stylesheet) : Stylesheet :=
  match sheet.nodes with
  | [] => ⟨[], space ++ sheet.after⟩
  | n :: ns => ⟨n.prepend space :: ns, sheet.after⟩

/-- A sheet with another one behind it. -/
def Stylesheet.join (front back : Stylesheet) : Stylesheet :=
  let back := back.prepend front.after
  ⟨front.nodes ++ back.nodes, back.after⟩

namespace Node

variable (space : String) (next : NodeId)

lemma number_prepend (n : Node) :
    (n.prepend space).number next = (n.number next).prepend space := by
  cases n <;> rfl

lemma size_prepend (n : Node) : (n.prepend space).size = n.size := by
  cases n <;> rfl

lemma sizeAll_numberAll (ns : List Node) : sizeAll (numberAll next ns) = sizeAll ns := by
  induction ns using Node.induct generalizing next with
  | nil => rfl
  | rule head body tail rest ihbody ih => simp [numberAll, number, sizeAll, size, ihbody, ih]
  | atBlock head body tail rest ihbody ih => simp [numberAll, number, sizeAll, size, ihbody, ih]
  | atStatement head semicolon rest ih => simp [numberAll, number, sizeAll, size, ih]
  | declaration d rest ih => simp [numberAll, number, sizeAll, size, ih]
  | comment c rest ih => simp [numberAll, number, sizeAll, size, ih]
  | document id body after rest ihbody ih => simp [numberAll, number, sizeAll, size, ihbody, ih]

lemma numberAll_append (ns ms : List Node) :
    numberAll next (ns ++ ms) = numberAll next ns ++ numberAll (next + sizeAll ns) ms := by
  induction ns generalizing next with
  | nil => simp [numberAll, sizeAll]
  | cons n ns ih => simp [numberAll, sizeAll, ih, Nat.add_assoc]

/-- Nodes that are numbered again do not keep their numbers. -/
lemma numberAll_numberAll (old : NodeId) (ns : List Node) :
    numberAll next (numberAll old ns) = numberAll next ns := by
  induction ns using Node.induct generalizing next old with
  | nil => rfl
  | rule head body tail rest ihbody ih =>
    simp [numberAll, number, size, sizeAll_numberAll, ihbody, ih]
  | atBlock head body tail rest ihbody ih =>
    simp [numberAll, number, size, sizeAll_numberAll, ihbody, ih]
  | atStatement head semicolon rest ih => simp [numberAll, number, size, ih]
  | declaration d rest ih => simp [numberAll, number, size, ih]
  | comment c rest ih => simp [numberAll, number, size, ih]
  | document id body after rest ihbody ih =>
    simp [numberAll, number, size, sizeAll_numberAll, ihbody, ih]

end Node

namespace Stylesheet

variable {front back sheet : Stylesheet} {space : String}

lemma prepend_cons (n : Node) : (sheet.cons n).prepend space = sheet.cons (n.prepend space) := rfl

lemma prepend_single (n : Node) (after : String) :
    (⟨[n], after⟩ : Stylesheet).prepend space = ⟨[n.prepend space], after⟩ := rfl

lemma number_prepend (next : NodeId) :
    (sheet.prepend space).number next = (sheet.number next).prepend space := by
  obtain ⟨nodes, after⟩ := sheet
  cases nodes with
  | nil => rfl
  | cons n ns =>
    simp [prepend, number, Node.numberAll, Node.number_prepend, Node.size_prepend]

/-- Which numbers the nodes of two sheets have does not matter if they are numbered together. -/
lemma number_join (p q next : NodeId) :
    ((front.number p).join (back.number q)).number next = (front.join back).number next := by
  have hback : Node.numberAll (next + Node.sizeAll front.nodes)
      ((back.number q).prepend front.after).nodes
      = Node.numberAll (next + Node.sizeAll front.nodes) (back.prepend front.after).nodes := by
    rw [← number_prepend, number, Node.numberAll_numberAll]
  have hafter : ((back.number q).prepend front.after).after = (back.prepend front.after).after := by
    rw [← number_prepend, number]
  simp only [join, number, Node.numberAll_append, Node.numberAll_numberAll, Node.sizeAll_numberAll]
  rw [number] at hback hafter
  rw [hback, hafter]

end Stylesheet

/-! ### Text before a sheet -/

namespace Stylesheet

/-- What comes before a sheet goes to its first node. -/
lemma Reads.prepend {before : List Char} {cs : List Component} {sheet : Stylesheet}
    (h : Reads before cs sheet) (space : List Char) :
    Reads (space ++ before) cs (sheet.prepend (String.ofList space)) := by
  induction h with
  | nil =>
    rw [Stylesheet.prepend, ← String.ofList_append]
    exact .nil
  | gap hkind _ ih =>
    apply Reads.gap hkind
    rwa [List.append_assoc]
  | comment hkind hrest =>
    rw [prepend_cons, Node.prepend, ← String.ofList_append]
    exact .comment hkind hrest
  | atBlock hkind hfront hinner hrest =>
    rw [prepend_cons, Node.prepend, AtHead.ofText, ← String.ofList_append]
    exact .atBlock hkind hfront hinner hrest
  | atStatement hkind hfront hsemicolon hrest =>
    rw [prepend_cons, Node.prepend, AtHead.ofText, ← String.ofList_append]
    exact .atStatement hkind hfront hsemicolon hrest
  | atUnended hkind hfront =>
    rw [prepend_single, Node.prepend, AtHead.ofText, ← String.ofList_append]
    exact .atUnended hkind hfront
  | rule hkind heq hfront hinner hrest =>
    rw [prepend_cons, Node.prepend, RuleHead.ofText, ← String.ofList_append]
    exact .rule hkind heq hfront hinner hrest
  | declaration hkind heq hfront hsemicolon hrest =>
    rw [prepend_cons, Node.prepend, Declaration.ofText, ← String.ofList_append]
    exact .declaration hkind heq hfront hsemicolon hrest
  | unended hkind hfront =>
    rw [prepend_single, Node.prepend, Declaration.ofText, ← String.ofList_append]
    exact .unended hkind hfront

lemma ofComponentsAfter_eq_prepend (space : List Char) (cs : List Component) :
    ofComponentsAfter space cs = (ofComponentsAfter [] cs).prepend (String.ofList space) := by
  have hreads := (reads_ofComponents [] cs).prepend space
  rw [List.append_nil] at hreads
  exact hreads.ofComponentsAfter_eq

/-- A gap goes before what comes behind it. -/
lemma ofComponentsAfter_gap {c : Component} (hc : c.IsGap) (before : List Char)
    (cs : List Component) :
    ofComponentsAfter before (c :: cs) = ofComponentsAfter (before ++ c.text) cs :=
  (Reads.gap (hc.itemKind cs) (reads_ofComponents _ cs)).ofComponentsAfter_eq

/-! ### Gaps before a text -/

/-- White space is read as one gap. -/
lemma ofComponentsAfter_spaces (before text : List Char) :
    ofComponentsAfter before (Css.components text)
      = ofComponentsAfter (before ++ text.takeWhile isSpace)
          (Css.components (text.dropWhile isSpace)) := by
  cases text with
  | nil => simp
  | cons c rest =>
    by_cases hc : isSpace c
    · have hlex : lex (c :: rest)
          = lexemesAll [token ⟨.blank, c :: rest.takeWhile isSpace⟩]
            ++ lex (rest.dropWhile isSpace) := by
        rw [Css.lex_cons, Css.read_of_space hc]
        simp [Css.cutWhile, Css.Cut.after]
      rw [List.takeWhile_cons_of_pos hc, List.dropWhile_cons_of_pos hc, Css.components, hlex,
        group_append]
      · exact ofComponentsAfter_gap ⟨_, rfl, .inl rfl⟩ _ _
      · rw [List.forall_mem_singleton]
        exact .token rfl (by simp)
    · rw [List.takeWhile_cons_of_neg hc, List.dropWhile_cons_of_neg hc, List.append_nil]

lemma ofComponentsAfter_cons {c : Char} (hc : isSpace c ∨ c = ';') (before text : List Char) :
    ofComponentsAfter before (Css.components (c :: text))
      = ofComponentsAfter (before ++ [c]) (Css.components text) := by
  rcases hc with hc | rfl
  · -- the white space at the start of `text` and `c` are one lexeme
    rw [ofComponentsAfter_spaces before, ofComponentsAfter_spaces (before ++ [c]),
      List.takeWhile_cons_of_pos hc, List.dropWhile_cons_of_pos hc, List.append_assoc]
    rfl
  · have hfirm : Firm (lexemesAll [token ⟨.semicolon, [';']⟩]) := by
      intro s
      simpa using Css.final_semicolon.firm s
    have hfits : ∀ d ∈ [token ⟨.semicolon, [';']⟩], Fits none d := by
      rw [List.forall_mem_singleton]
      exact .token rfl (by simp)
    have hcomponents := Css.components_append hfits hfirm text
    rw [show ';' :: text = textOf [token ⟨.semicolon, [';']⟩] ++ text by simp, hcomponents]
    exact ofComponentsAfter_gap ⟨_, rfl, .inr rfl⟩ _ _

/-- What gaps are made of goes before the sheet behind it. -/
lemma ofComponentsAfter_gapText {gap : List Char} (hgap : IsGapText gap) (before text : List Char) :
    ofComponentsAfter before (Css.components (gap ++ text))
      = ofComponentsAfter (before ++ gap) (Css.components text) := by
  induction gap generalizing before with
  | nil => simp
  | cons c gap ih =>
    rw [IsGapText, List.forall_mem_cons] at hgap
    rw [List.cons_append, ofComponentsAfter_cons hgap.1, ih hgap.2, List.append_assoc,
      List.singleton_append]

end Stylesheet

/-! ### Items that are ended -/

namespace Css.Component

variable {c : Component} {front gaps rest rest' : List Component}

/-- What an item that is ended ends with: its own mark, a block, or a comment with both marks. -/
def EndsItem (c : Component) : Prop :=
  c.endsHead ∨ ∃ l, c = token l ∧ l.token = .comment ∧ l.Ended

lemma endsItem_of_endsHead (front : List Component) (h : c.endsHead) :
    ∀ d ∈ (front ++ [c]).getLast?, d.EndsItem := by
  intro d hd
  rw [List.getLast?_concat] at hd
  cases hd
  exact .inl h

/-- Gaps have no block that would make a rule of what stands before them. -/
lemma itemKind_of_gaps (hgaps : ∀ d ∈ gaps, d.IsGap) (h : c.itemKind (front ++ gaps) = .rule)
    (rest : List Component) : c.itemKind (front ++ rest) = .rule := by
  have hstarts : c.startsRule (front ++ gaps) := by cases c <;> grind [itemKind]
  have hstarts' : c.startsRule (front ++ rest) := by
    rw [startsRule, Bool.and_eq_true, List.find?_append] at hstarts ⊢
    refine ⟨hstarts.1, ?_⟩
    cases hfront : front.find? endsHead with
    | some d => simpa [hfront] using hstarts.2
    | none =>
      rw [hfront, Option.none_or, Option.any_eq_true] at hstarts
      obtain ⟨-, d, hd, hcurly⟩ := hstarts
      obtain ⟨l, rfl, -⟩ := hgaps d (List.mem_of_find?_eq_some hd)
      cases hcurly
  unfold itemKind at h ⊢
  rw [hstarts] at h
  rw [hstarts']
  exact h

/-- A comment whose node has both marks has them itself. -/
lemma ended_of_finished {l : Lexeme} {before : String}
    (h : (Node.comment ⟨0, before, String.ofList l.text⟩).Finished) : l.Ended := by
  obtain ⟨text, htext⟩ := h
  rw [← String.toList_inj, String.toList_ofList] at htext
  intro _
  refine ⟨text.toList, ?_⟩
  simp [htext]

end Css.Component

/-- Components that read as `nodes` whatever comes behind them. -/
structure Fixed (before : List Char) (front : List Component) (nodes : List Node) : Prop where
  ends : ∀ c ∈ front.getLast?, c.EndsItem
  reads : ∀ {cs : List Component} {sheet : Stylesheet}, Reads [] cs sheet →
    Reads before (front ++ cs) ⟨nodes ++ sheet.nodes, sheet.after⟩

namespace Fixed

variable {before : List Char} {c : Component} {cs front item : List Component} {n : Node}
  {ns : List Node} {sheet : Stylesheet}

lemma nil : Fixed [] [] [] where
  ends := by simp
  reads hreads := hreads

lemma ne_nil (h : Fixed before front ns) (hns : ns ≠ []) : front ≠ [] := by
  rintro rfl
  have hread := (h.reads .nil).ofComponentsAfter_eq
  rw [List.append_nil, List.append_nil, Stylesheet.ofComponentsAfter_nil] at hread
  exact hns (congrArg Stylesheet.nodes hread).symm

lemma gap (h : Fixed (before ++ c.text) front ns) (hns : ns ≠ []) (hc : c.IsGap) :
    Fixed before (c :: front) ns where
  ends := by
    rw [List.getLast?_cons_of_ne_nil (h.ne_nil hns)]
    exact h.ends
  reads hreads := .gap (hc.itemKind _) (h.reads hreads)

/-- One more item before others. -/
lemma cons (h : Fixed [] front ns)
    (hitem : ∀ rest sheet, Reads [] (front ++ rest) sheet →
      Reads before (item ++ (front ++ rest)) (sheet.cons n))
    (hends : front = [] → ∀ c ∈ item.getLast?, c.EndsItem) :
    Fixed before (item ++ front) (n :: ns) where
  ends := by
    rcases eq_or_ne front [] with rfl | hfront
    · rw [List.append_nil]
      exact hends rfl
    · have hlast := List.getLast?_eq_some_getLast hfront
      rw [List.getLast?_append, hlast, Option.some_or, ← hlast]
      exact h.ends
  reads hreads := by
    rw [List.append_assoc]
    exact hitem _ _ (h.reads hreads)

end Fixed

/-- Components that read as `nodes` whatever comes behind them, with gaps behind them. -/
def Parts (before : List Char) (cs : List Component) (nodes : List Node) : Prop :=
  ∃ front gaps, cs = front ++ gaps ∧ (∀ c ∈ gaps, c.IsGap) ∧ Fixed before front nodes

namespace Stylesheet

variable {before : List Char} {c : Component} {cs whole : List Component} {n : Node}
  {sheet : Stylesheet}

/-- One more item before others, if the last node is finished. -/
lemma Reads.parts_cons (item : List Component) (hwhole : whole = item ++ cs) (h : Reads [] cs sheet)
    (hitem : ∀ {front gaps}, cs = front ++ gaps → (∀ c ∈ gaps, c.IsGap) → ∀ rest sheet,
      Reads [] (front ++ rest) sheet → Reads before (item ++ (front ++ rest)) (sheet.cons n))
    (hends : n.Finished → ∀ c ∈ item.getLast?, c.EndsItem)
    (hlast : ∀ m ∈ (sheet.cons n).nodes.getLast?, m.Finished)
    (ih : sheet.nodes ≠ [] → (∀ m ∈ sheet.nodes.getLast?, m.Finished) → Parts [] cs sheet.nodes) :
    Parts before whole (sheet.cons n).nodes := by
  subst hwhole
  rw [Stylesheet.cons] at hlast ⊢
  rcases eq_or_ne sheet.nodes [] with hnil | hne
  · rw [hnil] at hlast ⊢
    obtain ⟨hgaps, -⟩ := h.isGap_of_nodes_eq_nil hnil
    have hfixed : Fixed before (item ++ []) [n] := by
      apply Fixed.nil.cons
      · exact hitem (List.nil_append _).symm hgaps
      · exact fun _ => hends (hlast n rfl)
    exact ⟨item, cs, rfl, hgaps, by simpa using hfixed⟩
  · rw [List.getLast?_cons_of_ne_nil hne] at hlast
    obtain ⟨front, gaps, rfl, hgaps, hfront⟩ := ih hne hlast
    refine ⟨item ++ front, gaps, by simp, hgaps, hfront.cons (hitem rfl hgaps) ?_⟩
    intro hnil
    exact absurd hnil (hfront.ne_nil hne)

/-- A rule is one before anything that takes the place of the gaps at the end. -/
lemma Reads.rule_of_gaps {opener : Lexeme} {closer : Option Lexeme}
    {tail front contents items gaps rest : List Component} {inner : Stylesheet}
    (hkind : c.itemKind tail = .rule)
    (heq : c :: tail = front ++ block opener .curly contents closer :: (items ++ gaps))
    (hgaps : ∀ d ∈ gaps, d.IsGap) (hfront : ∀ d ∈ front, d.isCurly = false)
    (hinner : Reads [] contents inner) (hrest : Reads [] (items ++ rest) sheet) :
    Reads before (front ++ block opener .curly contents closer :: (items ++ rest))
      (sheet.cons (.rule (.ofText before (textOf front)) inner.nodes
        (.ofText inner contents closer))) := by
  -- with nothing before its block it is a rule because of a block that is not in the gaps
  obtain ⟨kept, htail, hkept⟩ : ∃ kept, tail = kept ++ gaps ∧
      ∀ ds, front ++ block opener .curly contents closer :: (items ++ ds) = c :: (kept ++ ds) := by
    cases front with
    | nil =>
      cases heq
      exact ⟨items, rfl, fun _ => rfl⟩
    | cons d front =>
      cases heq
      exact ⟨front ++ block opener .curly contents closer :: items, by simp, by simp⟩
  rw [htail] at hkind
  rw [hkept rest]
  exact .rule (itemKind_of_gaps hgaps hkind rest) (hkept rest).symm hfront hinner hrest

/-- A declaration that has its semicolon is one before anything. -/
lemma Reads.declaration_of_semicolon {semicolon : Lexeme} {tail front ds : List Component}
    (hkind : c.itemKind tail = .declaration) (heq : c :: tail = front ++ token semicolon :: cs)
    (hfront : ∀ d ∈ front, d.isSemicolon = false) (hsemicolon : semicolon.token = .semicolon)
    (hrest : Reads [] ds sheet) :
    Reads before (front ++ token semicolon :: ds)
      (sheet.cons (.declaration (.ofText (String.ofList before) (textOf front) true))) := by
  obtain ⟨items, rfl, rfl⟩ := exists_cons_of_declaration hkind heq hsemicolon
  -- what stands behind the semicolon has no say in the kind
  have hitem : c.itemKind items = .declaration := (itemKind_semicolon hsemicolon).symm.trans hkind
  exact .declaration ((itemKind_semicolon hsemicolon).trans hitem) rfl hfront hsemicolon hrest

/-- What a sheet is read from ends with gaps, and the rest of it reads the same before anything, if
the last node is finished. -/
lemma Reads.parts (h : Reads before cs sheet) (hne : sheet.nodes ≠ [])
    (hlast : ∀ n ∈ sheet.nodes.getLast?, n.Finished) : Parts before cs sheet.nodes := by
  induction h with
  | nil => exact absurd rfl hne
  | gap hkind _ ih =>
    obtain ⟨front, gaps, rfl, hgaps, hfront⟩ := ih hne hlast
    exact ⟨_, gaps, rfl, hgaps, hfront.gap hne (isGap_of_itemKind hkind)⟩
  | @comment before c cs sheet hkind hrest ih =>
    obtain ⟨l, rfl, hl⟩ := exists_comment_of_itemKind hkind
    apply hrest.parts_cons [token l] rfl _ _ hlast ih
    · intro front gaps _ _ rest sheet hreads
      exact .comment (itemKind_comment hl) hreads
    · rintro hn _ ⟨⟩
      rw [text_token] at hn
      exact .inr ⟨l, rfl, hl, ended_of_finished hn⟩
  | @atBlock before keyword opener closer front contents cs inner sheet hkind hfront hinner hrest
      _ ih =>
    apply hrest.parts_cons (token keyword :: front ++ [block opener .curly contents closer])
      (by simp) _ _ hlast ih
    · intro front' gaps _ _ rest sheet hreads
      simpa using Reads.atBlock hkind hfront hinner hreads
    · intro _
      exact endsItem_of_endsHead _ rfl
  | @atStatement before keyword semicolon front cs sheet hkind hfront hsemicolon hrest ih =>
    apply hrest.parts_cons (token keyword :: front ++ [token semicolon]) (by simp) _ _ hlast ih
    · intro front' gaps _ _ rest sheet hreads
      simpa using Reads.atStatement hkind hfront hsemicolon hreads
    · intro _
      exact endsItem_of_endsHead _ (endsHead_of_semicolon hsemicolon)
  | atUnended => cases hlast _ rfl
  | @rule before c opener closer tail front contents cs inner sheet hkind heq hfront hinner hrest
      _ ih =>
    apply hrest.parts_cons (front ++ [block opener .curly contents closer]) (by simpa using heq) _ _
      hlast ih
    · intro items gaps hcs hgaps rest sheet hreads
      subst hcs
      rw [List.append_assoc, List.singleton_append]
      exact .rule_of_gaps hkind heq hgaps hfront hinner hreads
    · intro _
      exact endsItem_of_endsHead _ rfl
  | @declaration before c semicolon tail front cs sheet hkind heq hfront hsemicolon hrest ih =>
    apply hrest.parts_cons (front ++ [token semicolon]) (by simpa using heq) _ _ hlast ih
    · intro front' gaps _ _ rest sheet hreads
      rw [List.append_assoc, List.singleton_append]
      exact .declaration_of_semicolon hkind heq hfront hsemicolon hreads
    · intro _
      exact endsItem_of_endsHead _ (endsHead_of_semicolon hsemicolon)
  | unended => cases hlast _ rfl

end Stylesheet

/-! ### Texts -/

namespace Css

variable {text : List Char} {c : Component} {front gaps rest : List Component}

/-- What an item that is ended ends with in a text ends with a lexeme that can stand before
anything. -/
lemma exists_final (h : components text = front ++ c :: rest) (hfits : Fits none c)
    (hc : c.EndsItem) : ∃ ls l, c.lexemes = ls ++ [l] ∧ l.Final := by
  have hlex : lex text = lexemesAll front ++ (c.lexemes ++ lexemesAll rest) := by
    rw [← lexemesAll_components, h, lexemesAll_append, lexemesAll_cons]
  have hspelled : ∀ l ∈ c.lexemes, l.Spelled := by
    intro l hl
    have hmem : l ∈ lex text := by simp [hlex, hl]
    exact spelled_of_mem_lex hmem
  rcases hc with hc | ⟨l, rfl, hl, hended⟩
  · rw [endsHead, Bool.or_eq_true] at hc
    rcases hc with hc | hc
    · obtain ⟨l, rfl, hl⟩ := exists_eq_token_of_isSemicolon hc
      obtain rfl := eq_semicolon hl (hspelled l (by simp))
      exact ⟨[], _, by simp, final_semicolon⟩
    · obtain ⟨opener, contents, closer, rfl⟩ := exists_eq_block_of_isCurly hc
      cases hfits with
      | @block _ _ closer _ _ hopens hcontents hcloses =>
        obtain rfl := eq_closingMark hcloses (hspelled closer (by simp))
        exact ⟨opener :: lexemesAll contents, closingMark, by simp, final_closing⟩
  · rw [lexemes_token, List.singleton_append] at hlex
    exact ⟨[], l, by simp, final_of_comment hlex hl hended⟩

/-- A text that is cut behind an item that is ended is read in two parts. -/
lemma components_append_of_endsItem (h : components text = front ++ gaps)
    (hclosed : ∀ c ∈ components text, c.Closed) (hends : ∀ c ∈ front.getLast?, c.EndsItem)
    (more : List Char) : components (textOf front ++ more) = front ++ components more := by
  have hfits := fits_components hclosed
  rw [h, List.forall_mem_append] at hfits
  apply components_append hfits.1
  rcases List.eq_nil_or_concat front with rfl | ⟨front, c, rfl⟩
  · intro s
    simp
  · rw [List.concat_eq_append] at h hends hfits ⊢
    rw [List.append_assoc, List.singleton_append] at h
    rw [List.getLast?_concat] at hends
    obtain ⟨ls, l, hc, hl⟩ := exists_final h (hfits.1 c (by simp)) (hends c rfl)
    have hlex : lex text = (lexemesAll front ++ ls) ++ l :: lexemesAll gaps := by
      rw [← lexemesAll_components, h]
      simp [hc]
    have hfirm := firm_of_lex hl hlex
    rw [List.append_assoc, ← hc] at hfirm
    simpa using hfirm

end Css

/-- The gaps of a text are made of white space and semicolons. -/
lemma isGapText_textOf {text : List Char} {front gaps : List Component}
    (h : Css.components text = front ++ gaps) (hgaps : ∀ c ∈ gaps, c.IsGap) :
    IsGapText (textOf gaps) := by
  have hproper : ∀ l ∈ lexemesAll gaps, l.Proper := by
    intro l hl
    have hmem : l ∈ lex text := by
      rw [← Css.lexemesAll_components, h, lexemesAll_append]
      exact List.mem_append_right _ hl
    exact Css.proper_of_mem_lex hmem
  clear h
  induction gaps with
  | nil => simp [IsGapText]
  | cons c gaps ih =>
    rw [List.forall_mem_cons] at hgaps
    rw [lexemesAll_cons, List.forall_mem_append] at hproper
    rw [textOf_cons]
    exact (hgaps.1.isGapText hproper.1).append (ih hgaps.2 hproper.2)

lemma Node.finished_getLast?_of_numberAll {next : NodeId} {ns : List Node}
    (h : ∀ n ∈ (Node.numberAll next ns).getLast?, n.Finished) : ∀ n ∈ ns.getLast?, n.Finished := by
  induction ns generalizing next with
  | nil => simp
  | cons n ns ih =>
    rw [Node.numberAll] at h
    cases ns with
    | nil => simpa [Node.numberAll, Node.finished_number] using h
    | cons m ms =>
      rw [List.getLast?_cons_cons]
      apply ih
      rwa [List.getLast?_cons_of_ne_nil (by simp [Node.numberAll])] at h

namespace Stylesheet

/-- What is read from the components of a text whose last node is finished, up to the gaps at its
end. -/
lemma parts_components {text : List Char}
    (hlast : ∀ n ∈ (ofComponentsAfter [] (Css.components text)).nodes.getLast?, n.Finished) :
    Parts [] (Css.components text) (ofComponentsAfter [] (Css.components text)).nodes := by
  have hreads := reads_ofComponents [] (Css.components text)
  rcases eq_or_ne (ofComponentsAfter [] (Css.components text)).nodes [] with hnil | hne
  · rw [hnil]
    exact ⟨[], _, rfl, (hreads.isGap_of_nodes_eq_nil hnil).1, .nil⟩
  · exact hreads.parts hne hlast

lemma ofComponentsAfter_append (a b : List Char) (hclosed : ∀ c ∈ Css.components a, c.Closed)
    (hlast : ∀ n ∈ (ofComponentsAfter [] (Css.components a)).nodes.getLast?, n.Finished) :
    ofComponentsAfter [] (Css.components (a ++ b))
      = (ofComponentsAfter [] (Css.components a)).join
          (ofComponentsAfter [] (Css.components b)) := by
  obtain ⟨front, gaps, hcut, hgaps, hfront⟩ := parts_components hlast
  have htext : a = textOf front ++ textOf gaps := by
    rw [← Css.textOf_components a, hcut, textOf_append]
  have hgapText : IsGapText (textOf gaps) := isGapText_textOf hcut hgaps
  -- the gaps at the end of `a` are all that is behind its last node
  have hafter : (ofComponentsAfter [] (Css.components a)).after = String.ofList (textOf gaps) := by
    have hread : Reads [] (gaps ++ []) ⟨[], String.ofList ([] ++ textOf gaps)⟩ :=
      .of_gaps hgaps .nil
    rw [List.append_nil] at hread
    have hwhole := (hfront.reads hread).ofComponentsAfter_eq
    rw [← hcut] at hwhole
    rw [hwhole]
    rfl
  have hback : ofComponentsAfter [] (Css.components (textOf gaps ++ b))
      = (ofComponentsAfter [] (Css.components b)).prepend (String.ofList (textOf gaps)) := by
    rw [ofComponentsAfter_gapText hgapText, List.nil_append, ofComponentsAfter_eq_prepend]
  have hcomponents : Css.components (a ++ b) = front ++ Css.components (textOf gaps ++ b) := by
    rw [htext, List.append_assoc]
    exact Css.components_append_of_endsItem hcut hclosed hfront.ends _
  rw [hcomponents, (hfront.reads (reads_ofComponents _ _)).ofComponentsAfter_eq, hback, join,
    hafter]

/-- A text whose brackets are closed and whose last node is finished reads as it does on its own
whatever text is put behind it, and that text reads as it does on its own as well. A string, a url
or a comment that is left open at the end of the first text is part of a node that is not
finished. -/
theorem parse_append (a b : String) (p q next : NodeId)
    (hclosed : ∀ c ∈ Css.components a.toList, c.Closed)
    (hlast : ∀ n ∈ (Stylesheet.parse a p).nodes.getLast?, n.Finished) :
    Stylesheet.parse (a ++ b) next
      = ((Stylesheet.parse a p).join (Stylesheet.parse b q)).number next := by
  have hend := Node.finished_getLast?_of_numberAll hlast
  simp only [Stylesheet.parse]
  rw [number_join, String.toList_append, ofComponentsAfter_append _ _ hclosed hend]

/-- The white space and the semicolon behind the comment go before the second rule. -/
theorem parse_append_comment :
    (∀ c ∈ Css.components ".x\x7b\x7d/*c*/ ;".toList, c.Closed) ∧
    (∀ n ∈ (Stylesheet.parse ".x\x7b\x7d/*c*/ ;" 0).nodes.getLast?, n.Finished) ∧
    Stylesheet.parse (".x\x7b\x7d/*c*/ ;" ++ " .y\x7b\x7d") 7
      = ((Stylesheet.parse ".x\x7b\x7d/*c*/ ;" 0).join
          (Stylesheet.parse " .y\x7b\x7d" 0)).number 7 := by
  have hcomponents : Css.components ".x\x7b\x7d/*c*/ ;".toList
      = [token ⟨.literal, ['.']⟩, token ⟨.ident "x", ['x']⟩,
        block openingMark .curly [] (some closingMark), token ⟨.comment, ['/', '*', 'c', '*', '/']⟩,
        token ⟨.blank, [' ']⟩] ++ [token ⟨.semicolon, [';']⟩] := by
    cbv
  have hclosed : ∀ c ∈ Css.components ".x\x7b\x7d/*c*/ ;".toList, c.Closed :=
    (terminated_of_components _ hcomponents (by simp) (by simp)).closed
  have hnode : (Stylesheet.parse ".x\x7b\x7d/*c*/ ;" 0).nodes.getLast?
      = some (.comment ⟨1, "", "/*c*/"⟩) := by
    cbv
  have hlast : ∀ n ∈ (Stylesheet.parse ".x\x7b\x7d/*c*/ ;" 0).nodes.getLast?, n.Finished := by
    rw [hnode]
    rintro _ ⟨⟩
    exact ⟨"c", rfl⟩
  exact ⟨hclosed, hlast, parse_append _ _ 0 0 7 hclosed hlast⟩

end Stylesheet

end CustomProperties
