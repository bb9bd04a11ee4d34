import CustomProperties.Collect
import CustomProperties.Proofs.Lexing.Joins
import CustomProperties.Proofs.Reprint.Passes
import CustomProperties.Proofs.Sheet.Ends
import CustomProperties.Update
import Mathlib.Tactic.Common

/-!
# What comes last, and what comes before

In every list of nodes of a parsed sheet only the last node can run on without a mark that ends it,
and nothing but white space and semicolons stands before a node. Taking definitions out and updating
declarations keep this (`finished_of_mem_lists`), so that printing a node never runs it into the one
behind it.
-/

namespace CustomProperties

open Css (Component Lexeme lex isSpace)
open Css.Component

/-! ### Lists of nodes -/

/-- Whether a node is ended: a block is closed, a statement and a declaration have their semicolon,
and a comment has both of its marks. A sheet that is embedded needs no end. -/
def Node.Finished : Node → Prop
  | rule _ _ tail => tail.closed
  | atBlock _ _ tail => tail.closed
  | atStatement _ semicolon => semicolon
  | declaration d => d.semicolon
  | comment c => ∃ text, c.raw = "/*" ++ text ++ "*/"
  | document .. => True

/-- A text of white space and semicolons. -/
def IsGapText (text : List Char) : Prop := ∀ c ∈ text, isSpace c ∨ c = ';'

lemma IsGapText.append {front back : List Char} (hfront : IsGapText front)
    (hback : IsGapText back) : IsGapText (front ++ back) :=
  List.forall_mem_append.2 ⟨hfront, hback⟩

namespace Node

mutual

/-- The lists of nodes inside of a node, at every depth. -/
def lists : Node → List (List Node)
  | rule _ body _ => body :: listsAll body
  | atBlock _ body _ => body :: listsAll body
  | atStatement _ _ => []
  | declaration _ => []
  | comment _ => []
  | document _ body _ => body :: listsAll body

/-- The lists of nodes inside of the nodes of a sequence, at every depth. -/
def listsAll : List Node → List (List Node)
  | [] => []
  | n :: ns => n.lists ++ listsAll ns

end

lemma lists_eq (n : Node) :
    n.lists = (n.children?.map fun body => body :: listsAll body).getD [] := by
  cases n <;> simp [lists, children?]

lemma finished_number {n : Node} (next : NodeId) : (n.number next).Finished ↔ n.Finished := by
  cases n <;> rfl

lemma before_number (next : NodeId) (n : Node) : (n.number next).before = n.before := by
  cases n <;> rfl

lemma children?_number (next : NodeId) (n : Node) :
    (n.number next).children? = n.children?.map (numberAll (next + 1)) := by
  cases n <;> rfl

end Node

/-- The lists of nodes of a sheet: that at the top, and those inside of nodes. -/
def Stylesheet.lists (sheet : Stylesheet) : List (List Node) :=
  sheet.nodes :: Node.listsAll sheet.nodes

/-! ### Tidy trees -/

/-- A sequence in which only the last node may be unfinished and only gaps stand before nodes,
inside of its nodes too. -/
inductive Tidy : List Node → Prop where
  | nil : Tidy []
  | cons {n : Node} {ns : List Node} (hends : n.Finished ∨ ns = [])
      (hbefore : IsGapText n.before.toList)
      (hbody : ∀ body, n.children? = some body → Tidy body) (hrest : Tidy ns) : Tidy (n :: ns)

namespace Tidy

variable {n : Node} {ns : List Node}

lemma ends (h : Tidy (n :: ns)) : n.Finished ∨ ns = [] := by
  cases h with
  | cons hends => exact hends

lemma before (h : Tidy (n :: ns)) : IsGapText n.before.toList := by
  cases h with
  | cons _ hbefore => exact hbefore

lemma body {inner : List Node} (h : Tidy (n :: ns)) (hinner : n.children? = some inner) :
    Tidy inner := by
  cases h with
  | cons _ _ hbody => exact hbody inner hinner

lemma tail (h : Tidy (n :: ns)) : Tidy ns := by
  cases h with
  | cons _ _ _ hrest => exact hrest

/-- In a tidy sequence all nodes but the last one are finished. -/
lemma finished (h : Tidy ns) : ∀ n ∈ ns.dropLast, n.Finished := by
  induction ns with
  | nil => simp
  | cons n ns ih =>
    rcases h.ends with hn | rfl
    · cases ns with
      | nil => simp
      | cons m ms =>
        rw [List.dropLast_cons_cons, List.forall_mem_cons]
        exact ⟨hn, ih h.tail⟩
    · simp

lemma forall_before (h : Tidy ns) : ∀ n ∈ ns, IsGapText n.before.toList := by
  induction ns with
  | nil => simp
  | cons n ns ih =>
    rw [List.forall_mem_cons]
    exact ⟨h.before, ih h.tail⟩

lemma of_mem_listsAll (h : Tidy ns) : ∀ l ∈ Node.listsAll ns, Tidy l := by
  induction h with
  | nil => simp [Node.listsAll]
  | @cons n ns _ _ hbody _ ihbody ih =>
    rw [Node.listsAll, List.forall_mem_append, Node.lists_eq]
    refine ⟨?_, ih⟩
    cases hchildren : n.children? with
    | none => simp
    | some body =>
      rw [Option.map_some, Option.getD_some, List.forall_mem_cons]
      exact ⟨hbody body hchildren, ihbody body hchildren⟩

/-- A node takes the place of another one. -/
lemma replace {m : Node} {ms : List Node} (h : Tidy (n :: ns)) (hfinished : n.Finished → m.Finished)
    (hbefore : m.before = n.before) (hbody : ∀ body, m.children? = some body → Tidy body)
    (hnil : ns = [] → ms = []) (hrest : Tidy ms) : Tidy (m :: ms) := by
  apply Tidy.cons
  · exact h.ends.imp hfinished hnil
  · rw [hbefore]
    exact h.before
  · exact hbody
  · exact hrest

/-- A node without others inside stays. -/
lemma keep {ms : List Node} (h : Tidy (n :: ns)) (hnil : ns = [] → ms = []) (hrest : Tidy ms) :
    Tidy (n :: ms) :=
  h.replace id rfl (fun _ hbody => h.body hbody) hnil hrest

lemma filter (h : Tidy ns) (p : Node → Bool) : Tidy (ns.filter p) := by
  induction ns with
  | nil => exact .nil
  | cons n ns ih =>
    rw [List.filter_cons]
    split
    · refine h.keep ?_ (ih h.tail)
      rintro rfl
      rfl
    · exact ih h.tail

lemma numberAll (h : Tidy ns) (next : NodeId) : Tidy (Node.numberAll next ns) := by
  induction ns using Node.induct_children generalizing next with
  | nil => exact .nil
  | cons n ns ihbody ih =>
    refine h.replace (Node.finished_number next).2 (Node.before_number next n) ?_ ?_ (ih h.tail _)
    · intro body hbody
      rw [Node.children?_number, Option.map_eq_some_iff] at hbody
      obtain ⟨inner, hinner, rfl⟩ := hbody
      exact ihbody inner hinner (h.body hinner) _
    · rintro rfl
      rfl

end Tidy

/-! ### Parsed sheets -/

/-- A lexeme of a gap holds what gaps are made of, and a comment starts with its mark. -/
structure Css.Lexeme.Proper (l : Lexeme) : Prop where
  blank : l.token = .blank → ∀ c ∈ l.text, isSpace c
  semicolon : l.token = .semicolon → l.text = [';']
  comment : l.token = .comment → ['/', '*'] <+: l.text

lemma Css.proper_of_mem_lex {text : List Char} {l : Lexeme} (h : l ∈ lex text) : l.Proper := by
  constructor
  · exact isSpace_of_mem_blank h
  · exact Lexeme.text_eq_of_semicolon (spelled_of_mem_lex h)
  · intro hl
    obtain ⟨ls, ms, hlex⟩ := List.append_of_mem h
    obtain ⟨inner, htext, -⟩ := exists_text_of_comment hlex hl
    exact ⟨inner, htext.symm⟩

/-- The text of a gap is made of white space and semicolons. -/
lemma Css.Component.IsGap.isGapText {c : Component} (h : c.IsGap)
    (hproper : ∀ l ∈ c.lexemes, l.Proper) : IsGapText c.text := by
  obtain ⟨l, rfl, hl⟩ := h
  have hl' := hproper l (by simp)
  intro d hd
  rw [text_token] at hd
  rcases hl with hl | hl
  · exact .inl (hl'.blank hl d hd)
  · rw [hl'.semicolon hl, List.mem_singleton] at hd
    exact .inr hd

/-- Components as they stand in a text. -/
structure InText (cs : List Component) : Prop where
  openEnd : OpenEnd cs
  comments : CommentsEnded cs
  proper : ∀ l ∈ lexemesAll cs, l.Proper

namespace InText

variable {c : Component} {front cs : List Component}

lemma of_append (h : InText (front ++ cs)) (hcs : cs ≠ []) : InText cs where
  openEnd := (h.openEnd.of_append hcs).2
  comments := h.comments.of_append
  proper l hl := h.proper l (by simp [hl])

lemma tail (h : InText (c :: cs)) : InText cs where
  openEnd := h.openEnd.tail
  comments := h.comments.tail
  proper l hl := h.proper l (by simp [hl])

lemma contents {opener : Lexeme} {bracket : Css.Bracket} {inner : List Component}
    {closer : Option Lexeme} (h : InText (block opener bracket inner closer :: cs)) :
    InText inner where
  openEnd := openEnd_contents h.openEnd
  comments := h.comments.contents
  proper l hl := h.proper l (by simp [hl])

/-- What reads as a gap is one. -/
lemma isGapText (h : InText (c :: cs)) (hkind : c.itemKind cs = .gap) : IsGapText c.text := by
  apply (isGap_of_itemKind hkind).isGapText
  intro l hl
  exact h.proper l (by simp [hl])

/-- A comment behind which something comes has both of its marks. -/
lemma finished_comment {before : String} (h : InText (c :: cs)) (hkind : c.itemKind cs = .comment)
    (hcs : cs ≠ []) : (Node.comment ⟨0, before, String.ofList c.text⟩).Finished := by
  obtain ⟨l, rfl, hl⟩ := exists_comment_of_itemKind hkind
  obtain ⟨inner, hinner⟩ := (h.proper l (by simp)).comment hl
  have hmem : l ∈ (lexemesAll (token l :: cs)).dropLast := by
    rw [lexemesAll_cons, List.dropLast_append_of_ne_nil (lexemesAll_ne_nil hcs)]
    exact List.mem_append_left _ (by simp)
  have hend := h.comments l hmem hl
  rw [← hinner] at hend
  obtain ⟨text, rfl⟩ := hend
  refine ⟨String.ofList text, ?_⟩
  rw [← String.toList_inj]
  simp [← hinner]

end InText

lemma isGapText_ofList {text : List Char} (h : IsGapText text) :
    IsGapText (String.ofList text).toList := by
  rwa [String.toList_ofList]

namespace Stylesheet

lemma Reads.tidy {before : List Char} {cs : List Component} {sheet : Stylesheet}
    (h : Reads before cs sheet) (htext : InText cs) (hbefore : IsGapText before) :
    Tidy sheet.nodes := by
  have hnone : IsGapText [] := by simp [IsGapText]
  induction h with
  | nil => exact .nil
  | gap hkind _ ih =>
    apply ih htext.tail
    exact hbefore.append (htext.isGapText hkind)
  | @comment before c cs sheet hkind hrest ih =>
    refine .cons ?_ (isGapText_ofList hbefore) (by rintro _ ⟨⟩) (ih htext.tail hnone)
    rcases eq_or_ne cs [] with rfl | hcs
    · exact .inr hrest.eq_nil.1
    · exact .inl (htext.finished_comment hkind hcs)
  | @atBlock before keyword opener closer front contents cs inner sheet hkind hfront hinner hrest
      ihinner ih =>
    have hblock := htext.tail.of_append (List.cons_ne_nil _ _)
    refine .cons ?_ (isGapText_ofList hbefore) ?_ (ih hblock.tail hnone)
    · exact (hrest.closed_or_eq_nil hblock.openEnd).imp_right And.left
    · rintro _ ⟨⟩
      exact ihinner hblock.contents hnone
  | atStatement _ _ _ _ ih =>
    have hrest := htext.tail.of_append (List.cons_ne_nil _ _)
    exact .cons (.inl rfl) (isGapText_ofList hbefore) (by rintro _ ⟨⟩) (ih hrest.tail hnone)
  | atUnended => exact .cons (.inr rfl) (isGapText_ofList hbefore) (by rintro _ ⟨⟩) .nil
  | @rule before c opener closer tail front contents cs inner sheet hkind heq hfront hinner hrest
      ihinner ih =>
    rw [heq] at htext
    have hblock := htext.of_append (List.cons_ne_nil _ _)
    refine .cons ?_ (isGapText_ofList hbefore) ?_ (ih hblock.tail hnone)
    · exact (hrest.closed_or_eq_nil hblock.openEnd).imp_right And.left
    · rintro _ ⟨⟩
      exact ihinner hblock.contents hnone
  | declaration _ heq _ _ _ ih =>
    rw [heq] at htext
    have hrest := htext.of_append (List.cons_ne_nil _ _)
    exact .cons (.inl rfl) (isGapText_ofList hbefore) (by rintro _ ⟨⟩) (ih hrest.tail hnone)
  | unended => exact .cons (.inr rfl) (isGapText_ofList hbefore) (by rintro _ ⟨⟩) .nil

lemma tidy_parse (text : String) (next : NodeId) : Tidy (Stylesheet.parse text next).nodes := by
  have htext : InText (Css.components text.toList) := by
    constructor
    · exact Css.openEnd_components _
    · intro l hl
      rw [Css.lexemesAll_components] at hl
      exact Css.ended_of_mem_dropLast_lex hl
    · intro l hl
      rw [Css.lexemesAll_components] at hl
      exact Css.proper_of_mem_lex hl
  have hreads := reads_ofComponents [] (Css.components text.toList)
  exact (hreads.tidy htext (by simp [IsGapText])).numberAll next

end Stylesheet

/-! ### Edits -/

namespace Tidy

variable {ns : List Node}

lemma collectFrom (h : Tidy ns) (ignored : IgnoreSet) (preserve : Bool) (table : PropertyTable) :
    Tidy (collectFrom ignored preserve table ns).2 := by
  have hnil : ∀ table, (CustomProperties.collectFrom ignored preserve table []).2 = [] := by
    intro table
    rw [CustomProperties.collectFrom]
  induction ns using Node.induct generalizing table with
  | nil =>
    rw [hnil]
    exact .nil
  | rule head body tail rest ihbody ih =>
    have hleft : Tidy (if preserve then body else withoutDefinitions ignored body) := by
      split
      · exact h.body rfl
      · exact (h.body rfl).filter _
    rw [CustomProperties.collectFrom]
    simp only
    generalize (if preserve then body else withoutDefinitions ignored body) = left at hleft ⊢
    split
    · split
      · exact ih h.tail _
      · refine h.replace id rfl ?_ (by rintro rfl; exact hnil _) (ih h.tail _)
        rintro _ ⟨⟩
        exact hleft
    · exact h.keep (by rintro rfl; exact hnil _) (ih h.tail _)
  | document id body after rest ihbody ih =>
    rw [CustomProperties.collectFrom]
    refine h.replace (fun _ => trivial) rfl ?_ (by rintro rfl; exact hnil _) (ih h.tail _)
    rintro _ ⟨⟩
    exact ihbody (h.body rfl) _
  | atBlock head body tail rest ihbody ih =>
    rw [CustomProperties.collectFrom]
    exact h.keep (by rintro rfl; exact hnil _) (ih h.tail _)
  | atStatement head semicolon rest ih =>
    rw [CustomProperties.collectFrom]
    exact h.keep (by rintro rfl; exact hnil _) (ih h.tail _)
  | declaration d rest ih =>
    rw [CustomProperties.collectFrom]
    exact h.keep (by rintro rfl; exact hnil _) (ih h.tail _)
  | comment c rest ih =>
    rw [CustomProperties.collectFrom]
    exact h.keep (by rintro rfl; exact hnil _) (ih h.tail _)

lemma updateNodes (h : Tidy ns) (value : Declaration → Option String) (preserve : Bool)
    (next : NodeId) : Tidy (updateNodes value preserve next ns).1 := by
  have hnil : ∀ next, (CustomProperties.updateNodes value preserve next []).1 = [] := by
    intro next
    rw [CustomProperties.updateNodes]
  induction ns using Node.induct generalizing next with
  | nil =>
    rw [hnil]
    exact .nil
  | rule head body tail rest ihbody ih =>
    rw [CustomProperties.updateNodes, updateNode]
    refine h.replace id rfl ?_ (by rintro rfl; exact hnil _) (ih h.tail _)
    rintro _ ⟨⟩
    exact ihbody (h.body rfl) _
  | atBlock head body tail rest ihbody ih =>
    rw [CustomProperties.updateNodes, updateNode]
    refine h.replace id rfl ?_ (by rintro rfl; exact hnil _) (ih h.tail _)
    rintro _ ⟨⟩
    exact ihbody (h.body rfl) _
  | document id body after rest ihbody ih =>
    rw [CustomProperties.updateNodes, updateNode]
    refine h.replace (fun _ => trivial) rfl ?_ (by rintro rfl; exact hnil _) (ih h.tail _)
    rintro _ ⟨⟩
    exact ihbody (h.body rfl) _
  | atStatement head semicolon rest ih =>
    rw [CustomProperties.updateNodes, updateNode]
    exact h.keep (by rintro rfl; exact hnil _) (ih h.tail _)
  | comment c rest ih =>
    rw [CustomProperties.updateNodes, updateNode]
    exact h.keep (by rintro rfl; exact hnil _) (ih h.tail _)
  | declaration d rest ih =>
    rw [CustomProperties.updateNodes, updateNode]
    cases value d with
    | none => exact h.keep (by rintro rfl; exact hnil _) (ih h.tail _)
    | some new =>
      rw [Declaration.updateTo]
      split
      · -- the copy has a semicolon, whether the declaration behind it has one or not
        refine .cons (.inl rfl) h.before (by rintro _ ⟨⟩) ?_
        exact h.keep (by rintro rfl; exact hnil _) (ih h.tail _)
      · exact h.replace id rfl (by rintro _ ⟨⟩) (by rintro rfl; exact hnil _) (ih h.tail _)

end Tidy

namespace Stylesheet

/-- What can be done to a sheet. -/
inductive Edit where
  /-- Collect the definitions that are not ignored. -/
  | collect (ignored : IgnoreSet) (preserve : Bool)
  /-- Update the declarations that are not ignored. Copies are numbered from `next` on. -/
  | update (table : PropertyTable) (ignored : IgnoreSet) (preserve : Bool) (next : NodeId)

/-- The sheet that an edit leaves. -/
def edited (sheet : Stylesheet) : Edit → Stylesheet
  | .collect ignored preserve => (sheet.collect ignored preserve).2
  | .update table ignored preserve next => (sheet.update table ignored preserve next).1

lemma tidy_edited {sheet : Stylesheet} (h : Tidy sheet.nodes) (edit : Edit) :
    Tidy (sheet.edited edit).nodes := by
  cases edit with
  | collect ignored preserve => exact h.collectFrom ignored preserve ∅
  | update table ignored preserve next => exact h.updateNodes _ preserve next

lemma tidy_foldl_edited {sheet : Stylesheet} (h : Tidy sheet.nodes) (edits : List Edit) :
    Tidy (edits.foldl edited sheet).nodes := by
  induction edits generalizing sheet with
  | nil => exact h
  | cons edit edits ih => exact ih (tidy_edited h edit)

/-- In every list of nodes of a parsed sheet, and of what collecting and updating leave of it, only
the last node can be unfinished, and only white space and semicolons stand before a node. -/
theorem finished_of_mem_lists (text : String) (next : NodeId) (edits : List Edit) :
    ∀ ns ∈ (edits.foldl edited (Stylesheet.parse text next)).lists,
      (∀ n ∈ ns.dropLast, n.Finished) ∧
      ∀ n ∈ ns, ∀ c ∈ n.before.toList, isSpace c ∨ c = ';' := by
  have htidy := tidy_foldl_edited (tidy_parse text next) edits
  intro ns hns
  have hlist : Tidy ns := by
    rcases List.mem_cons.1 hns with rfl | hns
    · exact htidy
    · exact htidy.of_mem_listsAll ns hns
  exact ⟨hlist.finished, hlist.forall_before⟩

/-- The copy before the declaration that nothing ends has a semicolon. -/
theorem finished_of_mem_lists_pixel :
    let copy : Declaration := ⟨4, "", "color", ":", "1px", "", "", true⟩
    let edits : List Edit :=
      [.collect .empty false, .update (defining (definitionOf "1px" "")) .empty true 4]
    let declarations : List Node := [.declaration copy, .declaration (colorOf 3 "var(--a)")]
    declarations ∈ (edits.foldl edited (Stylesheet.parse Pipeline.pixel 0)).lists ∧
    (∀ n ∈ declarations.dropLast, n.Finished) ∧
    ∀ n ∈ declarations, ∀ c ∈ n.before.toList, isSpace c ∨ c = ';' := by
  intro copy edits declarations
  have hedited : (edits.foldl edited (Stylesheet.parse Pipeline.pixel 0)).nodes
      = [.rule ⟨2, "", ".x", ""⟩ declarations ⟨"", true⟩] := by
    have hprop : isCustomProperty (definitionOf "1px" "").prop := by decide
    rw [Pipeline.parse_pixel]
    simp only [edits, List.foldl_cons, List.foldl_nil, edited, collect_hostAndRule hprop]
    simp [Stylesheet.update, updateNodes, updateNode, hostAndRule, Declaration.updateTo,
      Pipeline.updated?_pixel, declarations]
    rfl
  have hmem : declarations ∈ (edits.foldl edited (Stylesheet.parse Pipeline.pixel 0)).lists := by
    simp [lists, hedited, Node.listsAll, Node.lists]
  exact ⟨hmem, finished_of_mem_lists Pipeline.pixel 0 edits declarations hmem⟩

end Stylesheet

end CustomProperties
