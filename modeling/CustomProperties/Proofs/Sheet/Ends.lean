import CustomProperties.Proofs.Lexing.Lexemes
import CustomProperties.Proofs.Lexing.Locality
import CustomProperties.Proofs.RoundTrip.Grammar
import CustomProperties.Proofs.RoundTrip.OpenEnd
import CustomProperties.Proofs.Sheet.Induction
import Mathlib.Tactic.Common

/-!
# Where nodes end

A node of a parsed sheet is ended by a mark of its own, or nothing at all comes behind it: a node
that runs on to the end of the text is the last one, inside of each block around it too.
-/

namespace CustomProperties

open Css (Component Lexeme EndsInStop)
open Css.Component

/-- A node that a mark of its own ends. -/
def Node.Ended : Node → Prop
  | rule _ _ tail => tail.closed
  | atBlock _ _ tail => tail.closed
  | atStatement _ semicolon => semicolon
  | declaration d => d.semicolon
  | comment c => EndsInStop c.raw.toList
  | document .. => False

/-- The nodes of a sheet without embedded ones, each ended unless nothing comes behind it, and what
follows the last one. -/
inductive Delimited : List Node → String → Prop where
  | nil {after : String} : Delimited [] after
  | rule {head : RuleHead} {body rest : List Node} {tail : BlockEnd} {after : String}
      (hends : tail.closed ∨ rest = [] ∧ after = "") (hbody : Delimited body tail.after)
      (hrest : Delimited rest after) : Delimited (.rule head body tail :: rest) after
  | atBlock {head : AtHead} {body rest : List Node} {tail : BlockEnd} {after : String}
      (hends : tail.closed ∨ rest = [] ∧ after = "") (hbody : Delimited body tail.after)
      (hrest : Delimited rest after) : Delimited (.atBlock head body tail :: rest) after
  | leaf {n : Node} {rest : List Node} {after : String} (hleaf : n.children? = none)
      (hends : n.Ended ∨ rest = [] ∧ after = "") (hrest : Delimited rest after) :
      Delimited (n :: rest) after

namespace Delimited

variable {n : Node} {rest : List Node} {after : String}

lemma ends (h : Delimited (n :: rest) after) : n.Ended ∨ rest = [] ∧ after = "" := by
  cases h with
  | rule hends => exact hends
  | atBlock hends => exact hends
  | leaf _ hends => exact hends

lemma tail (h : Delimited (n :: rest) after) : Delimited rest after := by
  cases h with
  | rule _ _ hrest => exact hrest
  | atBlock _ _ hrest => exact hrest
  | leaf _ _ hrest => exact hrest

lemma body_rule {head : RuleHead} {body : List Node} {tail : BlockEnd}
    (h : Delimited (.rule head body tail :: rest) after) : Delimited body tail.after := by
  cases h with
  | rule _ hbody => exact hbody
  | leaf hleaf => cases hleaf

lemma body_atBlock {head : AtHead} {body : List Node} {tail : BlockEnd}
    (h : Delimited (.atBlock head body tail :: rest) after) : Delimited body tail.after := by
  cases h with
  | atBlock _ hbody => exact hbody
  | leaf hleaf => cases hleaf

lemma not_document {id : NodeId} {body : List Node} {inner : String} :
    ¬ Delimited (.document id body inner :: rest) after := by
  intro h
  cases h with
  | leaf hleaf => cases hleaf

lemma numberAll {nodes : List Node} (h : Delimited nodes after) (next : NodeId) :
    Delimited (Node.numberAll next nodes) after := by
  induction h generalizing next with
  | nil => exact .nil
  | rule hends _ _ ihbody ih =>
    exact .rule (hends.imp_right (by rintro ⟨rfl, rfl⟩; simp [Node.numberAll])) (ihbody _) (ih _)
  | atBlock hends _ _ ihbody ih =>
    exact .atBlock (hends.imp_right (by rintro ⟨rfl, rfl⟩; simp [Node.numberAll])) (ihbody _) (ih _)
  | @leaf n rest after hleaf hends _ ih =>
    have hends' :
        (n.number next).Ended ∨ Node.numberAll (next + n.size) rest = [] ∧ after = "" := by
      refine hends.imp (fun hn => ?_) (by rintro ⟨rfl, rfl⟩; simp [Node.numberAll])
      cases n <;> exact hn
    refine .leaf ?_ hends' (ih _)
    cases n <;> first | rfl | cases hleaf

end Delimited

/-- A node that is ended ends in a stop. -/
lemma Node.Ended.endsInStop {n : Node} (h : n.Ended) : EndsInStop n.render.toList := by
  cases n with
  | rule head body tail =>
    have hclosed : tail.closed = true := h
    simp only [render, BlockEnd.render, if_pos hclosed, String.toList_append]
    exact .append _ (.append _ ⟨'}', rfl, rfl⟩)
  | atBlock head body tail =>
    have hclosed : tail.closed = true := h
    simp only [render, BlockEnd.render, if_pos hclosed, String.toList_append]
    exact .append _ (.append _ ⟨'}', rfl, rfl⟩)
  | atStatement head semicolon =>
    have hsemicolon : semicolon = true := h
    exact ⟨';', by simp [render, hsemicolon], rfl⟩
  | declaration d =>
    have hsemicolon : d.semicolon = true := h
    exact ⟨';', by simp [render, Declaration.render, hsemicolon], rfl⟩
  | comment c =>
    rw [render, Comment.render, String.toList_append]
    exact EndsInStop.append _ h
  | document => cases h

/-! ### Parsed sheets -/

/-- What is not the last of a part is not the last of the whole. -/
lemma mem_dropLast_of_isInfix {α : Type} {part whole : List α} {a : α} (h : part <:+: whole)
    (ha : a ∈ part.dropLast) : a ∈ whole.dropLast := by
  obtain ⟨front, back, rfl⟩ := h
  rcases eq_or_ne back [] with rfl | hback
  · have hpart : part ≠ [] := by
      rintro rfl
      cases ha
    rw [List.append_nil, List.dropLast_append_of_ne_nil hpart]
    exact List.mem_append_right _ ha
  · rw [List.dropLast_append_of_ne_nil hback]
    exact List.mem_append_left _ (List.mem_append_right _ ((List.dropLast_subset _) ha))

/-- All comments but one at the very end are ended. -/
def CommentsEnded (cs : List Component) : Prop := ∀ l ∈ (lexemesAll cs).dropLast, l.Ended

namespace CommentsEnded

variable {c : Component} {front cs : List Component}

lemma of_isInfix {ds : List Component} (h : CommentsEnded cs)
    (hds : lexemesAll ds <:+: lexemesAll cs) : CommentsEnded ds :=
  fun l hl => h l (mem_dropLast_of_isInfix hds hl)

lemma of_append (h : CommentsEnded (front ++ cs)) : CommentsEnded cs :=
  h.of_isInfix (by rw [lexemesAll_append]; exact (List.suffix_append _ _).isInfix)

lemma tail (h : CommentsEnded (c :: cs)) : CommentsEnded cs :=
  of_append (show CommentsEnded ([c] ++ cs) from h)

lemma contents {opener : Lexeme} {bracket : Css.Bracket} {inner : List Component}
    {closer : Option Lexeme} (h : CommentsEnded (block opener bracket inner closer :: cs)) :
    CommentsEnded inner :=
  h.of_isInfix ⟨[opener], closer.toList ++ lexemesAll cs, by simp⟩

end CommentsEnded

lemma Css.Lexeme.Ended.endsInStop {l : Lexeme} (h : l.Ended) (hl : l.token = .comment) :
    EndsInStop l.text := by
  obtain ⟨front, hfront⟩ := (h hl).trans (List.drop_suffix 2 l.text)
  exact ⟨'/', by simp [← hfront], rfl⟩

/-- A comment is ended unless it is the last component. -/
lemma endsInStop_comment {c : Component} {cs : List Component} (hkind : c.itemKind cs = .comment)
    (hcomments : CommentsEnded (c :: cs)) (hcs : cs ≠ []) : EndsInStop c.text := by
  obtain ⟨l, rfl, hl⟩ : ∃ l, c = token l ∧ l.token = .comment := by
    cases c <;> grind [itemKind]
  have hmem : l ∈ (lexemesAll (token l :: cs)).dropLast := by
    rw [lexemesAll_cons, List.dropLast_append_of_ne_nil (lexemesAll_ne_nil hcs)]
    exact List.mem_append_left _ (by simp)
  rw [text_token]
  exact (hcomments l hmem).endsInStop hl

/-- A block that nothing closes is the last component. -/
lemma closed_or_nil {opener : Lexeme} {closer : Option Lexeme} {contents cs : List Component}
    (h : OpenEnd (block opener .curly contents closer :: cs)) :
    countsAsClosed .curly contents closer ∨ cs = [] := by
  cases h with
  | cons hblock _ =>
    cases hblock with
    | block => exact .inl rfl
  | opened => exact .inr rfl

/-- What a bracket holds is closed up to its last component. -/
lemma openEnd_contents {opener : Lexeme} {bracket : Css.Bracket} {closer : Option Lexeme}
    {contents cs : List Component} (h : OpenEnd (block opener bracket contents closer :: cs)) :
    OpenEnd contents := by
  cases h with
  | cons hblock _ =>
    cases hblock with
    | block _ hcontents _ => exact .of_closed hcontents
  | opened _ hcontents => exact hcontents

namespace Stylesheet

/-- Without components there is nothing to read. -/
lemma Reads.eq_nil {sheet : Stylesheet} (h : Reads [] [] sheet) :
    sheet.nodes = [] ∧ sheet.after = "" := by
  generalize hcs : ([] : List Component) = cs at h
  cases h with
  | nil => exact ⟨rfl, rfl⟩
  | _ => cases hcs

/-- A block that nothing closes has nothing to read behind it. -/
lemma Reads.closed_or_eq_nil {opener : Lexeme} {closer : Option Lexeme}
    {contents cs : List Component} {sheet : Stylesheet} (h : Reads [] cs sheet)
    (hopen : OpenEnd (block opener .curly contents closer :: cs)) :
    countsAsClosed .curly contents closer ∨ (sheet.nodes = [] ∧ sheet.after = "") := by
  refine (closed_or_nil hopen).imp_right ?_
  rintro rfl
  exact h.eq_nil

lemma Reads.delimited {before : List Char} {cs : List Component} {sheet : Stylesheet}
    (h : Reads before cs sheet) (hopen : OpenEnd cs) (hcomments : CommentsEnded cs) :
    Delimited sheet.nodes sheet.after := by
  induction h with
  | nil => exact .nil
  | gap hkind _ ih => exact ih hopen.tail hcomments.tail
  | @comment before c cs sheet hkind hrest ih =>
    refine .leaf rfl ?_ (ih hopen.tail hcomments.tail)
    rcases eq_or_ne cs [] with rfl | hcs
    · exact .inr hrest.eq_nil
    · exact .inl (by simpa [Node.Ended] using endsInStop_comment hkind hcomments hcs)
  | @atBlock before keyword opener closer front contents cs inner sheet hkind hfront hinner hrest
      ihinner ih =>
    have hblock := (hopen.tail.of_append (by simp)).2
    have hcommentsBlock := hcomments.tail.of_append
    exact .atBlock (hrest.closed_or_eq_nil hblock)
      (ihinner (openEnd_contents hblock) hcommentsBlock.contents)
      (ih hblock.tail hcommentsBlock.tail)
  | atStatement hkind hfront hsemicolon _ ih =>
    exact .leaf rfl (.inl rfl) (ih (hopen.tail.of_append (by simp)).2.tail
      hcomments.tail.of_append.tail)
  | atUnended => exact .leaf rfl (.inr ⟨rfl, rfl⟩) .nil
  | @rule before c opener closer tail front contents cs inner sheet hkind heq hfront hinner hrest
      ihinner ih =>
    rw [heq] at hopen hcomments
    have hblock := (hopen.of_append (by simp)).2
    have hcommentsBlock := hcomments.of_append
    exact .rule (hrest.closed_or_eq_nil hblock)
      (ihinner (openEnd_contents hblock) hcommentsBlock.contents)
      (ih hblock.tail hcommentsBlock.tail)
  | declaration hkind heq hfront hsemicolon _ ih =>
    rw [heq] at hopen hcomments
    exact .leaf rfl (.inl rfl) (ih (hopen.of_append (by simp)).2.tail hcomments.of_append.tail)
  | unended => exact .leaf rfl (.inr ⟨rfl, rfl⟩) .nil

lemma delimited_parse (text : String) (next : NodeId) :
    Delimited (Stylesheet.parse text next).nodes (Stylesheet.parse text next).after := by
  refine Delimited.numberAll ?_ next
  refine (reads_ofComponents [] _).delimited (Css.openEnd_components _) fun l hl => ?_
  rw [Css.lexemesAll_components] at hl
  exact Css.ended_of_mem_dropLast_lex hl

end Stylesheet

end CustomProperties
