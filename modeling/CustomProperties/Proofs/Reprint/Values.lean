import CustomProperties.Proofs.Editing.Modes
import CustomProperties.Proofs.Lexing.Lexemes
import CustomProperties.Proofs.Reprint.Alike
import CustomProperties.Proofs.Reprint.Items
import CustomProperties.Proofs.Resolution.Staying
import CustomProperties.Proofs.RoundTrip.Items
import CustomProperties.Proofs.RoundTrip.OpenEnd
import CustomProperties.Update
import Mathlib.Tactic.Common

/-!
# Values that are read back

The value of a declaration in a parsed sheet is what stands behind the first colon of its text, so
that it depends on nothing but this text. Where no name is defined, resolving leaves each value that
its tokens print and in which no reference has a fallback (`SettledText`).
-/

namespace CustomProperties

open Css (Component Lexeme)
open Css.Component
open Text (trimEnd trimStart isBlank)
open Node (declarationsAll)
open ValueNode (pendingAll)

/-! ### Values that stay -/

/-- The text of a value that its tokens print, and in which no reference has a fallback. -/
structure SettledText (value : String) : Prop where
  prints : (Value.parse value).render = value
  settled : pendingAll (Value.parse value).nodes = 0

/-- A text is settled if it was resolved and reads as the tokens that it was resolved to. -/
lemma settledText_resolveText {table : PropertyTable} {text : String}
    (h : Value.parse (resolveText table text) = (Value.parse text).resolve table) :
    SettledText (resolveText table text) where
  prints := congrArg Value.render h
  settled := by
    rw [h]
    exact (resolveFrom table [] .nil (Value.parse text).nodes).2

/-- Where no name is defined, resolving leaves a text of this kind. -/
lemma SettledText.resolveText_eq {value : String} (h : SettledText value) :
    resolveText ∅ value = value := by
  have hnodes : resolve ∅ (Value.parse value).nodes = (Value.parse value).nodes := by
    simpa [resolve] using val_resolveFrom_empty [] .nil h.settled
  rw [resolveText, Value.resolve, hnodes]
  exact h.prints

lemma SettledText.resolvedValue?_eq {prop value : String}
    (h : mayRefer value → SettledText (splitTrailingComment value).1) :
    resolvedValue? ∅ prop value = none := by
  unfold resolvedValue?
  split
  · rfl
  · next hother =>
    simp only [Bool.or_eq_true, not_or, Bool.not_eq_true', Bool.not_eq_false] at hother
    simp [(h hother.2).resolveText_eq]

/-! ### Gaps -/

namespace Css

/-- White space or a semicolon holds no colon. -/
def Lexeme.WithoutColon (l : Lexeme) : Prop :=
  l.token = .blank ∨ l.token = .semicolon → ':' ∉ l.text

lemma withoutColon_of_mem_lex {text : List Char} {l : Lexeme} (h : l ∈ lex text) :
    l.WithoutColon := by
  rintro (hblank | hsemicolon)
  · exact fun hcolon => absurd (isSpace_of_mem_blank h hblank ':' hcolon) (by decide)
  · rw [Lexeme.text_eq_of_semicolon (spelled_of_mem_lex h) hsemicolon]
    decide

end Css

/-! ### Values of declarations -/

/-- The value that is read from the text of a declaration. -/
def Declaration.readValue (d : Declaration) : String :=
  (Declaration.ofText "" { d with semicolon := false }.render.toList false).value

/-- The value depends on nothing but the text and the end of a declaration. -/
lemma Node.SameLeaf.readValue_eq {d d' : Declaration}
    (h : (Node.declaration d).SameLeaf (.declaration d')) : d'.readValue = d.readValue := by
  cases h with
  | declaration _ hrender hsemicolon =>
    have hbare (e : Declaration) :
        e.render = { e with semicolon := false }.render ++ if e.semicolon then ";" else "" := by
      simp [Declaration.render]
    rw [hbare, hbare d, hsemicolon, ← String.toList_inj, String.toList_append,
      String.toList_append] at hrender
    rw [Declaration.readValue, Declaration.readValue, List.append_cancel_right hrender]

lemma trimEnd_append (front text : List Char) : trimEnd (front ++ text)
    = if trimEnd text = [] then trimEnd front else front ++ trimEnd text := by
  rw [trimEnd, trimEnd, trimEnd, List.reverse_append, List.dropWhile_append]
  simp only [List.reverse_eq_nil_iff, List.isEmpty_iff]
  split
  · rfl
  · simp

/-- What stands before a declaration and holds no colon has no part in its value. -/
lemma value_ofText_append {before : List Char} (hbefore : ':' ∉ before) (text : List Char)
    (space space' : String) (semicolon semicolon' : Bool) :
    (Declaration.ofText space (before ++ text) semicolon).value
      = (Declaration.ofText space' text semicolon').value := by
  have hcolon : ∀ c ∈ before, c ≠ ':' := fun c hc he => hbefore (he ▸ hc)
  have hbehind : (trimEnd (before ++ text)).dropWhile (· ≠ ':')
      = (trimEnd text).dropWhile (· ≠ ':') := by
    rw [trimEnd_append]
    split
    · next hnil =>
      rw [hnil, List.dropWhile_nil, List.dropWhile_eq_nil_iff]
      intro c hc
      have hmem : c ∈ before := by
        rw [trimEnd, List.mem_reverse] at hc
        exact List.mem_reverse.1 ((List.dropWhile_suffix _).subset hc)
      simpa using hcolon c hmem
    · exact List.dropWhile_append_of_pos (by simpa using hcolon)
  simp only [Declaration.ofText, hbehind]

lemma readValue_ofText {before : List Char} (hbefore : ':' ∉ before) (text : List Char)
    (semicolon : Bool) :
    (Declaration.ofText (String.ofList before) text semicolon).readValue
      = (Declaration.ofText (String.ofList before) text semicolon).value := by
  have hbare : { Declaration.ofText (String.ofList before) text semicolon with
      semicolon := false } = Declaration.ofText (String.ofList before) text false := rfl
  rw [Declaration.readValue, hbare, toList_render_declaration, String.toList_ofList]
  simpa using value_ofText_append hbefore text _ _ _ _

/-- The declarations of a sheet have the values that are read from their texts. -/
lemma Stylesheet.Reads.readValue_eq {before : List Char} {cs : List Component}
    {sheet : Stylesheet} (h : Reads before cs sheet) (hbefore : ':' ∉ before)
    (hcs : ∀ l ∈ lexemesAll cs, l.WithoutColon) :
    ∀ d ∈ declarationsAll sheet.nodes, d.readValue = d.value := by
  induction h with
  | nil => simp
  | gap hkind _ ih =>
    obtain ⟨l, rfl, hl⟩ := isGap_of_itemKind hkind
    simp only [lexemesAll_cons, lexemes_token, List.singleton_append, List.forall_mem_cons] at hcs
    exact ih (by simpa [hbefore] using hcs.1 hl) hcs.2
  | comment _ _ ih =>
    rw [lexemesAll_cons, List.forall_mem_append] at hcs
    simpa [Stylesheet.cons, Node.declarations] using ih (by simp) hcs.2
  | atBlock _ _ _ _ ihinner ih =>
    simp only [lexemesAll_cons, lexemesAll_append, lexemes_block, List.forall_mem_append,
      List.forall_mem_cons] at hcs
    rw [Stylesheet.cons, Node.declarationsAll_cons, Node.declarations, List.forall_mem_append]
    exact ⟨ihinner (by simp) hcs.2.2.1.2.1, ih (by simp) hcs.2.2.2⟩
  | atStatement _ _ _ _ ih =>
    simp only [lexemesAll_cons, lexemesAll_append, List.forall_mem_append] at hcs
    simpa [Stylesheet.cons, Node.declarations] using ih (by simp) hcs.2.2.2
  | atUnended => simp [Node.declarations]
  | rule _ heq _ _ _ ihinner ih =>
    rw [heq] at hcs
    simp only [lexemesAll_cons, lexemesAll_append, lexemes_block, List.forall_mem_append,
      List.forall_mem_cons] at hcs
    rw [Stylesheet.cons, Node.declarationsAll_cons, Node.declarations, List.forall_mem_append]
    exact ⟨ihinner (by simp) hcs.2.1.2.1, ih (by simp) hcs.2.2⟩
  | declaration _ heq _ _ _ ih =>
    rw [heq] at hcs
    simp only [lexemesAll_cons, lexemesAll_append, List.forall_mem_append] at hcs
    rw [Stylesheet.cons, Node.declarationsAll_cons, Node.declarations, List.singleton_append,
      List.forall_mem_cons]
    exact ⟨readValue_ofText hbefore _ _, ih (by simp) hcs.2.2⟩
  | unended =>
    rw [Node.declarationsAll_cons, Node.declarations, Node.declarationsAll_nil, List.append_nil,
      List.forall_mem_singleton]
    exact readValue_ofText hbefore _ _

/-- A declaration without its number. -/
def Declaration.unnumbered (d : Declaration) : Declaration := { d with id := 0 }

/-- Numbers have no part in what is declared. -/
lemma Node.map_unnumbered_numberAll (next : NodeId) (ns : List Node) :
    (declarationsAll (numberAll next ns)).map (·.unnumbered)
      = (declarationsAll ns).map (·.unnumbered) := by
  induction ns using Node.induct generalizing next with
  | nil => rfl
  | rule head body tail rest ihbody ih => simp [numberAll, number, declarations, ihbody, ih]
  | atBlock head body tail rest ihbody ih => simp [numberAll, number, declarations, ihbody, ih]
  | atStatement head semicolon rest ih => simp [numberAll, number, declarations, ih]
  | declaration d rest ih =>
    have hd : Declaration.unnumbered { d with id := next } = d.unnumbered := rfl
    simp [numberAll, number, declarations, hd, ih]
  | comment c rest ih => simp [numberAll, number, declarations, ih]
  | document id body after rest ihbody ih =>
    simp [numberAll, number, declarations, ihbody, ih]

/-- The declarations of a parsed sheet have the values that are read from their texts. -/
lemma Stylesheet.readValue_eq_of_mem_parse {text : String} {next : NodeId} {d : Declaration}
    (h : d ∈ declarationsAll (Stylesheet.parse text next).nodes) : d.readValue = d.value := by
  have hreads := Stylesheet.reads_ofComponents [] (Css.components text.toList)
  have hmem := List.mem_map_of_mem (f := (·.unnumbered)) h
  rw [Stylesheet.parse, Stylesheet.number, Node.map_unnumbered_numberAll, List.mem_map] at hmem
  obtain ⟨d₀, hd₀, heq⟩ := hmem
  have hvalue := hreads.readValue_eq (by simp) (fun l hl => ?_) d₀ hd₀
  · calc d.readValue = d.unnumbered.readValue := rfl
      _ = d₀.unnumbered.readValue := by rw [heq]
      _ = d₀.unnumbered.value := hvalue
      _ = d.unnumbered.value := by rw [heq]
  · rw [Css.lexemesAll_components] at hl
    exact Css.withoutColon_of_mem_lex hl

end CustomProperties
