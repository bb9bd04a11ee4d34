import CustomProperties.Proofs.Lexing.OpenBrackets
import CustomProperties.Value.Parser
import Mathlib

/-!
# Printing a parsed value

Every lexeme of a text is printed as it stands, except that the name of a function is printed with
its escapes decoded. A bracket that nothing closes counts as closed where the text ends in its mark
all the same, inside a string or a comment or as the mark of another bracket, and is then printed
with one more mark at the end.
-/

namespace CustomProperties

open Css (Bracket Component Lexeme decodeName openBrackets)

namespace Css

/-! ### Decoded lexemes -/

/-- The text of a lexeme with the name of a function decoded. -/
def Lexeme.decoded (l : Lexeme) : List Char :=
  match l.token with
  | .function _ => decodeName l.text.dropLast ++ ['(']
  | _ => l.text

/-- A text with the names of its functions decoded. -/
def decodeNames (text : List Char) : List Char := (lex text).flatMap (·.decoded)

/-- Whether the token of a lexeme tells how it is printed. -/
structure Lexeme.Legible (l : Lexeme) : Prop where
  spelled : l.Spelled
  comma : l.token = .comma → l.text = [',']
  name : ∀ name, l.token = .function name →
    ∃ written, l.text = written ++ ['('] ∧ name.toList = decodeName written

lemma legible_of_literal {l : Lexeme} (h : l.token = .literal) : l.Legible where
  spelled := by rw [Lexeme.Spelled, h]; trivial
  comma hcomma := by simp [h] at hcomma
  name name hname := by simp [h] at hname

lemma legible_readName (c : Char) (rest : List Char) :
    Lexeme.Legible ⟨(readName c rest).token, (readName c rest).cut.1⟩ := by
  refine ⟨spelled_readName c rest, ?_, ?_⟩
  · unfold readName
    simp only
    split
    · split <;> simp
    · simp
  · unfold readName
    simp only
    split
    · split
      · simp
      · intro name hname
        obtain rfl : _ = name := by simpa using hname
        exact ⟨_, rfl, String.toList_ofList⟩
    · simp

lemma legible_readPunctuation (c : Char) (rest : List Char) :
    Lexeme.Legible ⟨(readPunctuation c rest).token, (readPunctuation c rest).cut.1⟩ := by
  unfold readPunctuation
  repeat' split
  case h_2.isTrue => exact ⟨⟨_, rfl⟩, by simp, by simp⟩
  case h_3 => exact ⟨trivial, by simp, by simp⟩
  all_goals first | exact legible_of_literal rfl | exact legible_readName ..

lemma legible_read (c : Char) (rest : List Char) :
    Lexeme.Legible ⟨(read c rest).token, (read c rest).cut.1⟩ := by
  unfold read
  repeat' split
  all_goals first
    | exact legible_of_literal rfl
    | exact legible_readName ..
    | exact legible_readPunctuation ..
    | exact ⟨rfl, by simp, by simp⟩
    | exact ⟨trivial, by simp, by simp⟩

lemma legible_of_mem_lex {text : List Char} {l : Lexeme} (h : l ∈ lex text) : l.Legible :=
  of_mem_lex legible_read h

lemma Lexeme.Legible.decoded_function {l : Lexeme} {name : String} (h : l.Legible)
    (hl : l.token = .function name) : l.decoded = name.toList ++ ['('] := by
  obtain ⟨written, htext, hname⟩ := h.name name hl
  rw [Lexeme.decoded, hl, htext, hname]
  simp

lemma Lexeme.decoded_of_not_function {l : Lexeme} (h : ∀ name, l.token ≠ .function name) :
    l.decoded = l.text := by
  unfold Lexeme.decoded
  split
  · next name hl => exact absurd hl (h name)
  · rfl

/-- Only the names of functions are changed, and only if they hold an escape or a NUL. -/
lemma decodeNames_eq {text : List Char}
    (h : ∀ l ∈ lex text, ∀ name, l.token = .function name → '\\' ∉ l.text ∧ '\x00' ∉ l.text) :
    decodeNames text = text := by
  have hdecoded : ∀ l ∈ lex text, l.decoded = l.text := by
    intro l hl
    cases htoken : l.token with
    | function name =>
      obtain ⟨written, htext, hname⟩ := (legible_of_mem_lex hl).name name htoken
      obtain ⟨hescape, hnull⟩ := h l hl name htoken
      rw [htext, List.mem_append, not_or] at hescape hnull
      rw [(legible_of_mem_lex hl).decoded_function htoken, htext, hname,
        decodeName_of_not_mem hescape.1 hnull.1]
    | _ => exact Lexeme.decoded_of_not_function (by simp [htoken])
  rw [decodeNames, List.flatMap_def, List.map_congr_left hdecoded, ← List.flatMap_def]
  exact textOf_lex text

end Css

namespace Value

open Css.Component

variable {outer : Option Bracket} {bracket : Bracket} {opener l : Lexeme} {closer : Option Lexeme}
  {c : Component} {cs rest contents : List Component}

/-! ### Printed components -/

/-- The text that components are printed as once they are read. -/
def printed (cs : List Component) : List Char := (ofComponentsAfter [] cs).render.toList

/-- The white space already seen is printed in front. -/
lemma toList_render_ofComponentsAfter (before : List Char) (cs : List Component) :
    (ofComponentsAfter before cs).render.toList = before ++ printed cs := by
  induction cs generalizing before with
  | nil => simp [printed, ofComponentsAfter, render]
  | cons c cs ih =>
    cases c with
    | token l =>
      rw [printed, ofComponentsAfter, ofComponentsAfter]
      cases l.token with
      | blank => simp [ih]
      | _ => simp [render, ValueNode.render]
    | block opener bracket contents closer =>
      rw [printed, ofComponentsAfter, ofComponentsAfter]
      cases opener.token <;> simp [render, ValueNode.render]

@[simp] lemma printed_nil : printed [] = [] := by
  simp [printed, ofComponentsAfter, render]

lemma printed_token (hl : l.Legible) (hopens : l.token.opens? = none) :
    printed (token l :: rest) = l.decoded ++ printed rest := by
  have hdecoded : l.decoded = l.text := by
    apply Lexeme.decoded_of_not_function
    intro name hname
    simp [hname, Css.Token.opens?] at hopens
  rw [hdecoded, printed, ofComponentsAfter]
  cases htoken : l.token with
  | blank => simp [toList_render_ofComponentsAfter]
  | comma => simp [render, ValueNode.render, printed, hl.comma htoken]
  | _ => simp [render, ValueNode.render, printed]

lemma printed_block (hopener : opener.Legible) (hopens : opener.token.opens? = some bracket) :
    printed (block opener bracket contents closer :: rest)
      = opener.decoded ++ printed contents
        ++ (if countsAsClosed bracket contents closer then [bracket.closing] else [])
        ++ printed rest := by
  rw [printed, ofComponentsAfter]
  cases htoken : opener.token with
  | function name =>
    obtain rfl : Bracket.round = bracket := by simpa [htoken, Css.Token.opens?] using hopens
    rw [hopener.decoded_function htoken]
    cases countsAsClosed .round contents closer <;>
      simp [render, ValueNode.render, printed, Bracket.closing]
  | opening b =>
    obtain rfl : b = bracket := by simpa [htoken, Css.Token.opens?] using hopens
    have htext : opener.text = [b.opening] := by
      have hspelled := hopener.spelled
      rwa [Lexeme.Spelled, htoken] at hspelled
    rw [Lexeme.decoded_of_not_function (by simp [htoken]), htext]
    cases countsAsClosed b contents closer <;> simp [render, ValueNode.render, printed]
  | _ => simp [htoken, Css.Token.opens?] at hopens

mutual

/-- A closed component is printed as its lexemes are. -/
lemma printed_cons_of_fits {outer : Option Bracket} {c : Component} (h : Fits outer c)
    (hl : ∀ l ∈ c.lexemes, l.Legible) (rest : List Component) :
    printed (c :: rest) = c.lexemes.flatMap (·.decoded) ++ printed rest := by
  match c with
  | .token l =>
    cases h with
    | token hopens hcloses => simp [printed_token (hl l (by simp)) hopens]
  | .block opener bracket contents closer =>
    cases h with
    | @block _ _ closer _ _ hopens hcontents hcloses =>
      have hinside := printed_append_of_fits hcontents (fun l hmem => hl l (by simp [hmem])) []
      have hcloser : closer.decoded = [bracket.closing] := by
        rw [Lexeme.decoded_of_not_function,
          Lexeme.text_eq_of_closes (hl closer (by simp)).spelled hcloses]
        intro name hname
        simp [hname, Css.Token.closes] at hcloses
      rw [List.append_nil, printed_nil, List.append_nil] at hinside
      rw [printed_block (hl opener (by simp)) hopens, hinside]
      simp [countsAsClosed, hcloser]

/-- Closed components are printed as their lexemes are. -/
lemma printed_append_of_fits {outer : Option Bracket} {cs : List Component}
    (h : ∀ c ∈ cs, Fits outer c) (hl : ∀ l ∈ lexemesAll cs, l.Legible) (rest : List Component) :
    printed (cs ++ rest) = (lexemesAll cs).flatMap (·.decoded) ++ printed rest := by
  match cs with
  | [] => simp
  | c :: cs =>
    rw [List.forall_mem_cons] at h
    have hc : ∀ l ∈ c.lexemes, l.Legible := fun l hmem => hl l (by simp [hmem])
    have hcs : ∀ l ∈ lexemesAll cs, l.Legible := fun l hmem => hl l (by simp [hmem])
    rw [List.cons_append, printed_cons_of_fits h.1 hc, printed_append_of_fits h.2 hcs]
    simp

end

/-! ### Marks for open brackets -/

lemma getLast?_text_of_opens (hopener : opener.Legible) (hopens : opener.token.opens? = some bracket) :
    opener.text.getLast? = some bracket.opening := by
  cases htoken : opener.token with
  | function name =>
    obtain rfl : Bracket.round = bracket := by simpa [htoken, Css.Token.opens?] using hopens
    obtain ⟨written, htext, -⟩ := hopener.name name htoken
    simp [htext, Bracket.opening]
  | opening b =>
    obtain rfl : b = bracket := by simpa [htoken, Css.Token.opens?] using hopens
    have hspelled := hopener.spelled
    rw [Lexeme.Spelled, htoken] at hspelled
    simp [hspelled]
  | _ => simp [htoken, Css.Token.opens?] at hopens

/-- A bracket that nothing closes counts as closed if the text from it on ends in its mark. -/
lemma countsAsClosed_none (hopener : opener.Legible) (hopens : opener.token.opens? = some bracket) :
    countsAsClosed bracket contents none
      = ((opener.text ++ textOf contents).getLast? == some bracket.closing) := by
  rw [countsAsClosed, List.getLast?_append, getLast?_text_of_opens hopener hopens]
  cases (textOf contents).getLast? with
  | none => cases bracket <;> rfl
  | some c => rfl

/-- Components are printed as their lexemes are, with a mark for each open bracket that the last
character of their text would close. -/
lemma printed_of_leavesOpen {opened : List Bracket} {final : Char} (h : LeavesOpen outer cs opened)
    (hl : ∀ l ∈ lexemesAll cs, l.Legible) (hfinal : ∀ c ∈ (textOf cs).getLast?, c = final) :
    printed cs = (lexemesAll cs).flatMap (·.decoded)
      ++ List.replicate (opened.countP (·.closing = final)) final := by
  induction h with
  | none hcs => simpa using printed_append_of_fits hcs hl []
  | @last outer front contents opener bracket opened hfront hopens hcontents ih =>
    have hopener : opener.Legible := hl opener (by simp)
    have hlfront : ∀ l ∈ lexemesAll front, l.Legible := fun l hmem => hl l (by simp [hmem])
    have hlcontents : ∀ l ∈ lexemesAll contents, l.Legible := fun l hmem => hl l (by simp [hmem])
    -- the text from the bracket on is not empty, so it ends where the whole text does
    obtain ⟨c, hc⟩ : ∃ c, (opener.text ++ textOf contents).getLast? = some c := by
      simp [List.getLast?_append, getLast?_text_of_opens hopener hopens]
    obtain rfl : c = final := by
      apply hfinal
      rw [textOf_append, List.getLast?_append]
      simp [hc]
    have hinside : printed contents = (lexemesAll contents).flatMap (·.decoded)
        ++ List.replicate (opened.countP (·.closing = c)) c := by
      apply ih hlcontents
      intro d hd
      rw [List.getLast?_append, Option.mem_def.1 hd] at hc
      simpa using hc
    rw [printed_append_of_fits hfront hlfront, printed_block hopener hopens,
      countsAsClosed_none hopener hopens, hc, hinside, List.countP_cons]
    by_cases hmark : bracket.closing = c
    · subst hmark
      simp [List.replicate_succ']
    · simp [hmark, Ne.symm hmark]

/-! ### Round trip -/

lemma render_parse_eq (text : String) :
    (Value.parse text).render = String.ofList (Css.decodeNames text.toList ++
      List.replicate ((openBrackets text.toList).countP (·.closing = text.toList.getLastD ' '))
        (text.toList.getLastD ' ')) := by
  have hlegible : ∀ l ∈ lexemesAll (Css.components text.toList), l.Legible := by
    intro l hl
    rw [Css.lexemesAll_components] at hl
    exact Css.legible_of_mem_lex hl
  have hlast : ∀ c ∈ (textOf (Css.components text.toList)).getLast?,
      c = text.toList.getLastD ' ' := by
    intro c hc
    rw [Css.textOf_components, Option.mem_def] at hc
    simp [List.getLastD_eq_getLast?, hc]
  have hprinted := printed_of_leavesOpen (Css.leavesOpen_components text.toList) hlegible hlast
  rw [Css.lexemesAll_components, List.countP_reverse] at hprinted
  rw [← String.toList_inj, String.toList_ofList]
  exact hprinted

/-- Printing a parsed value gives its text back with the names of its functions decoded, followed by
a copy of the last character for each function and bracket left open that this character would
close. It gives the text itself if none is left open and no name has an escape or a NUL. -/
theorem render_parse_decoded (text : String) :
    let last := text.toList.getLastD ' '
    (Value.parse text).render = String.ofList (Css.decodeNames text.toList ++
      List.replicate ((openBrackets text.toList).countP (·.closing = last)) last) ∧
    (openBrackets text.toList = [] →
      (∀ l ∈ Css.lex text.toList, ∀ name, l.token = .function name →
        '\\' ∉ l.text ∧ '\x00' ∉ l.text) →
      (Value.parse text).render = text) := by
  intro last
  refine ⟨render_parse_eq text, ?_⟩
  intro hclosed hnames
  rw [render_parse_eq, hclosed, Css.decodeNames_eq hnames]
  simp

/-- A text that ends in a string with the mark of the function around it, and in which the bracket
inside of the function is open too; and a text that is closed. -/
theorem render_parse_decoded_halfOpen :
    (Value.parse "f\\6f o(x [\")").render = "foo(x [\"))" ∧
    (Value.parse "calc(1px + var(--a))").render = "calc(1px + var(--a))" := by
  constructor
  · have hopen : (openBrackets "f\\6f o(x [\")".toList) = [.square, .round] := by cbv
    have hnames : Css.decodeNames "f\\6f o(x [\")".toList = "foo(x [\")".toList := by cbv
    rw [(render_parse_decoded _).1, hopen, hnames]
    rfl
  · have hclosed : openBrackets "calc(1px + var(--a))".toList = [] := by cbv
    refine (render_parse_decoded _).2 hclosed ?_
    have hplain : (Css.lex "calc(1px + var(--a))".toList).all
        (fun l => !l.text.contains '\\' && !l.text.contains '\x00') := by cbv
    intro l hl name _
    simpa using List.all_eq_true.1 hplain l hl

end Value

end CustomProperties
