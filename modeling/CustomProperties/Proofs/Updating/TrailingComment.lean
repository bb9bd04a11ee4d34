import CustomProperties.Proofs.Lexing.Remarks
import CustomProperties.Proofs.Resolution.Staying
import CustomProperties.Proofs.RoundTrip.Values
import CustomProperties.Update
import Mathlib.Tactic.Common

/-!
# Leaving out the comment at the end of a value

A value is resolved without the comment that ends it. The comment is looked for in the text, from
the last opening mark that has something behind it; that mark may stand inside of a string or start
an earlier comment, with tokens between it and the end. Where it stands among the comments that end
the value, leaving the comment out makes no difference (`resolvedValue?_eq_resolveText`).
-/

namespace CustomProperties

open Css (Component Lexeme lex openAfter openBrackets)
open ValueNode

/-! ### Where a value is cut -/

/-- Of what stands before the end of a comment, in reverse, the part before an opening mark. -/
lemma exists_of_beforeOpening {back front : List Char} (h : beforeOpening back = some front) :
    ∃ inner, back = inner ++ '*' :: '/' :: front := by
  fun_induction beforeOpening back with
  | case1 d c rest =>
    cases h
    exact ⟨[d], rfl⟩
  | case2 => cases h
  | case3 d rest _ _ ih =>
    obtain ⟨inner, rfl⟩ := ih h
    exact ⟨d :: inner, rfl⟩
  | case4 => cases h

/-- A value is not cut at all, or it ends in a mark and is cut before an opening mark. -/
lemma splitTrailingComment_cases (value : String) :
    splitTrailingComment value = (value, "") ∨
    ∃ back front rest, value.toList = back.reverse ++ ['*', '/'] ∧
      beforeOpening back = some front ∧ value.toList = front.reverse ++ '/' :: '*' :: rest ∧
      splitTrailingComment value
        = (String.ofList front.reverse, String.ofList ('/' :: '*' :: rest)) := by
  unfold splitTrailingComment
  simp only
  split
  · next front hfront =>
    right
    split at hfront
    · next back hback =>
      have hend : value.toList = back.reverse ++ ['*', '/'] := by
        rw [← List.reverse_reverse value.toList, hback]
        simp
      obtain ⟨inner, rfl⟩ := exists_of_beforeOpening hfront
      have hvalue : value.toList = front.reverse ++ '/' :: '*' :: (inner.reverse ++ ['*', '/']) := by
        rw [hend]
        simp
      refine ⟨_, front, _, hend, hfront, hvalue, ?_⟩
      rw [hvalue, ← List.length_reverse, List.drop_left]
    · cases hfront
  · exact .inl rfl

/-- There is a cut behind every opening mark that has something behind it, or there are cuts at later
ones. -/
lemma exists_beforeOpening {inner front : List Char} (hinner : inner ≠ []) (hfront : front ≠ []) :
    ∃ longer, beforeOpening (inner ++ '*' :: '/' :: front) = some longer ∧ front <:+ longer := by
  generalize hback : inner ++ '*' :: '/' :: front = back
  fun_induction beforeOpening back generalizing inner with
  | case1 d c rest =>
    refine ⟨c :: rest, rfl, ?_⟩
    match inner with
    | [_] => simp_all
    | [_, _] => simp at hback
    | _ :: _ :: _ :: inner =>
      have hrest : inner ++ '*' :: '/' :: front = c :: rest := by simp_all
      exact ⟨inner ++ ['*', '/'], by simpa using hrest⟩
  | case2 =>
    have hlength := congrArg List.length hback
    have := List.length_pos_iff.2 hinner
    have := List.length_pos_iff.2 hfront
    simp at hlength
    omega
  | case3 d rest hmark hend ih =>
    match inner with
    | [_] =>
      obtain ⟨c, front, rfl⟩ := List.exists_cons_of_ne_nil hfront
      rw [List.singleton_append, List.cons.injEq] at hback
      exact absurd hback.2.symm (hmark c front)
    | _ :: e :: inner => exact ih (List.cons_ne_nil e inner) (by simp_all)
  | case4 => simp at hback

/-- A value is not cut before an opening mark that has something behind it. -/
lemma prefix_splitTrailingComment {value : String} {front rest : List Char}
    (hvalue : value.toList = front ++ '/' :: '*' :: rest) (hrest : 2 < rest.length) :
    front <+: (splitTrailingComment value).1.toList := by
  rcases splitTrailingComment_cases value with hsplit | ⟨back, body, _, hend, hbody, -, hsplit⟩
  · simp [hsplit, hvalue]
  · by_cases hfront : front = []
    · simp [hfront]
    have hrestEnd : ['*', '/'] <:+ rest := by
      apply List.suffix_of_suffix_length_le ⟨back.reverse, hend.symm⟩
      · exact ⟨front ++ ['/', '*'], by simp [hvalue]⟩
      · exact hrest.le
    obtain ⟨inner, rfl⟩ := hrestEnd
    have hinner : inner.reverse ≠ [] := by
      intro hnil
      simp [List.reverse_eq_nil_iff.1 hnil] at hrest
    have hback : back = inner.reverse ++ '*' :: '/' :: front.reverse := by
      rw [hvalue, ← List.cons_append, ← List.cons_append, ← List.append_assoc,
        List.append_left_inj] at hend
      rw [← List.reverse_reverse back, ← hend]
      simp
    obtain ⟨longer, hlonger, hsuffix⟩ :=
      exists_beforeOpening hinner (mt List.reverse_eq_nil_iff.1 hfront)
    obtain rfl : longer = body := by
      rw [hback, hlonger] at hbody
      exact Option.some.inj hbody
    rw [hsplit, String.toList_ofList]
    rwa [← List.reverse_prefix, List.reverse_reverse] at hsuffix

/-- What is cut off a value stands among the white space and the comments at its end. -/
def CutsRemarks (value : String) : Prop :=
  ∃ ls ms, lex value.toList = ls ++ ms ∧ (∀ l ∈ ms, l.IsRemark) ∧
    Lexeme.textOf ls <+: (splitTrailingComment value).1.toList

/-- Where nothing ends a value but white space and comments, one of which has something in it, no
more than these are cut off. -/
lemma cutsRemarks_of_comment {value : String} {ls ms : List Lexeme} {l : Lexeme}
    (hlex : lex value.toList = ls ++ l :: ms) (hl : l.token = .comment) (hlong : 4 < l.text.length)
    (hms : ∀ l ∈ ms, l.IsRemark) : CutsRemarks value := by
  refine ⟨ls, l :: ms, hlex, List.forall_mem_cons.2 ⟨.inr hl, hms⟩, ?_⟩
  obtain ⟨inner, htext, -⟩ := Css.exists_text_of_comment hlex hl
  have hvalue : value.toList = Lexeme.textOf ls ++ '/' :: '*' :: (inner ++ Lexeme.textOf ms) := by
    rw [← Css.textOf_lex value.toList, hlex]
    simp [htext]
  apply prefix_splitTrailingComment hvalue
  simp [htext] at hlong ⊢
  omega

/-- Of a value that ends in no end mark nothing is cut off. -/
lemma cutsRemarks_of_not_suffix {value : String} (h : ¬ ['*', '/'] <:+ value.toList) :
    CutsRemarks value := by
  refine ⟨lex value.toList, [], (List.append_nil _).symm, by simp, ?_⟩
  rcases splitTrailingComment_cases value with hsplit | ⟨back, _, _, hend, -⟩
  · simp [hsplit]
  · exact absurd ⟨back.reverse, hend.symm⟩ h

/-- The lexemes before the remarks stay the same. Where anything is cut off, one of the remarks is a
comment. -/
lemma CutsRemarks.exists_lex {value : String} (h : CutsRemarks value) :
    ∃ ls ms cut, lex value.toList = ls ++ ms ∧ (∀ l ∈ ms, l.IsRemark) ∧
      lex (splitTrailingComment value).1.toList = ls ++ cut ∧ (∀ l ∈ cut, l.IsRemark) ∧
      Lexeme.textOf ms = Lexeme.textOf cut ++ (splitTrailingComment value).2.toList ∧
      (cut = ms ∨ ∃ l ∈ ms, l.token = .comment) := by
  obtain ⟨ls, ms, hlex, hms, hfront⟩ := h
  rcases splitTrailingComment_cases value with hsplit | ⟨_, _, rest, _, -, hvalue, hsplit⟩
  · rw [hsplit]
    exact ⟨ls, ms, ms, hlex, hms, hlex, hms, by simp, .inl rfl⟩
  · rw [hsplit] at hfront ⊢
    rw [hvalue] at hlex ⊢
    obtain ⟨cut, hcut, hremarks, htext⟩ := Css.lex_of_cut hlex hms (by simpa using hfront)
    refine ⟨ls, ms, cut, hlex, hms, by simpa using hcut, hremarks, by simpa using htext, .inr ?_⟩
    -- the opening mark is no white space
    obtain ⟨l, hl, hslash⟩ : ∃ l ∈ ms, '/' ∈ l.text := by
      have hmem : '/' ∈ Lexeme.textOf ms := by simp [htext]
      simpa [Lexeme.textOf] using hmem
    refine ⟨l, hl, (hms l hl).resolve_left fun hblank => ?_⟩
    have hspace := Css.isSpace_of_mem_blank (hlex ▸ List.mem_append_right _ hl) hblank
    exact absurd (hspace '/' hslash) (by decide)

/-! ### Values that end in remarks -/

namespace Value

variable {ls ms : List Lexeme} {text : String} {table : PropertyTable}

/-- Components behind others are read after the white space that these leave. -/
lemma ofComponentsAfter_append (before : List Char) (cs ds : List Component) :
    ofComponentsAfter before (cs ++ ds)
      = let front := ofComponentsAfter before cs
        let back := ofComponentsAfter front.after.toList ds
        ⟨front.nodes ++ back.nodes, back.after⟩ := by
  induction cs generalizing before with
  | nil => simp [ofComponentsAfter]
  | cons c cs ih =>
    cases c with
    | token l => cases htoken : l.token <;> simp [ofComponentsAfter, htoken, ih]
    | block opener bracket contents closer => simp [ofComponentsAfter, ih]

/-- Remarks are read as comments. -/
lemma isComment_of_remarks (before : List Char) (hms : ∀ l ∈ ms, l.IsRemark) :
    ∀ n ∈ (ofComponentsAfter before (ms.map .token)).nodes, n.isComment := by
  induction ms generalizing before with
  | nil => simp [ofComponentsAfter]
  | cons m ms ih =>
    rw [List.forall_mem_cons] at hms
    rcases hms.1 with hm | hm
    · simpa [ofComponentsAfter, hm] using ih (before ++ m.text) hms.2
    · simpa [ofComponentsAfter, hm, isComment] using ih [] hms.2

lemma nodes_ne_nil_of_comment (before : List Char) {l : Lexeme} (hl : l ∈ ms)
    (hcomment : l.token = .comment) : (ofComponentsAfter before (ms.map .token)).nodes ≠ [] := by
  induction ms generalizing before with
  | nil => cases hl
  | cons m ms ih =>
    rcases List.mem_cons.1 hl with rfl | hl
    · simp [ofComponentsAfter, hcomment]
    · cases htoken : m.token with
      | blank => simpa [ofComponentsAfter, htoken] using ih (before ++ m.text) hl
      | _ => simp [ofComponentsAfter, htoken]

/-- Remarks are printed as they stand. -/
lemma printed_remarks (hms : ∀ l ∈ ms, l.IsRemark) :
    printed (ms.map .token) = Lexeme.textOf ms := by
  induction ms with
  | nil => simp
  | cons m ms ih =>
    rw [List.forall_mem_cons] at hms
    rw [List.map_cons, Lexeme.textOf_cons, ← ih hms.2, printed, ofComponentsAfter]
    rcases hms.1 with hm | hm
    · simp [hm, toList_render_ofComponentsAfter]
    · simp [hm, render, ValueNode.render, printed]

/-- The tokens of a text that ends in remarks outside of all brackets end in comments. -/
lemma exists_parse_of_remarks (hlex : lex text.toList = ls ++ ms)
    (hclosed : openBrackets text.toList = []) (hms : ∀ l ∈ ms, l.IsRemark) :
    let front := ofComponentsAfter [] (Component.group ls)
    ∃ comments, (Value.parse text).nodes = front.nodes ++ comments ∧
      (∀ n ∈ comments, n.isComment) ∧
      renderAll comments ++ (Value.parse text).after
        = front.after ++ String.ofList (Lexeme.textOf ms) := by
  intro front
  let back := ofComponentsAfter front.after.toList (ms.map .token)
  have hls : ls.foldl openAfter [] = [] := by
    rwa [openBrackets, hlex, List.foldl_append, Css.foldl_openAfter_of_isRemark hms] at hclosed
  have hparse : Value.parse text = ⟨front.nodes ++ back.nodes, back.after⟩ := by
    rw [Value.parse, Css.components, hlex, Component.group_append_remarks hls hms,
      ofComponentsAfter_append]
  have hback : back.render.toList = front.after.toList ++ Lexeme.textOf ms := by
    rw [toList_render_ofComponentsAfter, printed_remarks hms]
  refine ⟨back.nodes, congrArg Value.nodes hparse, isComment_of_remarks _ hms, ?_⟩
  rw [hparse, ← String.toList_inj, String.toList_append, String.toList_append, String.toList_ofList]
  simpa [render] using hback

/-- Remarks outside of all brackets stay behind what the tokens before them are resolved to. -/
lemma resolveText_of_remarks (table : PropertyTable) (hlex : lex text.toList = ls ++ ms)
    (hclosed : openBrackets text.toList = []) (hms : ∀ l ∈ ms, l.IsRemark) :
    resolveText table text
      = ((ofComponentsAfter [] (Component.group ls)).resolve table).render
        ++ String.ofList (Lexeme.textOf ms) := by
  obtain ⟨comments, hnodes, hcomments, hrender⟩ := exists_parse_of_remarks hlex hclosed hms
  have hstays : ∀ n ∈ outerReferencesAll comments,
      table.substitution [] n.children = .stays := by
    simp [outerReferencesAll_eq_nil_of_comments hcomments]
  rw [resolveText, Value.resolve, hnodes, resolve_append_of_stays hstays, Value.resolve, render,
    render, renderAll_append, String.append_assoc, hrender, String.append_assoc]

end Value

/-! ### New values -/

variable {value : String} {table : PropertyTable}

lemma splitTrailingComment_append (value : String) :
    (splitTrailingComment value).1 ++ (splitTrailingComment value).2 = value := by
  rcases splitTrailingComment_cases value with hsplit | ⟨_, _, rest, _, -, hvalue, hsplit⟩
  · simp [hsplit]
  · simp [hsplit, ← String.toList_inj, hvalue]

/-- Resolving goes on behind the cut as if there were none. -/
lemma CutsRemarks.resolveText_eq (h : CutsRemarks value) (hclosed : openBrackets value.toList = []) :
    resolveText table value
      = resolveText table (splitTrailingComment value).1 ++ (splitTrailingComment value).2 := by
  obtain ⟨ls, ms, cut, hlex, hms, hbody, hcut, htext, -⟩ := h.exists_lex
  have hopen : openBrackets (splitTrailingComment value).1.toList = [] := by
    rw [openBrackets, hlex, List.foldl_append, Css.foldl_openAfter_of_isRemark hms] at hclosed
    rw [openBrackets, hbody, List.foldl_append, Css.foldl_openAfter_of_isRemark hcut, hclosed]
  rw [Value.resolveText_of_remarks table hlex hclosed hms,
    Value.resolveText_of_remarks table hbody hopen hcut, htext, String.ofList_append,
    String.ofList_toList, String.append_assoc]

/-- Leaving out the comment that ends a value makes no difference, if all brackets of the value are
closed and nothing but white space and comments is cut off. -/
theorem resolvedValue?_eq_resolveText (table : PropertyTable) {prop value : String}
    (hprop : isCustomProperty prop = false) (hmay : mayRefer value = true)
    (hclosed : openBrackets value.toList = []) (hcut : CutsRemarks value) :
    resolvedValue? table prop value
      = if resolveText table value = value then none else some (resolveText table value) := by
  have hresolved : resolveText table value = _ := hcut.resolveText_eq hclosed
  have hvalue := splitTrailingComment_append value
  rcases hsplit : splitTrailingComment value with ⟨body, comment⟩
  rw [hsplit] at hresolved hvalue
  have hsame : resolveText table value = value ↔ resolveText table body = body := by
    rw [hresolved, ← hvalue, ← String.toList_inj, String.toList_append, String.toList_append,
      List.append_cancel_right_eq, String.toList_inj]
  by_cases hbody : resolveText table body = body
  · simp [resolvedValue?, hprop, hsplit, hsame, hbody]
  · rw [if_neg (mt hsame.1 hbody), hresolved]
    simp [resolvedValue?, hprop, hmay, hsplit, hbody]

/-- A table with one length. -/
def oneLength : PropertyTable where
  entries := [("--a", [.word "" "1px"])]

/-- A value with a function that is closed and a comment that has something in it. -/
theorem resolvedValue?_eq_resolveText_remark :
    isCustomProperty "width" = false ∧ mayRefer "calc(2px + var(--a)) /* x */" = true ∧
      openBrackets "calc(2px + var(--a)) /* x */".toList = [] ∧
      CutsRemarks "calc(2px + var(--a)) /* x */" ∧
      resolvedValue? oneLength "width" "calc(2px + var(--a)) /* x */"
        = some "calc(2px + 1px) /* x */" := by
  have hprop : isCustomProperty "width" = false := by decide
  have hmay : mayRefer "calc(2px + var(--a)) /* x */" = true := by decide
  have hclosed : openBrackets "calc(2px + var(--a)) /* x */".toList = [] := by cbv
  have hlex : lex "calc(2px + var(--a)) /* x */".toList
      = [⟨.function "calc", "calc(".toList⟩, ⟨.literal, "2px".toList⟩, ⟨.blank, " ".toList⟩,
          ⟨.literal, "+".toList⟩, ⟨.blank, " ".toList⟩, ⟨.function "var", "var(".toList⟩,
          ⟨.ident "--a", "--a".toList⟩, ⟨.closing .round, ")".toList⟩, ⟨.closing .round, ")".toList⟩,
          ⟨.blank, " ".toList⟩]
        ++ ⟨.comment, "/* x */".toList⟩ :: [] := by cbv
  have hcut : CutsRemarks "calc(2px + var(--a)) /* x */" :=
    cutsRemarks_of_comment hlex rfl (by decide) (by simp)
  refine ⟨hprop, hmay, hclosed, hcut, ?_⟩
  have hresolved : resolveText oneLength "calc(2px + var(--a)) /* x */"
      = "calc(2px + 1px) /* x */" := by cbv
  rw [resolvedValue?_eq_resolveText oneLength hprop hmay hclosed hcut, hresolved]
  simp

/-- An empty comment ends this value, so it is cut before an earlier one, and the reference between
the two is not resolved. -/
theorem resolvedValue?_eq_resolveText_emptyComment_ne :
    lex "0 /*c*/ var(--a) /**/".toList
        = [⟨.literal, "0".toList⟩, ⟨.blank, " ".toList⟩, ⟨.comment, "/*c*/".toList⟩,
            ⟨.blank, " ".toList⟩, ⟨.function "var", "var(".toList⟩, ⟨.ident "--a", "--a".toList⟩,
            ⟨.closing .round, ")".toList⟩, ⟨.blank, " ".toList⟩, ⟨.comment, "/**/".toList⟩] ∧
      openBrackets "0 /*c*/ var(--a) /**/".toList = [] ∧
      isCustomProperty "margin" = false ∧ mayRefer "0 /*c*/ var(--a) /**/" = true ∧
      resolveText oneLength "0 /*c*/ var(--a) /**/" = "0 /*c*/ 1px /**/" ∧
      resolvedValue? oneLength "margin" "0 /*c*/ var(--a) /**/" = none := by
  have hmay : mayRefer "0 /*c*/ var(--a) /**/" = true := by decide
  have hsplit : splitTrailingComment "0 /*c*/ var(--a) /**/" = ("0 ", "/*c*/ var(--a) /**/") := by
    decide
  have hbody : resolveText oneLength "0 " = "0 " := by cbv
  refine ⟨by cbv, by cbv, by decide, hmay, by cbv, ?_⟩
  simp [resolvedValue?, hsplit, hbody]

end CustomProperties
