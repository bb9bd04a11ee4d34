import CustomProperties.Proofs.Lexing.Joins
import CustomProperties.Proofs.Lexing.OpenBrackets
import Mathlib.Tactic.Common

/-!
# Remarks at the end of a text

White space and comments open and close nothing. Where a text ends in such remarks outside of all
brackets, it can be cut right before an opening mark among them, be that mark the start of a comment
or inside of one: what is left is read as before, with fewer remarks at its end (`lex_of_cut`,
`group_append_remarks`).
-/

namespace CustomProperties.Css

variable {ls ms : List Lexeme} {l : Lexeme} {text front rest x y z : List Char}

/-- White space or a comment. -/
def Lexeme.IsRemark (l : Lexeme) : Prop := l.token = .blank ∨ l.token = .comment

/-! ### Cutting -/

/-- A comment that is cut short has no end mark. -/
lemma cutComment_of_cut (h : cutComment (y ++ z ++ rest) = (y ++ z, rest)) (hz : z ≠ []) :
    cutComment y = (y, []) := by
  induction y with
  | nil => rfl
  | cons c y ih =>
    rw [List.cons_append, List.cons_append] at h
    by_cases hmark : c = '*' ∧ (y ++ z ++ rest).head? = some '/'
    · -- the end mark comes first, and is cut in two
      obtain ⟨rfl, hslash⟩ := hmark
      obtain ⟨more, hmore⟩ := exists_cons_of_head? hslash
      have hshort : y ++ z = ['/'] := by
        rw [hmore, cutComment] at h
        simpa using (congrArg Prod.fst h).symm
      obtain ⟨rfl, -⟩ : y = [] ∧ z = ['/'] := by
        rw [List.append_eq_singleton_iff] at hshort
        simpa [hz] using hshort
      rfl
    · have hrest : cutComment (y ++ z ++ rest) = (y ++ z, rest) := by
        rw [cutComment_cons hmark] at h
        simpa [Cut.after, Prod.ext_iff] using h
      have hcut : ¬ (c = '*' ∧ y.head? = some '/') := by
        rintro ⟨rfl, hslash⟩
        exact hmark ⟨rfl, by simp [hslash]⟩
      rw [cutComment_cons hcut, ih hrest]
      rfl

/-- What stands before a comment is read again before every stop and at the end of a text. -/
lemma soft_of_lex_comment (h : lex text = ls ++ l :: ms) (hl : l.token = .comment) : Soft ls := by
  obtain ⟨inner, htext, -⟩ := exists_text_of_comment h hl
  have hrest := lex_textOf_of_append h
  have hwhole : text = Lexeme.textOf ls ++ Lexeme.textOf (l :: ms) := by
    rw [← textOf_lex text, h, Lexeme.textOf_append]
  rw [hwhole, ← hrest, textOf_lex, Lexeme.textOf_cons, htext, List.cons_append] at h
  exact soft_of_lex (c := '/') rfl h

/-- Right before an opening mark in it, a remark is cut to nothing or to a comment that nothing
ends. -/
lemma lex_of_cut_within (h : lex (Lexeme.textOf ls ++ y ++ '/' :: '*' :: rest) = ls ++ l :: ms)
    (hl : l.IsRemark) (htext : l.text = y ++ z) (hz : z ≠ []) :
    ∃ cut, lex (Lexeme.textOf ls ++ y) = ls ++ cut ∧ (∀ l ∈ cut, l.IsRemark) ∧
      Lexeme.textOf cut = y := by
  have hwhole := textOf_lex (Lexeme.textOf ls ++ y ++ '/' :: '*' :: rest)
  rw [h, Lexeme.textOf_append, Lexeme.textOf_cons, htext] at hwhole
  simp only [List.append_assoc, List.append_cancel_left_eq] at hwhole
  obtain ⟨d, z, rfl⟩ := List.exists_cons_of_ne_nil hz
  obtain ⟨rfl, hz⟩ : d = '/' ∧ z ++ Lexeme.textOf ms = '*' :: rest := by simpa using hwhole
  have hcomment : l.token = .comment := by
    refine hl.resolve_left fun hblank => ?_
    have hspace := isSpace_of_mem_blank (h ▸ List.mem_append_right _ List.mem_cons_self) hblank
    exact absurd (hspace '/' (by simp [htext])) (by decide)
  have hsoft := soft_of_lex_comment h hcomment
  obtain ⟨inner, hmark, hinner⟩ := exists_text_of_comment h hcomment
  rw [htext] at hmark
  match y with
  | [] => exact ⟨[], by simpa using hsoft [] atStop_nil, by simp, rfl⟩
  | [_] =>
    -- the mark that opens the comment itself would have two slashes
    simp at hmark
  | _ :: _ :: y =>
    rw [List.cons_append, List.cons_append, List.cons.injEq, List.cons.injEq] at hmark
    obtain ⟨rfl, rfl, rfl⟩ := hmark
    have hread : lex ('/' :: '*' :: y) = [⟨.comment, '/' :: '*' :: y⟩] := by
      have hstep : read '/' ('*' :: y) = ⟨.comment, (cutComment y).after ['/', '*']⟩ := rfl
      rw [lex_cons, hstep, cutComment_of_cut hinner (List.cons_ne_nil _ _)]
      simp [Cut.after]
    refine ⟨_, (hsoft _ (atStop_cons rfl)).trans (congrArg _ hread), ?_, by simp⟩
    simp [Lexeme.IsRemark]

/-- A text that ends in remarks is cut right before an opening mark among them. -/
lemma lex_of_cut (h : lex (front ++ '/' :: '*' :: rest) = ls ++ ms) (hms : ∀ l ∈ ms, l.IsRemark)
    (hfront : Lexeme.textOf ls <+: front) :
    ∃ cut, lex front = ls ++ cut ∧ (∀ l ∈ cut, l.IsRemark) ∧
      Lexeme.textOf ms = Lexeme.textOf cut ++ '/' :: '*' :: rest := by
  have hwhole := textOf_lex (front ++ '/' :: '*' :: rest)
  rw [h, Lexeme.textOf_append] at hwhole
  obtain ⟨y, rfl⟩ := hfront
  rw [List.append_assoc, List.append_cancel_left_eq] at hwhole
  induction ms generalizing ls y with
  | nil => simp at hwhole
  | cons m ms ih =>
    rw [List.forall_mem_cons] at hms
    have hbehind (y' : List Char) (hy : y = m.text ++ y')
        (hrest : Lexeme.textOf ms = y' ++ '/' :: '*' :: rest) :
        ∃ cut, lex (Lexeme.textOf ls ++ y) = ls ++ cut ∧ (∀ l ∈ cut, l.IsRemark) ∧
          Lexeme.textOf (m :: ms) = Lexeme.textOf cut ++ '/' :: '*' :: rest := by
      subst hy
      have hnext : lex (Lexeme.textOf (ls ++ [m]) ++ y' ++ '/' :: '*' :: rest) = (ls ++ [m]) ++ ms := by
        simpa using h
      obtain ⟨cut, hlex, hcut, htext⟩ := ih hms.2 y' hnext hrest
      refine ⟨m :: cut, by simpa using hlex, List.forall_mem_cons.2 ⟨hms.1, hcut⟩, ?_⟩
      rw [Lexeme.textOf_cons, htext, Lexeme.textOf_cons, List.append_assoc]
    rw [Lexeme.textOf_cons, List.append_eq_append_iff] at hwhole
    rcases hwhole with ⟨y', hy, hrest⟩ | ⟨z, hm, hz⟩
    · exact hbehind y' hy hrest
    · by_cases hnil : z = []
      · subst hnil
        exact hbehind [] (by simpa using hm.symm) (by simpa using hz.symm)
      · obtain ⟨cut, hlex, hcut, htext⟩ := lex_of_cut_within h hms.1 hm hnil
        refine ⟨cut, hlex, hcut, ?_⟩
        rw [Lexeme.textOf_cons, hm, htext, List.append_assoc, ← hz]

/-! ### Grouping -/

lemma openAfter_of_isRemark {opened : List Bracket} (h : l.IsRemark) : openAfter opened l = opened := by
  rcases h with h | h <;> cases opened <;> simp [openAfter, h, Token.opens?, Token.closes]

lemma foldl_openAfter_of_isRemark {opened : List Bracket} (hms : ∀ l ∈ ms, l.IsRemark) :
    ms.foldl openAfter opened = opened := by
  induction ms with
  | nil => rfl
  | cons m ms ih =>
    rw [List.forall_mem_cons] at hms
    rw [List.foldl_cons, openAfter_of_isRemark hms.1, ih hms.2]

namespace Component

namespace Grouping

lemma foldl_step_of_isRemark {frames : List Frame} {inner : List Component}
    (hms : ∀ l ∈ ms, l.IsRemark) :
    ms.foldl step ⟨frames, inner⟩ = ⟨frames, (ms.map token).reverse ++ inner⟩ := by
  induction ms generalizing inner with
  | nil => rfl
  | cons m ms ih =>
    rw [List.forall_mem_cons] at hms
    have hstep : step ⟨frames, inner⟩ m = ⟨frames, token m :: inner⟩ := by
      rcases hms.1 with h | h <;> exact step_of_token (by simp [h, Token.opens?])
        (by simp [h, Token.closes])
    rw [List.foldl_cons, hstep, ih hms.2]
    simp

end Grouping

/-- Remarks stand at the end of the innermost bracket that is open before them. -/
lemma group_append_of_isRemark (ls : List Lexeme) (hms : ∀ l ∈ ms, l.IsRemark) :
    group (ls ++ ms) = Grouping.finish (ls.foldl Grouping.step .start).frames
      ((ms.map token).reverse ++ (ls.foldl Grouping.step .start).inner) := by
  rw [group, List.foldl_append, Grouping.foldl_step_of_isRemark hms]

/-- Remarks outside of all brackets stand behind all other components. -/
lemma group_append_remarks (hls : ls.foldl openAfter [] = []) (hms : ∀ l ∈ ms, l.IsRemark) :
    group (ls ++ ms) = group ls ++ ms.map token := by
  have hframes := Grouping.map_bracket_foldl ls .start
  have hstart : Grouping.start.frames.map (·.bracket) = [] := rfl
  rw [hstart, hls, List.map_eq_nil_iff] at hframes
  rw [group_append_of_isRemark ls hms, group, hframes]
  simp [Grouping.finish]

end Component

end CustomProperties.Css
