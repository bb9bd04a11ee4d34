import CustomProperties.Proofs.Lexing.Lexemes
import CustomProperties.Proofs.Lexing.Locality
import Mathlib.Tactic.Common

/-!
# Putting lexemes together

The text of some lexemes is read as those lexemes again only where it does not run into what comes
behind it. Lexemes that stand before a stop can stand before any other one, and at the end of a text
(`soft_of_lex`); lexemes that end in a stop of their own can stand before anything
(`firm_of_lex`).
-/

namespace CustomProperties.Css

variable {ls ms : List Lexeme} {l : Lexeme} {text s : List Char} {c : Char}

/-- The rest of the lexemes of a text are those of the rest of the text. -/
lemma lex_textOf_of_append (h : lex text = ls ++ ms) : lex (Lexeme.textOf ms) = ms := by
  induction ls generalizing text with
  | nil =>
    have htext := textOf_lex text
    rw [h, List.nil_append] at htext
    rw [htext, h, List.nil_append]
  | cons l ls ih =>
    cases text with
    | nil => simp at h
    | cons c rest =>
      rw [lex_cons, List.cons_append, List.cons.injEq] at h
      exact ih h.2

/-! ### Before a stop -/

/-- Lexemes that are read again at the end of a text and before every stop. -/
def Soft (ls : List Lexeme) : Prop := ∀ s, AtStop s → lex (Lexeme.textOf ls ++ s) = ls ++ lex s

/-- Lexemes that are read before one stop are read before all. -/
lemma soft_of_lex (hc : isStop c) (h : lex (Lexeme.textOf ls ++ c :: s) = ls ++ lex (c :: s)) :
    Soft ls := by
  intro t ht
  induction ls with
  | nil => simp
  | cons l ls ih =>
    have hne : l.text ≠ [] := ne_nil_of_mem_lex (h ▸ List.mem_append_left _ List.mem_cons_self)
    obtain ⟨d, x, hx⟩ := List.exists_cons_of_ne_nil hne
    rw [Lexeme.textOf_cons, hx] at h ⊢
    rw [List.cons_append, List.cons_append, lex_cons, List.cons_append, List.cons.injEq] at h
    obtain ⟨hread, hrest⟩ := h
    -- the first lexeme ends where the others start, so the stop does not matter for it
    have hfront : (read d (x ++ Lexeme.textOf ls ++ c :: s)).cut.1 = d :: x := by
      rw [← hx, ← hread]
    have hleft : (read d (x ++ Lexeme.textOf ls ++ c :: s)).cut.2 = Lexeme.textOf ls ++ c :: s := by
      have hwhole := whole_read d (x ++ Lexeme.textOf ls ++ c :: s)
      rw [Cut.whole, hfront] at hwhole
      simpa using hwhole
    rw [hleft] at hrest
    have hlength : s.length < (read d (x ++ Lexeme.textOf ls ++ c :: s)).cut.2.length := by
      rw [hleft, List.length_append, List.length_cons]
      omega
    obtain ⟨token, front, y, hy⟩ := local_read d _ c s hc hlength
    rw [hy _ (atStop_cons hc)] at hread hleft
    obtain rfl : y = Lexeme.textOf ls := List.append_cancel_right hleft
    rw [List.cons_append, List.cons_append, lex_cons, hy t ht, ih hrest, List.cons_append, ← hread]

/-! ### Before anything -/

/-- Lexemes that are read again whatever comes behind them. -/
def Firm (ls : List Lexeme) : Prop := ∀ s, lex (Lexeme.textOf ls ++ s) = ls ++ lex s

/-- A lexeme that starts with a stop and is read again whatever comes behind it. -/
structure Lexeme.Final (l : Lexeme) : Prop where
  stops : ∃ c rest, l.text = c :: rest ∧ isStop c
  firm : ∀ s, lex (l.text ++ s) = l :: lex s

lemma Soft.firm (hls : Soft ls) (hl : l.Final) : Firm (ls ++ [l]) := by
  intro s
  obtain ⟨c, rest, htext, hc⟩ := hl.stops
  have hstop : AtStop (l.text ++ s) := by
    rw [htext]
    exact atStop_cons hc
  rw [Lexeme.textOf_append, Lexeme.textOf_cons, Lexeme.textOf_nil, List.append_nil,
    List.append_assoc, hls _ hstop, hl.firm, List.append_assoc, List.singleton_append]

/-- What comes before a final lexeme of a text is read again before every stop. -/
lemma soft_of_lex_final (hl : l.Final) (h : lex text = ls ++ l :: ms) : Soft ls := by
  obtain ⟨c, rest, htext, hc⟩ := hl.stops
  have hwhole : text = Lexeme.textOf ls ++ c :: (rest ++ Lexeme.textOf ms) := by
    rw [← textOf_lex text, h, Lexeme.textOf_append, Lexeme.textOf_cons, htext]
    rfl
  have hrest := lex_textOf_of_append h
  rw [Lexeme.textOf_cons, htext, List.cons_append] at hrest
  rw [hwhole, ← hrest] at h
  exact soft_of_lex hc h

lemma firm_of_lex (hl : l.Final) (h : lex text = ls ++ l :: ms) : Firm (ls ++ [l]) :=
  (soft_of_lex_final hl h).firm hl

/-! ### Final lexemes -/

lemma final_semicolon : Lexeme.Final ⟨.semicolon, [';']⟩ where
  stops := ⟨';', [], rfl, rfl⟩
  firm s := by
    rw [List.singleton_append, lex_cons]
    rfl

lemma final_opening : Lexeme.Final ⟨.opening .curly, ['{']⟩ where
  stops := ⟨'{', [], rfl, rfl⟩
  firm s := by
    rw [List.singleton_append, lex_cons]
    rfl

lemma final_closing : Lexeme.Final ⟨.closing .curly, ['}']⟩ where
  stops := ⟨'}', [], rfl, rfl⟩
  firm s := by
    rw [List.singleton_append, lex_cons]
    rfl

/-- A comment that is ended is cut off whatever comes behind it. -/
lemma cutComment_append {inner rest : List Char} (h : cutComment text = (inner, rest))
    (hend : ['*', '/'] <:+ inner) (s : List Char) : cutComment (inner ++ s) = (inner, s) := by
  fun_induction cutComment text generalizing inner with
  | case1 more =>
    cases h
    rfl
  | case2 c more hmark ih =>
    rcases hmore : cutComment more with ⟨first, left⟩
    rw [hmore] at h
    cases h
    have hwhole := whole_cutComment more
    rw [hmore, Cut.whole_mk] at hwhole
    rw [List.singleton_append, List.suffix_cons_iff] at hend
    rcases hend with heq | hend
    · -- the mark would be met one character earlier
      cases heq
      exact absurd hwhole.symm (hmark _ rfl)
    · have hhead : (first ++ s).head? = more.head? := by
        have hne : first ≠ [] := by
          rintro rfl
          simp at hend
        rw [← hwhole]
        cases first with
        | nil => exact absurd rfl hne
        | cons => rfl
      have hcons : ¬ (c = '*' ∧ (first ++ s).head? = some '/') := by
        rintro ⟨rfl, hslash⟩
        obtain ⟨rest, hrest⟩ := exists_cons_of_head? (hhead ▸ hslash)
        exact hmark rest rfl hrest
      rw [List.singleton_append, List.cons_append, cutComment_cons hcons, ih hmore hend]
      rfl
  | case3 =>
    cases h
    simp at hend

lemma read_of_comment {rest : List Char} (h : (read c rest).token = .comment) :
    ∃ inner, c = '/' ∧ rest = '*' :: inner ∧
      (read c rest).cut = (cutComment inner).after ['/', '*'] := by
  unfold read readPunctuation at h ⊢
  repeat' split
  all_goals simp_all [Reading.literal, token_readName_ne_comment]

/-- A comment of a text starts with its mark and goes on to what is read behind it. -/
lemma exists_text_of_comment (h : lex text = ls ++ l :: ms) (hl : l.token = .comment) :
    ∃ inner, l.text = '/' :: '*' :: inner ∧
      cutComment (inner ++ Lexeme.textOf ms) = (inner, Lexeme.textOf ms) := by
  have hrest := lex_textOf_of_append h
  have hne : l.text ≠ [] := ne_nil_of_mem_lex (h ▸ List.mem_append_right _ List.mem_cons_self)
  obtain ⟨c, x, hx⟩ := List.exists_cons_of_ne_nil hne
  rw [Lexeme.textOf_cons, hx, List.cons_append, lex_cons, List.cons.injEq] at hrest
  obtain ⟨hread, -⟩ := hrest
  obtain ⟨more, rfl, hmore, hcut⟩ := read_of_comment (c := c) (by rw [← hl, ← hread])
  have htext : l.text = '/' :: '*' :: (cutComment more).1 := by
    rw [← hread, hcut]
    rfl
  have hwhole : (cutComment more).1 ++ (cutComment more).2 = more := whole_cutComment more
  have hbehind : (cutComment more).2 = Lexeme.textOf ms := by
    rw [hx, List.cons.injEq] at htext
    rw [htext.2, List.cons_append, List.cons.injEq] at hmore
    exact List.append_cancel_left (hwhole.trans hmore.2.symm)
  refine ⟨_, htext, ?_⟩
  rw [← hbehind, hwhole]

/-- A comment of a text that is ended can stand before anything. -/
lemma final_of_comment (h : lex text = ls ++ l :: ms) (hl : l.token = .comment) (hend : l.Ended) :
    l.Final := by
  obtain ⟨inner, htext, hcut⟩ := exists_text_of_comment h hl
  have hmark := hend hl
  rw [htext] at hmark
  refine ⟨⟨'/', _, htext, rfl⟩, fun s => ?_⟩
  have hcomment := cutComment_append hcut hmark s
  have hfirst : read '/' ('*' :: (inner ++ s)) = ⟨.comment, ('/' :: '*' :: inner, s)⟩ := by
    have hstep : read '/' ('*' :: (inner ++ s))
        = ⟨.comment, (cutComment (inner ++ s)).after ['/', '*']⟩ := rfl
    rw [hstep, hcomment]
    rfl
  rw [htext, List.cons_append, List.cons_append, lex_cons, hfirst, ← htext, ← hl]

end CustomProperties.Css
