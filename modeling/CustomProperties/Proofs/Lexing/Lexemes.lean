import CustomProperties.Css.Component
import Mathlib.Tactic.Common

/-!
# The lexemes of components

Grouping nests the lexemes of a text and drops none: taken out of their brackets again, the
components of a text are its lexemes (`lexemesAll_components`). Of the lexemes of a text only the
last one can be a comment that nothing ends (`ended_of_mem_dropLast_lex`).
-/

namespace CustomProperties.Css

namespace Component

mutual

/-- The lexemes of a component, in order. -/
def lexemes : Component → List Lexeme
  | token l => [l]
  | block opener _ contents closer => opener :: (lexemesAll contents ++ closer.toList)

/-- The lexemes of a sequence of components, in order. -/
def lexemesAll : List Component → List Lexeme
  | [] => []
  | c :: cs => c.lexemes ++ lexemesAll cs

end

@[simp] lemma lexemes_token (l : Lexeme) : (token l).lexemes = [l] := by rw [lexemes]

@[simp] lemma lexemes_block (opener : Lexeme) (bracket : Bracket) (contents : List Component)
    (closer : Option Lexeme) :
    (block opener bracket contents closer).lexemes
      = opener :: (lexemesAll contents ++ closer.toList) := by rw [lexemes]

@[simp] lemma lexemesAll_nil : lexemesAll [] = [] := by rw [lexemesAll]

@[simp] lemma lexemesAll_cons (c : Component) (cs : List Component) :
    lexemesAll (c :: cs) = c.lexemes ++ lexemesAll cs := by rw [lexemesAll]

@[simp] lemma lexemesAll_append (cs ds : List Component) :
    lexemesAll (cs ++ ds) = lexemesAll cs ++ lexemesAll ds := by
  induction cs with
  | nil => simp
  | cons c cs ih => simp [ih]

lemma lexemes_ne_nil (c : Component) : c.lexemes ≠ [] := by
  cases c <;> simp

lemma lexemesAll_ne_nil {cs : List Component} (h : cs ≠ []) : lexemesAll cs ≠ [] := by
  obtain ⟨c, cs, rfl⟩ := List.exists_cons_of_ne_nil h
  simp [lexemes_ne_nil]

mutual

/-- The text of a component is that of its lexemes. -/
lemma textOf_lexemes (c : Component) : Lexeme.textOf c.lexemes = c.text := by
  match c with
  | token l => simp
  | block opener bracket contents closer =>
    have hcontents := textOf_lexemesAll contents
    cases closer <;> simp [hcontents]

/-- The text of a sequence of components is that of their lexemes. -/
lemma textOf_lexemesAll (cs : List Component) : Lexeme.textOf (lexemesAll cs) = textOf cs := by
  match cs with
  | [] => simp
  | c :: cs => simp [textOf_lexemes c, textOf_lexemesAll cs]

end

/-! ### Grouping -/

namespace Grouping

/-- The lexemes taken in so far. -/
def lexemes : List Frame → List Component → List Lexeme
  | [], inner => lexemesAll inner.reverse
  | frame :: frames, inner => lexemes frames frame.outer ++ frame.opener :: lexemesAll inner.reverse

lemma lexemes_cons (frames : List Frame) (c : Component) (inner : List Component) :
    lexemes frames (c :: inner) = lexemes frames inner ++ c.lexemes := by
  cases frames <;> simp [lexemes]

lemma lexemes_step (g : Grouping) (l : Lexeme) :
    lexemes (g.step l).frames (g.step l).inner = lexemes g.frames g.inner ++ [l] := by
  obtain ⟨frames, inner⟩ := g
  unfold step
  split
  · simp [lexemes]
  · cases frames with
    | nil => simp [lexemes]
    | cons frame frames =>
      simp only
      split
      · rw [Frame.finish, lexemes_cons]
        simp [lexemes]
      · simp [lexemes_cons]

lemma lexemes_foldl (ls : List Lexeme) (g : Grouping) :
    lexemes (ls.foldl step g).frames (ls.foldl step g).inner = lexemes g.frames g.inner ++ ls := by
  induction ls generalizing g with
  | nil => simp
  | cons l ls ih => simp [ih, lexemes_step]

lemma lexemesAll_finish (frames : List Frame) (inner : List Component) :
    lexemesAll (finish frames inner) = lexemes frames inner := by
  induction frames generalizing inner with
  | nil => rfl
  | cons frame frames ih =>
    rw [finish, ih, Frame.finish, lexemes_cons]
    simp [lexemes]

end Grouping

/-- Grouping keeps the lexemes. -/
@[simp] lemma lexemesAll_group (ls : List Lexeme) : lexemesAll (group ls) = ls := by
  rw [group, Grouping.lexemesAll_finish, Grouping.lexemes_foldl]
  simp [Grouping.lexemes, Grouping.start]

end Component

/-- The lexemes of the components of a text are those of the text. -/
@[simp] lemma lexemesAll_components (text : List Char) :
    Component.lexemesAll (components text) = lex text := by
  simp [components]

/-- What holds of every lexeme that is read holds of the lexemes of a text. -/
lemma of_mem_lex {p : Lexeme → Prop}
    (hread : ∀ c rest, p ⟨(read c rest).token, (read c rest).cut.1⟩) {text : List Char}
    {l : Lexeme} (h : l ∈ lex text) : p l := by
  fun_induction lex text with
  | case1 => cases h
  | case2 c rest reading ih =>
    rcases List.mem_cons.1 h with rfl | h
    · exact hread c rest
    · exact ih h

/-! ### Comments -/

/-- A comment, if the lexeme is one, is ended by a mark behind the one that opens it. -/
def Lexeme.Ended (l : Lexeme) : Prop := l.token = .comment → ['*', '/'] <:+ l.text.drop 2

/-- A comment without its end mark goes on to the end of the text. -/
lemma suffix_cutComment {text : List Char} (h : (cutComment text).2 ≠ []) :
    ['*', '/'] <:+ (cutComment text).1 := by
  fun_induction cutComment text with
  | case1 => exact List.suffix_refl _
  | case2 c rest hc ih => exact (ih h).trans (List.suffix_cons c _)
  | case3 => exact absurd rfl h

lemma token_readName_ne_comment (c : Char) (rest : List Char) :
    (readName c rest).token ≠ .comment := by
  unfold readName
  simp only
  split
  · split <;> simp
  · simp

lemma ended_readPunctuation {c : Char} {rest : List Char}
    (h : (readPunctuation c rest).cut.2 ≠ []) :
    Lexeme.Ended ⟨(readPunctuation c rest).token, (readPunctuation c rest).cut.1⟩ := by
  intro hcomment
  unfold readPunctuation at h hcomment ⊢
  repeat' split
  all_goals simp_all [Reading.literal, token_readName_ne_comment]
  exact suffix_cutComment h

lemma ended_read {c : Char} {rest : List Char} (h : (read c rest).cut.2 ≠ []) :
    Lexeme.Ended ⟨(read c rest).token, (read c rest).cut.1⟩ := by
  intro hcomment
  unfold read at h hcomment ⊢
  repeat' split
  all_goals simp_all [Reading.literal, token_readName_ne_comment]
  exact ended_readPunctuation h hcomment

/-- Only the last lexeme of a text can be a comment that nothing ends. -/
lemma ended_of_mem_dropLast_lex {text : List Char} {l : Lexeme} (h : l ∈ (lex text).dropLast) :
    l.Ended := by
  fun_induction lex text with
  | case1 => cases h
  | case2 c rest reading ih =>
    cases hrest : lex reading.cut.2 with
    | nil => simp [hrest] at h
    | cons m ms =>
      rw [hrest, List.dropLast_cons_cons, List.mem_cons] at h
      rcases h with rfl | h
      · refine ended_read fun hnil => ?_
        rw [hnil, lex_nil] at hrest
        cases hrest
      · exact ih (by rwa [hrest])

/-! ### White space -/

lemma token_readName_ne_blank (c : Char) (rest : List Char) : (readName c rest).token ≠ .blank := by
  unfold readName
  simp only
  repeat' split
  all_goals simp

lemma token_readPunctuation_ne_blank (c : Char) (rest : List Char) :
    (readPunctuation c rest).token ≠ .blank := by
  unfold readPunctuation
  repeat' split
  all_goals simp [Reading.literal, token_readName_ne_blank]

lemma isSpace_of_token_read {c : Char} {rest : List Char} (h : (read c rest).token = .blank) :
    isSpace c := by
  by_contra hspace
  revert h
  unfold read
  rw [if_neg hspace]
  repeat' split
  all_goals simp [Reading.literal, token_readName_ne_blank, token_readPunctuation_ne_blank]

/-- White space is made up of white-space characters. -/
lemma isSpace_of_mem_blank {text : List Char} {l : Lexeme} (h : l ∈ lex text)
    (hl : l.token = .blank) : ∀ c ∈ l.text, isSpace c := by
  refine of_mem_lex (p := fun l => l.token = .blank → ∀ c ∈ l.text, isSpace c)
    (fun c rest hl => ?_) h hl
  have hspace := isSpace_of_token_read hl
  have htext : (read c rest).cut.1 = c :: rest.takeWhile isSpace := by
    simp [read, hspace, cutWhile, Cut.after]
  rw [htext]
  exact List.forall_mem_cons.2 ⟨hspace, List.all_eq_true.1 List.all_takeWhile⟩

/-! ### Names -/

/-- A name without escapes and NULs is what it decodes to. -/
lemma decodeName_of_not_mem {name : List Char} (hescape : '\\' ∉ name) (hnull : '\x00' ∉ name) :
    decodeName name = name := by
  induction name with
  | nil => rw [decodeName]
  | cons c name ih =>
    rw [List.mem_cons, not_or] at hescape hnull
    rw [decodeName, if_neg (Ne.symm hescape.1), if_neg (Ne.symm hnull.1), ih hescape.2 hnull.2]

end CustomProperties.Css
