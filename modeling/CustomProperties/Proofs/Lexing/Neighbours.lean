import CustomProperties.Proofs.Lexing.Joins
import Mathlib.Tactic.Common

/-!
# Lexemes side by side

A lexeme takes in all that can belong to its name. So where the next lexeme starts a name, the last
character of the one before it is no character of a name, unless that lexeme is the mark `<!--`
(`apart_of_lex`).
-/

namespace CustomProperties.Css

variable {cut : Cut} {c : Char} {text rest front : List Char} {ls ms : List Lexeme} {l : Lexeme}

/-- A text that does not start a name. -/
def AtBreak (text : List Char) : Prop := ∀ c ∈ text.head?, isNameStart c = false

/-- A text whose last character is none of a name. -/
def EndsInBreak (text : List Char) : Prop := ∃ c ∈ text.getLast?, isNameChar c = false

lemma atBreak_nil : AtBreak [] := by simp [AtBreak]

lemma atBreak_cons (h : isNameStart c = false) : AtBreak (c :: rest) := by
  simpa [AtBreak] using h

lemma endsInBreak_singleton (h : isNameChar c = false) : EndsInBreak [c] := ⟨c, rfl, h⟩

lemma EndsInBreak.append (front : List Char) (h : EndsInBreak text) : EndsInBreak (front ++ text) := by
  obtain ⟨c, hc, hbreak⟩ := h
  refine ⟨c, ?_, hbreak⟩
  rw [List.getLast?_append, Option.mem_def.1 hc]
  rfl

lemma isNameStart_eq_false (h : isNameChar c = false) : isNameStart c = false := by
  simp only [isNameChar, Bool.or_eq_false_iff] at h
  exact h.1.1

/-- The two parts of a cut make no name together. -/
def Cut.Apart (cut : Cut) : Prop := EndsInBreak cut.1 ∨ AtBreak cut.2

lemma Cut.Apart.after (h : cut.Apart) (front : List Char) : (cut.after front).Apart :=
  h.imp (·.append front) fun hrest => hrest

lemma apart_nil (front : List Char) : Cut.Apart (front, []) := .inr atBreak_nil

lemma apart_singleton (h : isNameChar c = false) : Cut.Apart ([c], rest) :=
  .inl (endsInBreak_singleton h)

/-! ### Names and numbers -/

lemma apart_cutName (text : List Char) : (cutName text).Apart := by
  fun_induction cutName text with
  | case1 => exact apart_nil []
  | case2 rest => exact .inr (atBreak_cons (by decide))
  | case3 rest _ ih => exact ih.after _
  | case4 c rest _ _ ih => exact ih.after _
  | case5 c rest _ hc =>
    rw [Bool.not_eq_true] at hc
    exact .inr (atBreak_cons (isNameStart_eq_false hc))

lemma apart_cutNameFrom (c : Char) (rest : List Char) : (cutNameFrom c rest).Apart := by
  unfold cutNameFrom
  split <;> exact (apart_cutName _).after _

lemma atBreak_of_startsName (h : startsName text = false) : AtBreak text := by
  unfold startsName at h
  split at h
  · exact atBreak_cons (by decide)
  · exact atBreak_cons (by decide)
  · exact atBreak_cons h
  · exact atBreak_nil

lemma apart_cutUnit (text : List Char) : (cutUnit text).Apart := by
  unfold cutUnit
  split
  · exact apart_singleton (by decide)
  · split
    · exact apart_cutName _
    · next h => exact .inr (atBreak_of_startsName (by simpa using h))

lemma apart_cutScale (text : List Char) : (cutScale text).Apart := (apart_cutUnit _).after _

lemma apart_cutDecimals (text : List Char) : (cutDecimals text).Apart := (apart_cutScale _).after _

lemma apart_cutNumber (text : List Char) : (cutNumber text).Apart := (apart_cutScale _).after _

/-! ### Comments, strings and urls -/

lemma apart_cutComment (text : List Char) : (cutComment text).Apart := by
  by_cases h : (cutComment text).2 = []
  · exact .inr (h ▸ atBreak_nil)
  · obtain ⟨front, hfront⟩ := suffix_cutComment h
    refine .inl ?_
    rw [← hfront]
    exact EndsInBreak.append front ⟨'/', rfl, by decide⟩

lemma isNameChar_of_isSpace (h : isSpace c) : isNameChar c = false := by
  simp only [isSpace, isNewline, Bool.or_eq_true, beq_iff_eq] at h
  rcases h with (rfl | rfl) | (rfl | rfl) | rfl <;> decide

lemma apart_cutString {quote : Char} (hquote : isNameChar quote = false) (text : List Char) :
    (cutString quote text).Apart := by
  fun_induction cutString quote text with
  | case1 => exact apart_nil []
  | case2 => exact apart_singleton hquote
  | case3 c rest _ hc =>
    exact .inr (atBreak_cons (isNameStart_eq_false (isNameChar_of_isSpace (by simp [isSpace, hc]))))
  | case4 rest _ _ ih => exact ih.after _
  | case5 c rest _ _ _ ih => exact ih.after _

lemma apart_cutBadUrl (text : List Char) : (cutBadUrl text).Apart := by
  fun_induction cutBadUrl text with
  | case1 => exact apart_nil []
  | case2 => exact apart_singleton (by decide)
  | case3 rest ih => exact ih.after _
  | case4 rest ih => exact ih.after _
  | case5 c rest _ _ _ ih => exact ih.after _

lemma apart_cutUrlEnd (text : List Char) : (cutUrlEnd text).Apart := by
  unfold cutUrlEnd
  simp only
  split
  · next h => exact .inr (h ▸ atBreak_nil)
  · next c rest h =>
    split
    · next hc => exact .inl (.append _ ⟨c, rfl, hc ▸ by decide⟩)
    · exact (apart_cutBadUrl rest).after _

lemma apart_cutUrlBody (text : List Char) : (cutUrlBody text).Apart := by
  fun_induction cutUrlBody text with
  | case1 => exact apart_nil []
  | case2 c rest _ => exact apart_cutUrlEnd _
  | case3 => exact apart_singleton (by decide)
  | case4 c rest => exact (apart_cutBadUrl rest).after _
  | case5 rest => exact (apart_cutBadUrl rest).after _
  | case6 rest _ _ _ _ ih => exact ih.after _
  | case7 c rest _ _ _ _ ih => exact ih.after _

lemma apart_cutUrl? (h : cutUrl? text = some cut) : cut.Apart := by
  unfold cutUrl? at h
  simp only at h
  split at h
  · next hnil =>
    cases h
    exact .inr (hnil ▸ atBreak_nil)
  · next c rest _ =>
    split at h
    · next hc =>
      cases h
      exact .inl (.append _ ⟨c, rfl, hc ▸ by decide⟩)
    · split at h
      · cases h
      · cases h
        exact (apart_cutUrlBody _).after _

/-! ### Lexemes -/

lemma apart_readName (c : Char) (rest : List Char) : (readName c rest).cut.Apart := by
  unfold readName
  simp only
  split
  · split
    · next url hurl =>
      split at hurl
      · exact (apart_cutUrl? hurl).after _
      · cases hurl
    · exact .inl (.append _ ⟨'(', rfl, by decide⟩)
  · exact apart_cutNameFrom c rest

lemma atBreak_of_hyphen (h : startsName ('-' :: rest) = false) : AtBreak rest := by
  cases rest with
  | nil => exact atBreak_nil
  | cons c rest =>
    simp only [startsName, Bool.or_eq_false_iff] at h
    exact atBreak_cons h.1.1

/-- Of what a punctuation character starts, only the mark `<!--` ends in a character of a name. -/
lemma apart_readPunctuation (hc : isNameChar c = false ∨ c = '-') (rest : List Char) :
    (readPunctuation c rest).cut.Apart ∨ (readPunctuation c rest).cut.1 = ['<', '!', '-', '-'] := by
  unfold readPunctuation
  split
  case h_4 => exact .inr rfl
  all_goals left
  case h_1 =>
    split
    · exact (apart_cutName rest).after _
    · exact apart_singleton (by decide)
  case h_2 =>
    split
    · exact (apart_cutName rest).after _
    · exact apart_singleton (by decide)
  case h_3 inner => exact (apart_cutComment inner).after _
  case h_5 =>
    split
    · exact (apart_cutDecimals rest).after _
    · exact apart_singleton (by decide)
  case h_6 =>
    split
    · exact (apart_cutNumber rest).after _
    · exact apart_singleton (by decide)
  case h_7 =>
    split
    · exact (apart_cutNumber rest).after _
    · split
      · exact .inl ⟨'>', rfl, by decide⟩
      · split
        · exact apart_readName '-' _
        · next h =>
          rw [Bool.not_eq_true] at h
          exact .inr (atBreak_of_hyphen h)
  case h_8 =>
    split
    · exact .inl ⟨'=', rfl, by decide⟩
    · exact apart_singleton (hc.resolve_right ‹_›)
  case h_9 => exact apart_singleton (hc.resolve_right ‹_›)

lemma atBreak_of_startsNewline (h : startsNewline text) : AtBreak text := by
  cases text with
  | nil => exact atBreak_nil
  | cons c rest =>
    have hspace : isSpace c := by simp [isSpace, show isNewline c from h]
    exact atBreak_cons (isNameStart_eq_false (isNameChar_of_isSpace hspace))

lemma apart_read (c : Char) (rest : List Char) :
    (read c rest).cut.Apart ∨ (read c rest).cut.1 = ['<', '!', '-', '-'] := by
  unfold read
  split
  · next hspace =>
    refine .inl (.inl ?_)
    have hne : c :: rest.takeWhile isSpace ≠ [] := List.cons_ne_nil c _
    refine ⟨_, List.getLast?_eq_some_getLast hne, isNameChar_of_isSpace ?_⟩
    rcases List.mem_cons.1 (List.getLast_mem hne) with heq | hmem
    · rwa [heq]
    · exact List.all_eq_true.1 List.all_takeWhile _ hmem
  · split
    case h_12 =>
      split
      · exact .inl ((apart_cutNumber rest).after _)
      · split
        · exact .inl (apart_readName c rest)
        · next hdigit hstart =>
          refine apart_readPunctuation ?_ rest
          rw [Bool.not_eq_true] at hdigit hstart
          by_cases hhyphen : c = '-'
          · exact .inr hhyphen
          · exact .inl (by simp [isNameChar, hdigit, hstart, hhyphen])
    case h_9 => exact .inl ((apart_cutString (by decide) rest).after _)
    case h_10 => exact .inl ((apart_cutString (by decide) rest).after _)
    case h_11 =>
      split
      · next hnewline => exact .inl (.inr (atBreak_of_startsNewline hnewline))
      · exact .inl (apart_readName '\\' rest)
    all_goals exact .inl (apart_singleton (by decide))

/-- A lexeme and what comes behind it make no name together, unless the lexeme is the mark `<!--`. -/
lemma apart_of_lex (h : lex text = ls ++ l :: ms) :
    Cut.Apart (l.text, Lexeme.textOf ms) ∨ l.text = ['<', '!', '-', '-'] := by
  have hrest := lex_textOf_of_append h
  have hne : l.text ≠ [] := ne_nil_of_mem_lex (h ▸ List.mem_append_right _ List.mem_cons_self)
  obtain ⟨c, x, hx⟩ := List.exists_cons_of_ne_nil hne
  rw [Lexeme.textOf_cons, hx, List.cons_append, lex_cons, List.cons.injEq] at hrest
  have hfront : (read c (x ++ Lexeme.textOf ms)).cut.1 = l.text := congrArg Lexeme.text hrest.1
  have hback : (read c (x ++ Lexeme.textOf ms)).cut.2 = Lexeme.textOf ms := by
    have hwhole := whole_read c (x ++ Lexeme.textOf ms)
    rw [Cut.whole, hfront, hx, ← List.cons_append] at hwhole
    exact List.append_cancel_left hwhole
  have hapart := apart_read c (x ++ Lexeme.textOf ms)
  rwa [Cut.Apart, hfront, hback] at hapart

end CustomProperties.Css
