import CustomProperties.Format
import CustomProperties.Module.Cursor
import Mathlib.Tactic.Common

/-!
# The tokens of written modules

Written modules hold strings in single quotes, some marks and words, and blanks between them. Each
is read as what it was written for, and the cursor goes from one to the next.
-/

namespace CustomProperties.Module

open Text (textOfCodes?)

variable {rest : List Char}

/-! ### Strings -/

lemma readString_escape (text : List Char) {code : Nat} (h : Escape.read false text = .code code 1)
    (quote : Char) (codes recent : List Nat) :
    readString quote codes recent ('\\' :: text)
      = readString quote (code :: codes) [] (text.drop 1) := by
  rw [readString, h]

/-- An escaped character in a string is read as that character. -/
lemma readString_escapeChar (c : Char) (codes recent : List Nat) (rest : List Char) :
    ∃ recent', readString '\'' codes recent (Format.escapeChar c ++ rest)
      = readString '\'' (c.toNat :: codes) recent' rest := by
  unfold Format.escapeChar
  by_cases hbackslash : c = '\\'
  · subst hbackslash
    exact ⟨[], readString_escape ('\\' :: rest) rfl ..⟩
  by_cases hquote : c = '\''
  · subst hquote
    exact ⟨[], readString_escape ('\'' :: rest) rfl ..⟩
  by_cases hfeed : c = '\n'
  · subst hfeed
    exact ⟨[], readString_escape ('n' :: rest) rfl ..⟩
  by_cases hreturn : c = '\r'
  · subst hreturn
    exact ⟨[], readString_escape ('r' :: rest) rfl ..⟩
  · refine ⟨c.toNat :: recent, ?_⟩
    simp [hbackslash, hquote, hfeed, hreturn, readString]

/-- A text written into a string is read back as it was. -/
lemma readString_flatMap_escapeChar (text : List Char) (codes recent : List Nat)
    (rest : List Char) :
    readString '\'' codes recent (text.flatMap Format.escapeChar ++ '\'' :: rest)
      = (some (codes.reverse ++ text.map Char.toNat), rest) := by
  induction text generalizing codes recent with
  | nil => simp [readString]
  | cons c text ih =>
    obtain ⟨recent', hstep⟩ := readString_escapeChar c codes recent
      (text.flatMap Format.escapeChar ++ '\'' :: rest)
    rw [List.flatMap_cons, List.append_assoc, hstep, ih]
    simp

lemma read_string (first : Bool) (text : String) (rest : List Char) :
    Token.read first ('\'' :: ((Format.escape text).toList ++ '\'' :: rest))
      = (.string (some text), rest) := by
  have hname : (startsName '\'' || '\'' == '\\') = false := by decide
  have hnumber : (Text.isDigitIn 10 '\'' || '\'' == '.') = false := by decide
  rw [Bool.or_eq_false_iff] at hnumber
  simp only [Token.read, hname, hnumber, Bool.false_and, Bool.or_false, Bool.or_true,
    beq_self_eq_true, Bool.false_eq_true, if_false, if_true, Format.escape, String.toList_ofList]
  rw [readString_flatMap_escapeChar]
  simp

/-! ### Words -/

/-- A word is read up to a character that goes on with no name. -/
lemma readWord_append {word : List Char} (h : ∀ c ∈ word, continuesName c ∧ c ≠ '\\') {c : Char}
    (hstop : continuesName c = false ∧ c ≠ '\\') (rest front : List Char) (escaped : Bool) :
    readWord front escaped (word ++ c :: rest)
      = (some (front.reverse ++ word, escaped), c :: rest) := by
  induction word generalizing front with
  | nil => simp [readWord, hstop]
  | cons d word ih =>
    rw [List.forall_mem_cons] at h
    simp [readWord, h.1, ih h.2]

lemma read_word {word : String} {d : Char} {ds : List Char} (hword : word.toList = d :: ds)
    (hstart : startsName d) (h : ∀ c ∈ word.toList, continuesName c ∧ c ≠ '\\') {c : Char}
    (hstop : continuesName c = false ∧ c ≠ '\\') (first : Bool) :
    Token.read first (word.toList ++ c :: rest) = (.word word false, c :: rest) := by
  have hread := readWord_append h hstop rest [] false
  have hd : d ≠ '\\' := (h d (by simp [hword])).2
  rw [hword, List.cons_append] at hread ⊢
  simp only [Token.read, hstart, Bool.true_or, if_true, readWordToken, hread]
  simp [hd, ← hword]

/-! ### Gaps -/

/-- The blanks in written modules. -/
def gapBlanks : List Char := [' ', '\t', '\n']

/-- A text begins with a token: nothing is passed over before it. -/
def Begins (text : List Char) : Prop := ∀ broken, skipGap .blank broken text = (broken, text)

lemma begins_cons {c : Char} (hblank : (isLineBreak c || isGapBlank c) = false)
    (hcomment : c ∉ ['/', '<', '-']) : Begins (c :: rest) := by
  intro broken
  rw [Bool.or_eq_false_iff] at hblank
  simp only [List.mem_cons, List.not_mem_nil, or_false, not_or] at hcomment
  rw [skipGap.eq_def]
  split <;> simp_all

/-- Blanks between tokens are passed over. -/
lemma skipGap_append {gap text : List Char} (hgap : gap ⊆ gapBlanks) (h : Begins text)
    (broken : Bool) :
    skipGap .blank broken (gap ++ text) = (broken || gap.contains '\n', text) := by
  induction gap generalizing broken with
  | nil => simpa using h broken
  | cons c gap ih =>
    rw [List.cons_subset] at hgap
    have hc := hgap.1
    simp only [gapBlanks, List.mem_cons, List.not_mem_nil, or_false] at hc
    rcases hc with rfl | rfl | rfl
    · have hstep : skipGap .blank broken (' ' :: (gap ++ text))
          = skipGap .blank broken (gap ++ text) := rfl
      rw [List.cons_append, hstep, ih hgap.2]
      simp
    · have hstep : skipGap .blank broken ('\t' :: (gap ++ text))
          = skipGap .blank broken (gap ++ text) := rfl
      rw [List.cons_append, hstep, ih hgap.2]
      simp
    · have hstep : skipGap .blank broken ('\n' :: (gap ++ text))
          = skipGap .blank true (gap ++ text) := rfl
      rw [List.cons_append, hstep, ih hgap.2]
      simp

end CustomProperties.Module
