import CustomProperties.Json.Parser
import CustomProperties.Json.Printer
import Mathlib.Data.List.TakeWhile
import Mathlib.Tactic.Common
import Mathlib.Tactic.IntervalCases

/-!
# The tokens of written JSON

Strings and integers are read back as what they were written for, whatever stands behind them
(`readToken_quote`, `readToken_toString`). `Scans` says which tokens a text is cut into; blanks
between the tokens change nothing.
-/

namespace CustomProperties.Json

variable {text rest : List Char} {t : Token} {ts : List Token}

/-! ### Strings -/

lemma hexFour?_hexDigit :
    ∀ n < 0x20, hexFour? '0' '0' (hexDigit (n / 16)) (hexDigit n) = some n := by
  decide

/-- A letter behind a backslash is read as the character that it stands for. -/
lemma readString_simpleEscape {letter c : Char} (h : simpleEscape? letter = some c)
    (rest : List Char) :
    readString ('\\' :: letter :: rest)
      = (readString rest).map fun cut => (c.toNat :: cut.1, cut.2) := by
  have hletter : letter ≠ 'u' := by
    rintro rfl
    cases h
  rw [readString, h]
  · cases readString rest <;> rfl
  · rintro _ _ _ _ _ rfl
    contradiction

/-- A character written into a string is read as that character. -/
lemma readString_escapeChar (c : Char) (rest : List Char) :
    readString (escapeChar c ++ rest)
      = (readString rest).map fun cut => (c.toNat :: cut.1, cut.2) := by
  unfold escapeChar
  split_ifs with hquote hbackslash hback hform hline hreturn htab hcontrol
  · subst hquote
    exact readString_simpleEscape rfl rest
  · subst hbackslash
    exact readString_simpleEscape rfl rest
  · subst hback
    exact readString_simpleEscape rfl rest
  · subst hform
    exact readString_simpleEscape rfl rest
  · subst hline
    exact readString_simpleEscape rfl rest
  · subst hreturn
    exact readString_simpleEscape rfl rest
  · subst htab
    exact readString_simpleEscape rfl rest
  · have hcode := hexFour?_hexDigit c.toNat hcontrol
    show readString ('\\' :: 'u' :: _ :: _ :: _ :: _ :: rest) = _
    rw [readString, hcode]
    cases readString rest <;> rfl
  · rw [List.singleton_append, readString.eq_def]
    split
    · contradiction
    · simp_all
    · simp_all
    · simp_all
    · next heq =>
      -- the character stands for itself
      cases heq
      have hplain : ¬ (decide (c.toNat < 0x20) || decide (c = '\\')) = true := by
        simp [hcontrol, hbackslash]
      simp only [hplain]
      cases readString rest <;> rfl

/-- A text written into a string is read back as it was. -/
lemma readString_flatMap_escapeChar (text rest : List Char) :
    readString (text.flatMap escapeChar ++ '"' :: rest) = some (text.map Char.toNat, rest) := by
  induction text with
  | nil => rfl
  | cons c text ih => simp [readString_escapeChar, ih]

lemma toList_quote_append (value : String) (rest : List Char) :
    (quote value).toList ++ rest
      = '"' :: (value.toList.flatMap escapeChar ++ '"' :: rest) := by
  simp [quote]

lemma readToken_quote (value : String) (rest : List Char) :
    readToken ((quote value).toList ++ rest) = some (.string (some value), rest) := by
  rw [toList_quote_append, readToken, readString_flatMap_escapeChar]
  simp

/-! ### Integers -/

/-- No digit, point or exponent comes first: a number before the text ends there. -/
def EndsNumber (text : List Char) : Prop :=
  ∀ c ∈ text.head?, isDigit c = false ∧ c ≠ '.' ∧ c ≠ 'e' ∧ c ≠ 'E'

lemma isDigit_of_mem_toDigits {n : Nat} {c : Char} (h : c ∈ Nat.toDigits 10 n) : isDigit c := by
  have hdigit := Nat.isDigit_of_mem_toDigits (by decide) (by decide) h
  rwa [Char.isDigit] at hdigit

/-- No number but zero is written with a zero in front. -/
lemma head?_toDigits_ne_zero {n : Nat} (h : 0 < n) : (Nat.toDigits 10 n).head? ≠ some '0' := by
  induction n using Nat.strong_induction_on with
  | _ n ih =>
    rcases Nat.lt_or_ge n 10 with hlt | hge
    · rw [Nat.toDigits_of_lt_base hlt]
      interval_cases n <;> decide
    · rw [Nat.toDigits_of_base_le (by decide) hge, List.head?_append,
        Option.or_of_isSome (by simp [Nat.toDigits_ne_nil])]
      exact ih (n / 10) (by omega) (by omega)

/-- All digits are taken if the number that they write fits. -/
lemma takeDigits_eq {digits : List Char} (n taken : Nat)
    (h : Nat.ofDigitChars 10 digits n ≤ maxNatural) :
    takeDigits n taken digits = (Nat.ofDigitChars 10 digits n, taken + digits.length, []) := by
  induction digits generalizing n taken with
  | nil => simp [takeDigits]
  | cons c digits ih =>
    rw [Nat.ofDigitChars_cons] at h ⊢
    have hle : 10 * n + digitValue c ≤ Nat.ofDigitChars 10 digits (10 * n + digitValue c) := by
      rw [Nat.ofDigitChars_eq_ofDigitChars_zero]
      have hpos : 0 < 10 ^ digits.length := Nat.pow_pos (by decide)
      exact (Nat.le_mul_of_pos_left _ hpos).trans (Nat.le_add_right _ _)
    have hfits : ¬ maxNatural < 10 * n + digitValue c := Nat.not_lt.2 (hle.trans h)
    have hrest : takeDigits (10 * n + digitValue c) (taken + 1) digits = _ := ih _ _ h
    rw [takeDigits, if_neg hfits, hrest, List.length_cons, Nat.add_assoc, Nat.add_comm 1]
    rfl

lemma takeWhile_toDigits_append (n : Nat) (hrest : EndsNumber rest) :
    (Nat.toDigits 10 n ++ rest).takeWhile isDigit = Nat.toDigits 10 n ∧
      (Nat.toDigits 10 n ++ rest).dropWhile isDigit = rest := by
  have hdigits : ∀ c ∈ Nat.toDigits 10 n, isDigit c := fun _ => isDigit_of_mem_toDigits
  rw [List.takeWhile_append_of_pos hdigits, List.dropWhile_append_of_pos hdigits]
  cases rest with
  | nil => simp
  | cons c rest => simp [(hrest c rfl).1]

/-- The digits of a number that fits are read as that number. -/
lemma readMagnitude_toDigits {negative : Bool} {n : Nat} (h : n ≤ maxNatural)
    (hnegative : negative = true → 0 < n ∧ n ≤ 2 ^ 63) (hrest : EndsNumber rest) :
    readMagnitude negative (Nat.toDigits 10 n ++ rest)
      = some (some (integer (if negative then -n else n)), rest) := by
  obtain ⟨hwhole, hbehind⟩ := takeWhile_toDigits_append n hrest
  have hfront : (Nat.toDigits 10 n = [] || ((Nat.toDigits 10 n).head? = some '0'
      && Nat.toDigits 10 n ≠ ['0'])) = false := by
    rcases Nat.eq_zero_or_pos n with rfl | hn
    · decide
    · simp [Nat.toDigits_ne_nil, head?_toDigits_ne_zero hn]
  have htake : takeDigits 0 0 (Nat.toDigits 10 n) = (n, (Nat.toDigits 10 n).length, []) := by
    rw [takeDigits_eq _ _ (by rwa [Nat.ofDigitChars_ten_toDigits]), Nat.ofDigitChars_ten_toDigits,
      Nat.zero_add]
  have hfits : negative = true → (n = 0 || Nat.pow 2 63 < n) = false := by
    intro hsign
    obtain ⟨hpos, hle⟩ := hnegative hsign
    have hbound : ¬ Nat.pow 2 63 < n := Nat.not_lt.2 hle
    simp [hpos.ne', hbound]
  unfold readMagnitude
  simp only [hwhole, hbehind, htake, hfront, Bool.false_eq_true, if_false]
  split
  · exact absurd rfl (hrest '.' rfl).2.1
  · exact absurd rfl (hrest 'e' rfl).2.2.1
  · exact absurd rfl (hrest 'E' rfl).2.2.2
  · cases negative with
    | false => rfl
    | true =>
      rw [hfits rfl]
      rfl

lemma toList_toString_ofNat (n : Nat) : (toString (Int.ofNat n)).toList = Nat.toDigits 10 n := by
  have hrepr : toString (Int.ofNat n) = Nat.repr n := rfl
  rw [hrepr, Nat.repr_eq_ofList_toDigits, String.toList_ofList]

lemma toList_toString_negSucc (n : Nat) :
    (toString (Int.negSucc n)).toList = '-' :: Nat.toDigits 10 (n + 1) := by
  have hrepr : toString (Int.negSucc n) = "-" ++ Nat.repr (n + 1) := rfl
  simp [hrepr, Nat.repr_eq_ofList_toDigits]

lemma ne_hyphen_of_isDigit {c : Char} (h : isDigit c) : c ≠ '-' := by
  rintro rfl
  cases h

lemma isGap_of_isDigit {c : Char} (h : isDigit c) : isGap c = false := by
  by_contra hgap
  simp only [isGap, Bool.not_eq_false, Bool.or_eq_true, beq_iff_eq] at hgap
  rcases hgap with ((rfl | rfl) | rfl) | rfl <;> cases h

/-- An integer of 64 bits is read back from its text. -/
lemma readNumber_toString {n : Int} (hlow : -2 ^ 63 ≤ n) (hhigh : n < 2 ^ 64)
    (hrest : EndsNumber rest) :
    readNumber ((toString n).toList ++ rest) = some (some (integer n), rest) := by
  have hmax : maxNatural = 2 ^ 64 - 1 := rfl
  cases n with
  | ofNat n =>
    have hfits : n ≤ maxNatural := by
      rw [Int.ofNat_eq_natCast] at hhigh
      omega
    rw [toList_toString_ofNat, readNumber]
    · exact readMagnitude_toDigits hfits (by simp) hrest
    · intro digits heq
      obtain ⟨d, ds, hds⟩ := List.exists_cons_of_ne_nil (Nat.toDigits_ne_nil (n := n) (b := 10))
      rw [hds, List.cons_append, List.cons.injEq] at heq
      exact ne_hyphen_of_isDigit (isDigit_of_mem_toDigits (hds ▸ List.mem_cons_self)) heq.1
  | negSucc n =>
    rw [toList_toString_negSucc, List.cons_append, readNumber]
    exact readMagnitude_toDigits (by omega) (fun _ => by omega) hrest

/-- What starts with a digit or a hyphen is read as a number. -/
lemma readToken_of_number {c : Char} (hc : isDigit c ∨ c = '-') (text : List Char) :
    readToken (c :: text)
      = (readNumber (c :: text)).map fun (number, rest) => (.scalar number, rest) := by
  unfold readToken
  split
  case h_11 => rfl
  all_goals
    next heq =>
      obtain ⟨rfl, -⟩ := List.cons.inj heq
      rcases hc with hc | hc <;> cases hc

lemma exists_toString_eq_cons (n : Int) :
    ∃ c text, (toString n).toList = c :: text ∧ (isDigit c ∨ c = '-') := by
  cases n with
  | ofNat n =>
    obtain ⟨c, text, h⟩ := List.exists_cons_of_ne_nil (Nat.toDigits_ne_nil (n := n) (b := 10))
    have hc : isDigit c := isDigit_of_mem_toDigits (h ▸ List.mem_cons_self)
    exact ⟨c, text, (toList_toString_ofNat n).trans h, .inl hc⟩
  | negSucc n => exact ⟨'-', _, toList_toString_negSucc n, .inr rfl⟩

/-! ### Texts -/

/-- A text is cut into the given tokens. -/
def Scans (text : List Char) (ts : List Token) : Prop :=
  ∀ bound, text.length ≤ bound → tokensWithin bound text = some ts

lemma Scans.tokens_eq (h : Scans text ts) : tokens text = some ts := h text.length le_rfl

lemma scans_nil : Scans [] [] := by
  intro bound _
  rw [tokensWithin]
  rfl

/-- Blanks before a token are passed over. -/
lemma Scans.skip (h : Scans text ts) (gap : List Char) (hgap : ∀ c ∈ gap, isGap c) :
    Scans (gap ++ text) ts := by
  intro bound hbound
  rw [List.length_append] at hbound
  have htokens := h bound (by omega)
  unfold tokensWithin at htokens ⊢
  rwa [List.dropWhile_append_of_pos hgap]

/-- A text that begins with a token holds that token and those behind it. -/
lemma Scans.add (h : Scans rest ts) (word : List Char)
    (hread : readToken (word ++ rest) = some (t, rest))
    (hword : word.head?.any (!isGap ·)) : Scans (word ++ rest) (t :: ts) := by
  intro bound hbound
  cases word with
  | nil => cases hword
  | cons c word =>
    simp only [List.cons_append, List.length_cons, List.length_append] at hread hbound ⊢
    obtain ⟨bound, rfl⟩ : ∃ n, bound = n + 1 := ⟨bound - 1, by omega⟩
    have hbegins : (c :: (word ++ rest)).dropWhile isGap = c :: (word ++ rest) := by
      simp_all
    have hbehind := h bound (by omega)
    unfold tokensWithin
    rw [hbegins]
    simp [hread, hbehind]

end CustomProperties.Json
