import CustomProperties.Css.Lexer
import Mathlib.Tactic.Common

/-!
# Stops

A semicolon, a curly bracket and a slash are in no name and no number, and are no blanks. What is
read before one of them is read in the same way before any other and at the end of the text, unless
it is a string, a url, a comment or an escape that takes the stop in.
-/

namespace CustomProperties.Css

/-- Whether a character is a stop. -/
def isStop (c : Char) : Bool := c == ';' || c == '{' || c == '}' || c == '/'

lemma eq_of_isStop {c : Char} (h : isStop c) : c = ';' ∨ c = '{' ∨ c = '}' ∨ c = '/' := by
  simpa [isStop, or_assoc] using h

/-- A text that a stop ends. -/
def EndsInStop (text : List Char) : Prop := ∃ c ∈ text.getLast?, isStop c

lemma EndsInStop.append {text : List Char} (front : List Char) (h : EndsInStop text) :
    EndsInStop (front ++ text) := by
  obtain ⟨c, hc, hstop⟩ := h
  refine ⟨c, ?_, hstop⟩
  rw [Option.mem_def] at hc ⊢
  rw [List.getLast?_append, hc]
  rfl

lemma EndsInStop.exists_append {text : List Char} (h : EndsInStop text) :
    ∃ front stop, text = front ++ [stop] ∧ isStop stop := by
  obtain ⟨c, hc, hstop⟩ := h
  obtain ⟨front, rfl⟩ := List.getLast?_eq_some_iff.1 hc
  exact ⟨front, c, rfl, hstop⟩

/-- A text that is empty or starts with a stop. -/
def AtStop (text : List Char) : Prop := ∀ c ∈ text.head?, isStop c

lemma atStop_nil : AtStop [] := by simp [AtStop]

lemma atStop_cons {c : Char} {rest : List Char} (h : isStop c) : AtStop (c :: rest) := by
  simpa [AtStop] using h

section

variable {s x y : List Char} {p : Char → Bool}

/-- A stop is no other character. -/
lemma AtStop.cases (h : AtStop s) : s = [] ∨ ∃ c rest, s = c :: rest ∧ isStop c := by
  cases s with
  | nil => exact .inl rfl
  | cons c rest => exact .inr ⟨c, rest, rfl, h c rfl⟩

/-! ### Looking ahead -/

lemma startsNewline_append (h : AtStop s) : startsNewline (x ++ s) = startsNewline x := by
  cases x with
  | nil =>
    rcases h.cases with rfl | ⟨c, rest, rfl, hc⟩
    · rfl
    · rcases eq_of_isStop hc with rfl | rfl | rfl | rfl <;> rfl
  | cons => rfl

lemma startsDigit_append (h : AtStop s) : startsDigit (x ++ s) = startsDigit x := by
  cases x with
  | nil =>
    rcases h.cases with rfl | ⟨c, rest, rfl, hc⟩
    · rfl
    · rcases eq_of_isStop hc with rfl | rfl | rfl | rfl <;> rfl
  | cons => rfl

lemma startsName_append (h : AtStop s) : startsName (x ++ s) = startsName x := by
  rcases h.cases with rfl | ⟨c, rest, rfl, hc⟩
  · rw [List.append_nil]
  · match x with
    | [] => rcases eq_of_isStop hc with rfl | rfl | rfl | rfl <;> rfl
    | [d] =>
      by_cases hd : d = '-'
      · subst hd
        rcases eq_of_isStop hc with rfl | rfl | rfl | rfl <;> rfl
      · by_cases hback : d = '\\'
        · subst hback
          rcases eq_of_isStop hc with rfl | rfl | rfl | rfl <;> rfl
        · simp [startsName, hd]
    | d :: e :: x =>
      by_cases hd : d = '-'
      · subst hd
        rfl
      · by_cases hback : d = '\\'
        · subst hback
          rfl
        · simp [startsName, hd]

lemma startsNumber_append (h : AtStop s) : startsNumber (x ++ s) = startsNumber x := by
  cases x with
  | nil =>
    rcases h.cases with rfl | ⟨c, rest, rfl, hc⟩
    · rfl
    · rcases eq_of_isStop hc with rfl | rfl | rfl | rfl <;> rfl
  | cons d x =>
    by_cases hd : d = '.'
    · subst hd
      exact startsDigit_append h
    · simp [startsNumber, hd, startsDigit]

end

/-! ### Cuts -/

/-- A cut of the text `x` that is the same whatever stands behind `x`, if only that is at a stop. -/
def Settles (f : List Char → Cut) (x : List Char) : Prop :=
  ∃ front y, ∀ s, AtStop s → f (x ++ s) = (front, y ++ s)

/-- A cut that ends before some stop does not depend on what stands there. -/
def Local (f : List Char → Cut) : Prop :=
  ∀ x c s, isStop c → s.length < (f (x ++ c :: s)).2.length → Settles f x

variable {f g : List Char → Cut} {x : List Char} {p : Char → Bool}

lemma settles_cutWhile (hp : ∀ c, isStop c → p c = false) (x : List Char) :
    Settles (cutWhile p) x := by
  refine ⟨x.takeWhile p, x.dropWhile p, fun s hs => ?_⟩
  have hnil : s.takeWhile p = [] ∧ s.dropWhile p = s := by
    rcases hs.cases with rfl | ⟨c, rest, rfl, hc⟩ <;> simp [*]
  unfold cutWhile
  induction x with
  | nil => simp [hnil]
  | cons c x ih =>
    rw [Prod.mk.injEq] at ih ⊢
    by_cases hc : p c <;> simp [hc, ih]

lemma isSpace_of_isStop (c : Char) (h : isStop c) : isSpace c = false := by
  rcases eq_of_isStop h with rfl | rfl | rfl | rfl <;> rfl

lemma isDigit_of_isStop (c : Char) (h : isStop c) : isDigit c = false := by
  rcases eq_of_isStop h with rfl | rfl | rfl | rfl <;> rfl

lemma isHexDigit_of_isStop (c : Char) (h : isStop c) : isHexDigit c = false := by
  rcases eq_of_isStop h with rfl | rfl | rfl | rfl <;> rfl

lemma isNameChar_of_isStop (c : Char) (h : isStop c) : isNameChar c = false := by
  rcases eq_of_isStop h with rfl | rfl | rfl | rfl <;> rfl

lemma ne_of_isStop {c d : Char} (h : isStop c) (hd : isStop d = false) : c ≠ d := by
  rintro rfl
  rw [h] at hd
  cases hd

/-- One cut after the other. -/
lemma Settles.andThen (hf : Settles f x)
    (hg : ∀ front y, (∀ s, AtStop s → f (x ++ s) = (front, y ++ s)) → Settles g y) :
    Settles (fun text => (g (f text).2).after (f text).1) x := by
  obtain ⟨first, y, hy⟩ := hf
  obtain ⟨second, z, hz⟩ := hg first y hy
  exact ⟨first ++ second, z, fun s hs => by simp [hy s hs, hz s hs, Cut.after]⟩

/-- Cuts that agree where they are followed by a stop. -/
lemma Settles.congr (hf : Settles f y) (front : List Char)
    (h : ∀ s, AtStop s → g (x ++ s) = (f (y ++ s)).after front) : Settles g x := by
  obtain ⟨first, z, hz⟩ := hf
  exact ⟨front ++ first, z, fun s hs => by rw [h s hs, hz s hs]; rfl⟩

lemma settles_of_eq (front y : List Char) (h : ∀ s, AtStop s → f (x ++ s) = (front, y ++ s)) :
    Settles f x := ⟨front, y, h⟩

lemma settles_cutSpace (x : List Char) : Settles cutSpace x := by
  match x with
  | [] =>
    refine settles_of_eq [] [] fun s hs => ?_
    rcases hs.cases with rfl | ⟨c, rest, rfl, hc⟩
    · rfl
    · simp [cutSpace, isSpace_of_isStop c hc, ne_of_isStop (d := '\r') hc rfl]
  | [c] =>
    by_cases hspace : isSpace c
    · refine settles_of_eq [c] [] fun s hs => ?_
      rcases hs.cases with rfl | ⟨d, rest, rfl, hd⟩
      · simp [cutSpace, hspace]
      · simp [cutSpace, hspace, ne_of_isStop (d := '\n') hd rfl]
    · refine settles_of_eq [] [c] fun s hs => ?_
      have hc : c ≠ '\r' := by
        rintro rfl
        exact hspace rfl
      simp [cutSpace, hspace, hc]
  | c :: d :: x =>
    by_cases hreturn : c = '\r' ∧ d = '\n'
    · obtain ⟨rfl, rfl⟩ := hreturn
      exact settles_of_eq ['\r', '\n'] x fun s hs => rfl
    · have hother (rest : List Char) : cutSpace (c :: d :: rest)
          = if isSpace c then ([c], d :: rest) else ([], c :: d :: rest) := by
        rw [cutSpace]
        rintro rest rfl h
        cases h
        exact hreturn ⟨rfl, rfl⟩
      by_cases hspace : isSpace c
      · exact settles_of_eq [c] (d :: x) fun s hs => by simp [hother, hspace]
      · exact settles_of_eq [] (c :: d :: x) fun s hs => by simp [hother, hspace]

lemma settles_cutHexDigits (n : Nat) (x : List Char) : Settles (cutHexDigits n) x := by
  induction n generalizing x with
  | zero => exact settles_of_eq [] x fun s hs => by simp [cutHexDigits]
  | succ n ih =>
    cases x with
    | nil =>
      refine settles_of_eq [] [] fun s hs => ?_
      rcases hs.cases with rfl | ⟨c, rest, rfl, hc⟩
      · rfl
      · simp [cutHexDigits, isHexDigit_of_isStop c hc]
    | cons d x =>
      by_cases hd : isHexDigit d
      · exact (ih x).congr [d] fun s hs => by simp [cutHexDigits, hd]
      · exact settles_of_eq [] (d :: x) fun s hs => by simp [cutHexDigits, hd]

lemma local_cutEscape : Local cutEscape := by
  intro x c s hc h
  cases x with
  | nil =>
    have hnewline : isNewline c = false := by
      rcases eq_of_isStop hc with rfl | rfl | rfl | rfl <;> rfl
    simp [cutEscape, isHexDigit_of_isStop c hc, hnewline] at h
  | cons d x =>
    by_cases hhex : isHexDigit d
    · refine ((settles_cutHexDigits 5 x).andThen (g := cutSpace) fun _ y _ =>
        settles_cutSpace y).congr [d] fun s hs => ?_
      simp [cutEscape, hhex, Cut.after]
    · by_cases hnewline : isNewline d
      · exact (settles_cutSpace (d :: x)).congr [] fun s hs => by
          simp [cutEscape, hhex, hnewline, Cut.after]
      · exact settles_of_eq [d] x fun s hs => by
          simp [cutEscape, hhex, hnewline]

/-- Where nothing of a settled cut stands behind `x`, `x` is cut in two. -/
lemma eq_append_of_settles {front y : List Char} (hwhole : ∀ text, (f text).whole = text)
    (h : ∀ s, AtStop s → f (x ++ s) = (front, y ++ s)) : x = front ++ y := by
  have hx := hwhole (x ++ [])
  rw [h [] atStop_nil] at hx
  simpa [Cut.whole] using hx.symm

lemma length_cutName_le (text : List Char) : (cutName text).2.length ≤ text.length :=
  Cut.length_snd_le_of_whole (whole_cutName text)

lemma local_cutName : Local cutName := by
  intro x c s hc h
  match x with
  | [] =>
    refine settles_of_eq [] [] fun s hs => ?_
    rcases hs.cases with rfl | ⟨d, rest, rfl, hd⟩
    · simp [cutName]
    · simp [cutName, isNameChar_of_isStop d hd, ne_of_isStop (d := '\\') hd rfl]
  | d :: x =>
    by_cases hback : d = '\\'
    · subst hback
      by_cases hnewline : startsNewline x
      · refine settles_of_eq [] ('\\' :: x) fun s hs => ?_
        simp [cutName, startsNewline_append hs, hnewline]
      · have hcut (s : List Char) (hs : AtStop s) : cutName ('\\' :: (x ++ s))
            = (cutName (cutEscape (x ++ s)).2).after ('\\' :: (cutEscape (x ++ s)).1) := by
          rw [cutName, if_pos rfl, startsNewline_append hs, if_neg hnewline]
        rw [List.cons_append, hcut _ (atStop_cons hc)] at h
        have hescape := local_cutEscape x c s hc (Nat.lt_of_lt_of_le h (length_cutName_le _))
        refine (hescape.andThen (g := cutName) fun front y hy => ?_).congr ['\\']
          fun s hs => by rw [List.cons_append, hcut s hs]; rfl
        have hlength : y.length ≤ x.length := by
          rw [eq_append_of_settles whole_cutEscape hy, List.length_append]
          exact Nat.le_add_left _ _
        rw [hy _ (atStop_cons hc)] at h
        exact local_cutName y c s hc h
    · by_cases hname : isNameChar d
      · have hcut (s : List Char) : cutName (d :: (x ++ s)) = (cutName (x ++ s)).after [d] := by
          rw [cutName, if_neg hback, if_pos hname]
        rw [List.cons_append, hcut] at h
        exact (local_cutName x c s hc h).congr [d] fun s hs => hcut s
      · refine settles_of_eq [] (d :: x) fun s hs => ?_
        rw [List.cons_append, cutName, if_neg hback, if_neg hname]
termination_by x => x.length
decreasing_by
  · simp
    omega
  · simp

lemma local_cutNameFrom (c : Char) : Local (cutNameFrom c) := by
  intro x d s hd h
  by_cases hback : c = '\\'
  · simp only [cutNameFrom, if_pos hback] at h
    have hescape := local_cutEscape x d s hd (Nat.lt_of_lt_of_le h (length_cutName_le _))
    refine (hescape.andThen (g := cutName) fun front y hy => ?_).congr [c]
      fun s hs => by rw [cutNameFrom, if_pos hback]; rfl
    rw [hy _ (atStop_cons hd)] at h
    exact local_cutName y d s hd h
  · simp only [cutNameFrom, if_neg hback] at h
    exact (local_cutName x d s hd h).congr [c]
      fun s hs => by rw [cutNameFrom, if_neg hback]

/-! ### Comments and strings -/

lemma cutComment_cons {c : Char} {rest : List Char} (h : ¬ (c = '*' ∧ rest.head? = some '/')) :
    cutComment (c :: rest) = (cutComment rest).after [c] := by
  rw [cutComment]
  rintro more rfl rfl
  exact h ⟨rfl, rfl⟩

lemma exists_cons_of_head? {c : Char} {text : List Char} (h : text.head? = some c) :
    ∃ rest, text = c :: rest := by
  cases text with
  | nil => cases h
  | cons d rest =>
    cases h
    exact ⟨rest, rfl⟩

lemma length_cutComment_le (c : Char) (rest : List Char) :
    (cutComment (c :: rest)).2.length ≤ rest.length := by
  by_cases h : c = '*' ∧ rest.head? = some '/'
  · obtain ⟨rfl, hrest⟩ := h
    obtain ⟨more, rfl⟩ := exists_cons_of_head? hrest
    simp [cutComment]
  · rw [cutComment_cons h, Cut.snd_after]
    exact Cut.length_snd_le_of_whole (whole_cutComment rest)

lemma local_cutComment : Local cutComment := by
  intro x c s hc h
  induction x with
  | nil => exact absurd (length_cutComment_le c s) (Nat.not_le_of_lt h)
  | cons d x ih =>
    by_cases hend : d = '*' ∧ x.head? = some '/'
    · obtain ⟨rfl, hx⟩ := hend
      obtain ⟨x, rfl⟩ := exists_cons_of_head? hx
      exact settles_of_eq ['*', '/'] x fun s hs => rfl
    cases x with
    | nil =>
      -- a stop cannot be reached, since there is no end mark before it
      by_cases hmark : d = '*' ∧ (c :: s).head? = some '/'
      · obtain ⟨rfl, hs⟩ := hmark
        cases hs
        simp [cutComment] at h
      · rw [List.singleton_append, cutComment_cons hmark, Cut.snd_after] at h
        exact absurd (length_cutComment_le c s) (Nat.not_le_of_lt h)
    | cons e x =>
      have hcut (s : List Char) : cutComment (d :: (e :: x ++ s))
          = (cutComment (e :: x ++ s)).after [d] := cutComment_cons hend
      rw [List.cons_append, hcut] at h
      exact (ih h).congr _ fun s _ => hcut s

lemma length_cutString_le (quote : Char) (text : List Char) :
    (cutString quote text).2.length ≤ text.length :=
  Cut.length_snd_le_of_whole (whole_cutString quote text)

lemma isNewline_of_isStop (c : Char) (h : isStop c) : isNewline c = false := by
  rcases eq_of_isStop h with rfl | rfl | rfl | rfl <;> rfl

lemma local_cutString {quote : Char} (hquote : isStop quote = false) : Local (cutString quote) := by
  intro x c s hc h
  match x with
  | [] =>
    rw [List.nil_append, cutString, if_neg (ne_of_isStop hc hquote),
      if_neg (by simp [isNewline_of_isStop c hc]), if_neg (ne_of_isStop hc rfl),
      Cut.snd_after] at h
    exact absurd (length_cutString_le quote s) (Nat.not_le_of_lt h)
  | d :: x =>
    by_cases hd : d = quote
    · exact settles_of_eq [d] x fun s hs => by
        rw [List.cons_append, cutString, if_pos hd]
    by_cases hnewline : isNewline d
    · exact settles_of_eq [] (d :: x) fun s hs => by
        rw [List.cons_append, cutString, if_neg hd, if_pos hnewline]
    by_cases hback : d = '\\'
    · have hcut (s : List Char) : cutString quote (d :: (x ++ s))
          = (cutString quote (cutEscape (x ++ s)).2).after (d :: (cutEscape (x ++ s)).1) := by
        rw [cutString, if_neg hd, if_neg hnewline, if_pos hback]
      rw [List.cons_append, hcut, Cut.snd_after] at h
      have hescape := local_cutEscape x c s hc
        (Nat.lt_of_lt_of_le h (length_cutString_le quote _))
      refine (hescape.andThen (g := cutString quote) fun front y hy => ?_).congr [d]
        fun s hs => hcut s
      have hlength : y.length ≤ x.length := by
        rw [eq_append_of_settles whole_cutEscape hy, List.length_append]
        exact Nat.le_add_left _ _
      rw [hy _ (atStop_cons hc)] at h
      exact local_cutString hquote y c s hc h
    · have hcut (s : List Char) : cutString quote (d :: (x ++ s))
          = (cutString quote (x ++ s)).after [d] := by
        rw [cutString, if_neg hd, if_neg hnewline, if_neg hback]
      rw [List.cons_append, hcut, Cut.snd_after] at h
      exact (local_cutString hquote x c s hc h).congr _ fun s _ => hcut s
termination_by x => x.length

/-! ### Urls -/

lemma length_cutBadUrl_le (text : List Char) : (cutBadUrl text).2.length ≤ text.length :=
  Cut.length_snd_le_of_whole (whole_cutBadUrl text)

lemma cutBadUrl_cons {c : Char} {rest : List Char} (hclose : c ≠ ')')
    (hback : ¬ (c = '\\' ∧ (rest.head? = some ')' ∨ rest.head? = some '\\'))) :
    cutBadUrl (c :: rest) = (cutBadUrl rest).after [c] := by
  rw [cutBadUrl]
  · exact hclose
  · rintro more rfl rfl
    exact hback ⟨rfl, .inl rfl⟩
  · rintro more rfl rfl
    exact hback ⟨rfl, .inr rfl⟩

lemma cutBadUrl_stop {c : Char} (hc : isStop c) (rest : List Char) :
    cutBadUrl (c :: rest) = (cutBadUrl rest).after [c] :=
  cutBadUrl_cons (ne_of_isStop hc rfl) fun h => ne_of_isStop hc rfl h.1

lemma local_cutBadUrl : Local cutBadUrl := by
  intro x c s hc h
  match x with
  | [] =>
    rw [List.nil_append, cutBadUrl_stop hc, Cut.snd_after] at h
    exact absurd (length_cutBadUrl_le s) (Nat.not_le_of_lt h)
  | d :: x =>
    by_cases hclose : d = ')'
    · subst hclose
      exact settles_of_eq [')'] x fun s _ => rfl
    by_cases hback : d = '\\' ∧ (x.head? = some ')' ∨ x.head? = some '\\')
    · obtain ⟨rfl, hx⟩ := hback
      rcases hx with hx | hx
      all_goals
        obtain ⟨x, rfl⟩ := exists_cons_of_head? hx
        simp only [List.cons_append, cutBadUrl, Cut.snd_after] at h
        exact (local_cutBadUrl x c s hc h).congr _ fun s _ => rfl
    · have hcut (s : List Char) (hs : AtStop s) : cutBadUrl (d :: (x ++ s))
          = (cutBadUrl (x ++ s)).after [d] := by
        apply cutBadUrl_cons hclose
        rintro ⟨rfl, hx⟩
        cases x with
        | nil =>
          rcases hs.cases with rfl | ⟨e, rest, rfl, he⟩
          · simp at hx
          · simp [ne_of_isStop (d := ')') he rfl, ne_of_isStop (d := '\\') he rfl] at hx
        | cons e x => exact hback ⟨rfl, hx⟩
      rw [List.cons_append, hcut _ (atStop_cons hc), Cut.snd_after] at h
      exact (local_cutBadUrl x c s hc h).congr _ hcut
termination_by x => x.length

lemma spaces_of_isStop (x : List Char) : Settles (cutWhile isSpace) x :=
  settles_cutWhile isSpace_of_isStop x

lemma local_cutUrlEnd : Local cutUrlEnd := by
  intro x c s hc h
  obtain ⟨spaces, y, hy⟩ := spaces_of_isStop x
  unfold cutUrlEnd at h
  simp only [hy _ (atStop_cons hc)] at h
  cases y with
  | nil =>
    simp only [List.nil_append, if_neg (ne_of_isStop (d := ')') hc rfl), Cut.snd_after] at h
    exact absurd (length_cutBadUrl_le s) (Nat.not_le_of_lt h)
  | cons d y =>
    by_cases hclose : d = ')'
    · exact settles_of_eq (spaces ++ [d]) y fun s hs => by
        simp [cutUrlEnd, hy s hs, hclose]
    · simp only [List.cons_append, if_neg hclose, Cut.snd_after] at h
      exact (local_cutBadUrl y c s hc h).congr (spaces ++ [d]) fun s hs => by
        simp [cutUrlEnd, hy s hs, hclose]

lemma length_cutUrlBody_le (text : List Char) : (cutUrlBody text).2.length ≤ text.length :=
  Cut.length_snd_le_of_whole (whole_cutUrlBody text)

lemma cutUrlBody_stop {c : Char} (hc : isStop c) (rest : List Char) :
    cutUrlBody (c :: rest) = (cutUrlBody rest).after [c] := by
  have hspoils : spoilsUrl c = false := by
    rcases eq_of_isStop hc with rfl | rfl | rfl | rfl <;> rfl
  rw [cutUrlBody, if_neg (by simp [isSpace_of_isStop c hc]), if_neg (ne_of_isStop hc rfl),
    if_neg (by simp [hspoils]), if_neg (ne_of_isStop hc rfl)]

lemma local_cutUrlBody : Local cutUrlBody := by
  intro x c s hc h
  match x with
  | [] =>
    rw [List.nil_append, cutUrlBody_stop hc, Cut.snd_after] at h
    exact absurd (length_cutUrlBody_le s) (Nat.not_le_of_lt h)
  | d :: x =>
    by_cases hspace : isSpace d
    · have hcut (s : List Char) : cutUrlBody (d :: x ++ s) = cutUrlEnd (d :: x ++ s) := by
        rw [List.cons_append, cutUrlBody, if_pos hspace]
      rw [hcut] at h
      exact (local_cutUrlEnd (d :: x) c s hc h).congr [] fun s _ => by
        rw [hcut s]; rfl
    by_cases hclose : d = ')'
    · exact settles_of_eq [d] x fun s _ => by
        rw [List.cons_append, cutUrlBody, if_neg hspace, if_pos hclose]
    by_cases hspoils : spoilsUrl d
    · have hcut (s : List Char) : cutUrlBody (d :: (x ++ s)) = (cutBadUrl (x ++ s)).after [d] := by
        rw [cutUrlBody, if_neg hspace, if_neg hclose, if_pos hspoils]
      rw [List.cons_append, hcut, Cut.snd_after] at h
      exact (local_cutBadUrl x c s hc h).congr _ fun s _ => hcut s
    by_cases hback : d = '\\'
    · by_cases hnewline : startsNewline x
      · have hcut (s : List Char) (hs : AtStop s) : cutUrlBody (d :: (x ++ s))
            = (cutBadUrl (x ++ s)).after [d] := by
          rw [cutUrlBody, if_neg hspace, if_neg hclose, if_neg hspoils, if_pos hback,
            startsNewline_append hs, if_pos hnewline]
        rw [List.cons_append, hcut _ (atStop_cons hc), Cut.snd_after] at h
        exact (local_cutBadUrl x c s hc h).congr _ hcut
      · have hcut (s : List Char) (hs : AtStop s) : cutUrlBody (d :: (x ++ s))
            = (cutUrlBody (cutEscape (x ++ s)).2).after (d :: (cutEscape (x ++ s)).1) := by
          rw [cutUrlBody, if_neg hspace, if_neg hclose, if_neg hspoils, if_pos hback,
            startsNewline_append hs, if_neg hnewline]
        rw [List.cons_append, hcut _ (atStop_cons hc), Cut.snd_after] at h
        have hescape := local_cutEscape x c s hc (Nat.lt_of_lt_of_le h (length_cutUrlBody_le _))
        refine (hescape.andThen (g := cutUrlBody) fun front y hy => ?_).congr [d] hcut
        have hlength : y.length ≤ x.length := by
          rw [eq_append_of_settles whole_cutEscape hy, List.length_append]
          exact Nat.le_add_left _ _
        rw [hy _ (atStop_cons hc)] at h
        exact local_cutUrlBody y c s hc h
    · have hcut (s : List Char) : cutUrlBody (d :: (x ++ s)) = (cutUrlBody (x ++ s)).after [d] := by
        rw [cutUrlBody, if_neg hspace, if_neg hclose, if_neg hspoils, if_neg hback]
      rw [List.cons_append, hcut, Cut.snd_after] at h
      exact (local_cutUrlBody x c s hc h).congr _ fun s _ => hcut s
termination_by x => x.length

/-- Whether there is a url does not depend on what stands at a stop, if there is none or it ends
before the stop. -/
lemma local_cutUrl? {c : Char} {s : List Char} (hc : isStop c)
    (h : ∀ cut ∈ cutUrl? (x ++ c :: s), s.length < cut.2.length) :
    (∀ s, AtStop s → cutUrl? (x ++ s) = none) ∨
    ∃ front y, ∀ s, AtStop s → cutUrl? (x ++ s) = some (front, y ++ s) := by
  obtain ⟨spaces, y, hy⟩ := spaces_of_isStop x
  have hquotes : ¬ (c = '"' ∨ c = '\'') :=
    not_or.2 ⟨ne_of_isStop hc rfl, ne_of_isStop hc rfl⟩
  cases y with
  | nil =>
    have hcut : cutUrl? (x ++ c :: s) = some ((cutUrlBody (c :: s)).after spaces) := by
      simp [cutUrl?, hy _ (atStop_cons hc), ne_of_isStop (d := ')') hc rfl, hquotes]
    have hlength := h _ hcut
    rw [Cut.snd_after, cutUrlBody_stop hc, Cut.snd_after] at hlength
    exact absurd (length_cutUrlBody_le s) (Nat.not_le_of_lt hlength)
  | cons d y =>
    by_cases hclose : d = ')'
    · exact .inr ⟨spaces ++ [d], y, fun s hs => by simp [cutUrl?, hy s hs, hclose]⟩
    by_cases hquote : d = '"' ∨ d = '\''
    · exact .inl fun s hs => by simp [cutUrl?, hy s hs, hclose, hquote]
    · have hcut (s : List Char) (hs : AtStop s) : cutUrl? (x ++ s)
          = some ((cutUrlBody (d :: y ++ s)).after spaces) := by
        simp [cutUrl?, hy s hs, hclose, hquote]
      have hlength := h _ (hcut _ (atStop_cons hc))
      obtain ⟨front, z, hz⟩ := local_cutUrlBody (d :: y) c s hc hlength
      exact .inr ⟨spaces ++ front, z, fun s hs => by rw [hcut s hs, hz s hs]; rfl⟩

/-! ### Numbers -/

lemma settles_digits (x : List Char) : Settles (cutWhile isDigit) x :=
  settles_cutWhile isDigit_of_isStop x

lemma settles_cutFraction (x : List Char) : Settles cutFraction x := by
  cases x with
  | nil =>
    refine settles_of_eq [] [] fun s hs => ?_
    rcases hs.cases with rfl | ⟨c, rest, rfl, hc⟩
    · rfl
    · simp [cutFraction, ne_of_isStop (d := '.') hc rfl]
  | cons d x =>
    by_cases hd : d = '.'
    · subst hd
      by_cases hdigit : startsDigit x
      · exact (settles_digits x).congr ['.'] fun s hs => by
          simp [cutFraction, startsDigit_append hs, hdigit]
      · exact settles_of_eq [] ('.' :: x) fun s hs => by
          simp [cutFraction, startsDigit_append hs, hdigit]
    · exact settles_of_eq [] (d :: x) fun s _ => by simp [cutFraction, hd]

lemma settles_cutExponent (x : List Char) : Settles cutExponent x := by
  match x with
  | [] =>
    refine settles_of_eq [] [] fun s hs => ?_
    rcases hs.cases with rfl | ⟨c, rest, rfl, hc⟩
    · rfl
    · simp [cutExponent, ne_of_isStop (d := 'e') hc rfl, ne_of_isStop (d := 'E') hc rfl]
  | [d] =>
    refine settles_of_eq [] [d] fun s hs => ?_
    rcases hs.cases with rfl | ⟨c, rest, rfl, hc⟩
    · simp [cutExponent]
    · simp [cutExponent, isDigit_of_isStop c hc, ne_of_isStop (d := '+') hc rfl,
        ne_of_isStop (d := '-') hc rfl]
  | d :: e :: x =>
    by_cases hd : d = 'e' ∨ d = 'E'
    · by_cases hdigit : isDigit e
      · exact (settles_digits (e :: x)).congr [d] fun s _ => by
          simp [cutExponent, hd, hdigit]
      by_cases hsign : (e = '+' ∨ e = '-') ∧ startsDigit x
      · exact (settles_digits x).congr [d, e] fun s hs => by
          simp [cutExponent, hd, hdigit, hsign, startsDigit_append hs]
      · exact settles_of_eq [] (d :: e :: x) fun s hs => by
          simp [cutExponent, hd, hdigit, hsign, startsDigit_append hs]
    · exact settles_of_eq [] (d :: e :: x) fun s _ => by simp [cutExponent, hd]

lemma local_cutUnit : Local cutUnit := by
  intro x c s hc h
  by_cases hpercent : x.head? = some '%'
  · obtain ⟨x, rfl⟩ := exists_cons_of_head? hpercent
    exact settles_of_eq ['%'] x fun s _ => rfl
  · have hcut (s : List Char) (hs : AtStop s) : cutUnit (x ++ s)
        = if startsName x then cutName (x ++ s) else ([], x ++ s) := by
      rw [cutUnit, startsName_append hs]
      rintro rest heq
      cases x with
      | nil =>
        rcases hs.cases with rfl | ⟨d, more, rfl, hd⟩
        · cases heq
        · simp [ne_of_isStop (d := '%') hd rfl] at heq
      | cons d x =>
        cases heq
        exact hpercent rfl
    by_cases hname : startsName x
    · rw [hcut _ (atStop_cons hc), if_pos hname] at h
      exact (local_cutName x c s hc h).congr [] fun s hs => by
        rw [hcut s hs, if_pos hname]; rfl
    · exact settles_of_eq [] x fun s hs => by rw [hcut s hs, if_neg hname]

lemma local_cutScale : Local cutScale := by
  intro x c s hc h
  refine (settles_cutExponent x).andThen fun front y hy => ?_
  simp only [cutScale, hy _ (atStop_cons hc), Cut.snd_after] at h
  exact local_cutUnit y c s hc h

lemma local_cutDecimals : Local cutDecimals := by
  intro x c s hc h
  refine (settles_digits x).andThen fun front y hy => ?_
  simp only [cutDecimals, hy _ (atStop_cons hc), Cut.snd_after] at h
  exact local_cutScale y c s hc h

lemma local_cutNumber : Local cutNumber := by
  intro x c s hc h
  obtain ⟨digits, y, hy⟩ := settles_digits x
  obtain ⟨fraction, z, hz⟩ := settles_cutFraction y
  have hcut (s : List Char) (hs : AtStop s) : cutNumber (x ++ s)
      = (cutScale (z ++ s)).after (digits ++ fraction) := by
    simp [cutNumber, hy s hs, hz s hs]
  rw [hcut _ (atStop_cons hc), Cut.snd_after] at h
  exact (local_cutScale z c s hc h).congr _ hcut

/-! ### Lexemes -/

/-- A reading of the text `x` that is the same whatever stands behind `x`, if only that is at a
stop. -/
def ReadingSettles (f : List Char → Reading) (x : List Char) : Prop :=
  ∃ token front y, ∀ s, AtStop s → f (x ++ s) = ⟨token, (front, y ++ s)⟩

/-- A reading that ends before some stop does not depend on what stands there. -/
def ReadingLocal (f : List Char → Reading) : Prop :=
  ∀ x c s, isStop c → s.length < (f (x ++ c :: s)).cut.2.length → ReadingSettles f x

/-- A reading that cuts a text as `g` does. -/
lemma readingSettles_of_cut {f : List Char → Reading} {y front : List Char} {token : Token}
    (hg : Settles g y) (h : ∀ s, AtStop s → f (x ++ s) = ⟨token, (g (y ++ s)).after front⟩) :
    ReadingSettles f x := by
  obtain ⟨first, z, hz⟩ := hg
  exact ⟨token, front ++ first, z, fun s hs => by rw [h s hs, hz s hs]; rfl⟩

lemma Local.reading (hg : Local g) (token : Token) (front : List Char) :
    ReadingLocal fun rest => ⟨token, (g rest).after front⟩ :=
  fun x c s hc h => readingSettles_of_cut (hg x c s hc h) fun _ _ => rfl

lemma local_literal (front : List Char) : ReadingLocal (Reading.literal front) :=
  fun x _ _ _ _ => ⟨.literal, front, x, fun _ _ => rfl⟩

/-- A choice by what comes next, if no stop matters for it. -/
lemma local_ite {p : List Char → Bool} {f k : List Char → Reading}
    (hchoice : ∀ {x s}, AtStop s → p (x ++ s) = p x) (hf : ReadingLocal f)
    (hk : ReadingLocal k) : ReadingLocal fun rest => if p rest then f rest else k rest := by
  intro x c s hc h
  simp only [hchoice (atStop_cons hc)] at h
  by_cases hx : p x
  · rw [if_pos hx] at h
    obtain ⟨token, front, y, hy⟩ := hf x c s hc h
    exact ⟨token, front, y, fun s hs => by simp only [hchoice hs, if_pos hx, hy s hs]⟩
  · rw [if_neg hx] at h
    obtain ⟨token, front, y, hy⟩ := hk x c s hc h
    exact ⟨token, front, y, fun s hs => by simp only [hchoice hs, if_neg hx, hy s hs]⟩

lemma readName_of_no_bracket {c : Char} {rest : List Char}
    (h : (cutNameFrom c rest).2.head? ≠ some '(') :
    readName c rest
      = ⟨.ident (String.ofList (decodeName (cutNameFrom c rest).1)), cutNameFrom c rest⟩ := by
  unfold readName
  simp only
  split
  · next inner hinner => exact absurd (congrArg List.head? hinner) h
  · rfl

/-- A name with a bracket behind it, told apart by whether it opens a url. -/
lemma readName_of_bracket {c : Char} {rest front inner : List Char}
    (h : cutNameFrom c rest = (front, '(' :: inner)) :
    readName c rest = match
        if Text.sameLetters (String.ofList (decodeName front)) "url" then cutUrl? inner
        else none with
      | some url => ⟨.literal, url.after (front ++ ['('])⟩
      | none => ⟨.function (String.ofList (decodeName front)), (front ++ ['('], inner)⟩ := by
  unfold readName
  rw [h]
  rfl

lemma length_readName_le (c : Char) (rest : List Char) :
    (readName c rest).cut.2.length ≤ (cutNameFrom c rest).2.length := by
  by_cases hbracket : (cutNameFrom c rest).2.head? = some '('
  · obtain ⟨inner, hinner⟩ := exists_cons_of_head? hbracket
    rw [readName_of_bracket (Prod.ext rfl hinner), hinner]
    split
    · next url hurl =>
      rw [Option.ite_none_right_eq_some] at hurl
      have hlength := Cut.length_snd_le_of_whole (whole_of_cutUrl? hurl.2)
      rw [Cut.snd_after, List.length_cons]
      omega
    · exact Nat.le_succ _
  · exact Nat.le_of_eq (by rw [readName_of_no_bracket hbracket])

lemma local_readName (c : Char) : ReadingLocal (readName c) := by
  intro x d s hd h
  obtain ⟨front, y, hy⟩ := local_cutNameFrom c x d s hd
    (Nat.lt_of_lt_of_le h (length_readName_le c _))
  by_cases hbracket : y.head? = some '('
  · obtain ⟨y, rfl⟩ := exists_cons_of_head? hbracket
    have hread (s : List Char) (hs : AtStop s) := readName_of_bracket
      (show cutNameFrom c (x ++ s) = (front, '(' :: (y ++ s)) from hy s hs)
    by_cases hurl : Text.sameLetters (String.ofList (decodeName front)) "url"
    · simp only [if_pos hurl] at hread
      have hlength (cut : Cut) (hcut : cut ∈ cutUrl? (y ++ d :: s)) : s.length < cut.2.length := by
        rw [Option.mem_def] at hcut
        rwa [hread _ (atStop_cons hd), hcut] at h
      rcases local_cutUrl? hd hlength with hnone | ⟨first, z, hz⟩
      · exact ⟨_, _, y, fun s hs => by rw [hread s hs, hnone s hs]⟩
      · exact ⟨.literal, front ++ ['('] ++ first, z, fun s hs => by rw [hread s hs, hz s hs]; rfl⟩
    · simp only [if_neg hurl] at hread
      exact ⟨_, _, y, hread⟩
  · have hread (s : List Char) (hs : AtStop s) : readName c (x ++ s)
        = ⟨.ident (String.ofList (decodeName front)), (front, y ++ s)⟩ := by
      rw [readName_of_no_bracket, hy s hs]
      rw [hy s hs]
      cases y with
      | nil =>
        rcases hs.cases with rfl | ⟨e, rest, rfl, he⟩
        · simp
        · simpa using ne_of_isStop he rfl
      | cons e y => simpa using hbracket
    exact ⟨_, _, y, hread⟩

/-- What has no stop in it stands before one altogether or not at all. -/
lemma prefix_of_prefix_append {front s : List Char} (hs : AtStop s)
    (hfront : ∀ c ∈ front, isStop c = false) (h : front <+: x ++ s) : front <+: x := by
  induction front generalizing x with
  | nil => exact List.nil_prefix
  | cons c front ih =>
    rw [List.forall_mem_cons] at hfront
    cases x with
    | nil =>
      rcases hs.cases with rfl | ⟨d, rest, rfl, hd⟩
      · simp at h
      · rw [List.nil_append, List.cons_prefix_cons] at h
        exact absurd h.1.symm (ne_of_isStop hd hfront.1)
    | cons d x =>
      rw [List.cons_append, List.cons_prefix_cons] at h
      exact List.cons_prefix_cons.2 ⟨h.1, ih hfront.2 h.2⟩

lemma settles_literal {f : List Char → Reading} {front y : List Char}
    (h : ∀ s, AtStop s → f (x ++ s) = .literal front (y ++ s)) : ReadingSettles f x :=
  ⟨.literal, front, y, h⟩

lemma ReadingSettles.congr {f k : List Char → Reading} (hf : ReadingSettles f x)
    (h : ∀ s, AtStop s → k (x ++ s) = f (x ++ s)) : ReadingSettles k x := by
  obtain ⟨token, front, y, hy⟩ := hf
  exact ⟨token, front, y, fun s hs => (h s hs).trans (hy s hs)⟩

lemma startsHash_append {s : List Char} (hs : AtStop s) :
    (startsName (x ++ s) || startsDigit (x ++ s) || (x ++ s).head? == some '-')
      = (startsName x || startsDigit x || x.head? == some '-') := by
  rw [startsName_append hs, startsDigit_append hs]
  cases x with
  | nil =>
    rcases hs.cases with rfl | ⟨c, rest, rfl, hc⟩
    · rfl
    · simp [ne_of_isStop (d := '-') hc rfl]
  | cons => rfl

lemma readPunctuation_slash {rest : List Char} (h : ¬ ['*'] <+: rest) :
    readPunctuation '/' rest = .literal ['/'] rest := by
  unfold readPunctuation
  split <;> simp_all [isMatchSign]

lemma readPunctuation_less {rest : List Char} (h : ¬ ['!', '-', '-'] <+: rest) :
    readPunctuation '<' rest = .literal ['<'] rest := by
  unfold readPunctuation
  split <;> simp_all [isMatchSign]

lemma readPunctuation_hyphen {rest : List Char} (h : ¬ ['-', '>'] <+: rest) :
    readPunctuation '-' rest = if startsNumber rest then ⟨.literal, (cutNumber rest).after ['-']⟩
      else if startsName ('-' :: rest) then readName '-' rest else .literal ['-'] rest := by
  unfold readPunctuation
  simp only
  split
  · rfl
  · split
    · simp_all
    · rfl

/-- The punctuation characters that mean something before something else than an equals sign. -/
def punctuation : List Char := ['#', '@', '/', '<', '.', '+', '-']

lemma readPunctuation_equals {c : Char} (hc : c ∉ punctuation) (rest : List Char) :
    readPunctuation c ('=' :: rest)
      = if isMatchSign c then .literal [c, '='] rest else .literal [c] ('=' :: rest) := by
  unfold readPunctuation
  split <;> simp_all [punctuation]

lemma readPunctuation_other {c : Char} {rest : List Char} (hc : c ∉ punctuation)
    (h : ¬ ['='] <+: rest) : readPunctuation c rest = .literal [c] rest := by
  unfold readPunctuation
  split <;> simp_all [punctuation]

lemma local_readPunctuation (c : Char) : ReadingLocal (readPunctuation c) := by
  intro x d s hd h
  by_cases hmem : c ∈ punctuation
  · rw [punctuation] at hmem
    simp only [List.mem_cons, List.not_mem_nil, or_false] at hmem
    rcases hmem with rfl | rfl | rfl | rfl | rfl | rfl | rfl
    · exact local_ite startsHash_append (local_cutName.reading .literal ['#'])
        (local_literal ['#']) x d s hd h
    · exact local_ite startsName_append (local_cutName.reading .atKeyword ['@'])
        (local_literal ['@']) x d s hd h
    · by_cases hcomment : ['*'] <+: x
      · obtain ⟨x, rfl⟩ := hcomment
        exact readingSettles_of_cut (local_cutComment x d s hd h) fun s _ => rfl
      · exact settles_literal fun s hs => readPunctuation_slash fun hprefix =>
          hcomment (prefix_of_prefix_append hs (by simp [isStop]) hprefix)
    · by_cases hopen : ['!', '-', '-'] <+: x
      · obtain ⟨x, rfl⟩ := hopen
        exact settles_literal fun s _ => rfl
      · exact settles_literal fun s hs => readPunctuation_less fun hprefix =>
          hopen (prefix_of_prefix_append hs (by simp [isStop]) hprefix)
    · exact local_ite startsDigit_append (local_cutDecimals.reading .literal ['.'])
        (local_literal ['.']) x d s hd h
    · exact local_ite startsNumber_append (local_cutNumber.reading .literal ['+'])
        (local_literal ['+']) x d s hd h
    · by_cases hclose : ['-', '>'] <+: x
      · obtain ⟨x, rfl⟩ := hclose
        exact settles_literal fun s _ => rfl
      · have hread (s : List Char) (hs : AtStop s) := readPunctuation_hyphen fun hprefix =>
          hclose (prefix_of_prefix_append hs (by simp [isStop]) hprefix)
        rw [hread _ (atStop_cons hd)] at h
        have hname {x s : List Char} (hs : AtStop s) :
            startsName ('-' :: (x ++ s)) = startsName ('-' :: x) :=
          startsName_append (x := '-' :: x) hs
        exact (local_ite startsNumber_append (local_cutNumber.reading .literal ['-'])
          (local_ite (p := fun rest => startsName ('-' :: rest)) hname (local_readName '-')
            (local_literal ['-'])) x d s hd h).congr hread
  · by_cases hequals : ['='] <+: x
    · obtain ⟨x, rfl⟩ := hequals
      by_cases hmatch : isMatchSign c
      · exact settles_literal fun s _ => (readPunctuation_equals hmem _).trans (if_pos hmatch)
      · exact settles_literal (y := '=' :: x) fun s _ =>
          (readPunctuation_equals hmem _).trans (if_neg hmatch)
    · exact settles_literal fun s hs => readPunctuation_other hmem fun hprefix =>
        hequals (prefix_of_prefix_append hs (by simp [isStop]) hprefix)

lemma read_of_space {c : Char} (h : isSpace c) (rest : List Char) :
    read c rest = ⟨.blank, (cutWhile isSpace rest).after [c]⟩ := by
  unfold read
  rw [if_pos h]

/-- The characters that `read` does not leave to names, numbers and punctuation. -/
def startsOther : List Char := ['(', '[', '{', ')', ']', '}', ';', ',', '"', '\'', '\\']

lemma read_of_not_mem {c : Char} (hspace : ¬ isSpace c) (h : c ∉ startsOther) (rest : List Char) :
    read c rest = if isDigit c then ⟨.literal, (cutNumber rest).after [c]⟩
      else if isNameStart c then readName c rest else readPunctuation c rest := by
  unfold read
  rw [if_neg hspace]
  split <;> first | rfl | exact absurd h (by simp [startsOther])

lemma local_read (c : Char) : ReadingLocal (read c) := by
  intro x d s hd h
  by_cases hspace : isSpace c
  · exact readingSettles_of_cut (settles_cutWhile isSpace_of_isStop x)
      fun s _ => read_of_space hspace _
  by_cases hmem : c ∈ startsOther
  · rw [startsOther] at hmem
    simp only [List.mem_cons, List.not_mem_nil, or_false] at hmem
    rcases hmem with rfl | rfl | rfl | rfl | rfl | rfl | rfl | rfl | rfl | rfl | rfl
    iterate 8 exact ⟨_, _, x, fun s _ => rfl⟩
    · exact (local_cutString rfl).reading .literal ['"'] x d s hd h
    · exact (local_cutString rfl).reading .literal ['\''] x d s hd h
    · exact local_ite startsNewline_append (local_literal ['\\']) (local_readName '\\') x d s hd h
  · have hread := read_of_not_mem hspace hmem
    by_cases hdigit : isDigit c
    · simp only [if_pos hdigit] at hread
      rw [hread] at h
      exact (local_cutNumber.reading .literal [c] x d s hd h).congr fun s _ => hread _
    by_cases hname : isNameStart c
    · simp only [if_neg hdigit, if_pos hname] at hread
      rw [hread] at h
      exact (local_readName c x d s hd h).congr fun s _ => hread _
    · simp only [if_neg hdigit, if_neg hname] at hread
      rw [hread] at h
      exact (local_readPunctuation c x d s hd h).congr fun s _ => hread _

end CustomProperties.Css
