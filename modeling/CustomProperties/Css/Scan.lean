/-!
# Cutting a construct off the front of a text

Each function here cuts the longest front of one kind off a text: a name, a string, a number, a
url, a comment. A front and the rest always make up the text again.
-/

namespace CustomProperties.Css

/-- A text cut in two: its front and the rest. -/
abbrev Cut := List Char × List Char

namespace Cut

/-- The whole text of a cut. -/
def whole (cut : Cut) : List Char := cut.1 ++ cut.2

/-- Put characters before the front. -/
def after (front : List Char) (cut : Cut) : Cut := (front ++ cut.1, cut.2)

@[simp] theorem whole_mk (front rest : List Char) : whole (front, rest) = front ++ rest := rfl

@[simp] theorem whole_after (front : List Char) (cut : Cut) :
    (cut.after front).whole = front ++ cut.whole := List.append_assoc ..

@[simp] theorem snd_after (front : List Char) (cut : Cut) : (cut.after front).2 = cut.2 := rfl

theorem length_snd_le_of_whole {cut : Cut} {text : List Char} (h : cut.whole = text) :
    cut.2.length ≤ text.length := by
  rw [← h, whole, List.length_append]
  omega

end Cut

/-! ### Characters -/

/-- Whether a character ends a line. -/
def isNewline (c : Char) : Bool := c == '\n' || c == '\r' || c == '\x0c'

/-- Whether a character is white space in a style sheet. -/
def isSpace (c : Char) : Bool := c == ' ' || c == '\t' || isNewline c

/-- Whether a character is a decimal digit. -/
def isDigit (c : Char) : Bool := '0' ≤ c && c ≤ '9'

/-- Whether a character is a hexadecimal digit. -/
def isHexDigit (c : Char) : Bool := isDigit c || ('a' ≤ c && c ≤ 'f') || ('A' ≤ c && c ≤ 'F')

/-- Whether a character may start a name: letters, `_`, NUL and all beyond ASCII. -/
def isNameStart (c : Char) : Bool := c.isAlpha || c == '_' || c == '\x00' || 0x80 ≤ c.toNat

/-- Whether a character may stand in a name. -/
def isNameChar (c : Char) : Bool := isNameStart c || isDigit c || c == '-'

/-- Whether a text starts with a line end. -/
def startsNewline : List Char → Bool
  | c :: _ => isNewline c
  | [] => false

/-- Whether a text starts with a digit. -/
def startsDigit : List Char → Bool
  | c :: _ => isDigit c
  | [] => false

/-- Whether a name starts here. A hyphen and a backslash start one whatever follows them. -/
def startsName : List Char → Bool
  | '-' :: c :: _ => isNameStart c || c == '-' || c == '\\'
  | '\\' :: rest => !startsNewline rest
  | c :: _ => isNameStart c
  | [] => false

/-! ### Runs -/

/-- Cut off the characters that satisfy `p`. -/
def cutWhile (p : Char → Bool) (text : List Char) : Cut := (text.takeWhile p, text.dropWhile p)

@[simp] theorem whole_cutWhile (p : Char → Bool) (text : List Char) :
    (cutWhile p text).whole = text := List.takeWhile_append_dropWhile

/-- Cut off one white-space character, a carriage return and line feed counting as one. -/
def cutSpace : List Char → Cut
  | '\r' :: '\n' :: rest => (['\r', '\n'], rest)
  | c :: rest => if isSpace c then ([c], rest) else ([], c :: rest)
  | [] => ([], [])

@[simp] theorem whole_cutSpace (text : List Char) : (cutSpace text).whole = text := by
  fun_cases cutSpace text <;> simp

/-! ### Escapes and names -/

/-- Cut off at most `n` hexadecimal digits. -/
def cutHexDigits : Nat → List Char → Cut
  | n + 1, c :: rest =>
    if isHexDigit c then (cutHexDigits n rest).after [c] else ([], c :: rest)
  | _, text => ([], text)

@[simp] theorem whole_cutHexDigits (n : Nat) (text : List Char) :
    (cutHexDigits n text).whole = text := by
  fun_induction cutHexDigits n text <;> simp_all

/-- Cut off what a backslash escapes: up to six hexadecimal digits and one white-space character
after them, or a line end, or any one character. -/
def cutEscape : List Char → Cut
  | [] => ([], [])
  | c :: rest =>
    if isHexDigit c then
      let digits := cutHexDigits 5 rest
      (cutSpace digits.2).after (c :: digits.1)
    else if isNewline c then cutSpace (c :: rest)
    else ([c], rest)

@[simp] theorem whole_cutEscape (text : List Char) : (cutEscape text).whole = text := by
  fun_cases cutEscape text <;> simp_all
  case case2 c rest _ _ => exact whole_cutHexDigits 5 rest

@[simp] theorem cutEscape_fst_append_snd (text : List Char) :
    (cutEscape text).1 ++ (cutEscape text).2 = text := whole_cutEscape text

theorem length_cutEscape_le (text : List Char) : (cutEscape text).2.length ≤ text.length :=
  Cut.length_snd_le_of_whole (whole_cutEscape text)

/-- Cut off a name: name characters and escapes. -/
def cutName : List Char → Cut
  | [] => ([], [])
  | c :: rest =>
    if c = '\\' then
      if startsNewline rest then ([], c :: rest)
      else (cutName (cutEscape rest).2).after (c :: (cutEscape rest).1)
    else if isNameChar c then (cutName rest).after [c]
    else ([], c :: rest)
termination_by text => text.length
decreasing_by
  · exact Nat.lt_succ_of_le (length_cutEscape_le rest)
  · simp

@[simp] theorem whole_cutName (text : List Char) : (cutName text).whole = text := by
  fun_induction cutName text <;> simp_all

/-- Cut off a name whose first character, or the backslash of its first escape, is known. -/
def cutNameFrom (c : Char) (rest : List Char) : Cut :=
  if c = '\\' then (cutName (cutEscape rest).2).after (c :: (cutEscape rest).1)
  else (cutName rest).after [c]

@[simp] theorem whole_cutNameFrom (c : Char) (rest : List Char) :
    (cutNameFrom c rest).whole = c :: rest := by
  fun_cases cutNameFrom c rest <;> simp

/-- The number that hexadecimal digits write. -/
def hexValue (digits : List Char) : Nat :=
  digits.foldl (fun n c =>
    16 * n + (if isDigit c then c.toNat - '0'.toNat
      else if 'a' ≤ c then c.toNat - 'a'.toNat + 10 else c.toNat - 'A'.toNat + 10)) 0

/-- The character that stands for everything that is no character. -/
def replacement : Char := '\ufffd'

/-- The character with a code point, or the replacement character where there is none. -/
def charOfCode (code : Nat) : Char :=
  if code = 0 then replacement
  else if h : code.isValidChar then Char.ofNatAux code h else replacement

/-- The character that an escape stands for, given the text after its backslash. -/
def escapedChar : List Char → Char
  | [] => replacement
  | c :: rest =>
    if isHexDigit c then charOfCode (hexValue (c :: (cutHexDigits 5 rest).1))
    else if c = '\x00' then replacement
    else c

/-- A name with its escapes replaced by the characters they stand for. -/
def decodeName : List Char → List Char
  | [] => []
  | c :: rest =>
    if c = '\\' then escapedChar rest :: decodeName (cutEscape rest).2
    else if c = '\x00' then replacement :: decodeName rest
    else c :: decodeName rest
termination_by text => text.length
decreasing_by
  · exact Nat.lt_succ_of_le (length_cutEscape_le rest)
  · simp
  · simp

/-! ### Comments and strings -/

/-- Cut off the inside of a comment and its end mark, if it has one. -/
def cutComment : List Char → Cut
  | '*' :: '/' :: rest => (['*', '/'], rest)
  | c :: rest => (cutComment rest).after [c]
  | [] => ([], [])

@[simp] theorem whole_cutComment (text : List Char) : (cutComment text).whole = text := by
  fun_induction cutComment text <;> simp_all

/-- Cut off the inside of a string and its closing quote. A string that meets a line end stops
before it. -/
def cutString (quote : Char) : List Char → Cut
  | [] => ([], [])
  | c :: rest =>
    if c = quote then ([c], rest)
    else if isNewline c then ([], c :: rest)
    else if c = '\\' then
      (cutString quote (cutEscape rest).2).after (c :: (cutEscape rest).1)
    else (cutString quote rest).after [c]
termination_by text => text.length
decreasing_by
  · exact Nat.lt_succ_of_le (length_cutEscape_le rest)
  · simp

@[simp] theorem whole_cutString (quote : Char) (text : List Char) :
    (cutString quote text).whole = text := by
  fun_induction cutString quote text <;> simp_all

/-! ### Urls -/

/-- Cut off a malformed url, up to its closing bracket. -/
def cutBadUrl : List Char → Cut
  | [] => ([], [])
  | ')' :: rest => ([')'], rest)
  | '\\' :: ')' :: rest => (cutBadUrl rest).after ['\\', ')']
  | '\\' :: '\\' :: rest => (cutBadUrl rest).after ['\\', '\\']
  | c :: rest => (cutBadUrl rest).after [c]

@[simp] theorem whole_cutBadUrl (text : List Char) : (cutBadUrl text).whole = text := by
  fun_induction cutBadUrl text <;> simp_all

/-- Cut off white space and the closing bracket of a url. Anything else there makes the url
malformed. -/
def cutUrlEnd (text : List Char) : Cut :=
  let spaces := cutWhile isSpace text
  match spaces.2 with
  | [] => spaces
  | c :: rest =>
    if c = ')' then (spaces.1 ++ [c], rest) else (cutBadUrl rest).after (spaces.1 ++ [c])

@[simp] theorem whole_cutUrlEnd (text : List Char) : (cutUrlEnd text).whole = text := by
  have key : (cutWhile isSpace text).1 ++ (cutWhile isSpace text).2 = text :=
    whole_cutWhile isSpace text
  unfold cutUrlEnd
  simp only
  split
  · exact whole_cutWhile isSpace text
  · rename_i c rest h
    rw [h] at key
    split <;> simp_all

/-- Whether a character may not stand in a url: quotes, an opening bracket, and controls that
show nothing. -/
def spoilsUrl (c : Char) : Bool :=
  let n := c.toNat
  (1 ≤ n && n ≤ 8) || n == 0x0B || (0x0E ≤ n && n ≤ 0x1F) || n == 0x7F
    || c == '"' || c == '\'' || c == '('

/-- Cut off the characters of a url and its closing bracket. -/
def cutUrlBody : List Char → Cut
  | [] => ([], [])
  | c :: rest =>
    if isSpace c then cutUrlEnd (c :: rest)
    else if c = ')' then ([c], rest)
    else if spoilsUrl c then (cutBadUrl rest).after [c]
    else if c = '\\' then
      if startsNewline rest then (cutBadUrl rest).after [c]
      else (cutUrlBody (cutEscape rest).2).after (c :: (cutEscape rest).1)
    else (cutUrlBody rest).after [c]
termination_by text => text.length
decreasing_by
  · exact Nat.lt_succ_of_le (length_cutEscape_le rest)
  · simp

@[simp] theorem whole_cutUrlBody (text : List Char) : (cutUrlBody text).whole = text := by
  fun_induction cutUrlBody text <;> simp_all

/-- Cut off an unquoted url, given the text after its opening bracket. There is none where a
quote is the first thing in the brackets. -/
def cutUrl? (text : List Char) : Option Cut :=
  let spaces := cutWhile isSpace text
  match spaces.2 with
  | [] => some spaces
  | c :: rest =>
    if c = ')' then some (spaces.1 ++ [c], rest)
    else if c = '"' || c = '\'' then none
    else some ((cutUrlBody (c :: rest)).after spaces.1)

theorem whole_of_cutUrl? {text : List Char} {cut : Cut} (h : cutUrl? text = some cut) :
    cut.whole = text := by
  have key : (cutWhile isSpace text).1 ++ (cutWhile isSpace text).2 = text :=
    whole_cutWhile isSpace text
  unfold cutUrl? at h
  simp only at h
  split at h
  · cases h
    exact whole_cutWhile isSpace text
  · rename_i c rest hc
    rw [hc] at key
    split at h
    · cases h; simp_all
    · split at h
      · cases h
      · cases h; simpa using key

/-! ### Numbers -/

/-- Cut off a decimal point and the digits after it. -/
def cutFraction : List Char → Cut
  | '.' :: rest => if startsDigit rest then (cutWhile isDigit rest).after ['.'] else ([], '.' :: rest)
  | text => ([], text)

@[simp] theorem whole_cutFraction (text : List Char) : (cutFraction text).whole = text := by
  fun_cases cutFraction text <;> simp_all

/-- Cut off an exponent: the letter, a sign, and digits. -/
def cutExponent : List Char → Cut
  | c :: rest =>
    if c = 'e' || c = 'E' then
      match rest with
      | s :: more =>
        if isDigit s then (cutWhile isDigit rest).after [c]
        else if (s = '+' || s = '-') && startsDigit more then
          (cutWhile isDigit more).after [c, s]
        else ([], c :: rest)
      | [] => ([], c :: rest)
    else ([], c :: rest)
  | [] => ([], [])

@[simp] theorem whole_cutExponent (text : List Char) : (cutExponent text).whole = text := by
  fun_cases cutExponent text <;> simp_all

/-- Cut off a percent sign or the unit of a number. -/
def cutUnit : List Char → Cut
  | '%' :: rest => (['%'], rest)
  | text => if startsName text then cutName text else ([], text)

@[simp] theorem whole_cutUnit (text : List Char) : (cutUnit text).whole = text := by
  fun_cases cutUnit text <;> simp_all

/-- Cut off what follows the digits of a number: its exponent and its unit. -/
def cutScale (text : List Char) : Cut :=
  let exponent := cutExponent text
  (cutUnit exponent.2).after exponent.1

@[simp] theorem whole_cutScale (text : List Char) : (cutScale text).whole = text := by
  have h := whole_cutExponent text
  simp only [Cut.whole] at h
  simp [cutScale, h]

/-- Cut off the digits after a decimal point, and what follows them. -/
def cutDecimals (text : List Char) : Cut :=
  let digits := cutWhile isDigit text
  (cutScale digits.2).after digits.1

@[simp] theorem whole_cutDecimals (text : List Char) : (cutDecimals text).whole = text := by
  simp [cutDecimals, cutWhile]

/-- Cut off a number without a sign, and its unit. -/
def cutNumber (text : List Char) : Cut :=
  let whole := cutWhile isDigit text
  let fraction := cutFraction whole.2
  (cutScale fraction.2).after (whole.1 ++ fraction.1)

@[simp] theorem whole_cutNumber (text : List Char) : (cutNumber text).whole = text := by
  have h₁ := whole_cutWhile isDigit text
  have h₂ := whole_cutFraction (cutWhile isDigit text).2
  simp only [Cut.whole] at h₁ h₂
  simp only [cutNumber, Cut.whole_after, whole_cutScale, List.append_assoc, h₂, h₁]

/-- Whether a number follows a sign or stands here: a digit, or a point and a digit. -/
def startsNumber : List Char → Bool
  | '.' :: rest => startsDigit rest
  | text => startsDigit text

end CustomProperties.Css
