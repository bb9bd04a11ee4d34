import CustomProperties.Css.Scan
import CustomProperties.Css.Token
import CustomProperties.Text.Ascii

/-!
# Reading lexemes

`lex` cuts a text into lexemes. They tile it: `textOf_lex` says that their texts, one after the
other, are the text.
-/

namespace CustomProperties.Css

open Text (sameLetters)

/-- A token and the cut of the text it was read from. -/
structure Reading where
  token : Token
  cut : Cut

/-- A literal of the given characters. -/
def Reading.literal (front rest : List Char) : Reading := ⟨.literal, (front, rest)⟩

/-- Read a name, and the bracket right behind it if there is one. The name `url` before a bracket
starts a literal that holds everything in the brackets, unless a quote comes first. -/
def readName (c : Char) (rest : List Char) : Reading :=
  let cut := cutNameFrom c rest
  let name := String.ofList (decodeName cut.1)
  match cut.2 with
  | '(' :: inner =>
    let front := cut.1 ++ ['(']
    match if sameLetters name "url" then cutUrl? inner else none with
    | some url => ⟨.literal, url.after front⟩
    | none => ⟨.function name, (front, inner)⟩
  | _ => ⟨.ident name, cut⟩

/-- Whether a character makes an operator with an equals sign behind it. -/
def isMatchSign (c : Char) : Bool := c == '$' || c == '*' || c == '^' || c == '|' || c == '~'

/-- Read what starts with a punctuation character that means something only together with what
follows it. -/
def readPunctuation (c : Char) (rest : List Char) : Reading :=
  match c, rest with
  | '#', _ =>
    if startsName rest || startsDigit rest || rest.head? == some '-' then
      ⟨.literal, (cutName rest).after [c]⟩
    else .literal [c] rest
  | '@', _ =>
    if startsName rest then ⟨.atKeyword, (cutName rest).after [c]⟩ else .literal [c] rest
  | '/', '*' :: inner => ⟨.comment, (cutComment inner).after [c, '*']⟩
  | '<', '!' :: '-' :: '-' :: more => .literal [c, '!', '-', '-'] more
  | '.', _ => if startsDigit rest then ⟨.literal, (cutDecimals rest).after [c]⟩ else .literal [c] rest
  | '+', _ => if startsNumber rest then ⟨.literal, (cutNumber rest).after [c]⟩ else .literal [c] rest
  | '-', _ =>
    if startsNumber rest then ⟨.literal, (cutNumber rest).after [c]⟩
    else match rest with
      | '-' :: '>' :: more => .literal [c, '-', '>'] more
      | _ => if startsName (c :: rest) then readName c rest else .literal [c] rest
  | _, '=' :: more => if isMatchSign c then .literal [c, '='] more else .literal [c] rest
  | _, _ => .literal [c] rest

/-- Read the first lexeme of a text with a known first character. -/
def read (c : Char) (rest : List Char) : Reading :=
  if isSpace c then ⟨.blank, (cutWhile isSpace rest).after [c]⟩
  else match c with
    | '(' => ⟨.opening .round, ([c], rest)⟩
    | '[' => ⟨.opening .square, ([c], rest)⟩
    | '{' => ⟨.opening .curly, ([c], rest)⟩
    | ')' => ⟨.closing .round, ([c], rest)⟩
    | ']' => ⟨.closing .square, ([c], rest)⟩
    | '}' => ⟨.closing .curly, ([c], rest)⟩
    | ';' => ⟨.semicolon, ([c], rest)⟩
    | ',' => ⟨.comma, ([c], rest)⟩
    | '"' => ⟨.literal, (cutString c rest).after [c]⟩
    | '\'' => ⟨.literal, (cutString c rest).after [c]⟩
    | '\\' => if startsNewline rest then .literal [c] rest else readName c rest
    | _ =>
      if isDigit c then ⟨.literal, (cutNumber rest).after [c]⟩
      else if isNameStart c then readName c rest
      else readPunctuation c rest

/-! ### Tiling -/

theorem whole_readName (c : Char) (rest : List Char) :
    (readName c rest).cut.whole = c :: rest := by
  have key := whole_cutNameFrom c rest
  unfold readName
  simp only
  split
  · rename_i inner h
    rw [Cut.whole, h] at key
    split
    · rename_i url hu
      split at hu
      · simpa [whole_of_cutUrl? hu] using key
      · cases hu
    · simpa using key
  · exact key

theorem cutNameFrom_fst_ne_nil (c : Char) (rest : List Char) : (cutNameFrom c rest).1 ≠ [] := by
  fun_cases cutNameFrom c rest <;> simp [Cut.after]

theorem readName_fst_ne_nil (c : Char) (rest : List Char) : (readName c rest).cut.1 ≠ [] := by
  unfold readName
  simp only
  split
  · split <;> simp [Cut.after]
  · exact cutNameFrom_fst_ne_nil c rest

/-- The first lexeme and the rest make up the text. -/
@[simp] theorem whole_read (c : Char) (rest : List Char) : (read c rest).cut.whole = c :: rest := by
  unfold read readPunctuation
  repeat' split
  all_goals simp [Reading.literal, whole_readName]

/-- The first lexeme is not empty. -/
theorem read_fst_ne_nil (c : Char) (rest : List Char) : (read c rest).cut.1 ≠ [] := by
  unfold read readPunctuation
  repeat' split
  all_goals simp [Reading.literal, readName_fst_ne_nil, Cut.after]

theorem length_read_lt (c : Char) (rest : List Char) :
    (read c rest).cut.2.length < (c :: rest).length := by
  have h := congrArg List.length (whole_read c rest)
  rw [Cut.whole, List.length_append] at h
  have := List.length_pos_iff.2 (read_fst_ne_nil c rest)
  omega

/-! ### The lexemes of a text -/

/-- The lexemes of a text, in order. -/
def lex : List Char → List Lexeme
  | [] => []
  | c :: rest =>
    let reading := read c rest
    ⟨reading.token, reading.cut.1⟩ :: lex reading.cut.2
termination_by text => text.length
decreasing_by exact length_read_lt c rest

@[simp] theorem lex_nil : lex [] = [] := by simp [lex]

theorem lex_cons (c : Char) (rest : List Char) :
    lex (c :: rest) = ⟨(read c rest).token, (read c rest).cut.1⟩ :: lex (read c rest).cut.2 := by
  rw [lex]

/-- The lexemes of a text tile it. -/
@[simp] theorem textOf_lex (text : List Char) : Lexeme.textOf (lex text) = text := by
  fun_induction lex text with
  | case1 => rfl
  | case2 c rest reading ih =>
    rw [Lexeme.textOf_cons, ih]
    exact whole_read c rest

/-- No lexeme is empty. -/
theorem ne_nil_of_mem_lex {text : List Char} {l : Lexeme} (h : l ∈ lex text) : l.text ≠ [] := by
  fun_induction lex text with
  | case1 => cases h
  | case2 c rest reading ih =>
    rcases List.mem_cons.1 h with rfl | h
    · exact read_fst_ne_nil c rest
    · exact ih h

end CustomProperties.Css
