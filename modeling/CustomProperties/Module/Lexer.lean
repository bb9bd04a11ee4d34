import CustomProperties.Module.Escape
import CustomProperties.Module.Numeral
import CustomProperties.Text.Blank
import CustomProperties.Text.Identifier

/-!
# Reading tokens of modules

`skipGap` passes over what stands between tokens, and `Token.read` reads the token after it. A
string may be cut off by the end of a line or of the text. Old spellings are read as what they
meant: octal numbers and escapes, and comments that start as in a page.
-/

namespace CustomProperties.Module

open Text (isBlank isDigitIn charOfCode? textOfCodes? startsIdentifier continuesIdentifier)

/-! ### Gaps -/

/-- What a place between two tokens belongs to. -/
inductive Gap where
  | blank
  | lineComment
  | blockComment
deriving DecidableEq, Repr

/-- Whether a character is passed over between tokens. Besides blanks these are the mark of byte
order and the space without width. -/
def isGapBlank (c : Char) : Bool := isBlank c || c == '\uFEFF' || c == '\u200B'

/-- Pass over blanks and comments. Tells whether a line ends there, or did before, and what is
left. -/
def skipGap : Gap → Bool → List Char → Bool × List Char
  | _, broken, [] => (broken, [])
  | .lineComment, broken, c :: rest =>
    if isLineBreak c then skipGap .blank true rest else skipGap .lineComment broken rest
  | .blockComment, broken, '*' :: '/' :: rest => skipGap .blank broken rest
  | .blockComment, broken, c :: rest => skipGap .blockComment (broken || isLineBreak c) rest
  | .blank, broken, '/' :: '/' :: rest => skipGap .lineComment broken rest
  | .blank, broken, '/' :: '*' :: rest => skipGap .blockComment broken rest
  | .blank, broken, '<' :: '!' :: '-' :: '-' :: rest => skipGap .lineComment broken rest
  | .blank, true, '-' :: '-' :: '>' :: rest => skipGap .lineComment true rest
  | .blank, broken, c :: rest =>
    if isLineBreak c then skipGap .blank true rest
    else if isGapBlank c then skipGap .blank broken rest
    else (broken, c :: rest)

/-! ### Strings and templates -/

/-- Read a string up to its closing quote, the end of the line or the end of the text: the codes in
it, unless an escape is broken, and the text behind it. Of a string that is not closed only what
stands behind its last escape is kept. The codes read so far are given in reverse, all of them and
those behind the last escape. -/
def readString (quote : Char) (codes recent : List Nat) : List Char → Option (List Nat) × List Char
  | [] => (some recent.reverse, [])
  | '\\' :: rest =>
    match Escape.read false rest with
    | .code code length => readString quote (code :: codes) [] (rest.drop length)
    | .lineBreak length => readString quote codes [] (rest.drop length)
    | .broken length => (none, rest.drop length)
  | c :: rest =>
    if c == quote then (some codes.reverse, rest)
    else if c == '\n' || c == '\r' then (some recent.reverse, c :: rest)
    else readString quote (c.toNat :: codes) (c.toNat :: recent) rest
termination_by text => text.length
decreasing_by all_goals (simp only [List.length_cons, List.length_drop]; omega)

/-- Read the text of a template up to an expression or its end. -/
def readTemplate : List Char → Option (TemplatePiece × List Char)
  | [] => none
  | '\x60' :: rest => some (⟨false, true⟩, rest)
  | '$' :: '{' :: rest => some (⟨true, true⟩, rest)
  | '\\' :: rest =>
    match Escape.read true rest with
    | .code _ length => readTemplate (rest.drop length)
    | .lineBreak length => readTemplate (rest.drop length)
    | .broken length =>
      (readTemplate (rest.drop length)).map fun (piece, rest) =>
        ({ piece with meaningful := false }, rest)
  | _ :: rest => readTemplate rest
termination_by text => text.length
decreasing_by all_goals (simp only [List.length_cons, List.length_drop]; omega)

/-- Read a piece of a template as a token. One that is not closed takes in the whole text. -/
def readTemplateToken (text : List Char) : Token × List Char :=
  match readTemplate text with
  | some (piece, rest) => (.template piece, rest)
  | none => (.unreadable, [])

/-! ### Words -/

/-- Whether a name may start with a character. -/
def startsName (c : Char) : Bool := c == '$' || c == '_' || startsIdentifier c

/-- Whether a name may go on with a character. The two join controls may stand in a name. -/
def continuesName (c : Char) : Bool :=
  c == '$' || c == '\u200C' || c == '\u200D' || continuesIdentifier c

/-- What an escape in a name writes. Half of a surrogate pair stands for its own escape. -/
def nameText (code : Nat) : List Char :=
  match charOfCode? code with
  | some c => [c]
  | none => "\\u".toList ++ (Nat.toDigits 16 code).map Char.toUpper

/-- Read the rest of a word: its characters and whether escapes were used, unless one is broken, and
the text behind it. The characters read so far are given in reverse. -/
def readWord (front : List Char) (escaped : Bool) :
    List Char → Option (List Char × Bool) × List Char
  | [] => (some (front.reverse, escaped), [])
  | '\\' :: 'u' :: rest =>
    match Escape.ofUnicode rest with
    | .code code length => readWord ((nameText code).reverse ++ front) true (rest.drop length)
    | .lineBreak length => (none, rest.drop length)
    | .broken length => (none, rest.drop length)
  | '\\' :: rest => (none, rest)
  | c :: rest =>
    if continuesName c then readWord (c :: front) escaped rest
    else (some (front.reverse, escaped), c :: rest)
termination_by text => text.length
decreasing_by all_goals (simp only [List.length_cons, List.length_drop]; omega)

/-- The words that an escape may not be part of. The first token of a text is read before it is
known to be one of a module. -/
def unescapedWords (first : Bool) : List String := if first then keywords else unusableWords

/-- Read a word with a known first character. -/
def readWordToken (first : Bool) (c : Char) (rest : List Char) : Token × List Char :=
  match readWord [] false (c :: rest) with
  | (some (word, escaped), rest) =>
    let word := String.ofList word
    if c == '\\' then (.word word true, rest)
    else if escaped && (unescapedWords first).contains word then (.unreadable, rest)
    else (.word word false, rest)
  | (none, rest) => (.unreadable, rest)

/-! ### Marks and regular expressions -/

/-- The punctuation marks, none before a longer one that it starts. -/
def marks : List String := [
  ">>>=", "...", "===", "!==", "**=", "<<=", ">>=", ">>>", "&&=", "||=", "??=",
  "=>", "==", "!=", "<=", ">=", "&&", "||", "??", "++", "--", "+=", "-=", "*=", "/=", "%=",
  "&=", "|=", "^=", "**", "<<", ">>",
  "\x7b", "\x7d", "(", ")", "[", "]", ";", ",", "<", ">", "+", "-", "*", "/", "%", "&", "|", "^",
  "!", "~", "?", ":", "=", ".", "@", "#"]

/-- Read a punctuation mark. -/
def readMark (text : List Char) : Token × List Char :=
  match marks.find? (·.toList.isPrefixOf text) with
  | some mark => (.mark mark, text.drop mark.length)
  | none => (.unreadable, text.drop 1)

/-- Read a regular expression behind its first slash: whether it is closed, and the text behind it.
In square brackets a slash does not close it, and nothing does on another line. -/
def readPattern : (bracketed : Bool) → List Char → Bool × List Char
  | _, [] => (false, [])
  | bracketed, '\\' :: c :: rest =>
    if c == '\n' || c == '\r' then (false, c :: rest) else readPattern bracketed rest
  | bracketed, c :: rest =>
    if c == '\n' || c == '\r' then (false, c :: rest)
    else if c == '/' && !bracketed then (true, rest)
    else readPattern (c == '[' || (bracketed && c != ']')) rest

/-- Read the flags of a regular expression, unless an escape in them is broken, and the text behind
them. They start with an ASCII character. -/
def readFlags (text : List Char) : Option (List Char) × List Char :=
  if Numeral.meetsName text then
    let (word?, rest) := readWord [] false text
    (word?.map (·.1), rest)
  else (some [], text)

/-! ### Tokens -/

/-- Read the first token of a text, and the text behind it. -/
def Token.read (first : Bool) : List Char → Token × List Char
  | [] => (.endOfText, [])
  | c :: rest =>
    if startsName c || c == '\\' then readWordToken first c rest
    else if isDigitIn 10 c || (c == '.' && rest.head?.any (isDigitIn 10)) then Numeral.read c rest
    else if c == '"' || c == '\'' then
      match readString c [] [] rest with
      | (some codes, rest) => (.string ((textOfCodes? codes).map String.ofList), rest)
      | (none, rest) => (.unreadable, rest)
    else if c == '\x60' then readTemplateToken rest
    else readMark (c :: rest)

end CustomProperties.Module
