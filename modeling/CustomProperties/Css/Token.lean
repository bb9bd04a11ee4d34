/-!
# Tokens of style sheet text

A `Lexeme` is a token together with the text it was read from. Only what the structure of a
sheet or a value depends on is told apart; strings, numbers, urls, hashes and lone punctuation
are all literals, known by their text.
-/

namespace CustomProperties.Css

/-- The three kinds of brackets. -/
inductive Bracket where
  | round
  | square
  | curly
deriving DecidableEq, Repr, Inhabited

namespace Bracket

/-- The character that opens a bracket. -/
def opening : Bracket → Char
  | round => '('
  | square => '['
  | curly => '{'

/-- The character that closes a bracket. -/
def closing : Bracket → Char
  | round => ')'
  | square => ']'
  | curly => '}'

end Bracket

/-- What a piece of text is. -/
inductive Token where
  | blank
  | comment
  | ident (name : String)
  /-- A name and the round bracket that follows it. -/
  | function (name : String)
  | atKeyword
  | opening (bracket : Bracket)
  | closing (bracket : Bracket)
  | semicolon
  | comma
  /-- Anything else, known by its text alone. -/
  | literal
deriving DecidableEq, Repr, Inhabited

namespace Token

/-- The bracket that a token opens. -/
def opens? : Token → Option Bracket
  | function _ => some .round
  | opening bracket => some bracket
  | _ => none

/-- Whether a token closes a bracket of the given kind. -/
def closes (bracket : Bracket) : Token → Bool
  | closing b => b == bracket
  | _ => false

end Token

/-- A token and the text it was read from. -/
structure Lexeme where
  token : Token
  text : List Char
deriving DecidableEq, Repr, Inhabited

/-- The text of a sequence of lexemes. -/
def Lexeme.textOf (lexemes : List Lexeme) : List Char := lexemes.flatMap (·.text)

@[simp] theorem Lexeme.textOf_nil : Lexeme.textOf [] = [] := rfl

@[simp] theorem Lexeme.textOf_cons (l : Lexeme) (ls : List Lexeme) :
    Lexeme.textOf (l :: ls) = l.text ++ Lexeme.textOf ls := rfl

@[simp] theorem Lexeme.textOf_append (ls ms : List Lexeme) :
    Lexeme.textOf (ls ++ ms) = Lexeme.textOf ls ++ Lexeme.textOf ms := by
  simp [Lexeme.textOf]

end CustomProperties.Css
