import CustomProperties.Decimal.Double

/-!
# Tokens of modules

A module is read token by token. Whether a slash starts a regular expression, and where the text of
a template goes on, depends on what stands before, so those two are read on demand.
-/

namespace CustomProperties.Module

/-- How a piece of a template ends. -/
structure TemplatePiece where
  /-- Whether an expression follows. -/
  opens : Bool
  /-- Whether all escapes in it have a meaning. -/
  meaningful : Bool
deriving DecidableEq, Repr, Inhabited

/-- A token of a module. -/
inductive Token where
  | endOfText
  /-- A name or a keyword. One that starts with an escape can only be a name. -/
  | word (text : String) (onlyName : Bool)
  /-- A string, or none if it holds half of a surrogate pair. -/
  | string (value : Option String)
  | number (value : Double)
  | bigInteger
  /-- The first piece of a template. -/
  | template (piece : TemplatePiece)
  /-- A punctuation mark. -/
  | mark (text : String)
  /-- Something that is no token. -/
  | unreadable
deriving DecidableEq, Repr, Inhabited

/-- The words that are no names in any text. -/
def keywords : List String := [
  "break", "case", "catch", "class", "const", "continue", "debugger", "default", "delete", "do",
  "else", "enum", "export", "extends", "false", "finally", "for", "function", "if", "import", "in",
  "instanceof", "new", "null", "return", "super", "switch", "this", "throw", "true", "try",
  "typeof", "var", "void", "while", "with"]

/-- The words that are no names in an object or a list of imports. -/
def reservedWords : List String :=
  keywords ++ ["await", "implements", "interface", "let", "package", "private", "protected",
    "public", "yield"]

/-- The words that are no names in an expression of a module. -/
def unusableWords : List String := "static" :: reservedWords

/-- The names that must not be declared, though it is only a mistake. -/
def fixedNames : List String := ["arguments", "eval"]

namespace Token

/-- Whether a token is a given punctuation mark. -/
def isMark (mark : String) : Token → Bool
  | .mark text => text == mark
  | _ => false

/-- Whether a token is a given word, and may be more than a name. -/
def isWord (word : String) : Token → Bool
  | .word text onlyName => text == word && !onlyName
  | _ => false

/-- Whether a token is some word. -/
def isSomeWord : Token → Bool
  | .word .. => true
  | _ => false

/-- Whether a token is a template. -/
def isTemplate : Token → Bool
  | .template _ => true
  | _ => false

/-- Whether a token is a name where an expression may refer to it. -/
def isReference : Token → Bool
  | .word text onlyName => onlyName || !unusableWords.contains text
  | _ => false

/-- Whether a token is a name that may be declared, be it by mistake. -/
def isDeclarable : Token → Bool
  | .word text onlyName => onlyName || text == "enum" || !("await" :: keywords).contains text
  | _ => false

/-- Whether `let` before a token declares a variable. -/
def followsLet : Token → Bool
  | .word text onlyName => onlyName || text == "enum" || !keywords.contains text
  | .mark text => text == "[" || text == "\x7b"
  | _ => false

/-- Whether an arrow function may start with a token. -/
def startsArrow : Token → Bool
  | .word text onlyName => onlyName || !("await" :: "let" :: keywords).contains text
  | .mark text => text == "("
  | _ => false

/-- Whether a token is an operator between two operands, other than a word. -/
def isOperator : Token → Bool
  | .mark text => ["+", "-", "*", "/", "%", "**", "<<", ">>", ">>>", "&", "|", "^", "&&", "||", "??",
      "==", "!=", "===", "!==", "<", ">", "<=", ">="].contains text
  | _ => false

/-- Whether an expression can start with a token. -/
def startsExpression : Token → Bool
  | .word text onlyName => onlyName || not (["case", "catch", "const", "default", "else", "export",
      "extends", "finally", "in", "instanceof", "return", "var", "with"].contains text)
  | .mark text => ["(", "[", "\x7b", "/", "/=", "+", "-", "++", "--", "!", "~", "#"].contains text
  | .endOfText => false
  | _ => true

end Token

end CustomProperties.Module
