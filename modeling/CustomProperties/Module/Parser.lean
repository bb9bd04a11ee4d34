import CustomProperties.Module.Item

/-!
# Parsing modules

A text is parsed with a grammar that nests as deeply as the text can. A mark of byte order at the
start is passed over, and so is a first line that names an interpreter.
-/

namespace CustomProperties.Module

namespace Grammar

/-- The grammar of what is nested at most `n` levels deep. -/
def nested : Nat → Grammar
  | 0 => .empty
  | n + 1 => {
      assignment := fun context cursor => (nested n).assignmentAt context cursor
      unary := fun context cursor => (nested n).unaryAt context false cursor
      operators := fun context least left cursor => (nested n).operatorsAt context least left cursor
      subscripts := fun context calls owner cursor =>
        (nested n).subscriptsAt context calls owner cursor
      called := fun context cursor => (nested n).calledAt context false cursor
      constructed := fun context cursor => (nested n).constructedAt context false cursor
      pattern := fun context noLet cursor => (nested n).patternAt context noLet cursor
      statement := fun context declarations cursor =>
        (nested n).statementAt context declarations cursor }

end Grammar

/-- The cursor on the first token of a module. -/
def Cursor.ofModule (text : List Char) : Cursor :=
  let text := match text with
    | '\uFEFF' :: rest => rest
    | text => text
  match text with
  | '#' :: '!' :: rest => .ofText false (rest.dropWhile (!isLineBreak ·))
  | text => .ofText true text

/-- What a text says as a module, unless it is none. -/
def parse (text : String) : Option (List Item) :=
  let text := text.toList
  let grammar := Grammar.nested (4 * text.length + 16)
  let items := Parse.repeated (Parse.look (·.token == .endOfText)) (grammar.item { top := true })
  match items (.ofModule text) with
  | .ok (items, _) => some items
  | .error _ => none

end CustomProperties.Module
