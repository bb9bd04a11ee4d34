import CustomProperties.Module.Lexer

/-!
# Parsing from a cursor

A cursor stands on a token. A parser either gives a result and the cursor behind what it read, or
the cursor where it gave up. Some mistakes are passed over, and reading goes on from there. A token
that cannot be read counts as a mistake of its own: where a mistake is found right before one, or a
parser gives up on one, it is passed over too.
-/

namespace CustomProperties.Module

/-- A place in a text: the token there, whether a line ended before it, and the text behind it. -/
structure Cursor where
  token : Token
  freshLine : Bool
  rest : List Char
deriving Inhabited

namespace Cursor

/-- The cursor on the first token of a text, which may be the start of a whole module. -/
def ofText (start : Bool) (text : List Char) : Cursor :=
  let gap := skipGap .blank start text
  let read := Token.read start gap.2
  ⟨read.1, gap.1, read.2⟩

/-- The cursor on the next token. -/
def next (cursor : Cursor) : Cursor := ofText false cursor.rest

/-- Whether the token cannot be read. -/
def isUnreadable (cursor : Cursor) : Bool := cursor.token == .unreadable

/-- The cursor behind the token if that cannot be read. -/
def passUnreadable (cursor : Cursor) : Cursor :=
  if cursor.isUnreadable then cursor.next else cursor

/-- Whether a statement may end before the token without a mark that says so. -/
def endsStatement (cursor : Cursor) : Bool :=
  cursor.freshLine || cursor.token == .endOfText || cursor.token.isMark "\x7d"

/-- Whether a name follows the token with nothing between. -/
def meetsName (cursor : Cursor) : Bool :=
  cursor.rest.head?.any fun c => startsName c || c == '\\'

end Cursor

/-- A parser of something from a cursor. -/
abbrev Parse := StateT Cursor (Except Cursor)

namespace Parse

variable {α : Type}

/-- Something about the place of the cursor. -/
def look (f : Cursor → α) : Parse α := fun cursor => .ok (f cursor, cursor)

/-- Note a mistake and go on. -/
def mistake : Parse Unit := fun cursor => .ok ((), cursor.passUnreadable)

/-- Note some number of mistakes and go on. -/
def mistakes : Nat → Parse Unit
  | 0 => pure ()
  | n + 1 => do
    mistake
    mistakes n

/-- Note the mistakes in all items of a list. -/
def mistakesIn (count : α → Nat) : List α → Parse Unit
  | [] => pure ()
  | item :: items => do
    mistakes (count item)
    mistakesIn count items

/-- Note a mistake if there is one. -/
def mistakeIf (condition : Bool) : Parse Unit := if condition then mistake else pure ()

/-- Give up right here. -/
def stop : Parse α := fun cursor => .error cursor

/-- Give up here. Of tokens that cannot be read, one is what is wrong here and another one a mistake
behind it. -/
def fail : Parse α := fun cursor =>
  .error (if cursor.isUnreadable then cursor.next.passUnreadable else cursor)

/-- Give up if the cursor stands on a token that cannot be read. -/
def failUnreadable : Parse Unit := fun cursor =>
  if cursor.isUnreadable then .error cursor.next else .ok ((), cursor)

/-- Whether the cursor stands on a mark. -/
def atMark (mark : String) : Parse Bool := look (·.token.isMark mark)

/-- Whether the cursor stands on a word. -/
def atWord (word : String) : Parse Bool := look (·.token.isWord word)

/-- Whether the cursor stands on a word that another word follows on the same line. -/
def atWords (word next : String) : Parse Bool :=
  look fun cursor =>
    cursor.token.isWord word && cursor.next.token.isWord next && !cursor.next.freshLine

/-- Go on to the next token. -/
def advance : Parse Unit := fun cursor => .ok ((), cursor.next)

/-- Pass over a token if it is there. -/
def pass (here : Parse Bool) : Parse Bool := do
  if ← here then
    advance
    pure true
  else pure false

/-- Pass over a mark if it is there. -/
def passMark (mark : String) : Parse Bool := pass (atMark mark)

/-- Pass over a word if it is there. -/
def passWord (word : String) : Parse Bool := pass (atWord word)

/-- Give up unless something holds. -/
def guardThat (condition : Bool) : Parse Unit := if condition then pure () else fail

/-- Pass over a mark that has to be there. -/
def expectMark (mark : String) : Parse Unit := do guardThat (← passMark mark)

/-- Pass over a word that has to be there. -/
def expectWord (word : String) : Parse Unit := do guardThat (← passWord word)

/-- Whether a statement may end here. -/
def atEnd : Parse Bool := look fun cursor => cursor.token.isMark ";" || cursor.endsStatement

/-- Pass over the end of a statement if there is one. -/
def passEnd : Parse Bool := do
  if ← passMark ";" then pure true else look (·.endsStatement)

/-- Pass over the end of a statement, which has to be there. -/
def expectEnd : Parse Unit := do guardThat (← passEnd)

/-- The result of a parser, or none and the cursor where it gave up. -/
def attempt (parser : Parse α) : Parse (Option α) := fun cursor =>
  match parser cursor with
  | .ok (result, cursor) => .ok (some result, cursor)
  | .error cursor => .ok (none, cursor)

/-- Repeat a parser, at most `n` times, up to a place where it has to stop. -/
def repeatedWithin (ended : Parse Bool) (item : Parse α) : Nat → Parse (List α)
  | 0 => fail
  | n + 1 => do
    if ← ended then pure []
    else
      let first ← item
      let others ← repeatedWithin ended item n
      pure (first :: others)

/-- Items one after the other, up to a place where they stop. -/
def repeated (ended : Parse Bool) (item : Parse α) : Parse (List α) := fun cursor =>
  repeatedWithin ended item (cursor.rest.length + 2) cursor

/-- An item of a list and the comma behind it, which the closing mark may stand in for. -/
def separatedItem (close : String) (item : Parse α) : Parse α := do
  let result ← item
  if !(← atMark close) then expectMark ","
  pure result

/-- Items with commas between, up to a closing mark. A comma may come last. -/
def separated (close : String) (item : Parse α) : Parse (List α) :=
  repeated (passMark close) (separatedItem close item)

end Parse

end CustomProperties.Module
