import CustomProperties.Module.Basic
import CustomProperties.Module.Cursor

/-!
# Grammars

A module nests expressions, patterns and statements in each other. A grammar holds the parsers of
these for everything nested inside of what is being parsed, and each production is written once,
over the grammar for its inner parts.
-/

namespace CustomProperties.Module

/-- What the place of a piece of a module allows. -/
structure Context where
  /-- Whether `yield` hands out values. -/
  generator : Bool := false
  async : Bool := false
  /-- Whether members of the class above can be reached. -/
  hasSuper : Bool := false
  /-- Whether `in` is an operator. -/
  allowIn : Bool := false
  /-- Whether this is in the head of a loop. -/
  loopHead : Bool := false
  /-- Whether this is outside of all blocks, branches and functions. -/
  top : Bool := false
  inFunction : Bool := false
  inParameters : Bool := false
  inClass : Bool := false
  /-- Whether a field of a class gets its value here. -/
  inField : Bool := false
  /-- Whether a function other than an arrow function is around. -/
  hasTarget : Bool := false
  /-- Whether something around can be left, and whether a loop around can be gone on with. -/
  breaks : Bool := false
  continues : Bool := false
  /-- The labels around in the same function. -/
  labels : List String := []
deriving Inhabited

namespace Context

/-- The same place, with `in` as an operator. -/
def inside (context : Context) : Context := { context with allowIn := true }

/-- A place nested in a statement. -/
def nested (context : Context) : Context := { context with top := false }

/-- The body of a loop. -/
def loop (context : Context) : Context :=
  { context with top := false, breaks := true, continues := true }

/-- A function other than an arrow function, outside of classes. -/
def function (context : Context) : Context := { context with hasSuper := false, inField := false }

/-- A method. -/
def method (context : Context) : Context := { context with hasSuper := true, inField := false }

/-- The parameters of a function. -/
def parameters (context : Context) (generator async : Bool) : Context :=
  { context with generator, async, inParameters := true, inFunction := false }

/-- The body of an arrow function. -/
def arrow (context : Context) (async : Bool) : Context :=
  { context with
    async, generator := false, inFunction := true
    top := false, breaks := false, continues := false, labels := [] }

/-- The body of a function other than an arrow function. -/
def body (context : Context) (generator async : Bool) : Context :=
  { context.arrow async with generator, hasTarget := true, allowIn := true }

end Context

/-- The parsers of what may be nested. -/
structure Grammar where
  /-- An expression without commas. -/
  assignment : Context → Parse Expression
  /-- An operand with the operators before and right behind it. -/
  unary : Context → Parse Expression
  /-- The operators behind an operand that bind more tightly than a given one. -/
  operators : Context → Nat → Expression → Parse Expression
  /-- The members and calls behind an expression; calls only if they are allowed. -/
  subscripts : Context → Bool → Expression → Parse Expression
  /-- An operand with all members and calls behind it. -/
  called : Context → Parse Expression
  /-- What `new` is followed by. -/
  constructed : Context → Parse Expression
  /-- A pattern that declares names. In some places `let` is no name. -/
  pattern : Context → Bool → Parse (Option String)
  /-- A statement; declarations only if they are allowed. -/
  statement : Context → Bool → Parse Item

namespace Grammar

open Parse

/-- The grammar without anything in it. -/
def empty : Grammar where
  assignment _ := fail
  unary _ := fail
  operators _ _ _ := fail
  subscripts _ _ _ := fail
  called _ := fail
  constructed _ := fail
  pattern _ _ := fail
  statement _ _ := fail

variable (g : Grammar)

/-- Expressions after further commas. -/
def moreExpressions (context : Context) : Parse Unit := do
  let _ ← repeated (do pure !(← atMark ",")) do
    advance
    g.assignment context

/-- An expression, or several with commas between. -/
def expression (context : Context) : Parse Expression := do
  let first ← g.assignment context
  if ← atMark "," then
    g.moreExpressions context
    pure .other
  else pure first

/-- An expression in round brackets behind a keyword. -/
def condition (context : Context) : Parse Unit := do
  expectMark "("
  let _ ← g.expression context.inside
  expectMark ")"

/-- Pass over a closing bracket, which the end of the text may stand in for. -/
def passClose : Parse Bool := do
  if ← passMark "\x7d" then pure true else look (·.token == .endOfText)

/-- Statements up to a closing bracket. The text may end without it. -/
def blockBody (context : Context) : Parse (List Item) :=
  repeated passClose (g.statement context.nested true)

/-- Statements in curly brackets. -/
def block (context : Context) : Parse (List Item) := do
  expectMark "\x7b"
  g.blockBody context

/-- An expression that three points may stand before. -/
def spreadable (context : Context) : Parse Element := do
  let spread ← passMark "..."
  let value ← g.assignment context.inside
  pure (if spread then .spread value else .value value)

/-- The arguments of a call. Gives their number. -/
def arguments (context : Context) : Parse Nat := do
  expectMark "("
  let values ← separated ")" (g.spreadable context)
  pure values.length

end Grammar

end CustomProperties.Module
