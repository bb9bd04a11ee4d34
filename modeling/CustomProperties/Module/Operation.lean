import CustomProperties.Module.Operand

/-!
# Operations

Members and calls, operators before and between operands, choices and assignments.
-/

namespace CustomProperties.Module.Grammar

open Parse

variable (g : Grammar)

/-! ### Members and calls -/

/-- The key of a member behind a point. -/
def pointKey : Parse (Option String) := do
  if ← atMark "#" then
    let _ ← privateName
    pure none
  else
    match ← look (·.token) with
    | .word text _ => do advance; pure (some text)
    | _ => fail

/-- The text of an expression that is a string. -/
def literalKey : Expression → Option String
  | .string value => value
  | _ => none

/-- The key of a member in square brackets. -/
def bracketKey (context : Context) : Parse (Option String) := do
  expectMark "["
  let value ← g.expression context.inside
  expectMark "]"
  pure (literalKey value)

/-- Pass over the question mark and the point of a chain. -/
def passChain : Parse Bool := do
  if ← look fun cursor => cursor.token.isMark "?" && cursor.next.token.isMark "." then
    advance
    advance
    pure true
  else pure false

/-- The members and calls behind an expression. -/
def subscriptsAt (context : Context) (calls : Bool) (owner : Expression) : Parse Expression := do
  let chained ← passChain
  let isChain := chained || owner.isChain
  if ← atMark "[" then
    let key ← g.bracketKey context
    g.subscripts context calls (if isChain then .chain else .member owner key)
  else if (chained || calls) && (← atMark "(") then
    let _ ← g.arguments context
    g.subscripts context calls (if isChain then .chain else .other)
  else if ← (do if chained then pure true else passMark ".") then
    let key ← pointKey
    g.subscripts context calls (if isChain then .chain else .member owner key)
  else if ← look (·.token.isTemplate) then
    g.template context true
    mistakeIf owner.isChain
    g.subscripts context calls .other
  else pure owner

/-- A member of the class above, or a call of its constructor if calls are allowed. A chain cannot
start here, which shows only behind its first part. -/
def superMember (context : Context) (calls : Bool) : Parse Expression := do
  let chained ← passChain
  if ← atMark "[" then
    let _ ← g.bracketKey context
    guardThat (context.hasSuper && !chained)
    g.subscripts context calls (.member .other none)
  else if (chained || calls) && (← atMark "(") then
    let _ ← g.arguments context
    guardThat !chained
    g.subscripts context calls .other
  else
    if !chained then expectMark "."
    let isPrivate ← atMark "#"
    let _ ← pointKey
    guardThat (context.hasSuper && !chained && !isPrivate)
    g.subscripts context calls (.member .other none)

/-- The import of a module by a call, if calls are allowed. It takes the module and its options. -/
def importCall (context : Context) (calls : Bool) : Parse Expression := do
  guardThat calls
  let count ← g.arguments context
  guardThat (count == 1 || count == 2)
  g.subscripts context calls .other

/-- The words that tell how far a module is imported. -/
def importPhases : List String := ["source", "defer"]

/-- What stands behind the word `import` in an expression: a call, or the description of the module
itself. -/
def importMember (context : Context) (calls : Bool) : Parse Expression := do
  if ← passMark "." then
    match ← look (·.token) with
    | .word text _ => do
      advance
      if text == "meta" then g.subscripts context calls .other
      else
        guardThat (importPhases.contains text)
        g.importCall context calls
    | _ => fail
  else g.importCall context calls

/-- What `new` makes, or an operand with the members behind it. -/
def constructedAt (context : Context) (mayArrow : Bool) : Parse Expression := do
  if ← passWord "new" then
    if ← passMark "." then
      expectWord "target"
      mistakeIf !(context.hasTarget || context.inParameters || context.inClass)
      g.subscripts context false .other
    else
      let callee ← g.constructed context
      if callee.isArrow then pure callee
      else
        guardThat !callee.isChain
        if ← atMark "(" then
          let _ ← g.arguments context
          g.subscripts context false .other
        else pure .other
  else if ← passWord "super" then g.superMember context false
  else if ← passWord "import" then g.importMember context false
  else
    let first ← g.operand context mayArrow
    if first.isArrow then pure first else g.subscripts context false first

/-- An operand with all members and calls behind it. -/
def calledAt (context : Context) (mayArrow : Bool) : Parse Expression := do
  if ← passWord "super" then g.superMember context true
  else if ← passWord "import" then g.importMember context true
  else
    let callee ← g.constructedAt context mayArrow
    if callee.isArrow then pure callee
    else if ← atMark "(" then
      let _ ← g.arguments context
      g.subscripts context true (if callee.isChain then .chain else .other)
    else pure callee

/-! ### Operators -/

/-- Whether the cursor stands on an operator before an operand, other than a minus sign. -/
def atUnary : Parse Bool :=
  look fun cursor =>
    ["+", "~", "!"].any cursor.token.isMark || ["delete", "void", "typeof"].any cursor.token.isWord

/-- Whether the cursor stands on an operator that changes its operand. -/
def atStep : Parse Bool := look fun cursor => cursor.token.isMark "++" || cursor.token.isMark "--"

/-- The operand of an operator before it, if there is one. -/
def unaryOperand? (context : Context) : Parse (Option Expression) := do
  let operand? ← attempt (g.unary context)
  mistakeIf operand?.isNone
  pure operand?

/-- What `await` waits for. Where nothing follows it is a name. -/
def awaited (context : Context) : Parse Expression := do
  guardThat !(← atMark "*")
  let alone ← look fun cursor =>
    [")", "]", ";", ","].any cursor.token.isMark || cursor.endsStatement
  if alone && !context.async then
    mistake
    pure (.name "await")
  else
    mistakeIf (context.inFunction && !context.async)
    mistakeIf (context.inParameters && !context.inFunction)
    let operand ← g.unary context
    pure (.awaiting operand)

/-- An operand with the operators before and right behind it. An operator may lack its operand. -/
def unaryAt (context : Context) (mayArrow : Bool) : Parse Expression := do
  if ← pass atStep then
    let operand ← g.unary context
    mistakeIf !operand.isChangeable
    pure (.operation .none)
  else if ← passMark "-" then
    let operand? ← g.unaryOperand? context
    pure (.minus (operand?.getD .other))
  else if ← atUnary then
    let deletes ← atWord "delete"
    advance
    let operand? ← g.unaryOperand? context
    mistakeIf (deletes && operand?.any (·.isName))
    pure .unary
  else if ← passWord "await" then g.awaited context
  else
    let value ← g.calledAt context mayArrow
    if value.isArrow || (← look (·.freshLine)) then pure value
    else if ← pass atStep then pure (.operation .none)
    else pure value

/-- How tightly the operator at the cursor binds, if there is one. -/
def precedence? (context : Context) : Token → Option Nat
  | .word "in" false => if context.allowIn then some 7 else none
  | .word "instanceof" false => some 7
  | .mark "??" => some 1
  | .mark "||" => some 1
  | .mark "&&" => some 2
  | .mark "|" => some 3
  | .mark "^" => some 4
  | .mark "&" => some 5
  | .mark "==" => some 6
  | .mark "!=" => some 6
  | .mark "===" => some 6
  | .mark "!==" => some 6
  | .mark "<" => some 7
  | .mark ">" => some 7
  | .mark "<=" => some 7
  | .mark ">=" => some 7
  | .mark "<<" => some 8
  | .mark ">>" => some 8
  | .mark ">>>" => some 8
  | .mark "+" => some 9
  | .mark "-" => some 9
  | .mark "*" => some 10
  | .mark "/" => some 10
  | .mark "%" => some 10
  | .mark "**" => some 11
  | _ => none

/-- The kind of an operator. -/
def junctionOf : Token → Junction
  | .mark "??" => .fallback
  | .mark "||" => .logical
  | .mark "&&" => .logical
  | _ => .none

/-- The operators behind an operand that bind more tightly than `least`. The power operator groups
to the right, and its base has no operator before it. -/
def operatorsAt (context : Context) (least : Nat) (left : Expression) : Parse Expression := do
  mistakeIf (left.junction == .mixed)
  match ← look fun cursor => precedence? context cursor.token with
  | none => pure left
  | some precedence =>
    if precedence ≤ least then pure left
    else
      let power ← atMark "**"
      let junction ← look (junctionOf ·.token)
      advance
      guardThat !(power && left.isUnary)
      let operand ← g.unary context
      let right ← g.operators context (if power then precedence - 1 else precedence) operand
      mistakes (junction.mistakes left.junction right.junction)
      let junction := junction.behind left.junction
      mistakeIf (junction == .mixed)
      g.operators context least (.operation junction)

/-- An operand before any operators. Where there is none, an operator may still follow. -/
def firstOperand (context : Context) (mayArrow : Bool) : Parse Expression := fun cursor =>
  match g.unaryAt context mayArrow cursor with
  | .ok result => .ok result
  | .error cursor =>
    if cursor.isUnreadable then .error cursor.next
    else if (precedence? context cursor.token).isSome then .ok (.operation .none, cursor)
    else .error cursor

/-- Operands with operators between. -/
def binary (context : Context) (mayArrow : Bool) : Parse Expression := do
  let left ← g.firstOperand context mayArrow
  if left.isArrow then pure left else g.operators context 0 left

/-- A choice between two values, or one value. -/
def choice (context : Context) (mayArrow : Bool) : Parse Expression := do
  let test ← g.binary context mayArrow
  if test.isArrow then pure test
  else if ← passMark "?" then
    let _ ← g.assignment context.inside
    expectMark ":"
    let _ ← g.assignment context
    pure (.operation .none)
  else pure test

/-! ### Assignments -/

/-- Whether the cursor stands on an operator that assigns the result of another operation. -/
def atChange : Parse Bool :=
  look fun cursor =>
    ["+=", "-=", "*=", "/=", "%=", "**=", "<<=", ">>=", ">>>=", "&=", "|=", "^=", "&&=", "||=",
      "??="].any cursor.token.isMark

/-- What `yield` hands out. Parameters cannot hand out anything. -/
def yielded (context : Context) : Parse Expression := do
  expectWord "yield"
  guardThat (context.inFunction || !context.inParameters)
  let ended ← look fun cursor =>
    cursor.endsStatement || cursor.token.isMark ";"
      || !(cursor.token.isMark "*" || cursor.token.startsExpression)
  if ended then pure .other
  else
    let _ ← passMark "*"
    let _ ← g.assignment context
    pure .other

/-- An assignment, or an expression without commas. -/
def assignmentAt (context : Context) : Parse Expression := do
  if context.generator && (← atWord "yield") then g.yielded context
  else
    failUnreadable
    let mayArrow ← look (·.token.startsArrow)
    let left ← g.choice context mayArrow
    match left with
    | .arrow => pure left
    | .operation _ => pure left
    | .unary => pure left
    | .minus _ => pure left
    | _ =>
      if ← atMark "=" then
        guardThat left.isTarget
        advance
        let value ← g.assignment context
        pure (.assignment left value)
      else if ← atChange then
        guardThat left.isPlace
        advance
        let _ ← g.assignment context
        pure .other
      else pure left

end CustomProperties.Module.Grammar
