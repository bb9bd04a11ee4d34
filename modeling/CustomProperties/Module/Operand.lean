import CustomProperties.Module.Class

/-!
# Operands

Literals, names, templates, objects, lists, functions and classes, and what is in round brackets.
-/

namespace CustomProperties.Module.Grammar

open Parse

variable (g : Grammar)

/-! ### Templates and regular expressions -/

/-- What is behind a piece of a template, with at most `n` more pieces. Escapes without a meaning
are fine only behind a tag. -/
def templateRest (context : Context) (tagged : Bool) (piece : TemplatePiece) : Nat → Parse Unit
  | 0 => fail
  | n + 1 => do
    if !piece.meaningful && !tagged then stop
    if piece.opens then
      let _ ← g.expression context.inside
      guardThat (← atMark "\x7d")
      match ← look fun cursor => readTemplateToken cursor.rest with
      | (.template piece, rest) =>
        set (Cursor.ofText false rest)
        templateRest context tagged piece n
      | (token, rest) =>
        set (⟨token, false, rest⟩ : Cursor)
        fail

/-- A template. -/
def template (context : Context) (tagged : Bool) : Parse Unit := do
  match ← look (·.token) with
  | .template piece =>
    advance
    fun cursor => g.templateRest context tagged piece (cursor.rest.length + 2) cursor
  | _ => fail

/-- The flags that a regular expression may have, each of them once. -/
def patternFlags : List Char := ['d', 'g', 'i', 'm', 's', 'u', 'v', 'y']

/-- Note the mistakes in the flags of a regular expression. -/
def checkFlags (flags : List Char) : Parse Unit := do
  let known := flags.filter patternFlags.contains
  mistakeIf (flags.any fun flag => !patternFlags.contains flag)
  mistakeIf (patternFlags.any fun flag => 1 < known.count flag)

/-- Go on behind a regular expression that the cursor stands on the first slash of. The text behind
the slash starts with the given characters. -/
def regularExpression (front : List Char) : Parse Expression := do
  match ← look fun cursor => readPattern false (front ++ cursor.rest) with
  | (true, rest) =>
    match readFlags rest with
    | (some flags, rest) =>
      set (Cursor.ofText false rest)
      checkFlags flags
      pure .other
    | (none, rest) =>
      set (⟨.unreadable, false, rest⟩ : Cursor)
      fail
  | (false, rest) =>
    set (⟨.unreadable, false, rest⟩ : Cursor)
    fail

/-! ### Objects and lists -/

/-- An item of a list. It may be left out. -/
def listItem (context : Context) : Parse Element := do
  if ← atMark "," then pure .hole else g.spreadable context

/-- What follows the word of a member that is no key with a value: a name on its own, or a method
that the word tells the kind of. -/
def wordMember (context : Context) (word : String) : Parse Member := do
  if ← passMark "?" then mistake
  if ← g.defaultValue context.inside then pure (.shorthand word true)
  else if ← look fun cursor => cursor.token.isMark "," || cursor.token.isMark "\x7d" then
    pure (.shorthand word false)
  else if word == "get" || word == "set" || word == "async" then
    let generator ← if word == "async" then passMark "*" else pure false
    let _ ← g.key context
    g.method context generator (word == "async")
    pure .method
  else fail

/-- A member of an object literal. -/
def objectMember (context : Context) : Parse Member := do
  if ← passMark "..." then
    let source ← g.assignment context.inside
    pure (.spread source)
  else if ← passMark "*" then
    let _ ← g.key context
    g.method context true false
    pure .method
  else
    let isWord ← look (·.token.isSomeWord)
    let key ← g.key context
    if ← passMark ":" then
      let value ← g.assignment context.inside
      pure (.property key value)
    else if ← atMark "(" then
      g.method context false false
      pure .method
    else
      guardThat isWord
      g.wordMember context (key.getD "")

/-- The members of an object literal, behind its bracket. -/
def objectMembers (context : Context) : Parse (List Member) :=
  separated "\x7d" (g.objectMember context)

/-! ### Brackets and arrows -/

/-- The body of an arrow function, of which the parameters may be names and no more. Tells whether
it is a block. -/
def arrowBody (context : Context) (async simple : Bool) : Parse Bool := do
  let inner := context.arrow async
  if ← atMark "\x7b" then
    g.functionBody inner simple
    pure true
  else
    let _ ← g.assignment inner
    pure false

/-- Take items in brackets as the parameters of an arrow function, and read its body. Tells whether
that is a block. -/
def arrowBehind (context : Context) (async : Bool) (items : List Element) (trailingComma : Bool) :
    Parse Bool := do
  match mistakesAsParameters? items trailingComma with
  | some count =>
    mistakes count
    g.arrowBody context async (items.all (·.isName))
  | none => fail

/-- What is in round brackets up to the closing one, at most `n` more items, and whether a comma
comes last. An arrow behind an item starts a function if the first item is a name, and is passed
over otherwise. The items read so far are given in reverse. -/
def bracketItemsWithin (context : Context) (trailingComma : Bool) (back : List Element) :
    Nat → Parse (List Element × Bool)
  | 0 => fail
  | n + 1 => do
    if ← passMark ")" then pure (back.reverse, trailingComma)
    else
      let item ← g.spreadable context
      let back := item :: back
      let arrow ← passMark "=>"
      let first := back.getLast?.bind (·.expression?)
      let back ← if arrow && first.any (·.isName) then do
          let _ ← g.arrowBehind context false back.reverse false
          pure (.value .arrow :: back)
        else pure back
      let comma ← do pure !(← atMark ")")
      if comma then expectMark ","
      bracketItemsWithin context comma back n

/-- What is in round brackets: the items, and whether a comma comes last. -/
def bracketItems (context : Context) : Parse (List Element × Bool) := do
  expectMark "("
  fun cursor => g.bracketItemsWithin context false [] (cursor.rest.length + 2) cursor

/-- The expression that items in brackets are. -/
def ofBracketItems : List Element → Parse Expression
  | [] => fail
  | [.value value] => pure (.parens value)
  | items => do
    guardThat (items.all fun item => !item.isSpread)
    pure (.parens .other)

/-- What is in round brackets: an expression, the parameters of an arrow function where one may
start, or the arguments of a call of `async`. The block of an arrow function may be followed by
operators. -/
def bracketed (context : Context) (mayArrow async : Bool) : Parse Expression := do
  let (items, trailingComma) ← g.bracketItems context.inside
  if ← atMark "=>" then
    guardThat (mayArrow && !(← look (·.freshLine)))
    advance
    let isBlock ← g.arrowBehind context async items trailingComma
    if isBlock && (← look (·.token.isOperator)) then
      let result ← g.operators context 0 .arrow
      mistakeIf !(← atEnd)
      pure result
    else pure .arrow
  else
    mistakesIn Element.defaultCount items
    if async then pure .other else ofBracketItems items

/-! ### Words -/

/-- Whether the cursor stands on the word before the items that a loop runs over. It may be the
parameter of an arrow function just as well. -/
def atItems : Parse Bool :=
  look fun cursor => cursor.token.isWord "of" && !cursor.next.token.isMark "=>"

/-- A name, or an arrow function with that name as its parameter. -/
def reference (context : Context) (mayArrow : Bool) (text : String) (onlyName : Bool) :
    Parse Expression := do
  advance
  let name ← nameOf context text onlyName
  let sameLine ← look (!·.freshLine)
  if mayArrow && sameLine && name == "async" && (← look (·.token.isReference)) then
    if context.loopHead && (← atItems) then return .name name
    let _ ← declaredName context false
    expectMark "=>"
    let _ ← g.arrowBody context true true
    pure .arrow
  else if mayArrow && sameLine && (← atMark "=>") then
    advance
    mistakeIf (fixedNames.contains name)
    let _ ← g.arrowBody context false true
    pure .arrow
  else pure (.name name)

/-- An operand that starts with a word, which may be a keyword. -/
def wordOperand (context : Context) (mayArrow : Bool) (text : String) : Parse Expression := do
  match text with
  | "this" => do advance; pure .other
  | "null" => do advance; pure .null
  | "true" => do advance; pure (.bool true)
  | "false" => do advance; pure (.bool false)
  | "function" => do
    advance
    let _ ← g.function context false false
    pure .other
  | "class" => do
    advance
    g.classRest context false
    pure .other
  | _ =>
    if ← atWords "async" "function" then
      advance
      advance
      let _ ← g.function context true false
      pure .other
    else if mayArrow && (← look fun cursor => cursor.token.isWord "async"
        && cursor.next.token.isMark "(" && !cursor.next.freshLine) then
      advance
      g.bracketed context mayArrow true
    else if text == "let" || (← look (·.token.isReference)) then
      g.reference context mayArrow text false
    else fail

/-- An operand: a literal, a name, or what is in brackets. -/
def operand (context : Context) (mayArrow : Bool) : Parse Expression := do
  match ← look (·.token) with
  | .string value => do advance; pure (.string value)
  | .number value => do advance; pure (.number value)
  | .bigInteger => do advance; pure .other
  | .word text onlyName =>
    if onlyName then g.reference context mayArrow text onlyName
    else g.wordOperand context mayArrow text
  | .template _ => do
    g.template context false
    pure .other
  | .mark "#" => do
    advance
    let _ ← wordBehindSign
    pure .other
  | .mark "[" => do
    advance
    let items ← separated "]" (g.listItem context)
    pure (.array items)
  | .mark "\x7b" => do
    advance
    let members ← g.objectMembers context
    pure (.object members)
  | .mark "(" => g.bracketed context mayArrow false
  | .mark "/" => regularExpression []
  | .mark "/=" => regularExpression ['=']
  | _ => fail

end CustomProperties.Module.Grammar
