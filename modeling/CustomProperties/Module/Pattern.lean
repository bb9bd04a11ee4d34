import CustomProperties.Decimal.Shortest
import CustomProperties.Module.Grammar

/-!
# Keys, patterns and functions

The names of members, the patterns that declare names, and the parameters and bodies of functions.
-/

namespace CustomProperties.Module.Grammar

open Parse

variable (g : Grammar)

/-! ### Names and keys -/

/-- The key of a member: its text, if it is known. -/
def key (context : Context) : Parse (Option String) := do
  match ← look (·.token) with
  | .word text _ => do advance; pure (some text)
  | .string value => do advance; pure value
  | .number value => do advance; pure (some value.positional)
  | .bigInteger => do advance; pure none
  | _ => do
    expectMark "["
    let _ ← g.assignment context.inside
    expectMark "]"
    pure none

/-- The word behind a number sign. -/
def wordBehindSign : Parse String := do
  match ← look (·.token) with
  | .word text _ => do advance; pure text
  | _ => fail

/-- A private name: a word right behind a number sign. -/
def privateName : Parse String := do
  let joined ← look (·.meetsName)
  expectMark "#"
  guardThat joined
  wordBehindSign

/-- The words that a name in a module must not be, though it is only a mistake. -/
def mistakenNames : List String := [
  "enum", "implements", "interface", "let", "package", "private", "protected", "public", "static",
  "yield"]

/-- The name that a word writes, behind that word. In a field the arguments of a function are out of
reach. -/
def nameOf (context : Context) (text : String) (onlyName : Bool) : Parse String := do
  mistakeIf (if onlyName then false else mistakenNames.contains text)
  mistakeIf (context.inField && text == "arguments")
  pure text

/-- A name that is declared. -/
def declaredName (context : Context) (noLet : Bool) : Parse String := do
  match ← look (·.token) with
  | .word text onlyName =>
    guardThat !(noLet && text == "let" && !onlyName)
    let declarable ← look (·.token.isDeclarable)
    advance
    guardThat declarable
    if fixedNames.contains text then
      mistake
      pure text
    else
      let name ← nameOf { context with inField := false } text onlyName
      mistakeIf (context.generator && text == "yield" && !onlyName)
      pure name
  | _ => fail

/-- A name that is declared, if there is one that may be. -/
def optionalName (context : Context) (noLet : Bool) : Parse Unit := do
  if ← look (·.token.isReference) then
    let _ ← declaredName context noLet

/-! ### Patterns -/

/-- The value that a pattern has where there is no other. Tells whether there is one. -/
def defaultValue (context : Context) : Parse Bool := do
  if ← passMark "=" then
    let _ ← g.assignment context
    pure true
  else pure false

/-- A pattern with a value for where there is none. -/
def element (context : Context) : Parse Unit := do
  let _ ← g.pattern context false
  let _ ← g.defaultValue context.inside

/-- The items of a pattern for a list, at most `n`. One may be left out, and nothing should come
behind the one that stands for all that is left. -/
def patternItemsWithin (context : Context) (complete : Bool) : Nat → Parse Unit
  | 0 => fail
  | n + 1 => do
    if ← passMark "]" then pure ()
    else if ← passMark "," then patternItemsWithin context complete n
    else
      mistakeIf complete
      let rest ← passMark "..."
      if rest then
        let _ ← g.pattern context false
      else g.element context
      if !(← atMark "]") then expectMark ","
      patternItemsWithin context (complete || rest) n

/-- The items of a pattern for a list. -/
def patternItems (context : Context) : Parse Unit := fun cursor =>
  g.patternItemsWithin context false (cursor.rest.length + 2) cursor

/-- What a member of a pattern for an object takes. -/
inductive PatternMember where
  | one
  /-- All that is left, under a name or not. -/
  | rest (isName : Bool)

/-- A member of a pattern for an object. -/
def patternMember (context : Context) : Parse PatternMember := do
  if ← passMark "..." then
    let name ← g.pattern context false
    pure (.rest name.isSome)
  else
    let isWord ← look (·.token.isSomeWord)
    let text ← g.key context
    if ← passMark ":" then g.element context
    else
      guardThat isWord
      if !(← g.defaultValue context.inside) then
        mistakeIf (text.any reservedWords.contains)
    pure .one

/-- Check the members of a pattern for an object: what is left can be taken only under a name, and
should be taken last and without a comma behind. -/
def checkMembers (trailingComma : Bool) : List PatternMember → Parse Unit
  | [] => pure ()
  | [.one] => pure ()
  | [.rest isName] => do
    guardThat isName
    mistakeIf trailingComma
  | .one :: members => checkMembers trailingComma members
  | .rest _ :: members => do
    mistake
    checkMembers trailingComma members

/-- The members of a pattern for an object, at most `n`, and whether a comma comes last. -/
def patternMembersWithin (context : Context) (trailingComma : Bool) :
    Nat → Parse (List PatternMember × Bool)
  | 0 => fail
  | n + 1 => do
    if ← passMark "\x7d" then pure ([], trailingComma)
    else
      let first ← g.patternMember context
      let comma ← do pure !(← atMark "\x7d")
      if comma then expectMark ","
      let others ← patternMembersWithin context comma n
      pure (first :: others.1, others.2)

/-- The members of a pattern for an object. -/
def patternMembers (context : Context) : Parse Unit := do
  let members ← fun cursor =>
    g.patternMembersWithin context false (cursor.rest.length + 2) cursor
  checkMembers members.2 members.1

/-- A pattern that declares names: a name, or a pattern for a list or an object. -/
def patternAt (context : Context) (noLet : Bool) : Parse (Option String) := do
  if ← passMark "[" then
    g.patternItems context
    pure none
  else if ← passMark "\x7b" then
    g.patternMembers context
    pure none
  else
    failUnreadable
    let name ← declaredName context noLet
    pure (some name)

/-! ### Functions -/

/-- The parameter that stands for all arguments that are left. Only that of a constructor must not
have a value of its own. -/
def restParameter (context : Context) (constructs : Bool) : Parse Unit := do
  let _ ← g.pattern context false
  if !constructs then
    if ← g.defaultValue context then mistake

/-- A parameter of a function. Tells whether it is a name and no more. -/
def parameter (context : Context) : Parse Bool := do
  let name ← g.pattern context false
  let hasDefault ← g.defaultValue context
  pure (name.isSome && !hasDefault)

/-- The parameters of a function, at most `n`. Tells whether all of them are names and no more.
Nothing should come behind the one that stands for all that is left. -/
def parametersWithin (context : Context) (constructs complete : Bool) : Nat → Parse Bool
  | 0 => fail
  | n + 1 => do
    if ← passMark ")" then pure true
    else
      mistakeIf complete
      let rest ← passMark "..."
      let simple ← if rest then do
          g.restParameter context constructs
          pure false
        else g.parameter context
      if !(← atMark ")") then expectMark ","
      let others ← parametersWithin context constructs (complete || rest) n
      pure (simple && others)

/-- The parameters of a function in brackets. Tells whether all of them are names and no more. -/
def parameterList (context : Context) (constructs : Bool) : Parse Bool := do
  expectMark "("
  fun cursor => g.parametersWithin context constructs false (cursor.rest.length + 2) cursor

/-- The body of a function. It should ask for strict rules only if the parameters are simple. -/
def functionBody (context : Context) (simple : Bool) : Parse Unit := do
  let items ← g.block context
  mistakeIf (!simple && asksForStrictness items)

/-- The parameters of a function and its body. -/
def functionRest (context : Context) (generator async : Bool) : Parse Unit := do
  let simple ← g.parameterList (context.parameters generator async) false
  g.functionBody (context.body generator async) simple

/-- What stands behind the word that starts a function. The name may be left out of some. Tells
whether the function is a generator. -/
def function (context : Context) (async named : Bool) : Parse Bool := do
  let generator ← passMark "*"
  if named then
    let _ ← declaredName context false
  else optionalName context false
  g.functionRest context.function generator async
  pure generator

end CustomProperties.Module.Grammar
