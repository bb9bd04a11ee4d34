import CustomProperties.Module.Pattern

/-!
# Classes

The members of a class: methods, fields, and blocks that run once. A class has one constructor, and
no field is named like it.
-/

namespace CustomProperties.Module.Grammar

open Parse

variable (g : Grammar)

/-- The name of a member of a class. -/
inductive ClassKey where
  | word (text : String)
  | other (text : Option String)

namespace ClassKey

/-- Whether a name is that of the constructor. -/
def isConstructor : ClassKey → Bool
  | word text => text == "constructor"
  | other text => text == some "constructor"

/-- Whether a name is a given word. -/
def isWord (word : String) : ClassKey → Bool
  | .word text => text == word
  | .other _ => false

end ClassKey

/-- The name of a member of a class. -/
def classKey (context : Context) : Parse ClassKey := do
  if ← atMark "#" then
    let name ← privateName
    mistakeIf (name == "constructor")
    pure (.other none)
  else
    let isWord ← look (·.token.isSomeWord)
    let text ← g.key context
    pure (if isWord then .word (text.getD "") else .other text)

/-- Whether the cursor stands on what follows the name of a field and cannot follow that of
anything else. -/
def atFieldRest : Parse Bool :=
  look fun cursor =>
    cursor.token.isMark "=" || cursor.token.isMark ";" || cursor.token.isMark "\x7d"

/-- The rest of a field. -/
def field (context : Context) (key : ClassKey) : Parse Unit := do
  guardThat !key.isConstructor
  let _ ← g.defaultValue { context with allowIn := true, inField := true }
  if !(← passEnd) then mistake

/-- The rest of a method. -/
def method (context : Context) (generator async : Bool) : Parse Unit :=
  g.functionRest context.method generator async

/-- The rest of a constructor. -/
def constructorRest (context : Context) : Parse Unit := do
  let simple ← g.parameterList context true
  g.functionBody (context.body false false) simple

/-- A block that runs once. -/
def staticBlock (context : Context) : Parse Unit := do
  let _ ← g.block { context with inField := true }

/-- What is behind the name of a member, of which the brackets of a method do not follow right
away. -/
def namedMember (context : Context) (key : ClassKey) : Parse Unit := do
  let nextLine ← look (·.freshLine)
  let starred ← atMark "*"
  let fieldRest ← atFieldRest
  let accessor := (key.isWord "get" || key.isWord "set") && !fieldRest && !(nextLine && starred)
  if !accessor && (fieldRest || (← look (·.endsStatement))) then g.field context key
  else if key.isWord "async" && !nextLine then
    let generator ← passMark "*"
    let key ← g.classKey context
    guardThat !key.isConstructor
    g.method context generator true
  else
    guardThat accessor
    let key ← g.classKey context
    mistakeIf key.isConstructor
    g.method context false false

/-- A member of a class, behind the word that makes it one of the class itself. Tells whether it is
a constructor. -/
def classMemberRest (context : Context) : Parse Bool := do
  if ← passMark "*" then
    let key ← g.classKey context
    mistakeIf key.isConstructor
    g.method context true false
    pure false
  else
    let key ← g.classKey context
    if ← atMark "(" then
      if key.isConstructor then
        g.constructorRest context
        pure true
      else
        g.method context false false
        pure false
    else
      g.namedMember context key
      pure false

/-- A member of a class. Tells whether it is a constructor. -/
def classMember (context : Context) : Parse Bool := do
  if ← passWord "static" then
    if ← atMark "(" then
      g.method context false false
      pure false
    else if ← atFieldRest then
      g.field context (.word "static")
      pure false
    else
      let _ ← pass (look fun cursor =>
        cursor.token.isWord "static" && cursor.next.token.isMark "\x7b")
      if ← atMark "\x7b" then
        g.staticBlock context
        pure false
      else g.classMemberRest context
  else g.classMemberRest context

/-- The members of a class, at most `n`. -/
def classMembersWithin (context : Context) (hasConstructor : Bool) : Nat → Parse Unit
  | 0 => fail
  | n + 1 => do
    if ← passClose then pure ()
    else if ← passMark ";" then classMembersWithin context hasConstructor n
    else
      let isConstructor ← g.classMember context
      mistakeIf (isConstructor && hasConstructor)
      classMembersWithin context (hasConstructor || isConstructor) n

/-- The class above. Another one behind it is passed over. -/
def superclass (context : Context) : Parse Unit := do
  if ← passWord "extends" then
    let _ ← g.called context
    if ← passWord "extends" then
      mistake
      let _ ← g.called context

/-- What stands behind the word that starts a class. The name may be left out of some. -/
def classRest (context : Context) (named : Bool) : Parse Unit := do
  let context := { context with inClass := true }
  if named then
    let _ ← declaredName context true
  else optionalName context true
  g.superclass context
  expectMark "\x7b"
  fun cursor =>
    g.classMembersWithin { context with hasSuper := true } false (cursor.rest.length + 2) cursor

end CustomProperties.Module.Grammar
