import CustomProperties.Module.Statement

/-!
# Imports and exports

What may stand at the top of a module only: the imports and exports of names, beside statements.
-/

namespace CustomProperties.Module.Grammar

open Parse

variable (g : Grammar)

/-! ### Names and modules -/

/-- A name in a list of imports or exports: its text, unless it is a string. -/
def exportedName : Parse (Option String) := do
  match ← look (·.token) with
  | .word text _ => do advance; pure (some text)
  | .string _ => do advance; pure none
  | _ => fail

/-- What is said about a module on the line that names it. -/
def attributes (context : Context) : Parse Unit := do
  let here ← look fun cursor =>
    !cursor.freshLine && (cursor.token.isWord "assert" || cursor.token.isWord "with")
  if here then
    advance
    expectMark "\x7b"
    let _ ← g.objectMembers context

/-- The name of a module, which is a string, and what is said about it. -/
def moduleName (context : Context) : Parse Unit := do
  match ← look (·.token) with
  | .string _ => do
    advance
    g.attributes context
  | _ => fail

/-- The module that imports and exports come from, and the end of the statement. -/
def fromModule (context : Context) : Parse Unit := do
  expectWord "from"
  g.moduleName context
  expectEnd

/-! ### Imports -/

/-- A name in the list of an import. One that can only be that of a member, or is a string, stands
for another one. -/
def importedName (context : Context) : Parse Unit := do
  let text ← exportedName
  if ← passWord "as" then
    let _ ← declaredName context false
  else
    guardThat text.isSome
    mistakeIf (text.any reservedWords.contains)

/-- The name for the default export of a module, and a comma if more is imported. The word for a
phase may stand before it, or in its place if everything is imported. Gives that word. -/
def defaultImport (context : Context) : Parse (Option String) := do
  let first ← declaredName context false
  if first == "defer" && (← atMark "*") then return some first
  let another ← look fun cursor => cursor.token.isSomeWord
    && (!cursor.token.isWord "from" || cursor.next.token.isWord "from")
  let early := first == "source" && another
  if early then
    let _ ← declaredName context false
  if !(← atWord "from") then expectMark ","
  pure (if early then some first else none)

/-- An import, behind the word that starts it. Everything, or a list of names, may be imported
beside the default. -/
def importRest (context : Context) : Parse Unit := do
  match ← look (·.token) with
  | .string _ => do
    g.moduleName context
    let _ ← passEnd
  | token => do
    let phase ← if token.isReference then defaultImport context else pure none
    if ← pass (look fun cursor => phase != some "source" && cursor.token.isMark "*") then
      expectWord "as"
      let _ ← declaredName context false
    else if ← pass (look fun cursor => phase.isNone && cursor.token.isMark "\x7b") then
      let _ ← separated "\x7d" (importedName context)
    g.fromModule context

/-! ### Exports -/

/-- A name in the list of an export, and maybe another one for it. Tells whether the first is a
mistake unless another module has it: it is a keyword or a string. -/
def listedName : Parse Bool := do
  let text ← exportedName
  if ← passWord "as" then
    let _ ← exportedName
  pure !(text.any fun text => text != "package" && !keywords.contains text)

/-- The default export, behind the word for it. -/
def exportDefault (context : Context) : Parse Item := do
  if ← passWord "class" then
    g.classRest context false
    pure .other
  else if ← atWords "async" "function" then
    advance
    advance
    let _ ← g.function context true false
    pure .other
  else if ← passWord "function" then
    let _ ← g.function context false false
    pure .other
  else
    let value ← g.assignment context.inside
    expectEnd
    pure (.exportDefault value)

/-- The export of all that another module has, behind its mark. -/
def exportAll (context : Context) : Parse Unit := do
  if ← passWord "as" then
    let _ ← exportedName
  g.fromModule context

/-- The export of a list of names, of another module or of this one. -/
def exportList (context : Context) : Parse Unit := do
  expectMark "\x7b"
  let mistaken ← separated "\x7d" listedName
  if ← atWord "from" then g.fromModule context
  else
    mistakes (mistaken.count true)
    let _ ← passEnd

/-- An export, behind the word that starts it. -/
def exportRest (context : Context) : Parse Item := do
  if ← passWord "default" then g.exportDefault context
  else if ← passWord "class" then
    g.classRest context true
    pure .other
  else if ← atWords "async" "function" then
    advance
    advance
    let _ ← g.function context true true
    pure .other
  else if ← passWord "function" then
    let _ ← g.function context false true
    pure .other
  else
    match ← declarator? with
    | some kind =>
      let bindings ← g.variableList context kind
      pure (.exportVariables bindings)
    | none =>
      if ← passMark "*" then g.exportAll context else g.exportList context
      pure .other

/-! ### Items -/

/-- What may stand at the top of a module. -/
def item (context : Context) : Parse Item := do
  if ← passWord "export" then g.exportRest context
  else if (← atWord "import") && !(← atImportExpression) then
    advance
    g.importRest context
    pure .other
  else g.statement context true

end CustomProperties.Module.Grammar
