import CustomProperties.Module.Operation

/-!
# Statements

Variables, loops, branches, and all other statements that may stand anywhere in a module.
-/

namespace CustomProperties.Module.Grammar

open Parse

variable (g : Grammar)

/-! ### Variables -/

/-- The words that declare variables. -/
inductive Declarator where
  | var
  | «let»
  | const
deriving DecidableEq, Repr

/-- Whether the cursor stands on a word that declares variables. The word `let` does so only before
what can be declared. -/
def declarator? : Parse (Option Declarator) :=
  look fun cursor =>
    if cursor.token.isWord "var" then some .var
    else if cursor.token.isWord "const" then some .const
    else if cursor.token.isWord "let" && cursor.next.token.followsLet then some .let
    else none

/-- The value that a variable starts with, if it has one. Patterns need one unless the loop gives
it; a constant without one is a mistake. -/
def startValue (context : Context) (kind : Declarator) (inLoop : Bool) (isName : Bool) :
    Parse (Option Expression) := do
  if inLoop && (← look fun cursor => cursor.token.isWord "in" || cursor.token.isWord "of") then
    pure none
  else if ← passMark "=" then
    let value ← g.assignment context
    pure (some value)
  else
    guardThat (kind == .const || isName)
    mistakeIf (kind == .const)
    pure none

/-- Variables with their values, at most `n`. A semicolon may stand behind the last comma. -/
def bindingsWithin (context : Context) (kind : Declarator) (inLoop : Bool) :
    Nat → Parse (List Binding)
  | 0 => fail
  | n + 1 => do
    if ← atMark ";" then pure []
    else
      let name ← g.pattern context (kind != .var)
      let value ← g.startValue context kind inLoop name.isSome
      let others ← if ← passMark "," then bindingsWithin context kind inLoop n else pure []
      pure ((name, value) :: others)

/-- Variables with their values, from the word that declares them on. -/
def bindings (context : Context) (kind : Declarator) (inLoop : Bool) : Parse (List Binding) := do
  advance
  fun cursor => g.bindingsWithin context kind inLoop (cursor.rest.length + 2) cursor

/-- Pass over tokens up to the end of a statement, or to one that cannot be read. -/
def skipRestWithin : Nat → Parse Unit
  | 0 => fail
  | n + 1 => do
    if ← passEnd then pure ()
    else
      advance
      if ← look (·.isUnreadable) then pure () else skipRestWithin n

/-- A statement that declares variables. What is left over in it is passed over. -/
def variableList (context : Context) (kind : Declarator) : Parse (List Binding) := do
  let bindings ← g.bindings context.inside kind false
  if ← passEnd then pure bindings
  else
    mistake
    let _ ← attempt (g.expression context)
    fun cursor => skipRestWithin (cursor.rest.length + 2) cursor
    pure bindings

/-- How many mistakes there are in declaring a resource. It has a name and a value. -/
def resourceMistakes (binding : Binding) : Nat :=
  (if binding.1.isNone then 1 else 0) + (if binding.2.isNone then 1 else 0)

/-- Resources that are given back at the end of their block, if the cursor stands on the word for
them before a name on the same line. To have them at all is a mistake. -/
def resources (context : Context) : Parse Bool := do
  let here ← look fun cursor =>
    cursor.token.isWord "using" && cursor.next.token.isReference && !cursor.next.freshLine
  if here then
    let bindings ← g.bindings context .var false
    mistake
    mistakesIn resourceMistakes bindings
    expectEnd
  pure here

/-- What stands behind `await` where resources may be meant by it. -/
def awaitedResources (context : Context) : Parse Unit := do
  if !(← g.resources context) then
    let value ← g.awaited context
    let _ ← g.operators context.inside 0 value
    let _ ← passEnd

/-! ### Loops and branches -/

/-- Whether the cursor stands on a word that tells what a loop runs over. -/
def atEach : Parse Bool :=
  look fun cursor => cursor.token.isWord "of" || cursor.token.isWord "in"

/-- The rest of the head of a loop over the items or keys of something. Tells whether it runs over
items. Resources are not meant to run over keys. -/
def eachHead (context : Context) (ofResources : Bool) : Parse Bool := do
  if ← passWord "of" then
    let _ ← g.assignment context.inside
    pure true
  else
    expectWord "in"
    mistakeIf ofResources
    let _ ← g.expression context.inside
    pure false

/-- The rest of the head of a loop with a condition and a step. The mark behind the condition may be
missing. -/
def countingHead (context : Context) : Parse Unit := do
  if !(← passMark ";") then
    let _ ← g.expression context.inside
    let _ ← passMark ";"
  if !(← atMark ")") then
    let _ ← g.expression context.inside

/-- The rest of the head of a loop behind what it starts with. Tells whether it runs over items. -/
def startedHead (context : Context) : Parse Bool := do
  if ← atEach then g.eachHead context false
  else
    expectMark ";"
    g.countingHead context
    pure false

/-- Whether what a loop starts with declares a resource that it runs over. -/
def declaresResource (start : Expression) : Parse Bool :=
  look fun cursor => start.isUsing && !cursor.token.isWord "of"
    && (cursor.next.token.isWord "of" || cursor.next.token.isWord "in")

/-- The head of a loop. Tells whether it runs over the items of something. -/
def loopHead (context : Context) : Parse Bool := do
  match ← declarator? with
  | some kind =>
    let _ ← g.bindings { context with allowIn := kind != .var } kind true
    g.startedHead context
  | none =>
    if ← passMark ";" then
      g.countingHead context
      pure false
    else
      let start ← g.expression { context with allowIn := false }
      if ← declaresResource start then
        let _ ← declaredName context false
        g.eachHead context true
      else
        if ← atEach then guardThat start.isPattern
        g.startedHead context

/-- A loop, behind the word `for`. -/
def loop (context : Context) : Parse Unit := do
  let waits ← passWord "await"
  expectMark "("
  let items ← g.loopHead { context with loopHead := true }
  expectMark ")"
  let _ ← g.statement context.loop false
  guardThat (items || !waits)

/-- A branch, behind the word `if`. -/
def branch (context : Context) : Parse Unit := do
  g.condition context
  let _ ← g.statement context.nested false
  if ← passWord "else" then
    let _ ← g.statement context.nested false

/-- Whether the cursor stands on a word that starts a case. -/
def atCase : Parse Bool :=
  look fun cursor => cursor.token.isWord "case" || cursor.token.isWord "default"

/-- A case of a switch, which has one default at most. Tells whether it is the default. -/
def switchCase (context : Context) (hasDefault : Bool) : Parse Bool := do
  let isDefault ← passWord "default"
  if isDefault then guardThat !hasDefault
  else
    expectWord "case"
    let _ ← g.expression context.inside
  expectMark ":"
  let ended := look fun cursor =>
    cursor.token.isMark "\x7d" || cursor.token == .endOfText
      || cursor.token.isWord "case" || cursor.token.isWord "default"
  let _ ← repeated ended (g.statement context.nested true)
  pure isDefault

/-- The cases of a switch, at most `n`. -/
def switchCasesWithin (context : Context) (hasDefault : Bool) : Nat → Parse Unit
  | 0 => fail
  | n + 1 => do
    if ← atCase then
      let isDefault ← g.switchCase context hasDefault
      switchCasesWithin context (hasDefault || isDefault) n
    else expectMark "\x7d"

/-- A choice among cases, behind the word `switch`. -/
def choiceOfCases (context : Context) : Parse Unit := do
  g.condition context
  expectMark "\x7b"
  fun cursor =>
    g.switchCasesWithin { context with breaks := true } false (cursor.rest.length + 2) cursor

/-- What is done about a failure, behind the word `catch`. -/
def handler (context : Context) : Parse Unit := do
  if ← passMark "(" then
    let _ ← g.pattern context false
    expectMark ")"
  let _ ← g.block context

/-- What is done in the end, if the word for it is there. Tells whether it is. -/
def finalizer (context : Context) : Parse Bool := do
  if ← passWord "finally" then
    let _ ← g.block context
    pure true
  else pure false

/-- A tried block and the parts behind it, of which there should be one. -/
def tried (context : Context) : Parse Unit := do
  let _ ← g.block context
  let handled ← passWord "catch"
  if handled then g.handler context
  let finalized ← g.finalizer context
  mistakeIf !(handled || finalized)

/-! ### Jumps -/

/-- The label that a jump names. -/
def jumpLabel (context : Context) : Parse String := do
  match ← look (·.token) with
  | .word text onlyName =>
    let declarable ← look (·.token.isDeclarable)
    advance
    guardThat (declarable && (onlyName || !(context.generator && text == "yield")))
    nameOf context text onlyName
  | _ => fail

/-- Where a jump goes, and the end of the statement. It should go to something around. -/
def jump (context : Context) (leaves : Bool) : Parse Unit := do
  let reachable := if leaves then context.breaks else context.continues
  if ← passEnd then mistakeIf !reachable
  else
    let label ← jumpLabel context
    expectEnd
    mistakeIf !(reachable && context.labels.contains label)

/-- A value, and the end of the statement. -/
def valueStatement (context : Context) : Parse Unit := do
  let _ ← g.expression context.inside
  expectEnd

/-- A value that a function gives, behind the word `return`. -/
def returned (context : Context) : Parse Unit := do
  if !(← passEnd) then g.valueStatement context
  mistakeIf !context.inFunction

/-! ### Statements -/

/-- What stands behind a label. Functions there and labels used twice are mistakes. -/
def labelled (context : Context) (label : String) : Parse Unit := do
  let inner := { context with breaks := true, labels := label :: context.labels }
  if ← passWord "function" then
    let generator ← g.function inner false true
    mistakes (if generator then 2 else 1)
  else
    let _ ← g.statement inner false
  mistakes (context.labels.count label)

/-- A statement that is an expression, or one behind a label. -/
def expressionStatement (context : Context) : Parse Item := do
  let value ← g.expression context.inside
  match value, ← atMark ":" with
  | .name label, true => do
    advance
    g.labelled context label
    pure .other
  | _, _ =>
    if ← passEnd then pure (.expression value)
    else
      guardThat (← look (·.token.isOperator))
      let _ ← g.operators context 0 value
      pure .other

/-- A statement that starts with an import that is an expression. -/
def importStatement (context : Context) : Parse Item := do
  let value ← g.expression context
  let _ ← passEnd
  pure (.expression value)

/-- Whether the cursor stands on an import that is an expression. -/
def atImportExpression : Parse Bool :=
  look fun cursor => cursor.token.isWord "import" &&
    (cursor.next.token.isMark "(" || cursor.next.token.isMark ".")

/-- The statement that a word starts, behind that word. -/
def wordStatement (context : Context) : String → Option (Parse Unit)
  | "break" => some (jump context true)
  | "continue" => some (jump context false)
  | "debugger" => some expectEnd
  | "do" => some do
    let _ ← g.statement context.loop false
    expectWord "while"
    g.condition context
    let _ ← passEnd
  | "for" => some (g.loop context)
  | "function" => some do
    let _ ← g.function context false true
  | "class" => some (g.classRest context true)
  | "if" => some (g.branch context)
  | "return" => some (g.returned context)
  | "switch" => some (g.choiceOfCases context)
  | "throw" => some do
    guardThat !(← look (·.freshLine))
    g.valueStatement context
  | "catch" => some do
    let _ ← attempt (g.handler context)
    let _ ← attempt (g.finalizer context)
  | "finally" => some do
    let _ ← attempt (g.block context)
  | "try" => some (g.tried context)
  | "with" => some do
    g.condition context
    let _ ← g.statement { context.nested with inFunction := true } false
  | "while" => some do
    g.condition context
    let _ ← g.statement context.loop false
  | _ => none

/-- The word that the cursor stands on, if it may be a keyword. -/
def plainWord : Parse String :=
  look fun cursor => match cursor.token with
    | .word text false => text
    | _ => ""

/-- A statement that no keyword starts. -/
def otherStatement (context : Context) (declarations : Bool) : Parse Item := do
  let awaits ← look fun cursor =>
    cursor.token.isWord "await" && cursor.next.token.isWord "using"
  if (declarations || context.top) && awaits then
    advance
    g.awaitedResources context
    pure .other
  else if ← (if declarations then g.resources context else pure false) then pure .other
  else if ← passMark "\x7b" then
    let _ ← g.blockBody context
    pure .other
  else if ← passMark ";" then pure .other
  else if ← atWords "async" "function" then
    advance
    advance
    let _ ← g.function context true true
    pure .other
  else g.expressionStatement context

/-- A statement. -/
def statementAt (context : Context) (declarations : Bool) : Parse Item := do
  if ← atWord "export" then fail
  else if ← atWord "import" then
    guardThat (← atImportExpression)
    g.importStatement context
  else
    match g.wordStatement context (← plainWord) with
    | some parser => do
      advance
      parser
      pure .other
    | none =>
      match ← declarator? with
      | some kind =>
        if declarations || kind == .var then
          let _ ← g.variableList context kind
          pure .other
        else g.expressionStatement context
      | none => g.otherStatement context declarations

end CustomProperties.Module.Grammar
