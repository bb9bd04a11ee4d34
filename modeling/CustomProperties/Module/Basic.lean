import CustomProperties.Module.Token

/-!
# What a module says

Of an expression only that is kept which tells what a module exports, whether the expression may
stand on the left of an assignment, and what mistakes there are in it.
-/

namespace CustomProperties.Module

/-- The kinds of operators between operands that must not be mixed without brackets. -/
inductive Junction where
  /-- The operator that replaces what is missing. -/
  | fallback
  /-- Conjunction and disjunction. -/
  | logical
  /-- One of these two with a fallback on its left. -/
  | mixed
  | none
deriving DecidableEq, Repr

namespace Junction

/-- Whether an operator is a conjunction or a disjunction. -/
def isLogical : Junction → Bool
  | logical => true
  | mixed => true
  | _ => false

/-- The kind of an operator with an operand on its left. -/
def behind (junction left : Junction) : Junction :=
  if junction == logical && left == fallback then mixed else junction

/-- How many mistakes there are in an operator between two operands. -/
def mistakes (junction left right : Junction) : Nat :=
  if junction == fallback then
    (if left.isLogical then 1 else 0) + (if right.isLogical then 1 else 0)
  else 0

end Junction

mutual

/-- An expression of a module. -/
inductive Expression where
  /-- A string, or none if it holds half of a surrogate pair. -/
  | string (value : Option String)
  | number (value : Double)
  | bool (value : Bool)
  | null
  | name (name : String)
  | array (items : List Element)
  | object (members : List Member)
  /-- An expression in round brackets. -/
  | parens (inner : Expression)
  /-- A member of an object, of which the key may not be known. -/
  | member (owner : Expression) (key : Option String)
  /-- A member of an object that may be missing. -/
  | chain
  /-- A value assigned, without any other operation. -/
  | assignment (target value : Expression)
  | minus (operand : Expression)
  /-- What an operand is waited for to give. -/
  | awaiting (operand : Expression)
  /-- Any other operation on one operand that stands before it. -/
  | unary
  /-- An operation on two or three operands, or one that changes its operand. -/
  | operation (junction : Junction)
  /-- A function written with an arrow. -/
  | arrow
  | other

/-- An item of a list. -/
inductive Element where
  /-- An item left out. -/
  | hole
  | value (value : Expression)
  /-- The items of another list. -/
  | spread (source : Expression)

/-- A member of an object literal. -/
inductive Member where
  /-- A key, if it is known, and its value. -/
  | property (key : Option String) (value : Expression)
  /-- A name that is key and value in one, and whether it has a value for where there is none. -/
  | shorthand (name : String) (hasDefault : Bool)
  | method
  /-- The members of another object. -/
  | spread (source : Expression)

end

instance : Inhabited Expression := ⟨.other⟩

namespace Expression

/-- Whether an expression is an arrow function. -/
def isArrow : Expression → Bool
  | arrow => true
  | _ => false

/-- Whether an expression is a name. -/
def isName : Expression → Bool
  | name _ => true
  | _ => false

/-- Whether an expression is an assignment. -/
def isAssignment : Expression → Bool
  | assignment .. => true
  | _ => false

/-- Whether an expression is an operation that starts with its operator. -/
def isUnary : Expression → Bool
  | minus _ => true
  | awaiting _ => true
  | unary => true
  | _ => false

/-- Whether an expression is, or waits for, the name that may declare resources. -/
def isUsing : Expression → Bool
  | name text => text == "using"
  | awaiting (name text) => text == "using"
  | _ => false

/-- Whether an expression goes through a chain that may break off. -/
def isChain : Expression → Bool
  | chain => true
  | _ => false

/-- The kind of the operator that an operation is made with. -/
def junction : Expression → Junction
  | operation junction => junction
  | _ => .none

/-! ### Patterns -/

/-- Whether an expression on the left of an assignment is a pattern by itself. -/
def isOwnPattern : Expression → Bool
  | name _ => true
  | array _ => true
  | object _ => true
  | _ => false

mutual

/-- How many mistakes there are in taking an expression as a pattern, if it can be taken as one.
Objects with methods cannot. A pattern may be meant to declare names. -/
def mistakesAsPattern? (declares : Bool) : Expression → Option Nat
  | name _ => some 0
  | array items => mistakesAsItems? declares items
  | object members => mistakesAsMembers? declares members
  | assignment target _ => some (if target.isOwnPattern then 0 else 1)
  | _ => some 1

/-- How many mistakes there are in taking the items of a list as items of a pattern. Only the last
one may stand for all that is left. -/
def mistakesAsItems? (declares : Bool) : List Element → Option Nat
  | [] => some 0
  | .hole :: items => mistakesAsItems? declares items
  | .value item :: items => do
    pure ((← mistakesAsPattern? declares item) + (← mistakesAsItems? declares items))
  | [.spread source] => do
    pure ((← mistakesAsPattern? declares source) + (if source.isAssignment then 1 else 0))
  | .spread _ :: items => do pure (1 + (← mistakesAsItems? declares items))

/-- How many mistakes there are in taking the members of an object as members of a pattern. What is
left can be declared only under a name, and only at the end. -/
def mistakesAsMembers? (declares : Bool) : List Member → Option Nat
  | [] => some 0
  | .property _ value :: members => do
    pure ((← mistakesAsPattern? declares value) + (← mistakesAsMembers? declares members))
  | .shorthand .. :: members => mistakesAsMembers? declares members
  | .method :: _ => none
  | .spread source :: members => do
    let inner ← if declares then pure (if source.isName then 0 else 1)
      else mistakesAsPattern? declares source
    pure (inner + (if members.isEmpty then 0 else 1) + (← mistakesAsMembers? declares members))

end

/-- Whether an expression can be taken as a pattern for an assignment. What is neither a list nor an
object always can. -/
def isPattern (value : Expression) : Bool := (value.mistakesAsPattern? false).isSome

mutual

/-- How often a name that must not be declared stands in an expression taken as a pattern. -/
def fixedNameCount : Expression → Nat
  | name text => if fixedNames.contains text then 1 else 0
  | array items => fixedNameCountInItems items
  | object members => fixedNameCountInMembers members
  | assignment target _ => if target.isOwnPattern then target.fixedNameCount else 0
  | _ => 0

/-- How often a name that must not be declared stands in items taken as items of a pattern. -/
def fixedNameCountInItems : List Element → Nat
  | [] => 0
  | .hole :: items => fixedNameCountInItems items
  | .value item :: items => item.fixedNameCount + fixedNameCountInItems items
  | [.spread source] => source.fixedNameCount
  | .spread _ :: items => fixedNameCountInItems items

/-- How often a name that must not be declared stands in members taken as members of a pattern. -/
def fixedNameCountInMembers : List Member → Nat
  | [] => 0
  | .property _ value :: members => value.fixedNameCount + fixedNameCountInMembers members
  | .shorthand text _ :: members =>
    (if fixedNames.contains text then 1 else 0) + fixedNameCountInMembers members
  | .method :: members => fixedNameCountInMembers members
  | .spread source :: members =>
    (if source.isName then source.fixedNameCount else 0) + fixedNameCountInMembers members

end

/-- Whether an expression may stand before an equals sign. -/
def isTarget : Expression → Bool
  | name _ => true
  | member .. => true
  | chain => true
  | parens _ => true
  | array items => (mistakesAsItems? false items).isSome
  | object members => (mistakesAsMembers? false members).isSome
  | _ => false

/-- Whether an expression may stand before an operator that assigns. -/
def isPlace : Expression → Bool
  | name _ => true
  | member .. => true
  | chain => true
  | parens _ => true
  | _ => false

/-- Whether it is right to change what an expression names. -/
def isChangeable : Expression → Bool
  | name text => !fixedNames.contains text
  | member (member owner key) _ => (member owner key).isChangeable
  | member chain _ => false
  | member .. => true
  | parens inner => inner.isChangeable
  | _ => false

/-- How many names in an object have values for where there is none, which only patterns may
have. -/
def defaultCount : Expression → Nat
  | object members => members.countP fun
    | .shorthand _ hasDefault => hasDefault
    | _ => false
  | _ => 0

end Expression

namespace Element

/-- The expression of an item, if it has one. -/
def expression? : Element → Option Expression
  | hole => none
  | value expression => some expression
  | spread expression => some expression

/-- How many names in the expression of an item have values that only patterns may have. -/
def defaultCount (item : Element) : Nat :=
  match item.expression? with
  | some expression => expression.defaultCount
  | none => 0

/-- Whether an item stands for the items of another list. -/
def isSpread : Element → Bool
  | spread _ => true
  | _ => false

/-- Whether an item is a name. -/
def isName : Element → Bool
  | value expression => expression.isName
  | _ => false

end Element

/-- How many mistakes there are in taking items in brackets as parameters, if they can be taken as
such. A comma must not follow the parameter that stands for all that is left. -/
def mistakesAsParameters? (items : List Element) (trailingComma : Bool) : Option Nat :=
  (Expression.mistakesAsItems? true items).map fun count =>
    count + (if trailingComma && items.getLast?.any (·.isSpread) then 1 else 0)
      + Expression.fixedNameCountInItems items

/-- A name that is declared, or none for a pattern, and the value it gets. -/
abbrev Binding := Option String × Option Expression

/-- What a module says at its top. -/
inductive Item where
  /-- Variables declared and exported. -/
  | exportVariables (bindings : List Binding)
  /-- A value exported as the default. -/
  | exportDefault (value : Expression)
  /-- An expression that stands for itself. -/
  | expression (value : Expression)
  | other
deriving Inhabited

/-- Whether statements start with one that asks for strict rules. Only strings may stand before
it. -/
def asksForStrictness : List Item → Bool
  | .expression (.string value) :: items => value == some "use strict" || asksForStrictness items
  | _ => false

end CustomProperties.Module
