import CustomProperties.Directive
import CustomProperties.Resolve

/-!
# Updating declarations

A declaration is updated if it is not ignored, defines no custom property, and resolving its value
changes it. When declarations are preserved, a copy with the new value comes right before each of
them; otherwise the new values take the place of the old ones. Both ways act on the same
declarations and write the same values.
-/

namespace CustomProperties

open Text (isWord)

/-! ### References in a text -/

/-- Whether a text starts with a call of `var` that has something in its brackets before some later
closing bracket. -/
def startsCall : List Char → Bool
  | 'v' :: 'a' :: 'r' :: '(' :: _ :: rest => rest.contains ')'
  | _ => false

/-- Whether a call of `var` stands in a text, `fresh` telling whether a name may start at its first
character. -/
def mentionsCall (fresh : Bool) : List Char → Bool
  | [] => false
  | c :: rest => (fresh && startsCall (c :: rest)) || mentionsCall (!(isWord c || c == '-')) rest

/-- Whether a value may hold a reference, as far as its text tells. -/
def mayRefer (value : String) : Bool := mentionsCall true value.toList

/-- What stands before the last opening mark of a comment in a text, both in reverse. At least one
character comes behind the mark and at least one before it. -/
def beforeOpening : List Char → Option (List Char)
  | _ :: '*' :: '/' :: c :: front => some (c :: front)
  | [_, '*', '/'] => none
  | _ :: rest => beforeOpening rest
  | [] => none

/-- A value cut before the comment that ends it. -/
def splitTrailingComment (value : String) : String × String :=
  let text := value.toList
  let body? := match text.reverse with
    | '/' :: '*' :: back => beforeOpening back
    | _ => none
  match body? with
  | some front => (String.ofList front.reverse, String.ofList (text.drop front.length))
  | none => (value, "")

/-! ### Values -/

/-- The new value of a property, if it has one. A comment at the end is left out of resolving. -/
def resolvedValue? (table : PropertyTable) (prop value : String) : Option String :=
  if isCustomProperty prop || !mayRefer value then none
  else
    let (body, comment) := splitTrailingComment value
    let resolved := resolveText table body
    if resolved == body then none else some (resolved ++ comment)

/-- The new value of a declaration, if it is to be updated. -/
def Declaration.updated? (table : PropertyTable) (ignored : IgnoreSet) (d : Declaration) :
    Option String :=
  if ignored.contains d.id then none else resolvedValue? table d.prop d.value

/-! ### Trees -/

/-- Nodes afterwards, and how many declarations were updated. -/
abbrev Updated := List Node × Nat

/-- The nodes that a declaration becomes, given its new value. A copy is numbered `next`. -/
def Declaration.updateTo (preserve : Bool) (next : NodeId) (d : Declaration) :
    Option String → Updated
  | none => ([.declaration d], 0)
  | some value =>
    if preserve then ([.declaration (d.withValue next value), .declaration d], 1)
    else ([.declaration { d with value }], 1)

mutual

/-- Update the declarations of a node. Copies are numbered from `next` on. -/
def updateNode (edit : Declaration → Option String) (preserve : Bool) (next : NodeId) :
    Node → Updated
  | .rule head body tail =>
    let inner := updateNodes edit preserve next body
    ([.rule head inner.1 tail], inner.2)
  | .atBlock head body tail =>
    let inner := updateNodes edit preserve next body
    ([.atBlock head inner.1 tail], inner.2)
  | .document id body after =>
    let inner := updateNodes edit preserve next body
    ([.document id inner.1 after], inner.2)
  | .atStatement head semicolon => ([.atStatement head semicolon], 0)
  | .declaration d => d.updateTo preserve next (edit d)
  | .comment c => ([.comment c], 0)

/-- Update the declarations of a sequence of nodes. -/
def updateNodes (edit : Declaration → Option String) (preserve : Bool) (next : NodeId) :
    List Node → Updated
  | [] => ([], 0)
  | n :: ns =>
    let first := updateNode edit preserve next n
    let rest := updateNodes edit preserve (next + first.2) ns
    (first.1 ++ rest.1, first.2 + rest.2)

end

/-- Update the declarations of a sheet. Gives the sheet and how many were updated; copies are
numbered from `next` on. -/
def Stylesheet.update (sheet : Stylesheet) (table : PropertyTable) (ignored : IgnoreSet)
    (preserve : Bool) (next : NodeId) : Stylesheet × Nat :=
  let result := updateNodes (·.updated? table ignored) preserve next sheet.nodes
  ({ sheet with nodes := result.1 }, result.2)

end CustomProperties
