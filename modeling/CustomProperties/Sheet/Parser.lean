import CustomProperties.Css.Component
import CustomProperties.Sheet.Basic
import CustomProperties.Text.Ascii
import CustomProperties.Text.Blank

/-!
# Reading style sheets

Every text is a sheet. An item is a comment, an at-rule, a rule if a block in curly brackets comes
before the next semicolon, and a declaration otherwise; an item that starts with the name of a
custom property is a declaration even so. White space and semicolons between items belong to the
item after them.
-/

namespace CustomProperties

open Css (Component Lexeme)
open Text (trimEnd trimStart trailingBlanks isBlank sameLetters)

/-! ### Declarations -/

/-- Cut the mark `!important` and the blanks before it off the end of a text without trailing
blanks. -/
def cutImportant (text : List Char) : List Char × List Char :=
  let back := text.reverse
  let mark := "important".toList.reverse
  if (back.take mark.length).map Char.toLower = mark then
    match (back.drop mark.length).dropWhile isBlank with
    | '!' :: front =>
      let value := (front.dropWhile isBlank).reverse
      (value, text.drop value.length)
    | _ => (text, [])
  else (text, [])

/-- Read a declaration from its text without the semicolon. The first colon splits it; without
one the whole text is the name. -/
def Declaration.ofText (before : String) (text : List Char) (semicolon : Bool) : Declaration :=
  let body := trimEnd text
  let prop := if ':' ∈ body then trimEnd (body.takeWhile (· ≠ ':')) else body
  let rest := trimStart (body.dropWhile (· ≠ ':') |>.drop 1)
  let value := cutImportant rest
  { id := 0
    before
    prop := String.ofList prop
    between := String.ofList ((body.drop prop.length).take (body.length - prop.length - rest.length))
    value := String.ofList value.1
    important := String.ofList value.2
    after := String.ofList (trailingBlanks text)
    semicolon }

/-! ### Items -/

namespace Css.Component

/-- Whether a component ends the head of an at-rule. -/
def endsHead (c : Component) : Bool := c.isSemicolon || c.isCurly

/-- Whether a component is the name of a custom property. -/
def isCustomName : Component → Bool
  | token ⟨.ident name, _⟩ => name.toList.take 2 == ['-', '-']
  | _ => false

/-- What starts at a component. -/
inductive ItemKind where
  /-- White space or a semicolon between items. -/
  | gap
  | comment
  | atRule
  | rule
  | declaration
deriving DecidableEq, Repr

/-- Whether a component and what follows it start a rule. Only what follows it decides where the
block is, so a block that comes first belongs to a rule if another one follows. -/
def startsRule (c : Component) (rest : List Component) : Bool :=
  !c.isCustomName && (rest.find? endsHead).any isCurly

/-- What starts at a component, given what follows it. -/
def itemKind (c : Component) (rest : List Component) : ItemKind :=
  let other := if c.startsRule rest then ItemKind.rule else .declaration
  match c with
  | token l =>
    match l.token with
    | .blank | .semicolon => .gap
    | .comment => .comment
    | .atKeyword => .atRule
    | _ => other
  | block .. => other

/-- A sequence of components cut at one of them. -/
structure Split where
  front : List Component
  stop : Option Component
  rest : List Component

/-- Cut a sequence at the first component that satisfies `p`. -/
def splitAt (p : Component → Bool) : List Component → Split
  | [] => ⟨[], none, []⟩
  | c :: cs =>
    if p c then ⟨[], some c, cs⟩
    else ⟨c :: (splitAt p cs).front, (splitAt p cs).stop, (splitAt p cs).rest⟩

/-- The pieces of a cut make up the sequence. -/
theorem splitAt_append (p : Component → Bool) (cs : List Component) :
    (splitAt p cs).front ++ (splitAt p cs).stop.toList ++ (splitAt p cs).rest = cs := by
  fun_induction splitAt p cs <;> simp_all

theorem sizeOf_splitAt_rest_le (p : Component → Bool) (cs : List Component) :
    sizeOf (splitAt p cs).rest ≤ sizeOf cs := by
  fun_induction splitAt p cs with
  | case1 => simp
  | case2 c cs hc => simp
  | case3 c cs hc ih =>
    simp
    omega

theorem sizeOf_lt_cons {size : Nat} {c : Component} {cs : List Component} (h : size ≤ sizeOf cs) :
    size < sizeOf (c :: cs) := by
  simp
  omega

theorem sizeOf_splitAt_rest_lt (p : Component → Bool) (c : Component) (cs : List Component) :
    sizeOf (splitAt p (c :: cs)).rest < sizeOf (c :: cs) := by
  rw [splitAt]
  split
  · exact sizeOf_lt_cons (Nat.le_refl _)
  · exact sizeOf_lt_cons (sizeOf_splitAt_rest_le p cs)

theorem sizeOf_contents_lt {p : Component → Bool} {cs contents : List Component} {opener : Lexeme}
    {bracket : Bracket} {closer : Option Lexeme}
    (h : (splitAt p cs).stop = some (block opener bracket contents closer)) :
    sizeOf contents < sizeOf cs := by
  fun_induction splitAt p cs with
  | case1 => cases h
  | case2 c cs hc =>
    simp only [Option.some.injEq] at h
    subst h
    simp
    omega
  | case3 c cs hc ih =>
    have := ih h
    simp
    omega

end Css.Component

open Css.Component (splitAt endsHead)

/-- A sheet with one more node in front. -/
def Stylesheet.cons (node : Node) (sheet : Stylesheet) : Stylesheet :=
  ⟨node :: sheet.nodes, sheet.after⟩

/-- The nodes of a sequence of components, after gaps already seen, and what follows the last
node. The nodes are not numbered. -/
def Stylesheet.ofComponentsAfter (before : List Char) (components : List Component) : Stylesheet :=
  let space := String.ofList before
  match components with
  | [] => ⟨[], space⟩
  | c :: rest =>
    match c.itemKind rest with
    | .gap => ofComponentsAfter (before ++ c.text) rest
    | .comment => cons (.comment ⟨0, space, String.ofList c.text⟩) (ofComponentsAfter [] rest)
    | .atRule =>
      let split := splitAt endsHead rest
      let params := Component.textOf split.front
      let head : AtHead :=
        ⟨0, space, String.ofList (c.text.drop 1), String.ofList (trimEnd params),
          String.ofList (trailingBlanks params)⟩
      let node := match _h : split.stop with
        | some (.block _ bracket contents closer) =>
          let inner := ofComponentsAfter [] contents
          Node.atBlock head inner.nodes
            ⟨inner.after, Component.countsAsClosed bracket contents closer⟩
        | some (.token _) => .atStatement head true
        | none => .atStatement head false
      cons node (ofComponentsAfter [] split.rest)
    | .rule =>
      let split := splitAt Component.isCurly (c :: rest)
      let selector := Component.textOf split.front
      let head : RuleHead :=
        ⟨0, space, String.ofList (trimEnd selector), String.ofList (trailingBlanks selector)⟩
      let node := match _h : split.stop with
        | some (.block _ bracket contents closer) =>
          let inner := ofComponentsAfter [] contents
          Node.rule head inner.nodes ⟨inner.after, Component.countsAsClosed bracket contents closer⟩
        | _ => .rule head [] ⟨"", false⟩
      cons node (ofComponentsAfter [] split.rest)
    | .declaration =>
      let split := splitAt Component.isSemicolon (c :: rest)
      cons (.declaration (Declaration.ofText space (Component.textOf split.front) split.stop.isSome))
        (ofComponentsAfter [] split.rest)
termination_by sizeOf components
decreasing_by
  · exact Component.sizeOf_lt_cons (Nat.le_refl _)
  · exact Component.sizeOf_lt_cons (Nat.le_refl _)
  · exact Component.sizeOf_lt_cons (Nat.le_of_lt (Component.sizeOf_contents_lt _h))
  · exact Component.sizeOf_lt_cons (Component.sizeOf_splitAt_rest_le ..)
  · exact Component.sizeOf_contents_lt _h
  · exact Component.sizeOf_splitAt_rest_lt ..
  · exact Component.sizeOf_splitAt_rest_lt ..

/-- Read a sheet, its nodes numbered from `next` on. -/
def Stylesheet.parse (text : String) (next : NodeId) : Stylesheet :=
  (ofComponentsAfter [] (Css.components text.toList)).number next

end CustomProperties
