import CustomProperties.Css.Component
import CustomProperties.Value.Basic

/-!
# Reading declaration values

Every text is a value: what the lexer cannot tell apart further is a word.
-/

namespace CustomProperties

open Css (Component Lexeme)

/-- The tokens of a sequence of components, after the white space already seen, and the white
space after the last token. -/
def Value.ofComponentsAfter (before : List Char) : List Component → Value
  | [] => ⟨[], String.ofList before⟩
  | .token l :: rest =>
    let space := String.ofList before
    let node? : Option ValueNode := match l.token with
      | .blank => none
      | .comma => some (.comma space)
      | .comment => some (.comment space (String.ofList l.text))
      | _ => some (.word space (String.ofList l.text))
    match node? with
    | none => ofComponentsAfter (before ++ l.text) rest
    | some node =>
      let tail := ofComponentsAfter [] rest
      ⟨node :: tail.nodes, tail.after⟩
  | .block opener bracket contents closer :: rest =>
    let space := String.ofList before
    let inner := ofComponentsAfter [] contents
    let closed := Component.countsAsClosed bracket contents closer
    let node : ValueNode := match opener.token with
      | .function name => .function space name inner.nodes inner.after closed
      | _ => .block space bracket inner.nodes inner.after closed
    let tail := ofComponentsAfter [] rest
    ⟨node :: tail.nodes, tail.after⟩

/-- Read a value. -/
def Value.parse (text : String) : Value := ofComponentsAfter [] (Css.components text.toList)

end CustomProperties
