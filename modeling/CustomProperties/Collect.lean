import CustomProperties.Directive
import CustomProperties.Table

/-!
# Collecting definitions

Custom properties are defined directly inside host scopes: rules that select `html` or `:root`, at
the top of a sheet or of a sheet embedded in it. A later definition of a name replaces an earlier
one. Unless definitions are to be preserved they are taken out of the sheet, and so are the host
scopes that this leaves empty.
-/

namespace CustomProperties

open Text (sameLetters trimmed)

/-- Whether one of the branches of a selector is `html` or `:root`. -/
def selectsHost (selector : String) : Bool :=
  (selector.toList.splitOn ',').any fun branch =>
    let name := trimmed (String.ofList branch)
    sameLetters name "html" || sameLetters name ":root"

/-- Whether a rule with this head and these nodes inside is a host scope. An empty rule is none. -/
def isHostScope (head : RuleHead) (body : List Node) : Bool :=
  !body.isEmpty && selectsHost head.selector

namespace Node

/-- Whether a node is a host scope. -/
def isHost : Node → Bool
  | rule head body _ => isHostScope head body
  | _ => false

/-- The definition that a node is: a declaration of a custom property that is not ignored. -/
def definition? (ignored : IgnoreSet) : Node → Option Declaration
  | declaration d =>
    if isCustomProperty d.prop && !ignored.contains d.id then some d else none
  | _ => none

end Node

/-- The tokens that a declaration defines: those of its value, without comments. -/
def Declaration.definedTokens (d : Declaration) : List ValueNode :=
  (Value.parse d.value).stripped.nodes

/-- Add the definitions among some nodes to a table, in order. -/
def PropertyTable.define (ignored : IgnoreSet) (table : PropertyTable) (nodes : List Node) :
    PropertyTable :=
  (nodes.filterMap (·.definition? ignored)).foldl
    (fun table d => table.insert d.prop d.definedTokens) table

/-- Some nodes without the definitions among them. -/
def withoutDefinitions (ignored : IgnoreSet) (nodes : List Node) : List Node :=
  nodes.filter fun n => (n.definition? ignored).isNone

/-- Add the definitions of the host scopes among some nodes to a table. Gives the table and the
nodes that are left. -/
def collectFrom (ignored : IgnoreSet) (preserve : Bool) (table : PropertyTable) :
    List Node → PropertyTable × List Node
  | [] => (table, [])
  | .document id body after :: rest =>
    let inner := collectFrom ignored preserve table body
    let tail := collectFrom ignored preserve inner.1 rest
    (tail.1, .document id inner.2 after :: tail.2)
  | .rule head body tail :: rest =>
    if isHostScope head body then
      let left := if preserve then body else withoutDefinitions ignored body
      let others := collectFrom ignored preserve (table.define ignored body) rest
      if !preserve && left.isEmpty && !ignored.contains head.id then others
      else (others.1, .rule head left tail :: others.2)
    else
      let others := collectFrom ignored preserve table rest
      (others.1, .rule head body tail :: others.2)
  | .atBlock head body tail :: rest =>
    let others := collectFrom ignored preserve table rest
    (others.1, .atBlock head body tail :: others.2)
  | .atStatement head semicolon :: rest =>
    let others := collectFrom ignored preserve table rest
    (others.1, .atStatement head semicolon :: others.2)
  | .declaration d :: rest =>
    let others := collectFrom ignored preserve table rest
    (others.1, .declaration d :: others.2)
  | .comment c :: rest =>
    let others := collectFrom ignored preserve table rest
    (others.1, .comment c :: others.2)

/-- Collect the definitions of a sheet. Gives the table and the sheet that is left. -/
def Stylesheet.collect (sheet : Stylesheet) (ignored : IgnoreSet) (preserve : Bool) :
    PropertyTable × Stylesheet :=
  let result := collectFrom ignored preserve ∅ sheet.nodes
  (result.1, { sheet with nodes := result.2 })

end CustomProperties
