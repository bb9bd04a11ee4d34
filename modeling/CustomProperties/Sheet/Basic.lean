/-!
# Style sheets

A sheet is a tree of rules, at-rules, declarations, comments and embedded sheets. Every node keeps
the raw text around its parts, so that `Stylesheet.render` gives back the text a sheet was read
from. Every node also has a number that identifies it while the tree is edited.
-/

namespace CustomProperties

/-- The number that identifies a node. -/
abbrev NodeId := Nat

/-- A declaration: a name and a value. -/
structure Declaration where
  id : NodeId
  before : String
  prop : String
  /-- The colon and the blanks around it. -/
  between : String
  value : String
  /-- The mark `!important` and the blanks before it, empty if absent. -/
  important : String
  /-- The blanks after the value. -/
  after : String
  semicolon : Bool
deriving DecidableEq, Repr, Inhabited

/-- A comment with its marks. -/
structure Comment where
  id : NodeId
  before : String
  raw : String
deriving DecidableEq, Repr, Inhabited

/-- What stands before the block of a rule. -/
structure RuleHead where
  id : NodeId
  before : String
  selector : String
  /-- The blanks between the selector and the block. -/
  between : String
deriving DecidableEq, Repr, Inhabited

/-- What stands before the block or the end of an at-rule. -/
structure AtHead where
  id : NodeId
  before : String
  /-- The name without its at sign. -/
  name : String
  /-- The parameters, with the blanks before them. -/
  params : String
  between : String
deriving DecidableEq, Repr, Inhabited

/-- The end of a block: what follows its last node, and whether the block is closed. -/
structure BlockEnd where
  after : String
  closed : Bool
deriving DecidableEq, Repr, Inhabited

/-- A node of a style sheet. -/
inductive Node where
  | rule (head : RuleHead) (body : List Node) (tail : BlockEnd)
  | atBlock (head : AtHead) (body : List Node) (tail : BlockEnd)
  /-- An at-rule without a block. -/
  | atStatement (head : AtHead) (semicolon : Bool)
  | declaration (d : Declaration)
  | comment (c : Comment)
  /-- A sheet embedded in another one. -/
  | document (id : NodeId) (body : List Node) (after : String)
deriving Inhabited

/-- A style sheet: its nodes, and the blanks and stray semicolons after the last one. -/
structure Stylesheet where
  nodes : List Node
  after : String
deriving Inhabited

/-! ### Parts of nodes -/

/-- The text of a comment between its marks. -/
def Comment.text (c : Comment) : String :=
  let inner := match c.raw.toList with
    | '/' :: '*' :: inner => inner
    | raw => raw
  match inner.reverse with
  | '/' :: '*' :: rest => String.ofList rest.reverse
  | _ => String.ofList inner

/-- A copy of a declaration under a new number and with a new value, ended by a semicolon so that
it can stand before another declaration. -/
def Declaration.withValue (d : Declaration) (id : NodeId) (value : String) : Declaration :=
  { d with id, value, after := "", semicolon := true }

namespace Node

/-- The number of a node. -/
def id : Node → NodeId
  | rule head _ _ => head.id
  | atBlock head _ _ => head.id
  | atStatement head _ => head.id
  | declaration d => d.id
  | comment c => c.id
  | document id _ _ => id

/-- What stands before a node. An embedded sheet has nothing before it. -/
def before : Node → String
  | rule head _ _ => head.before
  | atBlock head _ _ => head.before
  | atStatement head _ => head.before
  | declaration d => d.before
  | comment c => c.before
  | document .. => ""

/-- The nodes directly inside a node that can hold any. -/
def children? : Node → Option (List Node)
  | rule _ body _ | atBlock _ body _ | document _ body _ => some body
  | atStatement .. | declaration _ | comment _ => none

/-- The same node with other nodes inside, if it can hold any. -/
def withChildren (body : List Node) : Node → Node
  | rule head _ tail => rule head body tail
  | atBlock head _ tail => atBlock head body tail
  | document id _ after => document id body after
  | leaf => leaf

/-- Whether a node is an embedded sheet. -/
def isDocument : Node → Bool
  | document .. => true
  | _ => false

end Node

/-! ### Text -/

/-- The text of a declaration. -/
def Declaration.render (d : Declaration) : String :=
  d.before ++ d.prop ++ d.between ++ d.value ++ d.important ++ d.after
    ++ (if d.semicolon then ";" else "")

/-- The text of a comment. -/
def Comment.render (c : Comment) : String := c.before ++ c.raw

/-- The text before the block of a rule. -/
def RuleHead.render (head : RuleHead) : String := head.before ++ head.selector ++ head.between

/-- The text before the block or the end of an at-rule. -/
def AtHead.render (head : AtHead) : String :=
  head.before ++ "@" ++ head.name ++ head.params ++ head.between

/-- The text of the end of a block. -/
def BlockEnd.render (tail : BlockEnd) : String :=
  tail.after ++ (if tail.closed then "\x7d" else "")

namespace Node

mutual

/-- The text of a node. -/
def render : Node → String
  | rule head body tail => head.render ++ "\x7b" ++ renderAll body ++ tail.render
  | atBlock head body tail => head.render ++ "\x7b" ++ renderAll body ++ tail.render
  | atStatement head semicolon => head.render ++ (if semicolon then ";" else "")
  | declaration d => d.render
  | comment c => c.render
  | document _ body after => renderAll body ++ after

/-- The text of a sequence of nodes. -/
def renderAll : List Node → String
  | [] => ""
  | n :: ns => n.render ++ renderAll ns

end

@[simp] theorem renderAll_nil : renderAll [] = "" := by rw [renderAll]

@[simp] theorem renderAll_cons (n : Node) (ns : List Node) :
    renderAll (n :: ns) = n.render ++ renderAll ns := by rw [renderAll]

@[simp] theorem renderAll_append (ns ms : List Node) :
    renderAll (ns ++ ms) = renderAll ns ++ renderAll ms := by
  induction ns with
  | nil => simp
  | cons n ns ih => simp [ih, String.append_assoc]

end Node

/-- The text of a sheet. -/
def Stylesheet.render (sheet : Stylesheet) : String := Node.renderAll sheet.nodes ++ sheet.after

/-! ### Numbers -/

namespace Node

mutual

/-- The same node numbered from `next` on, itself before what it holds. -/
def number (next : NodeId) : Node → Node
  | rule head body tail => rule { head with id := next } (numberAll (next + 1) body) tail
  | atBlock head body tail => atBlock { head with id := next } (numberAll (next + 1) body) tail
  | atStatement head semicolon => atStatement { head with id := next } semicolon
  | declaration d => declaration { d with id := next }
  | comment c => comment { c with id := next }
  | document _ body after => document next (numberAll (next + 1) body) after

/-- The same nodes numbered from `next` on. -/
def numberAll (next : NodeId) : List Node → List Node
  | [] => []
  | n :: ns => n.number next :: numberAll (next + n.size) ns

/-- How many nodes a node and what it holds are. -/
def size : Node → Nat
  | rule _ body _ => sizeAll body + 1
  | atBlock _ body _ => sizeAll body + 1
  | atStatement _ _ => 1
  | declaration _ => 1
  | comment _ => 1
  | document _ body _ => sizeAll body + 1

/-- How many nodes a sequence of nodes and what they hold are. -/
def sizeAll : List Node → Nat
  | [] => 0
  | n :: ns => n.size + sizeAll ns

/-- A number greater than those of a node and what it holds. -/
def freshId : Node → NodeId
  | rule head body _ => max (head.id + 1) (freshIdAll body)
  | atBlock head body _ => max (head.id + 1) (freshIdAll body)
  | atStatement head _ => head.id + 1
  | declaration d => d.id + 1
  | comment c => c.id + 1
  | document id body _ => max (id + 1) (freshIdAll body)

/-- A number greater than those of a sequence of nodes and what they hold. -/
def freshIdAll : List Node → NodeId
  | [] => 0
  | n :: ns => max n.freshId (freshIdAll ns)

/-- The declarations of a node, outer ones first. -/
def declarations : Node → List Declaration
  | rule _ body _ => declarationsAll body
  | atBlock _ body _ => declarationsAll body
  | atStatement _ _ => []
  | declaration d => [d]
  | comment _ => []
  | document _ body _ => declarationsAll body

/-- The declarations of a sequence of nodes, in the order of the text. -/
def declarationsAll : List Node → List Declaration
  | [] => []
  | n :: ns => n.declarations ++ declarationsAll ns

end

end Node

/-- How many nodes a sheet has. -/
def Stylesheet.size (sheet : Stylesheet) : Nat := Node.sizeAll sheet.nodes

/-- A number greater than those of all nodes of a sheet. -/
def Stylesheet.freshId (sheet : Stylesheet) : NodeId := Node.freshIdAll sheet.nodes

/-- The same sheet, its nodes numbered from `next` on. -/
def Stylesheet.number (sheet : Stylesheet) (next : NodeId) : Stylesheet :=
  { sheet with nodes := Node.numberAll next sheet.nodes }

/-! ### Embedding -/

/-- Put a sheet into a sequence of nodes: go down along `path`, and stand the sheet at `index`, or
at the end if there are fewer nodes. Where the path leaves the tree nothing changes. -/
def Node.embed (inner : Node) (index : Nat) : List Nat → List Node → List Node
  | [], nodes => nodes.take index ++ inner :: nodes.drop index
  | i :: path, nodes =>
    match nodes[i]? with
    | some n =>
      match n.children? with
      | some body => nodes.set i (n.withChildren (embed inner index path body))
      | none => nodes
    | none => nodes

/-- Embed a sheet, as a node with number `id`. -/
def Stylesheet.embed (sheet : Stylesheet) (path : List Nat) (index : Nat) (id : NodeId)
    (inner : Stylesheet) : Stylesheet :=
  { sheet with nodes := Node.embed (.document id inner.nodes inner.after) index path sheet.nodes }

end CustomProperties
