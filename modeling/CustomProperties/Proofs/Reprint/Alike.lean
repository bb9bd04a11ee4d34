import CustomProperties.Proofs.Sheet.Induction
import Mathlib.Tactic.Common

/-!
# Sheets of the same structure

The outline of a tree is what there is without values: which nodes hold which, in what order, and
under which selectors and names. Two trees are alike if they have the same nodes with the same
texts, whatever their numbers, and however the texts of declarations are cut behind the name.
-/

namespace CustomProperties

/-- The structure of a node. -/
inductive Outline where
  | rule (selector : String) (body : List Outline)
  | atBlock (name : String) (body : List Outline)
  | atStatement (name : String)
  | declaration (prop : String)
  | comment
  | document (body : List Outline)

namespace Node

mutual

/-- The structure of a node and of what it holds. -/
def outline : Node → Outline
  | rule head body _ => .rule head.selector (outlineAll body)
  | atBlock head body _ => .atBlock head.name (outlineAll body)
  | atStatement head _ => .atStatement head.name
  | declaration d => .declaration d.prop
  | comment _ => .comment
  | document _ body _ => .document (outlineAll body)

/-- The structure of a sequence of nodes. -/
def outlineAll : List Node → List Outline
  | [] => []
  | n :: ns => n.outline :: outlineAll ns

end

/-- A node that holds no others, and the same node with another number; a declaration with the same
name, the same text and the same end. -/
inductive SameLeaf : Node → Node → Prop where
  | atStatement {head : AtHead} {semicolon : Bool} (id : NodeId) :
      SameLeaf (.atStatement head semicolon) (.atStatement { head with id } semicolon)
  | comment {c : Comment} (id : NodeId) : SameLeaf (.comment c) (.comment { c with id })
  | declaration {d d' : Declaration} (hprop : d'.prop = d.prop) (hrender : d'.render = d.render)
      (hsemicolon : d'.semicolon = d.semicolon) : SameLeaf (.declaration d) (.declaration d')

lemma SameLeaf.render_eq {n n' : Node} (h : SameLeaf n n') : n'.render = n.render := by
  cases h with
  | atStatement => simp [render, AtHead.render]
  | comment => simp [render, Comment.render]
  | declaration _ hrender _ => simpa [render] using hrender

lemma SameLeaf.outline_eq {n n' : Node} (h : SameLeaf n n') : n'.outline = n.outline := by
  cases h with
  | atStatement => rfl
  | comment => rfl
  | declaration hprop => simp [outline, hprop]

lemma SameLeaf.trans {n m n' : Node} (h : SameLeaf n m) (h' : SameLeaf m n') : SameLeaf n n' := by
  cases h with
  | atStatement =>
    cases h' with
    | atStatement id => exact .atStatement id
  | comment =>
    cases h' with
    | comment id => exact .comment id
  | declaration hprop hrender hsemicolon =>
    cases h' with
    | declaration hprop' hrender' hsemicolon' =>
      exact .declaration (hprop'.trans hprop) (hrender'.trans hrender)
        (hsemicolon'.trans hsemicolon)

lemma SameLeaf.number {n n' : Node} (h : SameLeaf n n') (next : NodeId) :
    SameLeaf n (n'.number next) := by
  cases h with
  | atStatement => exact .atStatement next
  | comment => exact .comment next
  | declaration hprop hrender hsemicolon => exact .declaration hprop hrender hsemicolon

end Node

/-- Trees with the same nodes, up to numbers and the insides of declarations. -/
inductive Alike : List Node → List Node → Prop where
  | nil : Alike [] []
  | leaf {n n' : Node} {ns ms : List Node} (hleaf : n.SameLeaf n') (hrest : Alike ns ms) :
      Alike (n :: ns) (n' :: ms)
  | rule {head : RuleHead} {body body' : List Node} {tail : BlockEnd} {ns ms : List Node}
      (id : NodeId) (hbody : Alike body body') (hrest : Alike ns ms) :
      Alike (.rule head body tail :: ns) (.rule { head with id } body' tail :: ms)
  | atBlock {head : AtHead} {body body' : List Node} {tail : BlockEnd} {ns ms : List Node}
      (id : NodeId) (hbody : Alike body body') (hrest : Alike ns ms) :
      Alike (.atBlock head body tail :: ns) (.atBlock { head with id } body' tail :: ms)

namespace Alike

variable {ns ms : List Node}

lemma renderAll_eq (h : Alike ns ms) : Node.renderAll ms = Node.renderAll ns := by
  induction h with
  | nil => rfl
  | leaf hleaf _ ih => simp [hleaf.render_eq, ih]
  | rule id _ _ ihbody ih => simp [Node.render, RuleHead.render, ihbody, ih]
  | atBlock id _ _ ihbody ih => simp [Node.render, AtHead.render, ihbody, ih]

lemma outlineAll_eq (h : Alike ns ms) : Node.outlineAll ms = Node.outlineAll ns := by
  induction h with
  | nil => rfl
  | leaf hleaf _ ih => simp [Node.outlineAll, hleaf.outline_eq, ih]
  | rule id _ _ ihbody ih => simp [Node.outlineAll, Node.outline, ihbody, ih]
  | atBlock id _ _ ihbody ih => simp [Node.outlineAll, Node.outline, ihbody, ih]

lemma numberAll (h : Alike ns ms) (next : NodeId) : Alike ns (Node.numberAll next ms) := by
  induction h generalizing next with
  | nil => exact .nil
  | leaf hleaf _ ih => exact .leaf (hleaf.number next) (ih _)
  | rule id _ _ ihbody ih => exact .rule next (ihbody _) (ih _)
  | atBlock id _ _ ihbody ih => exact .atBlock next (ihbody _) (ih _)

end Alike

end CustomProperties
