import CustomProperties.Sheet.Basic
import Mathlib.Tactic.Common

/-!
# Induction over sheets

A sequence of nodes is taken apart into its first node, what that node holds, and the rest. All that
is proved about trees is proved by this one induction, with a case for each kind of node.
-/

namespace CustomProperties.Node

/-- Induction over sequences of nodes and what they hold. -/
@[elab_as_elim]
lemma induct {motive : List Node → Prop} (nil : motive [])
    (rule : ∀ head body tail rest, motive body → motive rest →
      motive (.rule head body tail :: rest))
    (atBlock : ∀ head body tail rest, motive body → motive rest →
      motive (.atBlock head body tail :: rest))
    (atStatement : ∀ head semicolon rest, motive rest →
      motive (.atStatement head semicolon :: rest))
    (declaration : ∀ d rest, motive rest → motive (.declaration d :: rest))
    (comment : ∀ c rest, motive rest → motive (.comment c :: rest))
    (document : ∀ id body after rest, motive body → motive rest →
      motive (.document id body after :: rest))
    (nodes : List Node) : motive nodes := by
  match nodes with
  | [] => exact nil
  | .rule head body tail :: rest =>
    exact rule head body tail rest
      (induct nil rule atBlock atStatement declaration comment document body)
      (induct nil rule atBlock atStatement declaration comment document rest)
  | .atBlock head body tail :: rest =>
    exact atBlock head body tail rest
      (induct nil rule atBlock atStatement declaration comment document body)
      (induct nil rule atBlock atStatement declaration comment document rest)
  | .atStatement head semicolon :: rest =>
    exact atStatement head semicolon rest
      (induct nil rule atBlock atStatement declaration comment document rest)
  | .declaration d :: rest =>
    exact declaration d rest
      (induct nil rule atBlock atStatement declaration comment document rest)
  | .comment c :: rest =>
    exact comment c rest
      (induct nil rule atBlock atStatement declaration comment document rest)
  | .document id body after :: rest =>
    exact document id body after rest
      (induct nil rule atBlock atStatement declaration comment document body)
      (induct nil rule atBlock atStatement declaration comment document rest)

/-- The same induction where the kind of a node does not matter. -/
@[elab_as_elim]
lemma induct_children {motive : List Node → Prop} (nil : motive [])
    (cons : ∀ n ns, (∀ body, n.children? = some body → motive body) → motive ns → motive (n :: ns))
    (nodes : List Node) : motive nodes := by
  induction nodes using Node.induct with
  | nil => exact nil
  | rule head body tail rest ihbody ih => exact cons _ _ (by simpa [children?] using ihbody) ih
  | atBlock head body tail rest ihbody ih => exact cons _ _ (by simpa [children?] using ihbody) ih
  | atStatement head semicolon rest ih => exact cons _ _ (by simp [children?]) ih
  | declaration d rest ih => exact cons _ _ (by simp [children?]) ih
  | comment c rest ih => exact cons _ _ (by simp [children?]) ih
  | document id body after rest ihbody ih => exact cons _ _ (by simpa [children?] using ihbody) ih

/-! ### Numbers -/

/-- Numbering keeps the text. -/
@[simp] lemma renderAll_numberAll (next : NodeId) (nodes : List Node) :
    renderAll (numberAll next nodes) = renderAll nodes := by
  induction nodes using Node.induct generalizing next with
  | nil => simp [numberAll]
  | rule head body tail rest ihbody ih =>
    simp [numberAll, number, render, RuleHead.render, ihbody, ih]
  | atBlock head body tail rest ihbody ih =>
    simp [numberAll, number, render, AtHead.render, ihbody, ih]
  | atStatement head semicolon rest ih => simp [numberAll, number, render, AtHead.render, ih]
  | declaration d rest ih => simp [numberAll, number, render, Declaration.render, ih]
  | comment c rest ih => simp [numberAll, number, render, Comment.render, ih]
  | document id body after rest ihbody ih => simp [numberAll, number, render, ihbody, ih]

end CustomProperties.Node
