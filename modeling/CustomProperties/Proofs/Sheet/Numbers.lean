import CustomProperties.Proofs.Sheet.Induction
import CustomProperties.Sheet.Parser
import CustomProperties.Update
import Mathlib

/-!
# The numbers of nodes

A parsed sheet is numbered one by one in the order of the text, so that no number occurs twice in
it. Updating a sheet in place changes no number.
-/

namespace CustomProperties

namespace Node

mutual

/-- The numbers of a node and of what it holds, its own first. -/
def ids : Node → List NodeId
  | rule head body _ => head.id :: idsAll body
  | atBlock head body _ => head.id :: idsAll body
  | atStatement head _ => [head.id]
  | declaration d => [d.id]
  | comment c => [c.id]
  | document id body _ => id :: idsAll body

/-- The numbers of a sequence of nodes and of what they hold, in the order of the text. -/
def idsAll : List Node → List NodeId
  | [] => []
  | n :: ns => n.ids ++ idsAll ns

end

@[simp] lemma idsAll_nil : idsAll [] = [] := by rw [idsAll]

@[simp] lemma idsAll_cons (n : Node) (ns : List Node) : idsAll (n :: ns) = n.ids ++ idsAll ns := by
  rw [idsAll]

mutual

lemma ids_number (next : NodeId) (n : Node) : (n.number next).ids = List.range' next n.size := by
  match n with
  | rule head body tail =>
    simp [number, ids, size, idsAll_numberAll (next + 1) body, List.range'_succ]
  | atBlock head body tail =>
    simp [number, ids, size, idsAll_numberAll (next + 1) body, List.range'_succ]
  | atStatement head semicolon => simp [number, ids, size]
  | declaration d => simp [number, ids, size]
  | comment c => simp [number, ids, size]
  | document id body after =>
    simp [number, ids, size, idsAll_numberAll (next + 1) body, List.range'_succ]

/-- Nodes are numbered one after the other. -/
lemma idsAll_numberAll (next : NodeId) (ns : List Node) :
    idsAll (numberAll next ns) = List.range' next (sizeAll ns) := by
  match ns with
  | [] => simp [numberAll, sizeAll]
  | n :: ns =>
    rw [numberAll, idsAll_cons, ids_number next n, idsAll_numberAll (next + n.size) ns, sizeAll,
      List.range'_append_1]

end

/-- To replace declarations changes no number. -/
lemma idsAll_updateNodes_replacing (value : Declaration → Option String) (next : NodeId)
    (ns : List Node) : idsAll (updateNodes value false next ns).1 = idsAll ns := by
  induction ns using Node.induct generalizing next with
  | nil => simp [updateNodes]
  | rule head body tail rest ihbody ih => simp [updateNodes, updateNode, ids, ihbody, ih]
  | atBlock head body tail rest ihbody ih => simp [updateNodes, updateNode, ids, ihbody, ih]
  | atStatement head semicolon rest ih => simp [updateNodes, updateNode, ids, ih]
  | declaration d rest ih =>
    cases h : value d <;> simp [updateNodes, updateNode, Declaration.updateTo, ids, h, ih]
  | comment c rest ih => simp [updateNodes, updateNode, ids, ih]
  | document id body after rest ihbody ih => simp [updateNodes, updateNode, ids, ihbody, ih]

end Node

/-- No number occurs twice in a parsed sheet. -/
lemma Stylesheet.nodup_ids_parse (text : String) (next : NodeId) :
    (Node.idsAll (Stylesheet.parse text next).nodes).Nodup := by
  rw [Stylesheet.parse, Stylesheet.number, Node.idsAll_numberAll]
  exact List.nodup_range'

end CustomProperties
