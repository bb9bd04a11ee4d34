import CustomProperties.Proofs.Directives.Matching
import CustomProperties.Proofs.Editing.Frame
import CustomProperties.Proofs.Merging.Sources
import CustomProperties.Proofs.Sheet.Ends
import CustomProperties.Proofs.Sheet.Numbers
import Mathlib

/-!
# Marks that outlive a pass

A scan marks nodes by where they stand and by their texts; `Marks` says so without numbers. A pass
that does not preserve takes out and rewrites nodes without a mark only, so that every directive is
still there afterwards, and in front of the same nodes. A scan of what the pass leaves marks all
that the first scan had marked (`Edited.contains_of_contains`), and the definitions that the pass
leaves are among that (`Edited.contains_of_mem_hostDefinitions`).
-/

namespace CustomProperties

open Css (EndsInStop)
open Directive (switchesOff switchesOff_append)
open IgnoreSet (asksIgnoreNext scanNode scanNodes)

/-! ### Scans -/

/-- The nodes of a sequence, and of what they hold, are ignored if they are marked where they stand:
`off` marks all of the sequence and `next` its first node. -/
inductive Marks (ignored : IgnoreSet) : Bool → Bool → List Node → Prop where
  | nil {off next : Bool} : Marks ignored off next []
  | cons {off next : Bool} {n : Node} {ns : List Node}
      (hmark : ignored.contains n.id = (off || next || switchesOff n.render))
      (hbody : ∀ body, n.children? = some body →
        Marks ignored (switchesOff n.render && !n.isDocument) false body)
      (hrest : Marks ignored off (asksIgnoreNext n) ns) : Marks ignored off next (n :: ns)

lemma Node.ids_eq (n : Node) : n.ids = n.id :: (n.children?.map Node.idsAll).getD [] := by
  cases n <;> simp [ids, Node.id, children?]

lemma scanNode_eq (marked : Bool) (n : Node) :
    scanNode marked n = (if marked || switchesOff n.render then [n.id] else [])
      ++ (n.children?.map (scanNodes (switchesOff n.render && !n.isDocument) false)).getD [] := by
  cases n <;> simp [scanNode, Node.id, Node.children?, Node.isDocument, Node.render]

lemma scanNodes_cons (off next : Bool) (n : Node) (ns : List Node) :
    scanNodes off next (n :: ns)
      = scanNode (off || next) n ++ scanNodes off (asksIgnoreNext n) ns := by
  rw [scanNodes]

lemma scanNodes_subset (off next : Bool) (ns : List Node) :
    scanNodes off next ns ⊆ Node.idsAll ns := by
  induction ns using Node.induct_children generalizing off next with
  | nil => simp [scanNodes]
  | cons n ns ihbody ih =>
    rw [scanNodes_cons, Node.idsAll_cons, scanNode_eq, Node.ids_eq, List.append_subset]
    refine ⟨List.append_subset.2 ⟨by split <;> simp, ?_⟩,
      List.Subset.trans (ih _ _) (List.subset_append_right _ _)⟩
    cases hbody : n.children? with
    | none => simp
    | some body =>
      simp only [Option.map_some, Option.getD_some]
      exact List.Subset.trans (ihbody body hbody _ _) (by simp)

/-- If all numbers differ, a scan ignores a node only for its own mark. -/
lemma marks_of_nodup {ignored : IgnoreSet} {off next : Bool} {ns : List Node}
    (hnodup : (Node.idsAll ns).Nodup)
    (h : ∀ id ∈ Node.idsAll ns, ignored.contains id ↔ id ∈ scanNodes off next ns) :
    Marks ignored off next ns := by
  induction ns using Node.induct_children generalizing off next with
  | nil => exact .nil
  | cons n ns ihbody ih =>
    -- the numbers found by the scan: of the node, of what it holds, and of the rest
    rw [Node.idsAll_cons, Node.ids_eq] at hnodup h
    rw [scanNodes_cons, scanNode_eq] at h
    have hrest := scanNodes_subset off (asksIgnoreNext n) ns
    generalize hinner : (n.children?.map Node.idsAll).getD [] = inner at hnodup h
    generalize hfound : (n.children?.map
      (scanNodes (switchesOff n.render && !n.isDocument) false)).getD [] = found at h
    have hsubset : found ⊆ inner := by
      cases hbody : n.children? with
      | none => simp [← hfound, hbody]
      | some body =>
        rw [← hfound, ← hinner, hbody]
        exact scanNodes_subset _ _ body
    rw [List.nodup_append, List.nodup_cons] at hnodup
    obtain ⟨⟨hid, hnodupInner⟩, hnodupRest, hdisjoint⟩ := hnodup
    refine .cons ?_ (fun body hbody => ihbody body hbody ?_ fun id hmem => ?_)
      (ih hnodupRest fun id hmem => ?_)
    · have hself := h n.id (by simp)
      grind
    · simpa [← hinner, hbody] using hnodupInner
    · simp only [hbody, Option.map_some, Option.getD_some] at hinner hfound
      subst hinner hfound
      have hothers := h id (by simp [hmem])
      grind
    · have hothers := h id (by simp [hmem])
      grind

lemma marks_scan {sheet : Stylesheet} (hnodup : (Node.idsAll sheet.nodes).Nodup) :
    Marks (.scan sheet) false false sheet.nodes :=
  marks_of_nodup hnodup fun id _ => by simp [IgnoreSet.contains, IgnoreSet.scan]

/-- A parsed sheet is marked by its scan. -/
lemma Stylesheet.marks_parse (text : String) (next : NodeId) :
    Marks (.scan (Stylesheet.parse text next)) false false (Stylesheet.parse text next).nodes :=
  marks_scan (Stylesheet.nodup_ids_parse text next)

/-! ### Texts of directives -/

section

variable {n : Node} {ns body : List Node} {after : String} {tail : BlockEnd}

/-- A sequence of nodes switches resolution off if one of them does, or what follows them. -/
lemma switchesOff_cons (h : Delimited (n :: ns) after) :
    switchesOff (Node.renderAll (n :: ns) ++ after)
      = (switchesOff n.render || switchesOff (Node.renderAll ns ++ after)) := by
  rw [Node.renderAll_cons, String.append_assoc]
  rcases h.ends with hends | ⟨rfl, rfl⟩
  · exact switchesOff_append hends.endsInStop
  · simp

/-- A block switches resolution off if its head does or what it holds. -/
lemma switchesOff_block (head : String) (body : List Node) (tail : BlockEnd) :
    switchesOff (head ++ "\x7b" ++ Node.renderAll body ++ tail.render)
      = (switchesOff (head ++ "\x7b") || switchesOff (Node.renderAll body ++ tail.after)) := by
  have hhead : EndsInStop (head ++ "\x7b").toList := by
    rw [String.toList_append]
    exact .append _ ⟨'{', rfl, rfl⟩
  rw [String.append_assoc, switchesOff_append hhead, BlockEnd.render, ← String.append_assoc]
  split
  · rw [Directive.switchesOff_append_mark]
  · simp

end

/-! ### Edited sheets -/

namespace Edited

variable {ignored : IgnoreSet} {scope : Scope} {ns ms : List Node} {after : String}

lemma eq_nil (h : Edited ignored scope [] ms) : ms = [] := by
  cases h
  rfl

/-- A rule that is no host scope becomes none. -/
lemma isHostScope_eq_false {head : RuleHead} (h : Edited ignored scope ns ms)
    (hother : isHostScope head ns = false) : isHostScope head ms = false := by
  rw [isHostScope, Bool.and_eq_false_iff] at hother ⊢
  refine hother.imp_left fun hempty => ?_
  rw [Bool.not_eq_false', List.isEmpty_iff] at hempty ⊢
  subst hempty
  exact h.eq_nil

/-- Where nothing comes behind a node, nothing does afterwards. -/
lemma last (h : Edited ignored scope ns ms) (hlast : ns = [] ∧ after = "") :
    ms = [] ∧ after = "" := by
  obtain ⟨rfl, hafter⟩ := hlast
  exact ⟨h.eq_nil, hafter⟩

/-- A pass takes numbers out and puts none in. -/
lemma idsAll_sublist (h : Edited ignored scope ns ms) :
    (Node.idsAll ms).Sublist (Node.idsAll ns) := by
  induction h with
  | nil => exact .slnil
  | definition _ _ _ ih => exact ih.trans (List.sublist_append_right _ _)
  | emptied _ _ _ _ _ ih => exact ih.trans (List.sublist_append_right _ _)
  | host _ _ _ _ ihbody ih => simpa [Node.ids] using (ihbody.append ih)
  | value _ _ _ _ ih => simpa [Node.ids] using ih
  | declaration _ _ ih => simpa [Node.ids] using ih
  | rule _ _ _ ihbody ih => simpa [Node.ids] using (ihbody.append ih)
  | atBlock _ _ ihbody ih => simpa [Node.ids] using (ihbody.append ih)
  | document _ _ ihbody ih => simpa [Node.ids] using (ihbody.append ih)
  | atStatement _ ih => simpa [Node.ids] using ih
  | comment _ ih => simpa [Node.ids] using ih

/-- A pass leaves nodes ended as they are. -/
lemma delimited (h : Edited ignored scope ns ms) (hends : Delimited ns after) :
    Delimited ms after := by
  induction h generalizing after with
  | nil => exact .nil
  | definition _ _ _ ih => exact ih hends.tail
  | emptied _ _ _ _ _ ih => exact ih hends.tail
  | host _ _ _ hrest ihbody ih =>
    exact .rule (hends.ends.imp_right hrest.last) (ihbody hends.body_rule) (ih hends.tail)
  | value _ _ _ hrest ih => exact .leaf rfl (hends.ends.imp_right hrest.last) (ih hends.tail)
  | declaration _ hrest ih => exact .leaf rfl (hends.ends.imp_right hrest.last) (ih hends.tail)
  | rule _ _ hrest ihbody ih =>
    exact .rule (hends.ends.imp_right hrest.last) (ihbody hends.body_rule) (ih hends.tail)
  | atBlock _ hrest ihbody ih =>
    exact .atBlock (hends.ends.imp_right hrest.last) (ihbody hends.body_atBlock) (ih hends.tail)
  | document => exact absurd hends Delimited.not_document
  | atStatement hrest ih => exact .leaf rfl (hends.ends.imp_right hrest.last) (ih hends.tail)
  | comment hrest ih => exact .leaf rfl (hends.ends.imp_right hrest.last) (ih hends.tail)

end Edited

namespace Marks

variable {ignored : IgnoreSet} {off next : Bool} {n : Node} {ns : List Node}

lemma mark (h : Marks ignored off next (n :: ns)) :
    ignored.contains n.id = (off || next || switchesOff n.render) := by
  cases h with
  | cons hmark => exact hmark

lemma body {inner : List Node} (h : Marks ignored off next (n :: ns))
    (hinner : n.children? = some inner) :
    Marks ignored (switchesOff n.render && !n.isDocument) false inner := by
  cases h with
  | cons _ hbody => exact hbody inner hinner

lemma tail (h : Marks ignored off next (n :: ns)) : Marks ignored off (asksIgnoreNext n) ns := by
  cases h with
  | cons _ _ hrest => exact hrest

/-- A node that is not ignored does not switch resolution off. -/
lemma switchesOff_eq_false (h : Marks ignored off next (n :: ns))
    (hignored : ignored.contains n.id = false) : switchesOff n.render = false := by
  have hmark := h.mark
  rw [hignored, eq_comm, Bool.or_eq_false_iff] at hmark
  exact hmark.2

end Marks

namespace Edited

variable {ignored again : IgnoreSet} {scope : Scope} {ns ms : List Node} {after : String}
  {off next off' next' : Bool}

lemma switchesOff_cons_imp {n n' : Node} (hends : Delimited (n :: ns) after)
    (hends' : Delimited (n' :: ms) after) (hn : switchesOff n.render → switchesOff n'.render)
    (hrest : switchesOff (Node.renderAll ns ++ after) → switchesOff (Node.renderAll ms ++ after)) :
    switchesOff (Node.renderAll (n :: ns) ++ after) →
      switchesOff (Node.renderAll (n' :: ms) ++ after) := by
  rw [switchesOff_cons hends, switchesOff_cons hends', Bool.or_eq_true, Bool.or_eq_true]
  exact Or.imp hn hrest

lemma switchesOff_block_imp (head : String) {body body' : List Node} {tail : BlockEnd}
    (h : switchesOff (Node.renderAll body ++ tail.after) →
      switchesOff (Node.renderAll body' ++ tail.after)) :
    switchesOff (head ++ "\x7b" ++ Node.renderAll body ++ tail.render) →
      switchesOff (head ++ "\x7b" ++ Node.renderAll body' ++ tail.render) := by
  rw [switchesOff_block, switchesOff_block, Bool.or_eq_true, Bool.or_eq_true]
  exact Or.imp_right h

lemma switchesOff_rule_imp (head : RuleHead) {body body' : List Node} {tail : BlockEnd}
    (h : switchesOff (Node.renderAll body ++ tail.after) →
      switchesOff (Node.renderAll body' ++ tail.after)) :
    switchesOff (Node.rule head body tail).render →
      switchesOff (Node.rule head body' tail).render := by
  rw [Node.render, Node.render]
  exact switchesOff_block_imp _ h

lemma switchesOff_atBlock_imp (head : AtHead) {body body' : List Node} {tail : BlockEnd}
    (h : switchesOff (Node.renderAll body ++ tail.after) →
      switchesOff (Node.renderAll body' ++ tail.after)) :
    switchesOff (Node.atBlock head body tail).render →
      switchesOff (Node.atBlock head body' tail).render := by
  rw [Node.render, Node.render]
  exact switchesOff_block_imp _ h

/-- What switches resolution off does so after a pass. -/
lemma switchesOff_of (h : Edited ignored scope ns ms) (hmarks : Marks ignored off next ns)
    (hends : Delimited ns after) :
    switchesOff (Node.renderAll ns ++ after) → switchesOff (Node.renderAll ms ++ after) := by
  have hends' := h.delimited hends
  induction h generalizing off next after with
  | nil => exact id
  | definition _ hignored hrest ih =>
    have hnode := hmarks.switchesOff_eq_false hignored
    rw [switchesOff_cons hends, hnode, Bool.false_or]
    exact ih hmarks.tail hends.tail hends'
  | emptied _ _ hignored hrest _ ih =>
    have hnode := hmarks.switchesOff_eq_false hignored
    rw [switchesOff_cons hends, hnode, Bool.false_or]
    exact ih hmarks.tail hends.tail hends'
  | host _ _ _ _ ihbody ih =>
    exact switchesOff_cons_imp hends hends'
      (switchesOff_rule_imp _ (ihbody (hmarks.body rfl) hends.body_rule hends'.body_rule))
      (ih hmarks.tail hends.tail hends'.tail)
  | value _ _ hignored _ ih =>
    refine switchesOff_cons_imp hends hends' ?_ (ih hmarks.tail hends.tail hends'.tail)
    rw [hmarks.switchesOff_eq_false hignored]
    exact fun hfalse => absurd hfalse (by simp)
  | declaration _ _ ih =>
    exact switchesOff_cons_imp hends hends' id (ih hmarks.tail hends.tail hends'.tail)
  | rule _ _ _ ihbody ih =>
    exact switchesOff_cons_imp hends hends'
      (switchesOff_rule_imp _ (ihbody (hmarks.body rfl) hends.body_rule hends'.body_rule))
      (ih hmarks.tail hends.tail hends'.tail)
  | atBlock _ _ ihbody ih =>
    exact switchesOff_cons_imp hends hends'
      (switchesOff_atBlock_imp _ (ihbody (hmarks.body rfl) hends.body_atBlock hends'.body_atBlock))
      (ih hmarks.tail hends.tail hends'.tail)
  | document => exact absurd hends Delimited.not_document
  | atStatement _ ih =>
    exact switchesOff_cons_imp hends hends' id (ih hmarks.tail hends.tail hends'.tail)
  | comment _ ih =>
    exact switchesOff_cons_imp hends hends' id (ih hmarks.tail hends.tail hends'.tail)

/-- What a set marks of a node, it marks if it marks what was marked before: the node itself if what
switches it off still does, and what it holds and the rest by themselves. -/
lemma contains_cons {n n' : Node} (hmarks : Marks ignored off next (n :: ns))
    (hagain : Marks again off' next' (n' :: ms)) (hid : n'.id = n.id) (hoff : off → off')
    (hnext : next → next') (hn : switchesOff n.render → switchesOff n'.render)
    (hbody : ∀ body, n'.children? = some body →
      ∀ id ∈ Node.idsAll body, ignored.contains id → again.contains id)
    (hrest : ∀ id ∈ Node.idsAll ms, ignored.contains id → again.contains id) :
    ∀ id ∈ Node.idsAll (n' :: ms), ignored.contains id → again.contains id := by
  rw [Node.idsAll_cons, Node.ids_eq, List.cons_append, List.forall_mem_cons,
    List.forall_mem_append]
  refine ⟨?_, ?_, hrest⟩
  · rw [hagain.mark, hid, hmarks.mark]
    simp only [Bool.or_eq_true]
    exact Or.imp (Or.imp hoff hnext) hn
  · cases hchildren : n'.children? with
    | none => simp
    | some body => exact hbody body hchildren

/-- What is left of the ignored nodes is ignored by a set that marks at least what was marked
before. -/
lemma contains_of_contains (h : Edited ignored scope ns ms) (hmarks : Marks ignored off next ns)
    (hagain : Marks again off' next' ms) (hends : Delimited ns after) (hoff : off → off')
    (hnext : next → next') : ∀ id ∈ Node.idsAll ms, ignored.contains id → again.contains id := by
  induction h generalizing off next off' next' after with
  | nil => simp
  | definition _ _ _ ih =>
    -- the declaration that was taken out asked for no mark
    exact ih hmarks.tail hagain hends.tail hoff (by simp [asksIgnoreNext])
  | emptied _ _ _ _ _ ih => exact ih hmarks.tail hagain hends.tail hoff (by simp [asksIgnoreNext])
  | @host head _ _ _ _ _ _ hbody _ _ ihbody ih =>
    have hrule := switchesOff_rule_imp head (hbody.switchesOff_of (hmarks.body rfl) hends.body_rule)
    refine contains_cons hmarks hagain rfl hoff hnext hrule ?_
      (ih hmarks.tail hagain.tail hends.tail hoff id)
    rintro _ ⟨⟩
    exact ihbody (hmarks.body rfl) (hagain.body rfl) hends.body_rule
      (by simpa [Node.isDocument] using hrule) id
  | @rule _ head _ _ _ _ _ _ hbody _ ihbody ih =>
    have hrule := switchesOff_rule_imp head (hbody.switchesOff_of (hmarks.body rfl) hends.body_rule)
    refine contains_cons hmarks hagain rfl hoff hnext hrule ?_
      (ih hmarks.tail hagain.tail hends.tail hoff id)
    rintro _ ⟨⟩
    exact ihbody (hmarks.body rfl) (hagain.body rfl) hends.body_rule
      (by simpa [Node.isDocument] using hrule) id
  | @atBlock _ head _ _ _ _ _ hbody _ ihbody ih =>
    have hblock := switchesOff_atBlock_imp head
      (hbody.switchesOff_of (hmarks.body rfl) hends.body_atBlock)
    refine contains_cons hmarks hagain rfl hoff hnext hblock ?_
      (ih hmarks.tail hagain.tail hends.tail hoff id)
    rintro _ ⟨⟩
    exact ihbody (hmarks.body rfl) (hagain.body rfl) hends.body_atBlock
      (by simpa [Node.isDocument] using hblock) id
  | value _ _ hignored _ ih =>
    refine contains_cons hmarks hagain rfl hoff hnext ?_ (by simp [Node.children?])
      (ih hmarks.tail hagain.tail hends.tail hoff id)
    rw [hmarks.switchesOff_eq_false hignored]
    exact fun hfalse => absurd hfalse (by simp)
  | declaration _ _ ih =>
    exact contains_cons hmarks hagain rfl hoff hnext id (by simp [Node.children?])
      (ih hmarks.tail hagain.tail hends.tail hoff id)
  | document => exact absurd hends Delimited.not_document
  | atStatement _ ih =>
    exact contains_cons hmarks hagain rfl hoff hnext id (by simp [Node.children?])
      (ih hmarks.tail hagain.tail hends.tail hoff id)
  | comment _ ih =>
    exact contains_cons hmarks hagain rfl hoff hnext id (by simp [Node.children?])
      (ih hmarks.tail hagain.tail hends.tail hoff id)

/-- The declarations of custom properties that a pass leaves directly inside of a host scope are
ignored ones. -/
lemma contains_of_mem_definitions (h : Edited ignored .host ns ms) :
    ∀ d ∈ ms.filterMap (·.definition? .empty), ignored.contains d.id := by
  generalize hscope : Scope.host = scope at h
  induction h with
  | nil => simp
  | definition _ _ _ ih => exact ih hscope
  | emptied => cases hscope
  | host => cases hscope
  | value _ hprop _ _ ih =>
    rw [List.filterMap_cons_none (by simp [Node.definition?, hprop])]
    exact ih hscope
  | @declaration _ d _ _ hstays _ ih =>
    cases hprop : isCustomProperty d.prop with
    | true =>
      have hd : (Node.declaration d).definition? .empty = some d := by
        simp [Node.definition?, hprop, IgnoreSet.contains, IgnoreSet.empty]
      rw [List.filterMap_cons_some hd, List.forall_mem_cons]
      exact ⟨hstays hscope.symm hprop, ih hscope⟩
    | false =>
      rw [List.filterMap_cons_none (by simp [Node.definition?, hprop])]
      exact ih hscope
  | rule _ _ _ _ ih => exact ih hscope
  | atBlock _ _ _ ih => exact ih hscope
  | document _ _ _ ih => exact ih hscope
  | atStatement _ ih => exact ih hscope
  | comment _ ih => exact ih hscope

/-- The declarations of custom properties that a pass leaves in host scopes are ignored ones. -/
lemma contains_of_mem_hostDefinitions (h : Edited ignored .top ns ms) :
    ∀ d ∈ hostDefinitions .empty ms, ignored.contains d.id := by
  generalize hscope : Scope.top = scope at h
  induction h with
  | nil => simp [hostDefinitions]
  | definition => cases hscope
  | emptied _ _ _ _ _ ih => exact ih hscope
  | host _ hbody _ _ _ ih =>
    rw [hostDefinitions, List.forall_mem_append]
    refine ⟨?_, ih hscope⟩
    split
    · exact hbody.contains_of_mem_definitions
    · simp
  | value _ _ _ _ ih => simpa [hostDefinitions] using ih hscope
  | declaration _ _ ih => simpa [hostDefinitions] using ih hscope
  | rule hother hbody _ _ ih =>
    have hother' := hbody.isHostScope_eq_false (hother hscope.symm)
    simpa [hostDefinitions, hother'] using ih hscope
  | atBlock _ _ _ ih => simpa [hostDefinitions] using ih hscope
  | document _ _ ihbody ih =>
    subst hscope
    rw [hostDefinitions, List.forall_mem_append]
    exact ⟨ihbody rfl, ih rfl⟩
  | atStatement _ ih => simpa [hostDefinitions] using ih hscope
  | comment _ ih => simpa [hostDefinitions] using ih hscope

end Edited

end CustomProperties
