import CustomProperties.Proofs.Directives.Marks
import CustomProperties.Proofs.Editing.HostScopes
import CustomProperties.Proofs.Editing.Modes
import CustomProperties.Proofs.Passes.Basic
import Mathlib

/-!
# A second pass over the same tree

A pass that does not preserve takes out all definitions but the ignored ones. A second pass scans
what the first one left, and ignores them again: it collects nothing and takes no node out.
-/

namespace CustomProperties

variable {ignored : IgnoreSet}

/-- A declaration of a custom property is a definition unless it is ignored. -/
lemma definition?_eq_filter (n : Node) :
    n.definition? ignored = (n.definition? .empty).filter (!ignored.contains ·.id) := by
  cases n with
  | declaration d =>
    by_cases hprop : isCustomProperty d.prop <;>
      simp [Node.definition?, hprop, IgnoreSet.empty, IgnoreSet.contains, Option.filter]
  | _ => rfl

/-- The definitions of a sheet are the declarations of custom properties in its host scopes that are
not ignored. -/
lemma hostDefinitions_eq_filter (nodes : List Node) :
    hostDefinitions ignored nodes
      = (hostDefinitions .empty nodes).filter (!ignored.contains ·.id) := by
  induction nodes using Node.induct with
  | nil => simp [hostDefinitions]
  | rule head body tail rest ihbody ih =>
    have hbody : body.filterMap (·.definition? ignored)
        = (body.filterMap (·.definition? .empty)).filter (!ignored.contains ·.id) := by
      rw [List.filter_filterMap]
      simp only [← definition?_eq_filter]
    rw [hostDefinitions, hostDefinitions, ih, hbody, List.filter_append]
    split <;> simp
  | atBlock head body tail rest ihbody ih => simpa [hostDefinitions] using ih
  | atStatement head semicolon rest ih => simpa [hostDefinitions] using ih
  | declaration d rest ih => simpa [hostDefinitions] using ih
  | comment c rest ih => simpa [hostDefinitions] using ih
  | document id body after rest ihbody ih => simp [hostDefinitions, ihbody, ih]

/-- The number of a declaration is one of the numbers of its sheet. -/
lemma Node.id_mem_idsAll {d : Declaration} {nodes : List Node} (h : d ∈ declarationsAll nodes) :
    d.id ∈ idsAll nodes := by
  induction nodes using Node.induct with
  | nil => simp at h
  | rule head body tail rest ihbody ih =>
    simp only [declarationsAll_cons, declarations, idsAll_cons, ids, List.mem_append] at h ⊢
    exact h.imp (fun hbody => List.mem_cons_of_mem _ (ihbody hbody)) ih
  | atBlock head body tail rest ihbody ih =>
    simp only [declarationsAll_cons, declarations, idsAll_cons, ids, List.mem_append] at h ⊢
    exact h.imp (fun hbody => List.mem_cons_of_mem _ (ihbody hbody)) ih
  | atStatement head semicolon rest ih =>
    exact List.mem_append_right _ (ih (by simpa [declarations] using h))
  | declaration e rest ih =>
    simp only [declarationsAll_cons, declarations, idsAll_cons, ids, List.mem_append,
      List.mem_singleton] at h ⊢
    exact h.imp (congrArg _) ih
  | comment c rest ih => exact List.mem_append_right _ (ih (by simpa [declarations] using h))
  | document id body after rest ihbody ih =>
    simp only [declarationsAll_cons, declarations, idsAll_cons, ids, List.mem_append] at h ⊢
    exact h.imp (fun hbody => List.mem_cons_of_mem _ (ihbody hbody)) ih

lemma filterMap_definition?_sublist (nodes : List Node) :
    (nodes.filterMap (·.definition? ignored)).Sublist (Node.declarationsAll nodes) := by
  induction nodes with
  | nil => simp
  | cons n nodes ih =>
    rw [Node.declarationsAll_cons]
    cases hn : n.definition? ignored with
    | none =>
      rw [List.filterMap_cons_none hn]
      exact ih.trans (List.sublist_append_right _ _)
    | some d =>
      obtain rfl : n = .declaration d := by
        cases n <;> simp_all [Node.definition?]
      rw [List.filterMap_cons_some hn, Node.declarations]
      exact ih.cons_cons d

lemma hostDefinitions_sublist (nodes : List Node) :
    (hostDefinitions ignored nodes).Sublist (Node.declarationsAll nodes) := by
  induction nodes using Node.induct with
  | nil => simp [hostDefinitions]
  | rule head body tail rest ihbody ih =>
    rw [hostDefinitions, Node.declarationsAll_cons, Node.declarations]
    split
    · exact (filterMap_definition?_sublist body).append ih
    · exact ih.trans (List.sublist_append_right _ _)
  | atBlock head body tail rest ihbody ih =>
    simpa [hostDefinitions] using ih.trans (List.sublist_append_right _ _)
  | atStatement head semicolon rest ih => simpa [hostDefinitions, Node.declarations] using ih
  | declaration d rest ih => simpa [hostDefinitions, Node.declarations] using ih.cons d
  | comment c rest ih => simpa [hostDefinitions, Node.declarations] using ih
  | document id body after rest ihbody ih =>
    simpa [hostDefinitions, Node.declarations] using ihbody.append ih

namespace Pipeline

variable {pipeline : Pipeline}

/-- What a pass that does not preserve leaves of a parsed sheet is marked by its scan. -/
lemma marks_updatedWith (hreplace : pipeline.options.preserve = false) (text : String)
    (next : NodeId) (table : PropertyTable) :
    let out := (pipeline.updatedWith (.parse text next) table).1
    Marks (.scan out) false false out.nodes := by
  obtain ⟨hedited, -⟩ := edited_updatedWith hreplace (.parse text next) table
  exact marks_scan (hedited.idsAll_sublist.nodup (Stylesheet.nodup_ids_parse text next))

/-- What a pass that does not preserve leaves of the ignored nodes of a parsed sheet is ignored by
the scan of a second pass. -/
lemma contains_scan_updatedWith (hreplace : pipeline.options.preserve = false) (text : String)
    (next : NodeId) (table : PropertyTable) :
    let out := (pipeline.updatedWith (.parse text next) table).1
    ∀ id ∈ Node.idsAll out.nodes, (IgnoreSet.scan (.parse text next)).contains id →
      (IgnoreSet.scan out).contains id := by
  intro out
  obtain ⟨hedited, -⟩ := edited_updatedWith hreplace (.parse text next) table
  exact hedited.contains_of_contains (Stylesheet.marks_parse text next)
    (marks_updatedWith hreplace text next table) (Stylesheet.delimited_parse text next) id id

/-- What a pass that does not preserve leaves of a parsed sheet holds no definition for the scan of
a second pass. -/
lemma hostDefinitions_scan_updatedWith (hreplace : pipeline.options.preserve = false)
    (text : String) (next : NodeId) (table : PropertyTable) :
    let out := (pipeline.updatedWith (.parse text next) table).1
    hostDefinitions (.scan out) out.nodes = [] := by
  intro out
  obtain ⟨hedited, -⟩ := edited_updatedWith hreplace (.parse text next) table
  rw [hostDefinitions_eq_filter, List.filter_eq_nil_iff]
  intro d hd
  have hid := Node.id_mem_idsAll ((hostDefinitions_sublist _).mem hd)
  have hagain : (IgnoreSet.scan out).contains d.id :=
    contains_scan_updatedWith hreplace text next table d.id hid
      (hedited.contains_of_mem_hostDefinitions d hd)
  simp [hagain]

/-- After a pass over a parsed sheet that does not preserve, a second pass over the tree that is
left collects nothing and takes no node out: its scan ignores every declaration of a custom property
that stands in a host scope. -/
theorem processSync_again (hsync : pipeline.isSync) (hreplace : pipeline.options.preserve = false)
    (text : String) (next : NodeId) :
    ∃ report out report' out', pipeline.processSync (.parse text next) = .ok (report, out) ∧
      pipeline.processSync out = .ok (report', out') ∧ report'.collected = 0 ∧
      Node.idsAll out'.nodes = Node.idsAll out.nodes ∧
      ∀ d ∈ hostDefinitions .empty out.nodes, (IgnoreSet.scan out).contains d.id := by
  have hnone := hostDefinitions_scan_updatedWith hreplace text next
    (pipeline.ownTable (.parse text next))
  simp only at hnone
  refine ⟨_, _, _, _, processSync_of_isSync hsync _, processSync_of_isSync hsync _, ?_, ?_, ?_⟩
  all_goals generalize (pipeline.updatedWith (.parse text next)
    (pipeline.ownTable (.parse text next))).1 = out at hnone ⊢
  · rw [ownTable, Stylesheet.collect, collectFrom_of_hostDefinitions_eq_nil _ _ hnone]
    rfl
  · rw [updatedWith, Stylesheet.update, Stylesheet.collect,
      collectFrom_of_hostDefinitions_eq_nil _ _ hnone, hreplace]
    exact Node.idsAll_updateNodes_replacing _ _ _
  · rw [hostDefinitions_eq_filter, List.filter_eq_nil_iff] at hnone
    simpa using hnone

/-- A sheet with one definition that is taken out and one that is ignored. -/
theorem processSync_again_ignored :
    ∃ report out report' out',
      processSync { options := { preserve := false } }
        (.parse ":root\x7b--a:1px;/*custom-properties:ignore next*/--b:2px\x7d" 0)
        = .ok (report, out) ∧
      processSync { options := { preserve := false } } out = .ok (report', out') ∧
      report'.collected = 0 ∧ Node.idsAll out'.nodes = Node.idsAll out.nodes ∧
      ∀ d ∈ hostDefinitions .empty out.nodes, (IgnoreSet.scan out).contains d.id :=
  processSync_again rfl rfl _ _

end Pipeline

end CustomProperties
