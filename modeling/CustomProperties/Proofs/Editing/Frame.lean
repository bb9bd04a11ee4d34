import CustomProperties.Proofs.Passes.Basic
import CustomProperties.Proofs.Sheet.Induction
import Mathlib.Tactic.Common

/-!
# What a pass changes

A pass that does not preserve takes definitions out of host scopes, takes out the host scopes that
this leaves empty, and writes new values. `Edited` lists these changes, each with the place where
it may happen and the nodes it may happen to, and keeps everything else as it is. It does not say how
the tree is walked, so a node skipped or met twice would break it.
-/

namespace CustomProperties

/-- Where a sequence of nodes stands. -/
inductive Scope where
  /-- At the top of a sheet, or of one embedded at the top. -/
  | top
  /-- Directly inside of a host scope at the top. -/
  | host
  /-- Anywhere else. -/
  | inside
deriving DecidableEq

/-- Where the nodes of an embedded sheet stand. -/
def Scope.embedded : Scope → Scope
  | top => top
  | _ => inside

/-- The nodes `ms` are what a pass makes of the nodes `ns` of a sheet. -/
inductive Edited (ignored : IgnoreSet) : Scope → List Node → List Node → Prop where
  | nil {scope : Scope} : Edited ignored scope [] []
  /-- A definition directly inside of a host scope is taken out, unless it is ignored. -/
  | definition {d : Declaration} {ns ms : List Node} (hprop : isCustomProperty d.prop = true)
      (hignored : ignored.contains d.id = false) (hrest : Edited ignored .host ns ms) :
      Edited ignored .host (.declaration d :: ns) ms
  /-- A host scope is taken out if nothing is left inside, unless it is ignored. -/
  | emptied {head : RuleHead} {body : List Node} {tail : BlockEnd} {ns ms : List Node}
      (hhost : isHostScope head body = true) (hbody : Edited ignored .host body [])
      (hignored : ignored.contains head.id = false) (hrest : Edited ignored .top ns ms) :
      Edited ignored .top (.rule head body tail :: ns) ms
  /-- Any other host scope stays, with its nodes edited. -/
  | host {head : RuleHead} {body body' : List Node} {tail : BlockEnd} {ns ms : List Node}
      (hhost : isHostScope head body = true) (hbody : Edited ignored .host body body')
      (hstays : body' ≠ [] ∨ ignored.contains head.id = true) (hrest : Edited ignored .top ns ms) :
      Edited ignored .top (.rule head body tail :: ns) (.rule head body' tail :: ms)
  /-- A declaration that is neither ignored nor of a custom property gets a new value. -/
  | value {scope : Scope} {d : Declaration} {ns ms : List Node} (new : String)
      (hprop : isCustomProperty d.prop = false) (hignored : ignored.contains d.id = false)
      (hrest : Edited ignored scope ns ms) :
      Edited ignored scope (.declaration d :: ns) (.declaration { d with value := new } :: ms)
  /-- Any other declaration stays. -/
  | declaration {scope : Scope} {d : Declaration} {ns ms : List Node}
      (hstays : scope = .host → isCustomProperty d.prop = true → ignored.contains d.id = true)
      (hrest : Edited ignored scope ns ms) :
      Edited ignored scope (.declaration d :: ns) (.declaration d :: ms)
  /-- Any other rule stays, with its nodes edited. -/
  | rule {scope : Scope} {head : RuleHead} {body body' : List Node} {tail : BlockEnd}
      {ns ms : List Node} (hother : scope = .top → isHostScope head body = false)
      (hbody : Edited ignored .inside body body') (hrest : Edited ignored scope ns ms) :
      Edited ignored scope (.rule head body tail :: ns) (.rule head body' tail :: ms)
  | atBlock {scope : Scope} {head : AtHead} {body body' : List Node} {tail : BlockEnd}
      {ns ms : List Node} (hbody : Edited ignored .inside body body')
      (hrest : Edited ignored scope ns ms) :
      Edited ignored scope (.atBlock head body tail :: ns) (.atBlock head body' tail :: ms)
  | document {scope : Scope} {id : NodeId} {body body' : List Node} {after : String}
      {ns ms : List Node} (hbody : Edited ignored scope.embedded body body')
      (hrest : Edited ignored scope ns ms) :
      Edited ignored scope (.document id body after :: ns) (.document id body' after :: ms)
  | atStatement {scope : Scope} {head : AtHead} {semicolon : Bool} {ns ms : List Node}
      (hrest : Edited ignored scope ns ms) :
      Edited ignored scope (.atStatement head semicolon :: ns) (.atStatement head semicolon :: ms)
  | comment {scope : Scope} {c : Comment} {ns ms : List Node}
      (hrest : Edited ignored scope ns ms) :
      Edited ignored scope (.comment c :: ns) (.comment c :: ms)

/-! ### New values -/

/-- New values only go to declarations that may get one. -/
def Eligible (ignored : IgnoreSet) (value : Declaration → Option String) : Prop :=
  ∀ d new, value d = some new → isCustomProperty d.prop = false ∧ ignored.contains d.id = false

lemma eligible_updated? (table : PropertyTable) (ignored : IgnoreSet) :
    Eligible ignored (·.updated? table ignored) := by
  intro d new h
  change d.updated? table ignored = some new at h
  unfold Declaration.updated? at h
  split at h
  · cases h
  · next hignored =>
    unfold resolvedValue? at h
    split at h
    · cases h
    · next hprop =>
      rw [Bool.or_eq_true, not_or] at hprop
      exact ⟨Bool.not_eq_true _ ▸ hprop.1, Bool.not_eq_true _ ▸ hignored⟩

section

variable {ignored : IgnoreSet} {value : Declaration → Option String} {next : NodeId}
  {table : PropertyTable} {scope : Scope} {ns ms : List Node} {d : Declaration}

/-- A declaration that stays where it is may get a new value. -/
lemma Edited.updateTo (hvalue : Eligible ignored value)
    (hstays : scope = .host → isCustomProperty d.prop = true → ignored.contains d.id = true)
    (hrest : Edited ignored scope ns ms) :
    Edited ignored scope (.declaration d :: ns) ((d.updateTo false next (value d)).1 ++ ms) := by
  cases h : value d with
  | none => exact .declaration hstays hrest
  | some new =>
    obtain ⟨hprop, hignored⟩ := hvalue d new h
    exact .value new hprop hignored hrest

lemma edited_inside_updateNodes (hvalue : Eligible ignored value) (next : NodeId) (ns : List Node) :
    Edited ignored .inside ns (updateNodes value false next ns).1 := by
  induction ns using Node.induct generalizing next with
  | nil => simpa [updateNodes] using .nil
  | rule head body tail rest ihbody ih =>
    simpa [updateNodes, updateNode] using .rule (by simp) (ihbody next) (ih _)
  | atBlock head body tail rest ihbody ih =>
    simpa [updateNodes, updateNode] using .atBlock (ihbody next) (ih _)
  | atStatement head semicolon rest ih => simpa [updateNodes, updateNode] using .atStatement (ih _)
  | declaration d rest ih =>
    simpa [updateNodes, updateNode] using .updateTo hvalue (by simp) (ih _)
  | comment c rest ih => simpa [updateNodes, updateNode] using .comment (ih _)
  | document id body after rest ihbody ih =>
    simpa [updateNodes, updateNode] using .document (ihbody next) (ih _)

lemma withoutDefinitions_cons_of_definition {n : Node} (h : n.definition? ignored = some d) :
    withoutDefinitions ignored (n :: ns) = withoutDefinitions ignored ns := by
  simp [withoutDefinitions, h]

lemma withoutDefinitions_cons_of_none {n : Node} (h : n.definition? ignored = none) :
    withoutDefinitions ignored (n :: ns) = n :: withoutDefinitions ignored ns := by
  simp [withoutDefinitions, h]

/-- What is left of a host scope. -/
lemma edited_host_updateNodes (hvalue : Eligible ignored value) (next : NodeId) (ns : List Node) :
    Edited ignored .host ns (updateNodes value false next (withoutDefinitions ignored ns)).1 := by
  induction ns generalizing next with
  | nil => simpa [withoutDefinitions, updateNodes] using .nil
  | cons n ns ih =>
    cases n with
    | rule head body tail =>
      rw [withoutDefinitions_cons_of_none rfl]
      simpa [updateNodes, updateNode] using
        .rule (by simp) (edited_inside_updateNodes hvalue next body) (ih _)
    | atBlock head body tail =>
      rw [withoutDefinitions_cons_of_none rfl]
      simpa [updateNodes, updateNode] using
        .atBlock (edited_inside_updateNodes hvalue next body) (ih _)
    | atStatement head semicolon =>
      rw [withoutDefinitions_cons_of_none rfl]
      simpa [updateNodes, updateNode] using .atStatement (ih _)
    | declaration d =>
      by_cases hd : isCustomProperty d.prop = true ∧ ignored.contains d.id = false
      · have hdefinition : (Node.declaration d).definition? ignored = some d := by
          simp [Node.definition?, hd]
        rw [withoutDefinitions_cons_of_definition hdefinition]
        exact .definition hd.1 hd.2 (ih next)
      · have hnone : (Node.declaration d).definition? ignored = none := by
          simpa [Node.definition?] using hd
        rw [withoutDefinitions_cons_of_none hnone]
        simpa [updateNodes, updateNode] using .updateTo hvalue (by simpa using hd) (ih _)
    | comment c =>
      rw [withoutDefinitions_cons_of_none rfl]
      simpa [updateNodes, updateNode] using .comment (ih _)
    | document id body after =>
      rw [withoutDefinitions_cons_of_none rfl]
      simpa [updateNodes, updateNode] using
        .document (edited_inside_updateNodes hvalue next body) (ih _)

/-- Replacing declarations leaves something of every node. -/
lemma fst_updateNodes_ne_nil (hns : ns ≠ []) : (updateNodes value false next ns).1 ≠ [] := by
  obtain ⟨n, ns, rfl⟩ := List.exists_cons_of_ne_nil hns
  cases n with
  | declaration d =>
    cases h : value d <;> simp [updateNodes, updateNode, Declaration.updateTo, h]
  | _ => simp [updateNodes, updateNode]

/-- What collecting and updating make of the top of a sheet. -/
lemma edited_top_updateNodes (hvalue : Eligible ignored value) (table : PropertyTable)
    (next : NodeId) (ns : List Node) :
    Edited ignored .top ns (updateNodes value false next (collectFrom ignored false table ns).2).1 := by
  induction ns using Node.induct generalizing table next with
  | nil => simpa [collectFrom, updateNodes] using .nil
  | rule head body tail rest ihbody ih =>
    by_cases hhost : isHostScope head body
    · have hbody := edited_host_updateNodes hvalue next body
      by_cases hemptied : withoutDefinitions ignored body = [] ∧ ignored.contains head.id = false
      · rw [hemptied.1] at hbody
        simpa [collectFrom, hhost, hemptied] using
          .emptied hhost (by simpa [updateNodes] using hbody) hemptied.2 (ih _ _)
      · have hstays : (updateNodes value false next (withoutDefinitions ignored body)).1 ≠ [] ∨
            ignored.contains head.id = true := by
          by_cases hleft : withoutDefinitions ignored body = []
          · exact .inr (by simpa [hleft] using hemptied)
          · exact .inl (fst_updateNodes_ne_nil hleft)
        simpa [collectFrom, hhost, hemptied, updateNodes, updateNode] using
          .host hhost hbody hstays (ih _ _)
    · simpa [collectFrom, hhost, updateNodes, updateNode] using
        .rule (fun _ => by simpa using hhost) (edited_inside_updateNodes hvalue next body) (ih _ _)
  | atBlock head body tail rest ihbody ih =>
    simpa [collectFrom, updateNodes, updateNode] using
      .atBlock (edited_inside_updateNodes hvalue next body) (ih _ _)
  | atStatement head semicolon rest ih =>
    simpa [collectFrom, updateNodes, updateNode] using .atStatement (ih _ _)
  | declaration d rest ih =>
    simpa [collectFrom, updateNodes, updateNode] using .updateTo hvalue (by simp) (ih _ _)
  | comment c rest ih => simpa [collectFrom, updateNodes, updateNode] using .comment (ih _ _)
  | document id body after rest ihbody ih =>
    simpa [collectFrom, updateNodes, updateNode] using .document (ihbody _ _) (ih _ _)

end

/-! ### Passes -/

/-- Collecting and updating a sheet without preserving edits it, whatever the table is. -/
lemma edited_updatedWith {pipeline : Pipeline} (hreplace : pipeline.options.preserve = false)
    (sheet : Stylesheet) (table : PropertyTable) :
    Edited (.scan sheet) .top sheet.nodes (pipeline.updatedWith sheet table).1.nodes ∧
    (pipeline.updatedWith sheet table).1.after = sheet.after := by
  rw [Pipeline.updatedWith, hreplace]
  exact ⟨edited_top_updateNodes (eligible_updated? table _) ∅ _ sheet.nodes, rfl⟩

/-- A pass that succeeds and does not preserve only takes definitions and emptied host scopes out of
a sheet and gives declarations new values. The numbers of the nodes need not be distinct. -/
theorem Pipeline.edited_of_pass {pipeline : Pipeline} (hreplace : pipeline.options.preserve = false)
    (sheet : Stylesheet) :
    (∀ report out, pipeline.processSync sheet = .ok (report, out) →
      Edited (.scan sheet) .top sheet.nodes out.nodes ∧ out.after = sheet.after) ∧
    (∀ disk report, (pipeline.process disk sheet).result = .ok report →
      Edited (.scan sheet) .top sheet.nodes (pipeline.process disk sheet).sheet.nodes ∧
      (pipeline.process disk sheet).sheet.after = sheet.after) := by
  constructor
  · intro report out h
    obtain ⟨-, -, hupdated⟩ := Pipeline.uses_of_processSync h
    have hedited := edited_updatedWith hreplace sheet (pipeline.ownTable sheet)
    rwa [hupdated] at hedited
  · intro disk report h
    obtain ⟨imported, -, huses⟩ := Pipeline.uses_of_process h
    have hedited := edited_updatedWith hreplace sheet ((pipeline.ownTable sheet).fillFrom imported)
    rwa [huses.updated] at hedited

/-- A host scope that holds a definition and nothing else, and a reference to that definition. -/
def margins : Stylesheet where
  nodes :=
    [.rule ⟨1, "", ":root", ""⟩ [.declaration ⟨2, "", "--a", ":", "1px", "", "", true⟩] ⟨"", true⟩,
    .rule ⟨3, "", ".b", ""⟩ [.declaration ⟨4, "", "margin", ":", "var(--a)", "", "", true⟩]
      ⟨"", true⟩]
  after := ""

/-- Passes over `margins` succeed, with and without waiting. -/
theorem Pipeline.edited_of_pass_margins :
    ∃ report out, Pipeline.processSync { options := { preserve := false } } margins
        = .ok (report, out) ∧ Edited (.scan margins) .top margins.nodes out.nodes ∧
      ∃ report, (Pipeline.process { options := { preserve := false } } emptyDisk margins).result
        = .ok report ∧ Edited (.scan margins) .top margins.nodes
          (Pipeline.process { options := { preserve := false } } emptyDisk
            margins).sheet.nodes := by
  have hreplace : ({ options := { preserve := false } } : Pipeline).options.preserve = false := rfl
  have hedited := Pipeline.edited_of_pass hreplace margins
  exact ⟨_, _, rfl, (hedited.1 _ _ rfl).1, _, rfl, (hedited.2 _ _ rfl).1⟩

end CustomProperties
