import CustomProperties.Proofs.Merging.Sources
import Mathlib.Tactic.Common

/-!
# What collecting takes and leaves

Collecting takes the definitions of one host scope after the other, those of an embedded sheet in
its place. Whether it takes them out of the sheet does not matter for the table. What it leaves
without preserving holds no more definitions, so that collecting again finds nothing
(`Stylesheet.collect_preserving_removing`).
-/

namespace CustomProperties

/-- The nodes at the top of a sheet, with those of each embedded sheet in its place. -/
def Node.flattened : List Node → List Node
  | [] => []
  | .document _ body _ :: rest => flattened body ++ flattened rest
  | .rule head body tail :: rest => .rule head body tail :: flattened rest
  | .atBlock head body tail :: rest => .atBlock head body tail :: flattened rest
  | .atStatement head semicolon :: rest => .atStatement head semicolon :: flattened rest
  | .declaration d :: rest => .declaration d :: flattened rest
  | .comment c :: rest => .comment c :: flattened rest

variable {ignored : IgnoreSet}

/-- The definitions are found directly inside of the host scopes among the flattened nodes. -/
lemma hostDefinitions_eq_flattened (nodes : List Node) :
    hostDefinitions ignored nodes
      = (((Node.flattened nodes).filter (·.isHost)).flatMap (·.children?.getD [])).filterMap
          (·.definition? ignored) := by
  induction nodes using Node.induct with
  | nil => simp [hostDefinitions, Node.flattened]
  | rule head body tail rest ihbody ih =>
    by_cases hhost : isHostScope head body <;>
      simp [hostDefinitions, Node.flattened, Node.isHost, Node.children?, hhost, ih]
  | atBlock head body tail rest ihbody ih =>
    simpa [hostDefinitions, Node.flattened, Node.isHost] using ih
  | atStatement head semicolon rest ih =>
    simpa [hostDefinitions, Node.flattened, Node.isHost] using ih
  | declaration d rest ih => simpa [hostDefinitions, Node.flattened, Node.isHost] using ih
  | comment c rest ih => simpa [hostDefinitions, Node.flattened, Node.isHost] using ih
  | document id body after rest ihbody ih => simp [hostDefinitions, Node.flattened, ihbody, ih]

/-! ### What is left -/

/-- Preserving leaves all nodes. -/
lemma snd_collectFrom_preserving (table : PropertyTable) (nodes : List Node) :
    (collectFrom ignored true table nodes).2 = nodes := by
  induction nodes using Node.induct generalizing table with
  | nil => simp [collectFrom]
  | rule head body tail rest ihbody ih =>
    by_cases hhost : isHostScope head body <;> simp [collectFrom, hhost, ih]
  | atBlock head body tail rest ihbody ih => simp [collectFrom, ih]
  | atStatement head semicolon rest ih => simp [collectFrom, ih]
  | declaration d rest ih => simp [collectFrom, ih]
  | comment c rest ih => simp [collectFrom, ih]
  | document id body after rest ihbody ih => simp [collectFrom, ihbody, ih]

/-- No definitions are left among nodes that they were taken out of. -/
lemma filterMap_withoutDefinitions (body : List Node) :
    (withoutDefinitions ignored body).filterMap (·.definition? ignored) = [] := by
  rw [List.filterMap_eq_nil_iff]
  intro n hn
  simpa using (List.mem_filter.1 hn).2

/-- Without preserving no definitions are left. -/
lemma hostDefinitions_collectFrom (table : PropertyTable) (nodes : List Node) :
    hostDefinitions ignored (collectFrom ignored false table nodes).2 = [] := by
  induction nodes using Node.induct generalizing table with
  | nil => simp [collectFrom, hostDefinitions]
  | rule head body tail rest ihbody ih =>
    by_cases hhost : isHostScope head body
    · by_cases hemptied : withoutDefinitions ignored body = [] ∧ ignored.contains head.id = false <;>
        simp [collectFrom, hhost, hemptied, hostDefinitions, filterMap_withoutDefinitions, ih]
    · simp [collectFrom, hhost, hostDefinitions, ih]
  | atBlock head body tail rest ihbody ih => simpa [collectFrom, hostDefinitions] using ih table
  | atStatement head semicolon rest ih => simpa [collectFrom, hostDefinitions] using ih table
  | declaration d rest ih => simpa [collectFrom, hostDefinitions] using ih table
  | comment c rest ih => simpa [collectFrom, hostDefinitions] using ih table
  | document id body after rest ihbody ih =>
    simp [collectFrom, hostDefinitions, ihbody, ih]

/-- Without definitions nothing is collected. -/
lemma collectFrom_of_hostDefinitions_eq_nil {nodes : List Node} (preserve : Bool)
    (table : PropertyTable) (h : hostDefinitions ignored nodes = []) :
    collectFrom ignored preserve table nodes = (table, nodes) := by
  induction nodes using Node.induct generalizing table with
  | nil => simp [collectFrom]
  | rule head body tail rest ihbody ih =>
    rw [hostDefinitions, List.append_eq_nil_iff] at h
    by_cases hhost : isHostScope head body
    · rw [if_pos hhost] at h
      have hdefine : table.define ignored body = table := by simp [PropertyTable.define, h.1]
      have hleft : withoutDefinitions ignored body = body := by
        rw [withoutDefinitions, List.filter_eq_self]
        intro n hn
        rw [List.filterMap_eq_nil_iff] at h
        simp [h.1 n hn]
      have hbody : body ≠ [] := by
        rintro rfl
        simp [isHostScope] at hhost
      simp [collectFrom, hhost, hdefine, hleft, hbody, ih table h.2]
    · simp [collectFrom, hhost, ih table h.2]
  | atBlock head body tail rest ihbody ih =>
    rw [hostDefinitions] at h
    simp [collectFrom, ih table h]
  | atStatement head semicolon rest ih =>
    rw [hostDefinitions] at h
    simp [collectFrom, ih table h]
  | declaration d rest ih =>
    rw [hostDefinitions] at h
    simp [collectFrom, ih table h]
  | comment c rest ih =>
    rw [hostDefinitions] at h
    simp [collectFrom, ih table h]
  | document id body after rest ihbody ih =>
    rw [hostDefinitions, List.append_eq_nil_iff] at h
    simp [collectFrom, ihbody table h.1, ih table h.2]

/-- A name is looked up among entries that are made of other things. -/
lemma OrderedMap.get?_map_eq_find? {α β : Type} (key : α → String) (value : α → β) (name : String)
    (as : List α) :
    get? name (as.map fun a => (key a, value a)) = (as.find? (key · = name)).map value := by
  induction as with
  | nil => rfl
  | cons a as ih =>
    rw [List.map_cons, get?_cons, List.find?_cons]
    by_cases ha : key a = name <;> simp [ha, ih]

/-- Collecting makes the same table whether or not it preserves: one definition after the other is
inserted, of all declarations of custom properties that are not ignored and stand directly inside of
a host scope. So each name has the tokens of its last definition, without comments, and the place of
its first one. Preserving leaves the sheet as it is; what is left otherwise defines nothing, and
collecting again leaves it as it is. -/
theorem Stylesheet.collect_preserving_removing (sheet : Stylesheet) (ignored : IgnoreSet) :
    let scopes := (Node.flattened sheet.nodes).filter (·.isHost)
    let definitions := (scopes.flatMap (·.children?.getD [])).filterMap (·.definition? ignored)
    let table : PropertyTable := definitions.foldl
      (fun table d => table.insert d.prop (Value.parse d.value).stripped.nodes) ∅
    let left := (sheet.collect ignored false).2
    (∀ preserve, (sheet.collect ignored preserve).1 = table) ∧
    table.names = (definitions.map (·.prop)).eraseDups ∧
    (∀ name, table.get? name = (definitions.reverse.find? (·.prop = name)).map
      fun d => (Value.parse d.value).stripped.nodes) ∧
    (sheet.collect ignored true).2 = sheet ∧
    ∀ preserve, left.collect ignored preserve = (∅, left) := by
  intro scopes definitions table left
  have hdefinitions : hostDefinitions ignored sheet.nodes = definitions :=
    hostDefinitions_eq_flattened sheet.nodes
  have htable (preserve : Bool) : (sheet.collect ignored preserve).1 = table := by
    rw [collect, fst_collectFrom, hdefinitions]
    rfl
  have htabulates := tabulates_collect sheet ignored true
  rw [htable, Stylesheet.definitions, hdefinitions] at htabulates
  refine ⟨htable, ?_, ?_, ?_, ?_⟩
  · simpa [Function.comp_def] using htabulates.names
  · intro name
    rw [htabulates.get?, lastValue?, ← List.map_reverse, OrderedMap.get?_map_eq_find?]
    rfl
  · rw [collect, snd_collectFrom_preserving]
  · intro preserve
    have hnone : hostDefinitions ignored left.nodes = [] := hostDefinitions_collectFrom ∅ sheet.nodes
    rw [collect, collectFrom_of_hostDefinitions_eq_nil preserve ∅ hnone]

end CustomProperties
