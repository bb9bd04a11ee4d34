import CustomProperties.Proofs.Merging.Tabulation
import CustomProperties.Proofs.Passes.Batches
import CustomProperties.Proofs.Sheet.Induction
import CustomProperties.Source
import Mathlib.Tactic.Common

/-!
# Definitions of sources

What definitions a sheet, an object or a file holds, in the order in which they stand there. The
table of a source tabulates its definitions, and the table of a list of sources tabulates those of
all of them in the order of the list. How many turns a source or the disk takes has no part in it.
-/

namespace CustomProperties

open PropertyTable (Tabulates)

/-! ### Sheets -/

/-- The definitions directly inside of the host scopes at the top of a sequence of nodes, or at the
top of a sheet embedded there. -/
def hostDefinitions (ignored : IgnoreSet) : List Node → List Declaration
  | [] => []
  | .rule head body _ :: rest =>
    (if isHostScope head body then body.filterMap (·.definition? ignored) else [])
      ++ hostDefinitions ignored rest
  | .document _ body _ :: rest => hostDefinitions ignored body ++ hostDefinitions ignored rest
  | .atBlock .. :: rest => hostDefinitions ignored rest
  | .atStatement .. :: rest => hostDefinitions ignored rest
  | .declaration _ :: rest => hostDefinitions ignored rest
  | .comment _ :: rest => hostDefinitions ignored rest

/-- The definitions of a sheet, with the tokens that they give. -/
def Stylesheet.definitions (sheet : Stylesheet) (ignored : IgnoreSet) : Definitions :=
  (hostDefinitions ignored sheet.nodes).map fun d => (d.prop, d.definedTokens)

/-- Collecting inserts one definition after the other, whether or not it takes them out. -/
lemma fst_collectFrom (ignored : IgnoreSet) (preserve : Bool) (table : PropertyTable)
    (nodes : List Node) :
    (collectFrom ignored preserve table nodes).1
      = (hostDefinitions ignored nodes).foldl (fun table d => table.insert d.prop d.definedTokens)
        table := by
  induction nodes using Node.induct generalizing table with
  | nil => simp [collectFrom, hostDefinitions]
  | rule head body tail rest ihbody ih =>
    by_cases hhost : isHostScope head body
    · rw [collectFrom, hostDefinitions, if_pos hhost, if_pos hhost, List.foldl_append]
      -- whether the rule is taken out does not matter for the table
      simp only [apply_ite Prod.fst, ite_self]
      exact ih (table.define ignored body)
    · rw [collectFrom, hostDefinitions, if_neg hhost, if_neg hhost]
      exact ih table
  | atBlock head body tail rest ihbody ih => simpa [collectFrom, hostDefinitions] using ih table
  | atStatement head semicolon rest ih => simpa [collectFrom, hostDefinitions] using ih table
  | declaration d rest ih => simpa [collectFrom, hostDefinitions] using ih table
  | comment c rest ih => simpa [collectFrom, hostDefinitions] using ih table
  | document id body after rest ihbody ih =>
    rw [collectFrom, hostDefinitions, List.foldl_append, ← ihbody table]
    exact ih _

lemma tabulates_collect (sheet : Stylesheet) (ignored : IgnoreSet) (preserve : Bool) :
    Tabulates (sheet.definitions ignored) (sheet.collect ignored preserve).1 := by
  have h := PropertyTable.tabulates_empty.foldl (sheet.definitions ignored)
  rw [Stylesheet.definitions, List.foldl_map, ← fst_collectFrom ignored preserve] at h
  exact h

/-! ### Objects -/

/-- The definitions that a member of an object holds. -/
def Json.memberDefinitions (value : Json) (key : String) : Definitions :=
  match value.get? key with
  | some (.object members) => members.map fun m => (m.1, (Value.parse m.2.plainText).nodes)
  | _ => []

/-- The definitions that an object holds, in each of the members meant for definitions. -/
def Json.definitions (value : Json) : Definitions := definitionKeys.flatMap value.memberDefinitions

lemma tabulates_ofObject (value : Json) : Tabulates value.definitions (.ofObject value) := by
  have hkeys (keys : List String) {ds : Definitions} {table : PropertyTable}
      (h : Tabulates ds table) :
      Tabulates (ds ++ keys.flatMap value.memberDefinitions) (keys.foldl (fun table key =>
        match value.get? key with
        | some (.object members) =>
          table.extend (.ofPlain (members.map fun m => (m.1, m.2.plainText)))
        | _ => table) table) := by
    induction keys generalizing ds table with
    | nil => simpa using h
    | cons key keys ih =>
      rw [List.flatMap_cons, ← List.append_assoc, List.foldl_cons]
      apply ih
      unfold Json.memberDefinitions
      split
      · next members _ =>
        have hmembers := PropertyTable.tabulates_ofPlain (members.map fun m => (m.1, m.2.plainText))
        rw [List.map_map] at hmembers
        exact h.extend hmembers
      · simpa using h
  exact hkeys definitionKeys PropertyTable.tabulates_empty

/-! ### Files -/

/-- The definitions of a file read in a format; none if it cannot be read. -/
def SourceFormat.definitions (format : SourceFormat) (tree : FileTree) (path : String) :
    Definitions :=
  match tree.read path with
  | .ok text =>
    match format with
    | stylesheet =>
      let sheet := Stylesheet.parse text 0
      sheet.definitions (.scan sheet)
    | json => ((Json.parse text).map Json.definitions).getD []
    | module => ((Module.read text).map Json.definitions).getD []
  | .error _ => []

lemma tabulates_load {format : SourceFormat} {tree : FileTree} {path : String}
    {table : PropertyTable} (h : format.load tree path = .ok table) :
    Tabulates (format.definitions tree path) table := by
  unfold SourceFormat.load at h
  unfold SourceFormat.definitions
  cases hread : tree.read path with
  | error error =>
    rw [hread] at h
    cases format <;> cases h
  | ok text =>
    rw [hread] at h
    cases format with
    | stylesheet =>
      cases h
      exact tabulates_collect _ _ true
    | json =>
      change Tabulates (((Json.parse text).map Json.definitions).getD []) table
      cases hparse : Json.parse text with
      | none => simp [hparse] at h
      | some value =>
        simp only [hparse, Except.ok.injEq] at h
        subst h
        exact tabulates_ofObject value
    | module =>
      change Tabulates (((Module.read text).map Json.definitions).getD []) table
      cases hparse : Module.read text with
      | none => simp [hparse] at h
      | some value =>
        simp only [hparse, Except.ok.injEq] at h
        subst h
        exact tabulates_ofObject value

/-! ### Sources -/

namespace Source

/-- The definitions of a source. -/
def definitions (tree : FileTree) : Source → Definitions
  | object value => value.definitions
  | location path kind =>
    match SourceFormat.ofKind? (kindOf path kind) with
    | some format => format.definitions tree path
    | none => []
  | callable source => source.definitions tree
  | pending _ source => source.definitions tree
  | rejected _ _ => []

lemma tabulates_settle {tree : FileTree} {turn : Nat} {source : Source} {table : PropertyTable}
    (h : (source.settle tree turn).result = .ok table) :
    Tabulates (source.definitions tree) table := by
  induction source generalizing turn with
  | object value =>
    cases h
    exact tabulates_ofObject value
  | location path kind =>
    unfold settle at h
    unfold definitions
    cases hkind : SourceFormat.ofKind? (kindOf path kind) with
    | some format =>
      rw [hkind] at h
      exact tabulates_load h
    | none =>
      rw [hkind] at h
      cases h
      exact PropertyTable.tabulates_empty
  | callable source ih => exact ih h
  | pending turns source ih => exact ih h
  | rejected turns message => cases h

end Source

/-! ### Lists of sources -/

/-- The tables of sources come to one table for all definitions, in the order of the sources. -/
lemma tabulates_foldl_extend {tree : FileTree} {sources : List Source}
    {tables : List PropertyTable} {ds : Definitions} {table : PropertyTable}
    (htable : Tabulates ds table)
    (h : sources.map (fun source => (source.settle tree 0).result) = tables.map .ok) :
    Tabulates (ds ++ (sources.map (·.definitions tree)).flatten)
      (tables.foldl PropertyTable.extend table) := by
  induction sources generalizing tables ds table with
  | nil =>
    have htables : tables = [] := by simpa using h.symm
    subst htables
    simpa using htable
  | cons source sources ih =>
    cases tables with
    | nil => simp at h
    | cons first tables =>
      rw [List.map_cons, List.map_cons, List.cons.injEq] at h
      rw [List.map_cons, List.flatten_cons, ← List.append_assoc, List.foldl_cons]
      exact ih (htable.extend (Source.tabulates_settle h.1)) h.2

/-- What comes of a list of sources tabulates their definitions, one source after the other. -/
lemma tabulates_aggregate {disk : Disk} {sources : List Source} {table : PropertyTable}
    (h : (aggregate disk sources).result = .ok table) :
    Tabulates (sources.map (·.definitions disk.tree)).flatten table := by
  unfold aggregate at h
  simp only at h
  split at h
  · next tables hbatch =>
    cases h
    have hresults := BatchEnd.ofEndings_eq_finished_iff.mp hbatch
    rw [List.map_map] at hresults
    exact tabulates_foldl_extend PropertyTable.tabulates_empty hresults
  · cases h

end CustomProperties
