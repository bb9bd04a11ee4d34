import CustomProperties.Proofs.Sheet.Induction
import CustomProperties.Update
import Mathlib

/-!
# The two ways to update a sheet

Keeping the old declarations and replacing them act on the same declarations and write the same
values. `CopiesInserted` says what the sheet is when they are kept, without a word on the order in
which it is walked, and `replaceDeclarationsAll` edits every declaration by itself, which replacing
them comes to. The copies are the declarations with new numbers: without them the sheet is the old
one.
-/

namespace CustomProperties

namespace Node

mutual

/-- The same node with every declaration replaced by those that `f` gives for it. -/
def replaceDeclarations (f : Declaration → List Declaration) : Node → List Node
  | rule head body tail => [rule head (replaceDeclarationsAll f body) tail]
  | atBlock head body tail => [atBlock head (replaceDeclarationsAll f body) tail]
  | atStatement head semicolon => [atStatement head semicolon]
  | declaration d => (f d).map declaration
  | comment c => [comment c]
  | document id body after => [document id (replaceDeclarationsAll f body) after]

/-- The same nodes with every declaration replaced by those that `f` gives for it. -/
def replaceDeclarationsAll (f : Declaration → List Declaration) : List Node → List Node
  | [] => []
  | n :: ns => n.replaceDeclarations f ++ replaceDeclarationsAll f ns

end

variable {f : Declaration → List Declaration}

@[simp] lemma replaceDeclarationsAll_nil : replaceDeclarationsAll f [] = [] := by
  rw [replaceDeclarationsAll]

@[simp] lemma replaceDeclarationsAll_cons (n : Node) (ns : List Node) :
    replaceDeclarationsAll f (n :: ns) = n.replaceDeclarations f ++ replaceDeclarationsAll f ns := by
  rw [replaceDeclarationsAll]

@[simp] lemma declarationsAll_nil : declarationsAll [] = [] := by rw [declarationsAll]

@[simp] lemma declarationsAll_cons (n : Node) (ns : List Node) :
    declarationsAll (n :: ns) = n.declarations ++ declarationsAll ns := by
  rw [declarationsAll]

@[simp] lemma declarationsAll_append (ns ms : List Node) :
    declarationsAll (ns ++ ms) = declarationsAll ns ++ declarationsAll ms := by
  induction ns with
  | nil => simp
  | cons n ns ih => simp [ih]

@[simp] lemma declarationsAll_map_declaration (ds : List Declaration) :
    declarationsAll (ds.map .declaration) = ds := by
  induction ds with
  | nil => simp
  | cons d ds ih => simp [declarations, ih]

end Node

open Node

/-- The same sheet with every declaration replaced by those that `f` gives for it. -/
def Stylesheet.replaceDeclarations (f : Declaration → List Declaration) (sheet : Stylesheet) :
    Stylesheet :=
  { sheet with nodes := replaceDeclarationsAll f sheet.nodes }

/-- The nodes `ms` are the nodes `ns` with one more declaration right before each declaration that
has a new value: a copy with that value, an end of its own and a number from `next` on. -/
inductive CopiesInserted (value : Declaration → Option String) (next : NodeId) :
    List Node → List Node → Prop where
  | nil : CopiesInserted value next [] []
  | copied {d : Declaration} {new : String} {id : NodeId} {ns ms : List Node}
      (hvalue : value d = some new) (hid : next ≤ id) (hrest : CopiesInserted value next ns ms) :
      CopiesInserted value next (.declaration d :: ns)
        (.declaration ⟨id, d.before, d.prop, d.between, new, d.important, "", true⟩
          :: .declaration d :: ms)
  | kept {d : Declaration} {ns ms : List Node} (hvalue : value d = none)
      (hrest : CopiesInserted value next ns ms) :
      CopiesInserted value next (.declaration d :: ns) (.declaration d :: ms)
  | rule {head : RuleHead} {tail : BlockEnd} {body body' ns ms : List Node}
      (hbody : CopiesInserted value next body body') (hrest : CopiesInserted value next ns ms) :
      CopiesInserted value next (.rule head body tail :: ns) (.rule head body' tail :: ms)
  | atBlock {head : AtHead} {tail : BlockEnd} {body body' ns ms : List Node}
      (hbody : CopiesInserted value next body body') (hrest : CopiesInserted value next ns ms) :
      CopiesInserted value next (.atBlock head body tail :: ns) (.atBlock head body' tail :: ms)
  | document {id : NodeId} {after : String} {body body' ns ms : List Node}
      (hbody : CopiesInserted value next body body') (hrest : CopiesInserted value next ns ms) :
      CopiesInserted value next (.document id body after :: ns) (.document id body' after :: ms)
  | atStatement {head : AtHead} {semicolon : Bool} {ns ms : List Node}
      (hrest : CopiesInserted value next ns ms) :
      CopiesInserted value next (.atStatement head semicolon :: ns)
        (.atStatement head semicolon :: ms)
  | comment {c : Comment} {ns ms : List Node} (hrest : CopiesInserted value next ns ms) :
      CopiesInserted value next (.comment c :: ns) (.comment c :: ms)

variable {value : Declaration → Option String} {preserve : Bool} {next base : NodeId}
  {ns ms : List Node}

/-- Without the declarations that have new numbers the nodes are the old ones. -/
lemma CopiesInserted.erase (h : CopiesInserted value next ns ms) (hfresh : freshIdAll ns ≤ next) :
    replaceDeclarationsAll (fun d => if next ≤ d.id then [] else [d]) ms = ns := by
  induction h with
  | nil => simp
  | copied hvalue hid hrest ih =>
    rw [freshIdAll, Nat.max_le, freshId] at hfresh
    have hold : ¬ next ≤ _ := Nat.not_le.2 hfresh.1
    simp [replaceDeclarations, hid, hold, ih hfresh.2]
  | kept hvalue hrest ih =>
    rw [freshIdAll, Nat.max_le, freshId] at hfresh
    have hold : ¬ next ≤ _ := Nat.not_le.2 hfresh.1
    simp [replaceDeclarations, hold, ih hfresh.2]
  | rule hbody hrest ihbody ih =>
    rw [freshIdAll, Nat.max_le, freshId, Nat.max_le] at hfresh
    simp [replaceDeclarations, ihbody hfresh.1.2, ih hfresh.2]
  | atBlock hbody hrest ihbody ih =>
    rw [freshIdAll, Nat.max_le, freshId, Nat.max_le] at hfresh
    simp [replaceDeclarations, ihbody hfresh.1.2, ih hfresh.2]
  | document hbody hrest ihbody ih =>
    rw [freshIdAll, Nat.max_le, freshId, Nat.max_le] at hfresh
    simp [replaceDeclarations, ihbody hfresh.1.2, ih hfresh.2]
  | atStatement hrest ih =>
    rw [freshIdAll, Nat.max_le] at hfresh
    simp [replaceDeclarations, ih hfresh.2]
  | comment hrest ih =>
    rw [freshIdAll, Nat.max_le] at hfresh
    simp [replaceDeclarations, ih hfresh.2]

/-! ### The walk -/

/-- As many declarations are updated as have a new value, whatever becomes of the old ones. -/
lemma snd_updateNodes (value : Declaration → Option String) (preserve : Bool) (next : NodeId)
    (ns : List Node) :
    (updateNodes value preserve next ns).2
      = (declarationsAll ns).countP fun d => (value d).isSome := by
  induction ns using Node.induct generalizing next with
  | nil => simp [updateNodes]
  | rule head body tail rest ihbody ih => simp [updateNodes, updateNode, declarations, ihbody, ih]
  | atBlock head body tail rest ihbody ih =>
    simp [updateNodes, updateNode, declarations, ihbody, ih]
  | atStatement head semicolon rest ih => simp [updateNodes, updateNode, declarations, ih]
  | declaration d rest ih =>
    cases h : value d <;> cases preserve <;>
      simp [updateNodes, updateNode, Declaration.updateTo, declarations, h, ih, Nat.add_comm]
  | comment c rest ih => simp [updateNodes, updateNode, declarations, ih]
  | document id body after rest ihbody ih =>
    simp [updateNodes, updateNode, declarations, ihbody, ih]

/-- Replacing declarations gives each one its new value. -/
lemma fst_updateNodes_replacing (value : Declaration → Option String) (next : NodeId)
    (ns : List Node) :
    (updateNodes value false next ns).1
      = replaceDeclarationsAll (fun d => [{ d with value := (value d).getD d.value }]) ns := by
  induction ns using Node.induct generalizing next with
  | nil => simp [updateNodes]
  | rule head body tail rest ihbody ih =>
    simp [updateNodes, updateNode, replaceDeclarations, ihbody, ih]
  | atBlock head body tail rest ihbody ih =>
    simp [updateNodes, updateNode, replaceDeclarations, ihbody, ih]
  | atStatement head semicolon rest ih => simp [updateNodes, updateNode, replaceDeclarations, ih]
  | declaration d rest ih =>
    cases h : value d <;>
      simp [updateNodes, updateNode, Declaration.updateTo, replaceDeclarations, h, ih]
  | comment c rest ih => simp [updateNodes, updateNode, replaceDeclarations, ih]
  | document id body after rest ihbody ih =>
    simp [updateNodes, updateNode, replaceDeclarations, ihbody, ih]

/-- Keeping declarations inserts copies. -/
lemma copiesInserted_updateNodes (value : Declaration → Option String) (hbase : base ≤ next)
    (ns : List Node) : CopiesInserted value base ns (updateNodes value true next ns).1 := by
  induction ns using Node.induct generalizing next with
  | nil => simpa [updateNodes] using .nil
  | rule head body tail rest ihbody ih =>
    simpa [updateNodes, updateNode] using .rule (ihbody hbase) (ih (Nat.le_add_right_of_le hbase))
  | atBlock head body tail rest ihbody ih =>
    simpa [updateNodes, updateNode] using
      .atBlock (ihbody hbase) (ih (Nat.le_add_right_of_le hbase))
  | atStatement head semicolon rest ih =>
    simpa [updateNodes, updateNode] using .atStatement (ih hbase)
  | declaration d rest ih =>
    cases h : value d with
    | none => simpa [updateNodes, updateNode, Declaration.updateTo, h] using .kept h (ih hbase)
    | some new =>
      simpa [updateNodes, updateNode, Declaration.updateTo, h, Declaration.withValue] using
        .copied h hbase (ih (Nat.le_add_right_of_le hbase))
  | comment c rest ih => simpa [updateNodes, updateNode] using .comment (ih hbase)
  | document id body after rest ihbody ih =>
    simpa [updateNodes, updateNode] using
      .document (ihbody hbase) (ih (Nat.le_add_right_of_le hbase))

/-- The copies are numbered one after the other. -/
lemma newIds_updateNodes (value : Declaration → Option String) (hbase : base ≤ next)
    (hfresh : freshIdAll ns ≤ base) :
    ((declarationsAll (updateNodes value true next ns).1).filter (base ≤ ·.id)).map (·.id)
      = List.range' next (updateNodes value true next ns).2 := by
  induction ns using Node.induct generalizing next with
  | nil => simp [updateNodes]
  | rule head body tail rest ihbody ih =>
    rw [freshIdAll, Nat.max_le, freshId, Nat.max_le] at hfresh
    simp [updateNodes, updateNode, declarations, ihbody hbase hfresh.1.2,
      ih (Nat.le_add_right_of_le hbase) hfresh.2]
  | atBlock head body tail rest ihbody ih =>
    rw [freshIdAll, Nat.max_le, freshId, Nat.max_le] at hfresh
    simp [updateNodes, updateNode, declarations, ihbody hbase hfresh.1.2,
      ih (Nat.le_add_right_of_le hbase) hfresh.2]
  | atStatement head semicolon rest ih =>
    rw [freshIdAll, Nat.max_le] at hfresh
    simp [updateNodes, updateNode, declarations, ih hbase hfresh.2]
  | declaration d rest ih =>
    rw [freshIdAll, Nat.max_le, freshId] at hfresh
    have hold : ¬ base ≤ d.id := Nat.not_le.2 hfresh.1
    cases h : value d with
    | none =>
      simp [updateNodes, updateNode, Declaration.updateTo, declarations, h, hold, ih hbase hfresh.2]
    | some new =>
      have hrest := ih (Nat.le_add_right_of_le hbase : base ≤ next + 1) hfresh.2
      simp [updateNodes, updateNode, Declaration.updateTo, Declaration.withValue, declarations, h,
        hold, hbase, hrest, Nat.add_comm 1, List.range'_succ]
  | comment c rest ih =>
    rw [freshIdAll, Nat.max_le] at hfresh
    simp [updateNodes, updateNode, declarations, ih hbase hfresh.2]
  | document id body after rest ihbody ih =>
    rw [freshIdAll, Nat.max_le, freshId, Nat.max_le] at hfresh
    simp [updateNodes, updateNode, declarations, ihbody hbase hfresh.1.2,
      ih (Nat.le_add_right_of_le hbase) hfresh.2]

/-- Both ways to update a sheet act on the declarations that have a new value, and write the same
values: one inserts a copy before each of them, numbered from `next` on, and the other one puts the
values in their place. Without its copies the sheet is the old one. Numbers may be repeated in the
sheet, but `next` has to be past all of them: only then the copies can be told by their numbers. -/
theorem Stylesheet.update_preserving_replacing (sheet : Stylesheet) (table : PropertyTable)
    (ignored : IgnoreSet) {next : NodeId} (hnext : sheet.freshId ≤ next) (other : NodeId) :
    let value := fun d : Declaration => d.updated? table ignored
    let preserved := sheet.update table ignored true next
    let replaced := sheet.update table ignored false other
    preserved.2 = (declarationsAll sheet.nodes).countP (fun d => (value d).isSome) ∧
    replaced.2 = preserved.2 ∧
    CopiesInserted value next sheet.nodes preserved.1.nodes ∧
    preserved.1.after = sheet.after ∧
    ((declarationsAll preserved.1.nodes).filter (next ≤ ·.id)).map (·.id)
      = List.range' next preserved.2 ∧
    replaced.1 = sheet.replaceDeclarations (fun d => [{ d with value := (value d).getD d.value }]) ∧
    preserved.1.replaceDeclarations (fun d => if next ≤ d.id then [] else [d]) = sheet := by
  intro value preserved replaced
  have hinserted : CopiesInserted value next sheet.nodes preserved.1.nodes :=
    copiesInserted_updateNodes value (Nat.le_refl next) sheet.nodes
  refine ⟨snd_updateNodes value true next sheet.nodes, ?_, hinserted, rfl,
    newIds_updateNodes value (Nat.le_refl next) hnext, ?_, ?_⟩
  · have hpreserved := snd_updateNodes value true next sheet.nodes
    have hreplaced := snd_updateNodes value false other sheet.nodes
    exact hreplaced.trans hpreserved.symm
  · have hnodes := fst_updateNodes_replacing value other sheet.nodes
    simp [replaced, Stylesheet.update, Stylesheet.replaceDeclarations, value, hnodes]
  · have herase := hinserted.erase hnext
    exact congrArg (Stylesheet.mk · sheet.after) herase

/-- A sheet with a reference inside of a rule, and another sheet embedded behind it. -/
def swatch : Stylesheet where
  nodes :=
    [.rule ⟨1, "", ".a", ""⟩ [.declaration ⟨2, "", "color", ":", "var(--c)", "", " ", false⟩]
      ⟨"", true⟩,
    .document 3 [.declaration ⟨4, "", "top", ":", "0", "", "", true⟩] ""]
  after := ""

/-- A table with one name. -/
def red : PropertyTable where
  entries := [("--c", [.word "" "red"])]

lemma resolvedValue?_red : resolvedValue? red "color" "var(--c)" = some "red" := by
  have hprop : isCustomProperty "color" = false := by decide
  have hmay : mayRefer "var(--c)" = true := by decide
  have hsplit : splitTrailingComment "var(--c)" = ("var(--c)", "") := by decide
  have hresolved : resolveText red "var(--c)" = "red" := by cbv
  simp [resolvedValue?, hprop, hmay, hsplit, hresolved]

lemma resolvedValue?_zero : resolvedValue? red "top" "0" = none := by
  have hmay : mayRefer "0" = false := by decide
  simp [resolvedValue?, hmay]

/-- One declaration of `swatch` is updated either way. -/
theorem Stylesheet.update_preserving_replacing_swatch :
    swatch.freshId ≤ 5 ∧
    (swatch.update red .empty true 5).2 = 1 ∧ (swatch.update red .empty false 0).2 = 1 ∧
    (swatch.update red .empty true 5).1.replaceDeclarations
      (fun d => if 5 ≤ d.id then [] else [d]) = swatch := by
  have hfresh : swatch.freshId ≤ 5 := by decide
  obtain ⟨hcount, hsame, -, -, -, -, herase⟩ :=
    swatch.update_preserving_replacing red .empty hfresh 0
  have hone : (declarationsAll swatch.nodes).countP
      (fun d => (d.updated? red .empty).isSome) = 1 := by
    simp [swatch, declarations, Declaration.updated?, IgnoreSet.contains, IgnoreSet.empty,
      resolvedValue?_red, resolvedValue?_zero]
  exact ⟨hfresh, hcount.trans hone, hsame.trans (hcount.trans hone), herase⟩

end CustomProperties
