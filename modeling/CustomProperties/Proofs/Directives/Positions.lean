import CustomProperties.Proofs.Directives.Marks
import CustomProperties.Proofs.Sheet.Assembly
import Mathlib

/-!
# Which nodes a scan ignores

A scan gives numbers, but it is about places: a node is ignored for its own text, for the text of
the rule or at-rule that it stands directly in, or for the comment right before it. In a sheet in
which no number occurs twice, the two say the same of every node (`contains_scan_iff`).
-/

namespace CustomProperties

open Directive (switchesOff ignoresNext)
open IgnoreSet (asksIgnoreNext)

/-! ### Places -/

/-- The sequence of nodes that a path goes down to, and the node that holds it; `around` holds the
sequence where the path starts. -/
def Node.sequence? : List Nat → Option Node → List Node → Option (Option Node × List Node)
  | [], around, ns => some (around, ns)
  | i :: path, _, ns =>
    match ns[i]? with
    | some n =>
      match n.children? with
      | some body => sequence? path (some n) body
      | none => none
    | none => none

/-- The sequence of nodes that a path goes down to, and the node that holds it. None holds the nodes
at the top. -/
def Stylesheet.sequence? (sheet : Stylesheet) (path : List Nat) :
    Option (Option Node × List Node) :=
  Node.sequence? path none sheet.nodes

/-- Whether a node has all nodes directly inside of it ignored. -/
def Node.switchesOffInside (n : Node) : Bool := switchesOff n.render && !n.isDocument

namespace Marks

variable {ignored : IgnoreSet} {off next : Bool} {ns : List Node} {n : Node} {i : Nat}

lemma of_getElem? (h : Marks ignored off next ns) (hn : ns[i]? = some n) :
    ∃ next' rest, Marks ignored off next' (n :: rest) := by
  induction ns generalizing next i with
  | nil => cases hn
  | cons m ns ih =>
    cases i with
    | zero =>
      cases hn
      exact ⟨next, ns, h⟩
    | succ i => exact ih h.tail hn

/-- What holds a sequence decides how all of it is marked. -/
lemma of_sequence? {path : List Nat} {around parent : Option Node} {inner : List Node}
    (h : Marks ignored (around.any (·.switchesOffInside)) false ns)
    (hinner : Node.sequence? path around ns = some (parent, inner)) :
    Marks ignored (parent.any (·.switchesOffInside)) false inner := by
  induction path generalizing around ns with
  | nil =>
    cases hinner
    exact h
  | cons i path ih =>
    rw [Node.sequence?] at hinner
    split at hinner
    · next n hn =>
      split at hinner
      · next body hbody =>
        obtain ⟨next', rest, hmarks⟩ := h.of_getElem? hn
        apply ih _ hinner
        exact hmarks.body hbody
      · cases hinner
    · cases hinner

lemma contains_head (h : Marks ignored off next ns) (hn : ns[0]? = some n) :
    ignored.contains n.id = (off || next || switchesOff n.render) := by
  cases h with
  | nil => cases hn
  | cons hmark =>
    cases hn
    exact hmark

/-- Behind another node, a node is marked if that one asks for it. -/
lemma contains_succ {m : Node} (h : Marks ignored off next ns) (hm : ns[i]? = some m)
    (hn : ns[i + 1]? = some n) :
    ignored.contains n.id = (off || asksIgnoreNext m || switchesOff n.render) := by
  induction ns generalizing next i with
  | nil => cases hm
  | cons k ns ih =>
    cases i with
    | zero =>
      cases hm
      exact h.tail.contains_head hn
    | succ i => exact ih h.tail hm hn

end Marks

namespace IgnoreSet

lemma asksIgnoreNext_iff {n : Node} :
    asksIgnoreNext n ↔ ∃ c, n = .comment c ∧ ignoresNext c.text := by
  cases n <;> simp [asksIgnoreNext]

/-- In a sheet that was put together, a node is ignored if its own text switches resolution off, or
that of the rule or at-rule it stands directly in, or if the node right before it is a comment that
asks to ignore the next one, and for nothing else. -/
theorem contains_scan_iff (steps : List Assembly.Step) {sheet : Stylesheet}
    (hsheet : sheet ∈ (Assembly.run steps).sheets) {path : List Nat} {parent : Option Node}
    {ns : List Node} (hns : sheet.sequence? path = some (parent, ns)) {index : Nat} {n : Node}
    (hn : ns[index]? = some n) :
    (scan sheet).contains n.id ↔
      switchesOff n.render ∨
      (∃ p, parent = some p ∧ p.isDocument = false ∧ switchesOff p.render) ∨
      (∃ i c, index = i + 1 ∧ ns[i]? = some (.comment c) ∧ ignoresNext c.text) := by
  have hmarks : Marks (scan sheet) (parent.any (·.switchesOffInside)) false ns :=
    (marks_scan (Assembly.nodup_ids_run steps hsheet)).of_sequence? hns
  have hparent : parent.any (·.switchesOffInside) ↔
      ∃ p, parent = some p ∧ p.isDocument = false ∧ switchesOff p.render := by
    cases parent <;> simp [Node.switchesOffInside, and_comm]
  rw [← hparent]
  cases index with
  | zero =>
    rw [hmarks.contains_head hn]
    simp [or_comm]
  | succ i =>
    obtain ⟨m, hm⟩ : ∃ m, ns[i]? = some m := by
      have hlt := (List.getElem?_eq_some_iff.1 hn).1
      exact ⟨ns[i], List.getElem?_eq_getElem (by omega)⟩
    have hprevious : asksIgnoreNext m ↔
        ∃ j c, i + 1 = j + 1 ∧ ns[j]? = some (.comment c) ∧ ignoresNext c.text := by
      rw [asksIgnoreNext_iff]
      constructor
      · rintro ⟨c, rfl, hc⟩
        exact ⟨i, c, rfl, hm, hc⟩
      · rintro ⟨j, c, hj, hcomment, hc⟩
        cases hj
        rw [hm, Option.some.injEq] at hcomment
        exact ⟨c, hcomment, hc⟩
    rw [hmarks.contains_succ hm hn, ← hprevious]
    simp only [Bool.or_eq_true]
    tauto

/-- A comment that asks to ignore the rule behind it. -/
def remarked : List Node :=
  [.comment ⟨2, "", "/*custom-properties:ignore next*/"⟩, .rule ⟨3, "", "b", ""⟩ [] ⟨"", true⟩]

/-- The comment and the rule in a sheet of their own, inside of a rule with resolution off. -/
def embedded : Stylesheet :=
  ⟨[.rule ⟨0, "", "a", ""⟩
    [.comment ⟨1, "", "/*custom-properties:off*/"⟩, .document 4 remarked ""] ⟨"", true⟩], ""⟩

/-- In an embedded sheet the comment counts, and what is said around the sheet does not. -/
theorem contains_scan_iff_embedded :
    let steps : List Assembly.Step := [.parse "a\x7b/*custom-properties:off*/\x7d",
      .parse "/*custom-properties:ignore next*/b\x7b\x7d", .embed 0 0 [0] 1]
    let parent := Node.document 4 remarked ""
    embedded ∈ (Assembly.run steps).sheets ∧
    embedded.sequence? [0, 1] = some (some parent, remarked) ∧
    (remarked[1]?).map (·.id) = some 3 ∧ (scan embedded).contains 2 = false ∧
    ((scan embedded).contains 3 ↔
      switchesOff "b\x7b\x7d" ∨
      (∃ p, some parent = some p ∧ p.isDocument = false ∧ switchesOff p.render) ∨
      (∃ i c, 1 = i + 1 ∧ remarked[i]? = some (.comment c) ∧ ignoresNext c.text)) := by
  intro steps parent
  have hsheets : (Assembly.run steps).sheets = [embedded] := by cbv
  have hmem : embedded ∈ (Assembly.run steps).sheets := by
    rw [hsheets]
    exact List.mem_singleton_self embedded
  have hplace : embedded.sequence? [0, 1] = some (some parent, remarked) := rfl
  have hrule : remarked[1]? = some (.rule ⟨3, "", "b", ""⟩ [] ⟨"", true⟩) := rfl
  refine ⟨hmem, hplace, rfl, by decide, ?_⟩
  exact contains_scan_iff steps hmem hplace hrule

end IgnoreSet

end CustomProperties
