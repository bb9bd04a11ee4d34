import CustomProperties.Proofs.Sheet.Numbers
import Mathlib

/-!
# Sheets put together

Sheets are read from texts, and a sheet can be embedded in another one. Every number is handed out
once, so that no number occurs twice in a sheet, in whatever order it was put together
(`nodup_ids_run`).
-/

namespace CustomProperties

open List (Perm Subperm)

/-! ### Numbers after embedding -/

namespace Node

@[simp] lemma idsAll_append (ns ms : List Node) : idsAll (ns ++ ms) = idsAll ns ++ idsAll ms := by
  induction ns with
  | nil => simp
  | cons n ns ih => simp [ih]

lemma ids_of_children? {n : Node} {body : List Node} (h : n.children? = some body) :
    n.ids = n.id :: idsAll body := by
  cases n <;> cases h <;> rfl

lemma ids_withChildren {n : Node} {body : List Node} (h : n.children? = some body)
    (nodes : List Node) : (n.withChildren nodes).ids = n.id :: idsAll nodes := by
  cases n <;> cases h <;> rfl

lemma exists_append_of_getElem? {ns : List Node} {i : Nat} {n : Node} (h : ns[i]? = some n) :
    ∃ front back, ns = front ++ n :: back ∧ front.length = i := by
  obtain ⟨hi, rfl⟩ := List.getElem?_eq_some_iff.1 h
  refine ⟨ns.take i, ns.drop (i + 1), ?_, ?_⟩
  · rw [List.getElem_cons_drop, List.take_append_drop]
  · rw [List.length_take]
    omega

/-- A node put into a tree brings its own numbers and no others. -/
lemma idsAll_embed_subperm (inner : Node) (index : Nat) (path : List Nat) (nodes : List Node) :
    Subperm (idsAll (embed inner index path nodes)) (inner.ids ++ idsAll nodes) := by
  induction path generalizing nodes with
  | nil =>
    have hperm := List.perm_append_comm_assoc (idsAll (nodes.take index)) inner.ids
      (idsAll (nodes.drop index))
    rw [embed, idsAll_append, idsAll_cons]
    rw [← idsAll_append, List.take_append_drop] at hperm
    exact hperm.subperm
  | cons i path ih =>
    have hnone : Subperm (idsAll nodes) (inner.ids ++ idsAll nodes) :=
      (List.sublist_append_right _ _).subperm
    rw [embed]
    cases hn : nodes[i]? with
    | none => exact hnone
    | some n =>
      simp only
      cases hbody : n.children? with
      | none => exact hnone
      | some body =>
        -- the numbers before the node that is changed, in it, and behind it
        obtain ⟨front, back, rfl, rfl⟩ := exists_append_of_getElem? hn
        have hset : (front ++ n :: back).set front.length
            (n.withChildren (embed inner index path body))
              = front ++ n.withChildren (embed inner index path body) :: back := by simp
        simp only [hset, idsAll_append, idsAll_cons, ids_withChildren hbody,
          ids_of_children? hbody]
        have hinside := ih body
        have hpart : Subperm ((n.id :: idsAll (embed inner index path body)) ++ idsAll back)
            (inner.ids ++ ((n.id :: idsAll body) ++ idsAll back)) := by
          have hcons := (List.subperm_cons n.id).2 hinside
          have happend := hcons.append (List.Subperm.refl (idsAll back))
          refine happend.trans (Perm.subperm ?_)
          rw [← List.append_assoc]
          exact Perm.append_right _ List.perm_middle.symm
        have hall := (List.Subperm.refl (idsAll front)).append hpart
        exact hall.trans (List.perm_append_comm_assoc _ _ _).subperm

end Node

lemma Node.length_idsAll (ns : List Node) : (Node.idsAll ns).length = Node.sizeAll ns := by
  induction ns using Node.induct with
  | nil => simp [Node.sizeAll]
  | rule head body tail rest ihbody ih =>
    simp [Node.ids, Node.sizeAll, Node.size, ihbody, ih, Nat.add_right_comm]
  | atBlock head body tail rest ihbody ih =>
    simp [Node.ids, Node.sizeAll, Node.size, ihbody, ih, Nat.add_right_comm]
  | atStatement head semicolon rest ih => simp [Node.ids, Node.sizeAll, Node.size, ih, Nat.add_comm]
  | declaration d rest ih => simp [Node.ids, Node.sizeAll, Node.size, ih, Nat.add_comm]
  | comment c rest ih => simp [Node.ids, Node.sizeAll, Node.size, ih, Nat.add_comm]
  | document id body after rest ihbody ih =>
    simp [Node.ids, Node.sizeAll, Node.size, ihbody, ih, Nat.add_right_comm]

/-- A parsed sheet has the numbers from the first one on, as many as it has nodes. -/
lemma Stylesheet.ids_parse (text : String) (next : NodeId) :
    Node.idsAll (Stylesheet.parse text next).nodes
      = List.range' next (Stylesheet.parse text next).size := by
  have hlength := Node.length_idsAll (Stylesheet.parse text next).nodes
  rw [Stylesheet.parse, Stylesheet.number, Node.idsAll_numberAll] at hlength ⊢
  rw [List.length_range'] at hlength
  rw [hlength]
  rfl

/-! ### Assemblies -/

/-- The sheets there are, and the number to be handed out next. -/
structure Assembly where
  next : NodeId
  sheets : List Stylesheet

namespace Assembly

/-- What is done to the sheets. -/
inductive Step where
  /-- Read a text. Its sheet comes in front of the others. -/
  | parse (text : String)
  /-- Take the sheet with the place `inner` out and embed it in the one that has the place `outer`
  then. -/
  | embed (inner outer : Nat) (path : List Nat) (index : Nat)

/-- No sheets, and all numbers to be handed out. -/
def start : Assembly := ⟨0, []⟩

/-- Take a step. -/
def step (a : Assembly) : Step → Assembly
  | .parse text =>
    let sheet := Stylesheet.parse text a.next
    ⟨a.next + sheet.size, sheet :: a.sheets⟩
  | .embed inner outer path index =>
    match a.sheets[inner]? with
    | some sheet =>
      ⟨a.next + 1, (a.sheets.eraseIdx inner).modify outer (·.embed path index a.next sheet)⟩
    | none => a

/-- Take steps, one after the other. -/
def run (steps : List Step) : Assembly := steps.foldl step start

/-- The numbers of all sheets. -/
def ids (sheets : List Stylesheet) : List NodeId :=
  sheets.flatMap fun sheet => Node.idsAll sheet.nodes

/-- No number occurs twice, and all were handed out. -/
structure Distinct (a : Assembly) : Prop where
  nodup : (ids a.sheets).Nodup
  below : ∀ id ∈ ids a.sheets, id < a.next

@[simp] lemma ids_cons (sheet : Stylesheet) (sheets : List Stylesheet) :
    ids (sheet :: sheets) = Node.idsAll sheet.nodes ++ ids sheets := rfl

/-- A sheet embedded in another one brings its own numbers and one more. -/
lemma ids_modify_subperm (sheets : List Stylesheet) (outer : Nat) (path : List Nat) (index : Nat)
    (id : NodeId) (inner : Stylesheet) :
    Subperm (ids (sheets.modify outer (·.embed path index id inner)))
      ((id :: Node.idsAll inner.nodes) ++ ids sheets) := by
  induction sheets generalizing outer with
  | nil => simp [ids]
  | cons sheet sheets ih =>
    cases outer with
    | zero =>
      have hsheet := Node.idsAll_embed_subperm (.document id inner.nodes inner.after) index path
        sheet.nodes
      have happend := hsheet.append (List.Subperm.refl (ids sheets))
      rw [List.modify_zero_cons, ids_cons, ids_cons, ← List.append_assoc]
      exact happend
    | succ outer =>
      have hrest := (List.Subperm.refl (Node.idsAll sheet.nodes)).append (ih outer)
      rw [List.modify_succ_cons, ids_cons, ids_cons]
      exact hrest.trans (List.perm_append_comm_assoc _ _ _).subperm

lemma Distinct.of_subperm {a : Assembly} {sheets : List Stylesheet} (h : a.Distinct)
    (hids : Subperm (ids sheets) (a.next :: ids a.sheets)) :
    Distinct ⟨a.next + 1, sheets⟩ := by
  have hnext : a.next ∉ ids a.sheets := by
    intro hmem
    exact absurd (h.below _ hmem) (lt_irrefl _)
  constructor
  · obtain ⟨l, hperm, hsub⟩ := hids
    exact hperm.nodup_iff.1 (hsub.nodup (List.nodup_cons.2 ⟨hnext, h.nodup⟩))
  · intro id hid
    rcases List.mem_cons.1 (hids.subset hid) with rfl | hid
    · exact Nat.lt_succ_self _
    · exact Nat.lt_succ_of_lt (h.below id hid)

lemma Distinct.step {a : Assembly} (h : a.Distinct) (s : Step) : (a.step s).Distinct := by
  cases s with
  | parse text =>
    have hids := Stylesheet.ids_parse text a.next
    constructor
    · rw [Assembly.step, ids_cons, hids]
      refine List.nodup_append.2 ⟨List.nodup_range', h.nodup, ?_⟩
      intro id hid other hother
      have hlt := h.below other hother
      rw [List.mem_range'_1] at hid
      exact (hlt.trans_le hid.1).ne'
    · intro id hid
      rw [Assembly.step, ids_cons, hids, List.mem_append, List.mem_range'_1] at hid
      rcases hid with hid | hid
      · exact hid.2
      · exact Nat.lt_add_right _ (h.below id hid)
  | embed inner outer path index =>
    rw [Assembly.step]
    cases hinner : a.sheets[inner]? with
    | none => exact h
    | some sheet =>
      apply h.of_subperm
      obtain ⟨hi, rfl⟩ := List.getElem?_eq_some_iff.1 hinner
      have hperm := (List.getElem_cons_eraseIdx_perm hi).flatMap_right
        fun sheet => Node.idsAll sheet.nodes
      refine (ids_modify_subperm _ outer path index a.next _).trans (Perm.subperm ?_)
      exact hperm.cons a.next

lemma distinct_run (steps : List Step) : (run steps).Distinct := by
  suffices ∀ a : Assembly, a.Distinct → (steps.foldl step a).Distinct from
    this start ⟨List.nodup_nil, by simp [start, ids]⟩
  induction steps with
  | nil =>
    intro a ha
    exact ha
  | cons s steps ih =>
    intro a ha
    exact ih _ (ha.step s)

/-- No number occurs twice in a sheet that was put together. -/
lemma nodup_ids_run (steps : List Step) {sheet : Stylesheet} (h : sheet ∈ (run steps).sheets) :
    (Node.idsAll sheet.nodes).Nodup :=
  (List.nodup_flatMap.1 (distinct_run steps).nodup).1 sheet h

end Assembly

end CustomProperties
