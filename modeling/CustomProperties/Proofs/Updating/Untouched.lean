import CustomProperties.Proofs.Editing.Modes
import CustomProperties.Proofs.Reprint.Passes
import CustomProperties.Proofs.Updating.TrailingComment
import Mathlib.Tactic.Common

/-!
# Declarations that are left alone

A value gets no new one if nothing is put for its references and its tokens print it again. They do
so unless the name of a function is written with an escape, or a bracket is left open and the last
character is the mark that would close it. A declaration of such a value is neither changed nor
copied nor counted, wherever it stands (`update_of_leavesAll`).
-/

namespace CustomProperties

open Css (Bracket Component Lexeme lex openBrackets)
open Css.Component (Frame)
open ValueNode
open Node (declarations declarationsAll)

variable {table : PropertyTable} {xs ys front : List ValueNode}

/-! ### With fewer remarks -/

lemma ValueNode.referent?_append (front xs : List ValueNode) :
    referent? (front ++ xs) = if front = [] then referent? xs else referent? front := by
  cases front <;> simp [referent?]

lemma ValueNode.afterComma_append (front xs : List ValueNode) :
    afterComma (front ++ xs)
      = if front.any (·.isComma) then afterComma front ++ xs else afterComma xs := by
  induction front with
  | nil => simp
  | cons n front ih => by_cases hn : n.isComma <;> simp [afterComma, hn, ih]

/-- Comments are no arguments that matter. -/
lemma ValueNode.referent?_of_comments (h : ∀ n ∈ xs, n.isComment) :
    referent? xs = none ∧ afterComma xs = [] := by
  induction xs with
  | nil => simp [referent?, afterComma]
  | cons n xs ih =>
    rw [List.forall_mem_cons] at h
    cases n with
    | comment => simpa [referent?, word?, afterComma, isComma] using (ih h.2).2
    | _ => simp [isComment] at h

namespace PropertyTable

lemma leavesAll_append :
    table.LeavesAll (xs ++ ys) ↔ table.LeavesAll xs ∧ table.LeavesAll ys := by
  simp [LeavesAll, or_imp, forall_and]

/-- Where nothing is put for the references of the tokens `ys`, or for one with these arguments,
nothing is put for those of `xs` or for one with the arguments `xs` either. -/
structure LeavesToo (table : PropertyTable) (xs ys : List ValueNode) : Prop where
  all : table.LeavesAll ys → table.LeavesAll xs
  arguments : table.Leaves ys → table.Leaves xs
  eq_nil : ys = [] → xs = []

/-- Behind other tokens nothing but a word or a comma matters as an argument. -/
lemma leavesToo_append (front : List ValueNode) (hall : table.LeavesAll ys → table.LeavesAll xs)
    (hreferent : referent? xs = none) (hcomma : afterComma xs = []) (hnil : ys = [] → xs = []) :
    table.LeavesToo (front ++ xs) (front ++ ys) where
  all h := leavesAll_append.2 ⟨(leavesAll_append.1 h).1, hall (leavesAll_append.1 h).2⟩
  arguments h := by
    obtain ⟨hunknown, hfallback⟩ := h
    refine ⟨fun name hname => ?_, ?_⟩
    · rw [referent?_append] at hname
      split at hname
      · simp [hreferent] at hname
      · next hfront => exact hunknown name (by rwa [referent?_append, if_neg hfront])
    · rw [afterComma_append] at hfallback ⊢
      split at hfallback
      · next hany =>
        rw [List.append_eq_nil_iff] at hfallback
        rw [if_pos hany, hfallback.1, hnil hfallback.2, List.append_nil]
      · next hany => rw [if_neg hany, hcomma]
  eq_nil h := by
    rw [List.append_eq_nil_iff] at h ⊢
    exact ⟨h.1, hnil h.2⟩

/-- The arguments of a function count one by one, those of a reference as a whole. -/
lemma LeavesToo.leavesAll_function (h : table.LeavesToo xs ys) {before name after after' : String}
    {closed closed' : Bool} (hys : table.LeavesAll [.function before name ys after' closed']) :
    table.LeavesAll [.function before name xs after closed] := by
  let n : ValueNode := .function before name xs after closed
  let m : ValueNode := .function before name ys after' closed'
  change table.LeavesAll [m] at hys
  change table.LeavesAll [n]
  by_cases hn : n.isReference
  · have hm : m.isReference := by
      simp only [n, m, isReference, Bool.and_eq_true, Bool.not_eq_true', List.isEmpty_eq_false_iff]
        at hn ⊢
      exact ⟨hn.1, mt h.eq_nil hn.2⟩
    simp only [LeavesAll, outerReferencesAll_cons, outerReferencesAll_nil, List.append_nil,
      outerReferences_of_isReference hn, outerReferences_of_isReference hm, List.mem_singleton,
      forall_eq] at hys ⊢
    exact h.arguments hys
  · simp only [LeavesAll, outerReferencesAll_cons, outerReferencesAll_nil, List.append_nil,
      outerReferences_of_not_isReference hn] at hys ⊢
    by_cases hm : m.isReference
    · -- without remarks there are no arguments left
      have hnil : xs = [] := by
        by_contra hxs
        simp only [n, m, isReference, Bool.and_eq_true, Bool.not_eq_true',
          List.isEmpty_eq_false_iff] at hn hm
        exact hn ⟨hm.1, hxs⟩
      simp [n, children, hnil]
    · rw [outerReferences_of_not_isReference hm] at hys
      exact h.all hys

/-- The tokens stand at the end of an open function or bracket. -/
lemma LeavesToo.block {cs ds : List Component}
    (h : table.LeavesToo (Value.ofComponentsAfter [] cs).nodes (Value.ofComponentsAfter [] ds).nodes)
    (front : List Component) (opener : Lexeme) (bracket : Bracket) :
    table.LeavesToo
      (Value.ofComponentsAfter [] (front ++ [.block opener bracket cs none])).nodes
      (Value.ofComponentsAfter [] (front ++ [.block opener bracket ds none])).nodes := by
  rw [Value.ofComponentsAfter_append, Value.ofComponentsAfter_append]
  cases htoken : opener.token with
  | function name =>
    simp only [Value.ofComponentsAfter, htoken]
    exact leavesToo_append _ h.leavesAll_function rfl rfl (by simp)
  | _ =>
    simp only [Value.ofComponentsAfter, htoken]
    refine leavesToo_append _ (fun hds => ?_) rfl rfl (by simp)
    simp only [LeavesAll, outerReferencesAll_cons, outerReferencesAll_nil, List.append_nil,
      outerReferences] at hds ⊢
    exact h.all hds

open Css.Component.Grouping (finish) in
/-- The tokens stand at the end of the innermost bracket that is open. -/
lemma LeavesToo.finish {inner inner' : List Component} (frames : List Frame)
    (h : table.LeavesToo (Value.ofComponentsAfter [] inner.reverse).nodes
      (Value.ofComponentsAfter [] inner'.reverse).nodes) :
    table.LeavesToo (Value.ofComponentsAfter [] (finish frames inner)).nodes
      (Value.ofComponentsAfter [] (finish frames inner')).nodes := by
  induction frames generalizing inner inner' with
  | nil => exact h
  | cons frame frames ih =>
    have hblock := h.block frame.outer.reverse frame.opener frame.bracket
    exact ih (by simpa [Frame.finish] using hblock)

end PropertyTable

/-- Without the comment that ends a value nothing more is put for references. -/
lemma CutsRemarks.leavesAll {value : String} (h : CutsRemarks value)
    (hvalue : table.LeavesAll (Value.parse value).nodes) :
    table.LeavesAll (Value.parse (splitTrailingComment value).1).nodes := by
  obtain ⟨ls, ms, cut, hlex, hms, hbody, hcut, -, hcomment⟩ := h.exists_lex
  rw [Value.parse, Css.components, hlex] at hvalue
  rw [Value.parse, Css.components, hbody]
  rcases hcomment with rfl | ⟨l, hl, hcomment⟩
  · exact hvalue
  · rw [Component.group_append_of_isRemark ls hms] at hvalue
    rw [Component.group_append_of_isRemark ls hcut]
    refine (PropertyTable.LeavesToo.finish _ ?_).all hvalue
    rw [List.reverse_append, List.reverse_reverse, List.reverse_append, List.reverse_reverse,
      Value.ofComponentsAfter_append, Value.ofComponentsAfter_append]
    have hcomments := Value.isComment_of_remarks
      (Value.ofComponentsAfter [] (ls.foldl Component.Grouping.step .start).inner.reverse).after.toList
      hcut
    obtain ⟨hreferent, hcomma⟩ := referent?_of_comments hcomments
    refine PropertyTable.leavesToo_append _ (fun _ => ?_) hreferent hcomma fun hnil => ?_
    · simp [PropertyTable.LeavesAll, outerReferencesAll_eq_nil_of_comments hcomments]
    · exact absurd hnil (Value.nodes_ne_nil_of_comment _ hl hcomment)

/-! ### Values -/

/-- No function of a text has an escape or a NUL in its name, and the last character is not the mark
that would close a bracket left open. -/
structure Value.Plain (text : String) : Prop where
  names : ∀ l ∈ lex text.toList, ∀ name, l.token = .function name →
    '\\' ∉ l.text ∧ '\x00' ∉ l.text
  marks : ∀ bracket ∈ openBrackets text.toList, text.toList.getLast? ≠ some bracket.closing

lemma Value.Plain.prints {text : String} (h : Value.Plain text) :
    (Value.parse text).render = text := by
  have hcopies : (openBrackets text.toList).countP (·.closing = text.toList.getLastD ' ') = 0 := by
    rw [List.countP_eq_zero]
    intro bracket hbracket hlast
    apply h.marks bracket hbracket
    cases htext : text.toList with
    | nil => simp [htext, openBrackets] at hbracket
    | cons c rest =>
      rw [decide_eq_true_iff] at hlast
      rw [hlast, htext, List.getLast?_cons, List.getLastD_cons, List.getLastD_eq_getLast?]
  rw [Value.render_parse_eq, hcopies, Css.decodeNames_eq h.names]
  simp

/-- A text of this kind is left alone if nothing is put for its references. -/
lemma Value.Plain.resolveText_eq {text : String} (h : Value.Plain text)
    (hleaves : table.LeavesAll (Value.parse text).nodes) : resolveText table text = text := by
  rw [resolveText, Value.resolve, hleaves.resolve_eq]
  exact h.prints

lemma Declaration.updated?_of_leavesAll {d : Declaration} (ignored : IgnoreSet)
    (hvalue : table.LeavesAll (Value.parse d.value).nodes)
    (hcut : CutsRemarks d.value ∨
      table.LeavesAll (Value.parse (splitTrailingComment d.value).1).nodes)
    (hplain : Value.Plain (splitTrailingComment d.value).1) :
    d.updated? table ignored = none := by
  have hbody : table.LeavesAll (Value.parse (splitTrailingComment d.value).1).nodes :=
    hcut.elim (·.leavesAll hvalue) fun hbody => hbody
  simp [Declaration.updated?, resolvedValue?, hplain.resolveText_eq hbody]

/-! ### Sheets -/

section Sheets

variable (value : Declaration → Option String) (preserve : Bool) (next : NodeId)

lemma updateNodes_append (ns ms : List Node) :
    updateNodes value preserve next (ns ++ ms)
      = let front := updateNodes value preserve next ns
        let back := updateNodes value preserve (next + front.2) ms
        (front.1 ++ back.1, front.2 + back.2) := by
  induction ns generalizing next with
  | nil => simp [updateNodes]
  | cons n ns ih => simp [updateNodes, ih, Nat.add_assoc]

/-- The declarations of a tree come to what they come to in a row. -/
lemma declarationsAll_updateNodes (ns : List Node) :
    declarationsAll (updateNodes value preserve next ns).1
      = declarationsAll
          (updateNodes value preserve next ((declarationsAll ns).map .declaration)).1 := by
  induction ns using Node.induct generalizing next with
  | nil => simp [updateNodes]
  | rule head body tail rest ihbody ih =>
    simp [updateNodes, updateNode, declarations, updateNodes_append, snd_updateNodes, ihbody, ih]
  | atBlock head body tail rest ihbody ih =>
    simp [updateNodes, updateNode, declarations, updateNodes_append, snd_updateNodes, ihbody, ih]
  | atStatement head semicolon rest ih => simp [updateNodes, updateNode, declarations, ih]
  | declaration d rest ih => simp [updateNodes, updateNode, declarations, ih]
  | comment c rest ih => simp [updateNodes, updateNode, declarations, ih]
  | document id body after rest ihbody ih =>
    simp [updateNodes, updateNode, declarations, updateNodes_append, snd_updateNodes, ihbody, ih]

end Sheets

/-- A declaration is left alone if nothing is put for the references in its value, whatever is done
to the other declarations: it is neither changed nor copied nor counted. -/
theorem Stylesheet.update_of_leavesAll (sheet : Stylesheet) (table : PropertyTable)
    (ignored : IgnoreSet) (preserve : Bool) (next : NodeId) {ds es : List Declaration}
    {d : Declaration} (hd : declarationsAll sheet.nodes = ds ++ d :: es)
    (hvalue : table.LeavesAll (Value.parse d.value).nodes)
    (hcut : CutsRemarks d.value ∨
      table.LeavesAll (Value.parse (splitTrailingComment d.value).1).nodes)
    (hplain : Value.Plain (splitTrailingComment d.value).1) :
    let value := fun d : Declaration => d.updated? table ignored
    let front := updateNodes value preserve next (ds.map .declaration)
    let back := updateNodes value preserve (next + front.2) (es.map .declaration)
    let result := sheet.update table ignored preserve next
    (∀ id, updateNode value preserve id (.declaration d) = ([.declaration d], 0)) ∧
      declarationsAll result.1.nodes = declarationsAll front.1 ++ d :: declarationsAll back.1 ∧
      result.2 = front.2 + back.2 := by
  intro value front back result
  have hnone : value d = none := d.updated?_of_leavesAll ignored hvalue hcut hplain
  have hnode : ∀ id, updateNode value preserve id (.declaration d) = ([.declaration d], 0) := by
    intro id
    rw [updateNode, hnone]
    rfl
  have hrow : updateNodes value preserve next ((ds ++ d :: es).map .declaration)
      = (front.1 ++ .declaration d :: back.1, front.2 + back.2) := by
    have hlater : updateNodes value preserve (next + front.2) (.declaration d :: es.map .declaration)
        = (.declaration d :: back.1, back.2) := by
      rw [updateNodes.eq_def]
      simp [hnode, back]
    rw [List.map_append, List.map_cons, updateNodes_append]
    exact Prod.ext (congrArg (front.1 ++ ·.1) hlater) (congrArg (front.2 + ·.2) hlater)
  refine ⟨hnode, ?_, ?_⟩
  · change declarationsAll (updateNodes value preserve next sheet.nodes).1 = _
    rw [declarationsAll_updateNodes, hd, hrow, Node.declarationsAll_append,
      Node.declarationsAll_cons, declarations, List.singleton_append]
  · change (updateNodes value preserve next sheet.nodes).2 = _
    rw [snd_updateNodes, hd, ← Node.declarationsAll_map_declaration (ds ++ d :: es),
      ← snd_updateNodes value preserve next, hrow]

/-- A reference to no entry. -/
def missing : ValueNode := .function "" "var" [.word "" "--m"] "" true

lemma leaves_missing : oneLength.Leaves missing.children where
  unknown name hname := by
    obtain rfl : "--m" = name := by simpa [missing, children, referent?, word?] using hname
    decide
  no_fallback := rfl

lemma updated?_definitionOf (value after : String) :
    (definitionOf value after).updated? table .empty = none := by
  have hprop : isCustomProperty "--a" = true := by decide
  simp [definitionOf, Declaration.updated?, resolvedValue?, hprop]

/-- A declaration with a reference to no entry and a comment, behind one that is copied. -/
theorem Stylesheet.update_of_leavesAll_remark :
    let value := "var(--m) /* c */"
    let sheet := hostAndRule (definitionOf "1px" "") [colorOf 3 "var(--a)", colorOf 4 value]
    oneLength.LeavesAll (Value.parse value).nodes ∧ CutsRemarks value ∧
      Value.Plain (splitTrailingComment value).1 ∧
      declarationsAll (sheet.update oneLength .empty true 9).1.nodes
        = [definitionOf "1px" "", (colorOf 3 "var(--a)").withValue 9 "1px", colorOf 3 "var(--a)",
          colorOf 4 value] ∧
      (sheet.update oneLength .empty true 9).2 = 1 := by
  intro value sheet
  have hreferences : outerReferencesAll (Value.parse value).nodes = [missing] := by cbv
  have hleaves : oneLength.LeavesAll (Value.parse value).nodes := by
    simpa [PropertyTable.LeavesAll, hreferences] using leaves_missing
  have hlex : lex value.toList = [⟨.function "var", "var(".toList⟩, ⟨.ident "--m", "--m".toList⟩,
      ⟨.closing .round, ")".toList⟩, ⟨.blank, " ".toList⟩] ++ ⟨.comment, "/* c */".toList⟩ :: [] := by
    cbv
  have hcut : CutsRemarks value := cutsRemarks_of_comment hlex rfl (by decide) (by simp)
  have hsplit : splitTrailingComment value = ("var(--m) ", "/* c */") := by decide
  have hplain : Value.Plain (splitTrailingComment value).1 := by
    have hbody : lex "var(--m) ".toList = [⟨.function "var", "var(".toList⟩,
        ⟨.ident "--m", "--m".toList⟩, ⟨.closing .round, ")".toList⟩, ⟨.blank, " ".toList⟩] := by cbv
    have hclosed : openBrackets "var(--m) ".toList = [] := by cbv
    rw [hsplit]
    constructor
    · rw [hbody]
      simp
    · rw [hclosed]
      simp
  have hrow : declarationsAll sheet.nodes
      = [definitionOf "1px" "", colorOf 3 "var(--a)"] ++ colorOf 4 value :: [] := rfl
  obtain ⟨-, hall, hcount⟩ := Stylesheet.update_of_leavesAll sheet oneLength .empty true 9 hrow
    hleaves (.inl hcut) hplain
  have hcolor : (colorOf 3 "var(--a)").updated? oneLength .empty = some "1px" := by
    have hresolved : resolveText oneLength "var(--a)" = "1px" := by cbv
    exact updated?_colorOf (by decide) (by decide) hresolved (by decide)
  refine ⟨hleaves, hcut, hplain, hall.trans ?_, hcount.trans ?_⟩ <;>
    simp [updateNodes, updateNode, updated?_definitionOf, hcolor, Declaration.updateTo, declarations]

/-- The name of a function is printed with its escape decoded, so that a value with no more than a
reference to no entry counts as changed. -/
theorem Stylesheet.update_of_leavesAll_escape_ne :
    let value := "c\\61lc(var(--m))"
    let sheet := hostAndRule (definitionOf "1px" "") [colorOf 3 value]
    oneLength.LeavesAll (Value.parse value).nodes ∧ CutsRemarks value ∧
      declarationsAll (sheet.update oneLength .empty false 9).1.nodes
        = [definitionOf "1px" "", colorOf 3 "calc(var(--m))"] ∧
      (sheet.update oneLength .empty false 9).2 = 1 := by
  intro value sheet
  have hreferences : outerReferencesAll (Value.parse value).nodes = [missing] := by cbv
  have hleaves : oneLength.LeavesAll (Value.parse value).nodes := by
    simpa [PropertyTable.LeavesAll, hreferences] using leaves_missing
  have hcut : CutsRemarks value := cutsRemarks_of_not_suffix (by decide)
  have hcolor : (colorOf 3 value).updated? oneLength .empty = some "calc(var(--m))" := by
    have hresolved : resolveText oneLength value = "calc(var(--m))" := by cbv
    exact updated?_colorOf (by decide) (by decide) hresolved (by decide)
  refine ⟨hleaves, hcut, ?_, ?_⟩ <;>
    simp [sheet, Stylesheet.update, hostAndRule, updateNodes, updateNode, updated?_definitionOf, hcolor,
      Declaration.updateTo, declarations]
  rfl

end CustomProperties
