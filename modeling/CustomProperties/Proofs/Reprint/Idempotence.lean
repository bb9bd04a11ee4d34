import CustomProperties.Proofs.Passes.Again
import CustomProperties.Proofs.Reprint.Passes
import CustomProperties.Proofs.Reprint.Values
import CustomProperties.Proofs.Resolution.ReferenceGraph
import Mathlib

/-!
# A second pass over the printed text

A pass that does not preserve leaves nothing to collect, and reading its text again brings no
definition back: the sheet that is read is marked like the one that was printed. So a second pass
changes nothing unless some declaration still changes where no name is defined. Resolving leaves no
reference with a fallback, but tokens can run together when they are printed, and what they make may
be one.
-/

namespace CustomProperties

open Css.Component
open Directive (switchesOff)
open IgnoreSet (asksIgnoreNext)
open Node (declarationsAll replaceDeclarationsAll)
open Stylesheet (parse_of_reads)

/-! ### Marks of sheets that are alike -/

section

variable {ignored again : IgnoreSet} {off next : Bool} {n m : Node} {ns ms body body' : List Node}
  {tail : BlockEnd} {id : NodeId}

lemma Node.SameLeaf.asksIgnoreNext_eq (h : n.SameLeaf m) : asksIgnoreNext m = asksIgnoreNext n := by
  cases h <;> rfl

/-- The marks inside of a rule, given the text of an alike one. -/
lemma Alike.marks_rule {head : RuleHead} (h : Alike body body')
    (hagain : Marks again off next (.rule { head with id } body' tail :: ms)) :
    Marks again (switchesOff (Node.rule head body tail).render && true) false body' := by
  have hrender : (Node.rule { head with id } body' tail).render
      = (Node.rule head body tail).render := by
    simp [Node.render, RuleHead.render, h.renderAll_eq]
  rw [← hrender]
  exact hagain.body rfl

/-- The marks inside of an at-rule, given the text of an alike one. -/
lemma Alike.marks_atBlock {head : AtHead} (h : Alike body body')
    (hagain : Marks again off next (.atBlock { head with id } body' tail :: ms)) :
    Marks again (switchesOff (Node.atBlock head body tail).render && true) false body' := by
  have hrender : (Node.atBlock { head with id } body' tail).render
      = (Node.atBlock head body tail).render := by
    simp [Node.render, AtHead.render, h.renderAll_eq]
  rw [← hrender]
  exact hagain.body rfl

/-- Each declaration of an alike sheet is the same as one of the sheet, and marked like that. -/
lemma Alike.exists_declaration (h : Alike ns ms) (hmarks : Marks ignored off next ns)
    (hagain : Marks again off next ms) {d' : Declaration} (hd' : d' ∈ declarationsAll ms) :
    ∃ d ∈ declarationsAll ns, (Node.declaration d).SameLeaf (.declaration d') ∧
      again.contains d'.id = ignored.contains d.id := by
  induction h generalizing off next with
  | nil => simp at hd'
  | @leaf n n' ns ms hleaf _ ih =>
    have htail := hagain.tail
    rw [hleaf.asksIgnoreNext_eq] at htail
    rw [Node.declarationsAll_cons, List.mem_append] at hd'
    rcases hd' with hself | hrest
    · cases hleaf with
      | @declaration d e hprop hrender hsemicolon =>
        obtain rfl : d' = e := by simpa [Node.declarations] using hself
        have hold : ignored.contains d.id = (off || next || switchesOff d.render) := hmarks.mark
        have hnew : again.contains d'.id = (off || next || switchesOff d'.render) := hagain.mark
        refine ⟨d, by simp [Node.declarations], .declaration hprop hrender hsemicolon, ?_⟩
        rw [hnew, hrender, ← hold]
      | _ => simp [Node.declarations] at hself
    · obtain ⟨d, hd, hsame⟩ := ih hmarks.tail htail hrest
      exact ⟨d, by simp [hd], hsame⟩
  | rule id hbody _ ihbody ih =>
    rw [Node.declarationsAll_cons, Node.declarations, List.mem_append] at hd'
    rcases hd' with hinner | hrest
    · obtain ⟨d, hd, hsame⟩ := ihbody (hmarks.body rfl) (hbody.marks_rule hagain) hinner
      exact ⟨d, by simp [Node.declarations, hd], hsame⟩
    · obtain ⟨d, hd, hsame⟩ := ih hmarks.tail hagain.tail hrest
      exact ⟨d, by simp [hd], hsame⟩
  | atBlock id hbody _ ihbody ih =>
    rw [Node.declarationsAll_cons, Node.declarations, List.mem_append] at hd'
    rcases hd' with hinner | hrest
    · obtain ⟨d, hd, hsame⟩ := ihbody (hmarks.body rfl) (hbody.marks_atBlock hagain) hinner
      exact ⟨d, by simp [Node.declarations, hd], hsame⟩
    · obtain ⟨d, hd, hsame⟩ := ih hmarks.tail hagain.tail hrest
      exact ⟨d, by simp [hd], hsame⟩

/-- Among alike nodes there are no definitions if there were none. -/
lemma Alike.filterMap_definition?_eq_nil (h : Alike ns ms) (hmarks : Marks ignored off next ns)
    (hagain : Marks again off next ms) (hnone : ns.filterMap (·.definition? ignored) = []) :
    ms.filterMap (·.definition? again) = [] := by
  rw [List.filterMap_eq_nil_iff] at hnone ⊢
  induction h generalizing next with
  | nil => simp
  | leaf hleaf _ ih =>
    rw [List.forall_mem_cons] at hnone ⊢
    have htail := hagain.tail
    rw [hleaf.asksIgnoreNext_eq] at htail
    refine ⟨?_, ih hmarks.tail htail hnone.2⟩
    cases hleaf with
    | @declaration d d' hprop hrender _ =>
      have hold : ignored.contains d.id = (off || next || switchesOff d.render) := hmarks.mark
      have hnew : again.contains d'.id = (off || next || switchesOff d'.render) := hagain.mark
      have hfirst := hnone.1
      rw [hrender, ← hold] at hnew
      simpa [Node.definition?, hprop, hnew] using hfirst
    | _ => rfl
  | rule id _ _ _ ih =>
    rw [List.forall_mem_cons] at hnone ⊢
    exact ⟨rfl, ih hmarks.tail hagain.tail hnone.2⟩
  | atBlock id _ _ _ ih =>
    rw [List.forall_mem_cons] at hnone ⊢
    exact ⟨rfl, ih hmarks.tail hagain.tail hnone.2⟩

lemma Alike.isEmpty_eq (h : Alike ns ms) : ms.isEmpty = ns.isEmpty := by
  cases h <;> rfl

/-- The host scopes of alike nodes hold no definitions if there were none. -/
lemma Alike.hostDefinitions_eq_nil (h : Alike ns ms) (hmarks : Marks ignored off next ns)
    (hagain : Marks again off next ms) (hnone : hostDefinitions ignored ns = []) :
    hostDefinitions again ms = [] := by
  induction h generalizing next with
  | nil => simp [hostDefinitions]
  | leaf hleaf _ ih =>
    have htail := hagain.tail
    rw [hleaf.asksIgnoreNext_eq] at htail
    cases hleaf <;>
    · rw [hostDefinitions] at hnone ⊢
      exact ih hmarks.tail htail hnone
  | @rule head body body' tail _ _ id hbody _ _ ih =>
    rw [hostDefinitions, List.append_eq_nil_iff] at hnone ⊢
    refine ⟨?_, ih hmarks.tail hagain.tail hnone.2⟩
    have hhost : isHostScope { head with id } body' = isHostScope head body := by
      simp [isHostScope, hbody.isEmpty_eq]
    rw [hhost]
    split
    · next hscope =>
      rw [if_pos hscope] at hnone
      exact hbody.filterMap_definition?_eq_nil (hmarks.body rfl) (hbody.marks_rule hagain) hnone.1
    · rfl
  | atBlock id _ _ _ ih =>
    rw [hostDefinitions] at hnone ⊢
    exact ih hmarks.tail hagain.tail hnone

end

/-! ### Declarations that are replaced -/

lemma declarationsAll_replaceDeclarationsAll (f : Declaration → Declaration) (ns : List Node) :
    declarationsAll (replaceDeclarationsAll (fun d => [f d]) ns) = (declarationsAll ns).map f := by
  induction ns using Node.induct with
  | nil => simp
  | rule head body tail rest ihbody ih =>
    simp [Node.replaceDeclarations, Node.declarations, ihbody, ih]
  | atBlock head body tail rest ihbody ih =>
    simp [Node.replaceDeclarations, Node.declarations, ihbody, ih]
  | atStatement head semicolon rest ih => simp [Node.replaceDeclarations, Node.declarations, ih]
  | declaration d rest ih => simp [Node.replaceDeclarations, Node.declarations, ih]
  | comment c rest ih => simp [Node.replaceDeclarations, Node.declarations, ih]
  | document id body after rest ihbody ih =>
    simp [Node.replaceDeclarations, Node.declarations, ihbody, ih]

lemma replaceDeclarationsAll_singleton {f : Declaration → Declaration} {ns : List Node}
    (h : ∀ d ∈ declarationsAll ns, f d = d) : replaceDeclarationsAll (fun d => [f d]) ns = ns := by
  induction ns using Node.induct with
  | nil => simp
  | rule head body tail rest ihbody ih =>
    rw [Node.declarationsAll_cons, Node.declarations, List.forall_mem_append] at h
    simp [Node.replaceDeclarations, ihbody h.1, ih h.2]
  | atBlock head body tail rest ihbody ih =>
    rw [Node.declarationsAll_cons, Node.declarations, List.forall_mem_append] at h
    simp [Node.replaceDeclarations, ihbody h.1, ih h.2]
  | declaration d rest ih =>
    rw [Node.declarationsAll_cons, Node.declarations, List.forall_mem_append] at h
    simp [Node.replaceDeclarations, h.1 d, ih h.2]
  | document id body after rest ihbody ih =>
    rw [Node.declarationsAll_cons, Node.declarations, List.forall_mem_append] at h
    simp [Node.replaceDeclarations, ihbody h.1, ih h.2]
  | atStatement head semicolon rest ih =>
    rw [Node.declarationsAll_cons, Node.declarations, List.nil_append] at h
    simp [Node.replaceDeclarations, ih h]
  | comment c rest ih =>
    rw [Node.declarationsAll_cons, Node.declarations, List.nil_append] at h
    simp [Node.replaceDeclarations, ih h]

/-- Without new values a sheet stays as it is. -/
lemma fst_updateNodes_of_none {value : Declaration → Option String} {ns : List Node}
    (h : ∀ d ∈ declarationsAll ns, value d = none) (next : NodeId) :
    (updateNodes value false next ns).1 = ns := by
  rw [fst_updateNodes_replacing]
  exact replaceDeclarationsAll_singleton fun d hd => by simp [h d hd]

namespace Pipeline

variable {pipeline : Pipeline} {text : String}

/-- A declaration as a pass over a sheet prints it, if it does not take it out. -/
def printed (pipeline : Pipeline) (sheet : Stylesheet) (d : Declaration) : Declaration :=
  { d with value := (d.updated? (pipeline.ownTable sheet) (.scan sheet)).getD d.value }

/-- No value that a pass over a sheet prints, other than of custom properties and of ignored
declarations, is read back with a reference that has a fallback. -/
def PrintsSettled (pipeline : Pipeline) (sheet : Stylesheet) : Prop :=
  ∀ d ∈ declarationsAll sheet.nodes, isCustomProperty d.prop = false →
    (IgnoreSet.scan sheet).contains d.id = false →
      let value := (pipeline.printed sheet d).readValue
      mayRefer value → SettledText (splitTrailingComment value).1

/-- What a pass that does not preserve leaves are declarations as it prints them. -/
lemma exists_printed (hreplace : pipeline.options.preserve = false) {sheet : Stylesheet}
    {e : Declaration}
    (he : e ∈ declarationsAll (pipeline.updatedWith sheet (pipeline.ownTable sheet)).1.nodes) :
    ∃ d ∈ declarationsAll sheet.nodes, pipeline.printed sheet d = e := by
  rw [updatedWith, Stylesheet.update, hreplace] at he
  simp only at he
  rw [fst_updateNodes_replacing, declarationsAll_replaceDeclarationsAll, List.mem_map] at he
  obtain ⟨d, hd, rfl⟩ := he
  exact ⟨d, (declarationsAll_collectFrom_sublist _ _ _ _).mem hd, rfl⟩

/-- A pass over a sheet without definitions, in which no declaration changes where no name is
defined, does nothing. -/
lemma processSync_of_unchanged (hsync : pipeline.isSync)
    (hreplace : pipeline.options.preserve = false) {sheet : Stylesheet}
    (hnone : hostDefinitions (.scan sheet) sheet.nodes = [])
    (hsame : ∀ d ∈ declarationsAll sheet.nodes, d.updated? ∅ (.scan sheet) = none) :
    pipeline.processSync sheet = .ok ({}, sheet) := by
  have hcollect : sheet.collect (.scan sheet) pipeline.options.preserve = (∅, sheet) := by
    rw [Stylesheet.collect, collectFrom_of_hostDefinitions_eq_nil _ _ hnone]
  have hcount : (declarationsAll sheet.nodes).countP
      (fun d => (d.updated? ∅ (.scan sheet)).isSome) = 0 :=
    List.countP_eq_zero.2 fun d hd => by simp [hsame d hd]
  have hupdate : sheet.update ∅ (.scan sheet) false sheet.freshId = (sheet, 0) := by
    rw [Stylesheet.update, fst_updateNodes_of_none hsame, snd_updateNodes, hcount]
  rw [processSync_of_isSync hsync sheet, ownTable, updatedWith, hcollect, hreplace, hupdate]
  rfl

section

variable {text : String} (hreplace : pipeline.options.preserve = false)
  (hterminated : Terminated text) (hheaded : Node.headedAll (Stylesheet.parse text 0).nodes)
  (hreads : pipeline.WritesReadBack (.parse text 0))

include hreplace hterminated hheaded hreads

/-- What is read from the text of a pass that does not preserve holds no definition for its scan. -/
lemma hostDefinitions_parse_render :
    let out := (pipeline.updatedWith (.parse text 0) (pipeline.ownTable (.parse text 0))).1
    let again := Stylesheet.parse out.render 0
    again.render = out.render ∧ hostDefinitions (.scan again) again.nodes = [] := by
  intro out again
  have hprintable := printable_updatedWith (Stylesheet.printable_parse hterminated hheaded) hreads
  obtain ⟨halike, hafter⟩ := Stylesheet.alike_parse_render hprintable 0
  have hnone := hostDefinitions_scan_updatedWith hreplace text 0 (pipeline.ownTable (.parse text 0))
  refine ⟨?_, halike.hostDefinitions_eq_nil (marks_updatedWith hreplace text 0 _)
    (Stylesheet.marks_parse _ 0) hnone⟩
  rw [Stylesheet.render, halike.renderAll_eq, hafter]
  rfl

/-- No declaration that is read from the text of a pass that does not preserve changes where no name
is defined. -/
lemma updated?_parse_render (hsettled : pipeline.PrintsSettled (.parse text 0)) :
    let out := (pipeline.updatedWith (.parse text 0) (pipeline.ownTable (.parse text 0))).1
    let again := Stylesheet.parse out.render 0
    ∀ d ∈ declarationsAll again.nodes, d.updated? ∅ (.scan again) = none := by
  intro out again d' hd'
  have hprintable := printable_updatedWith (Stylesheet.printable_parse hterminated hheaded) hreads
  obtain ⟨halike, -⟩ := Stylesheet.alike_parse_render hprintable 0
  -- back to the declaration that was printed, and to the one that it was before
  obtain ⟨e, he, hleaf, hmark⟩ := halike.exists_declaration (marks_updatedWith hreplace text 0 _)
    (Stylesheet.marks_parse _ 0) hd'
  obtain ⟨d, hd, rfl⟩ := exists_printed hreplace he
  rw [Declaration.updated?]
  split
  · rfl
  · next hignored =>
    have hkept : (IgnoreSet.scan (.parse text 0)).contains d.id = false := by
      by_contra hcontains
      have hid := Node.id_mem_idsAll he
      rw [Bool.not_eq_false] at hcontains
      have hagain := contains_scan_updatedWith hreplace text 0 _ _ hid hcontains
      exact hignored (hmark.trans hagain)
    have hvalue : d'.value = (pipeline.printed (.parse text 0) d).readValue :=
      (Stylesheet.readValue_eq_of_mem_parse hd').symm.trans hleaf.readValue_eq
    have hprop : d'.prop = d.prop := by
      cases hleaf with
      | declaration hprop => exact hprop
    cases hcustom : isCustomProperty d.prop with
    | true => simp [resolvedValue?, hprop, hcustom]
    | false =>
      rw [hvalue]
      exact SettledText.resolvedValue?_eq (hsettled d hd hcustom hkept)

end

/-- A second pass over the text that a pass without preserving prints changes nothing. This holds of
each text in which nothing is left open and each rule has a head, if each declaration that is
written reads back, and no value is printed that reads back with a reference that has a fallback. -/
theorem processTextSync_again (hsync : pipeline.isSync)
    (hreplace : pipeline.options.preserve = false) (hterminated : Terminated text)
    (hheaded : Node.headedAll (Stylesheet.parse text 0).nodes)
    (hreads : pipeline.WritesReadBack (.parse text 0))
    (hsettled : pipeline.PrintsSettled (.parse text 0)) :
    ∃ report once, pipeline.processTextSync text = .ok (report, once) ∧
      pipeline.processTextSync once = .ok ({}, once) := by
  have hpass := processSync_of_isSync hsync (.parse text 0)
  obtain ⟨hrender, hnone⟩ := hostDefinitions_parse_render hreplace hterminated hheaded hreads
  have hsame := updated?_parse_render hreplace hterminated hheaded hreads hsettled
  refine ⟨_, _, by rw [processTextSync, hpass]; rfl, ?_⟩
  rw [processTextSync, processSync_of_unchanged hsync hreplace hnone hsame]
  exact congrArg (fun printed => Except.ok (_, printed)) hrender

/-! ### Names that refer to themselves -/

/-- The values that a pass over one definition and one declaration prints are settled if the new
one is. -/
lemma printsSettled_hostAndRule {d e : Declaration} {value : String}
    (hscan : IgnoreSet.scan (hostAndRule d [e]) = .empty) (hprop : isCustomProperty d.prop)
    (hvalue : e.updated? (defining d) .empty = some value)
    (hsettled : SettledText (splitTrailingComment { e with value }.readValue).1) :
    PrintsSettled { options := { preserve := false } } (hostAndRule d [e]) := by
  intro f hf hother _ read _
  rw [mem_declarationsAll_hostAndRule, List.mem_singleton] at hf
  rcases hf with rfl | rfl
  · rw [hprop] at hother
    cases hother
  · have hprinted : printed { options := { preserve := false } } (hostAndRule d [f]) f
        = { f with value } := by
      rw [printed, ownTable, hscan, collect_hostAndRule hprop, hvalue]
      rfl
    rwa [show read = _ from congrArg Declaration.readValue hprinted]

/-- A text in which a name refers to itself, so that a reference stays. -/
def circular : String := ":root\x7b--a:var(--a) 1px\x7d.x\x7bcolor:var(--a)\x7d"

lemma parse_circular : Stylesheet.parse circular 0
    = hostAndRule (definitionOf "var(--a) 1px" "") [colorOf 3 "var(--a)"] := by
  refine (parse_of_reads (by cbv) (reads_rule rfl rfl rfl rfl ?_ <|
    reads_rule rfl rfl rfl rfl ?_ .nil) _).trans rfl
  all_goals simp [isSemicolon]

lemma components_circular : Css.components "color:var(--a) 1px;".toList
    = [token ⟨.ident "color", "color".toList⟩, token ⟨.literal, [':']⟩,
      block ⟨.function "var", "var(".toList⟩ .round [token ⟨.ident "--a", "--a".toList⟩]
        (some ⟨.closing .round, [')']⟩),
      token ⟨.blank, [' ']⟩, token ⟨.literal, "1px".toList⟩]
      ++ [token ⟨.semicolon, [';']⟩] := by cbv

lemma resolveText_circular :
    resolveText (defining (definitionOf "var(--a) 1px" "")) "var(--a)" = "var(--a) 1px" := by cbv

lemma updated?_circular : (colorOf 3 "var(--a)").updated? (defining (definitionOf "var(--a) 1px" ""))
    .empty = some "var(--a) 1px" :=
  updated?_colorOf (by decide) (by decide) resolveText_circular (by decide)

/-- After a pass over `circular` a second one changes nothing, though a reference is left. -/
theorem processTextSync_again_circular :
    Terminated circular ∧ Node.headedAll (Stylesheet.parse circular 0).nodes ∧
    WritesReadBack { options := { preserve := false } } (.parse circular 0) ∧
    PrintsSettled { options := { preserve := false } } (.parse circular 0) ∧
    ∃ report once, processTextSync { options := { preserve := false } } circular
        = .ok (report, once) ∧
      processTextSync { options := { preserve := false } } once = .ok ({}, once) := by
  have hterminated : Terminated circular := by
    refine terminated_of_components [_, _, _, _, _] (by cbv) ?_ ?_ <;> simp
  have hheaded : Node.headedAll (Stylesheet.parse circular 0).nodes := by
    rw [parse_circular]
    rfl
  have hreads : WritesReadBack { options := { preserve := false } } (.parse circular 0) := by
    rw [parse_circular]
    exact writesReadBack_hostAndRule false rfl (by decide) updated?_circular
      (readsBack_of_components rfl components_circular rfl (by simp [isSemicolon]) rfl
        (by simp [Css.Token.closes]))
  have hsettled : PrintsSettled { options := { preserve := false } } (.parse circular 0) := by
    have htokens : SettledText "var(--a) 1px" := by
      rw [← resolveText_circular]
      exact settledText_resolveText (by cbv)
    rw [parse_circular]
    exact printsSettled_hostAndRule rfl (by decide) updated?_circular htokens
  exact ⟨hterminated, hheaded, hreads, hsettled,
    processTextSync_again rfl rfl hterminated hheaded hreads hsettled⟩

/-! ### Tokens that run together -/

/-- A rule with one declaration. -/
def oneRule (d : Declaration) : Stylesheet where
  nodes := [.rule ⟨0, "", ".x", ""⟩ [.declaration d] ⟨"", true⟩]
  after := ""

/-- A pass over one declaration that is updated. -/
lemma processSync_oneRule {d : Declaration} {value : String}
    (hscan : IgnoreSet.scan (oneRule d) = .empty) (hvalue : d.updated? ∅ .empty = some value) :
    processSync { options := { preserve := false } } (oneRule d)
      = .ok ({ updated := 1 }, oneRule { d with value }) := by
  have hother : selectsHost ".x" = false := by decide
  have hcollect : (oneRule d).collect .empty false = (∅, oneRule d) := by
    simp [Stylesheet.collect, collectFrom, oneRule, isHostScope, hother]
  have hupdate (fresh : Nat) :
      (oneRule d).update ∅ .empty false fresh = (oneRule { d with value }, 1) := by
    simp [Stylesheet.update, updateNodes, updateNode, oneRule, Declaration.updateTo, hvalue]
  rw [processSync_of_isSync rfl, ownTable, updatedWith, hscan, hcollect]
  simp only [hupdate]
  rfl

/-- Every name that a declaration of a sheet refers to is one that the sheet defines. -/
def NamesDefined (pipeline : Pipeline) (sheet : Stylesheet) : Prop :=
  ∀ d ∈ declarationsAll sheet.nodes, ∀ name ∈ ValueNode.mentionedAll (Value.parse d.value).nodes,
    (pipeline.ownTable sheet).contains name

/-- A text in which a value is put before a bracket. -/
def fused : String := ":root\x7b--a:var\x7d.x\x7bcolor:var(--a)(--b,1px)\x7d"

lemma parse_fused : Stylesheet.parse fused 0
    = hostAndRule (definitionOf "var" "") [colorOf 3 "var(--a)(--b,1px)"] := by
  refine (parse_of_reads (by cbv) (reads_rule rfl rfl rfl rfl ?_ <|
    reads_rule rfl rfl rfl rfl ?_ .nil) _).trans rfl
  all_goals simp [isSemicolon]

lemma namesDefined_fused : NamesDefined { options := { preserve := false } } (.parse fused 0) := by
  have hscan : IgnoreSet.scan (hostAndRule (definitionOf "var" "") [colorOf 3 "var(--a)(--b,1px)"])
      = .empty := rfl
  have hown : ValueNode.mentionedAll (Value.parse "var").nodes = [] := by cbv
  have hcolor : ValueNode.mentionedAll (Value.parse "var(--a)(--b,1px)").nodes = ["--a"] := by cbv
  intro d hd name hname
  rw [parse_fused] at hd ⊢
  rw [ownTable, hscan, collect_hostAndRule (by decide)]
  rw [mem_declarationsAll_hostAndRule, List.mem_singleton] at hd
  rcases hd with rfl | rfl
  · rw [definitionOf, hown] at hname
    cases hname
  · rw [colorOf, hcolor, List.mem_singleton] at hname
    subst hname
    rfl

lemma processTextSync_fused : processTextSync { options := { preserve := false } } fused
    = .ok ({ collected := 1, updated := 1 }, ".x\x7bcolor:var(--b,1px)\x7d") := by
  have hresolved : resolveText (defining (definitionOf "var" "")) "var(--a)(--b,1px)"
      = "var(--b,1px)" := by cbv
  have hvalue : (colorOf 3 "var(--a)(--b,1px)").updated? (defining (definitionOf "var" "")) .empty
      = some "var(--b,1px)" := updated?_colorOf (by decide) (by decide) hresolved (by decide)
  have hone := processSync_hostAndRule (d := definitionOf "var" "")
    (e := colorOf 3 "var(--a)(--b,1px)") false rfl (by decide) hvalue
  rw [processTextSync, parse_fused, hone]
  rfl

/-- The name of a function and the bracket behind it are read again as a reference with a fallback,
so that a second pass changes the text. -/
theorem processTextSync_again_fused_ne :
    Terminated fused ∧ Node.headedAll (Stylesheet.parse fused 0).nodes ∧
    NamesDefined { options := { preserve := false } } (.parse fused 0) ∧
    processTextSync { options := { preserve := false } } fused
      = .ok ({ collected := 1, updated := 1 }, ".x\x7bcolor:var(--b,1px)\x7d") ∧
    processTextSync { options := { preserve := false } } ".x\x7bcolor:var(--b,1px)\x7d"
      = .ok ({ updated := 1 }, ".x\x7bcolor:1px\x7d") := by
  have hagain : Stylesheet.parse ".x\x7bcolor:var(--b,1px)\x7d" 0
      = oneRule (colorOf 1 "var(--b,1px)") := by
    refine (parse_of_reads (by cbv) (reads_rule rfl rfl rfl rfl ?_ .nil) _).trans rfl
    simp [isSemicolon]
  refine ⟨?_, ?_, namesDefined_fused, processTextSync_fused, ?_⟩
  · refine terminated_of_components [_, _, _, _, _] (by cbv) ?_ ?_ <;> simp
  · rw [parse_fused]
    rfl
  · have hresolved : resolveText ∅ "var(--b,1px)" = "1px" := by cbv
    have hvalue : (colorOf 1 "var(--b,1px)").updated? ∅ .empty = some "1px" :=
      updated?_colorOf (by decide) (by decide) hresolved (by decide)
    have hone := processSync_oneRule (d := colorOf 1 "var(--b,1px)") rfl hvalue
    rw [processTextSync, hagain, hone]
    rfl

end Pipeline

end CustomProperties
