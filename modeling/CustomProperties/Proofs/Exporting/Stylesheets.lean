import CustomProperties.Format
import CustomProperties.Proofs.Exporting.Lines
import CustomProperties.Proofs.Merging.Insertion
import CustomProperties.Proofs.Merging.Sources
import CustomProperties.Proofs.Reprint.Idempotence
import CustomProperties.Source

/-!
# Collecting from exported style sheets

Definitions are exported as one host scope with a line for each of them. The scope is read back with
all its lines, so that the same definitions are collected from it in the same order, if each value
reads by itself as what it stands for and none of the text switches collecting off.
-/

namespace CustomProperties

open Css (Component)
open Css.Component
open Directive (switchesOff)
open Node (declarationsAll)
open Stylesheet (Reads parse_of_reads)

variable {properties : PlainProperties} {property : String × String} {after : String}
  {again : IgnoreSet} {body : List Node}

/-! ### The exported sheet -/

/-- The lines of exported definitions. -/
def exportedLines (properties : PlainProperties) : List Node :=
  properties.map fun property => .declaration (exportedDeclaration property)

/-- The host scope that definitions are exported in, up to what follows its last line. -/
def exportedRule (properties : PlainProperties) (after : String) : Node :=
  .rule ⟨0, "", ":root", " "⟩ (exportedLines properties) ⟨after, true⟩

/-- What stands between the last line and the end of the host scope. -/
def exportedGap (properties : PlainProperties) : String :=
  if properties = [] then "\n\n" else "\n"

/-- The sheet that definitions are exported as. -/
def exportedSheet (properties : PlainProperties) : Stylesheet :=
  ⟨[exportedRule properties (exportedGap properties)], "\n"⟩

lemma renderAll_exportedLines (property : String × String) (properties : PlainProperties) :
    Node.renderAll (exportedLines (property :: properties))
      = "\n" ++ "\n".intercalate ((property :: properties).map fun p =>
          "\t" ++ p.1 ++ ": " ++ p.2 ++ ";") := by
  have hline (p : String × String) : (exportedDeclaration p).render
      = "\n" ++ ("\t" ++ p.1 ++ ": " ++ p.2 ++ ";") := by
    rw [← String.toList_inj]
    simp [Declaration.render, exportedDeclaration]
  induction properties generalizing property with
  | nil => simp [exportedLines, Node.render, hline]
  | cons other properties ih =>
    have hrest := ih other
    rw [exportedLines] at hrest ⊢
    rw [List.map_cons, Node.renderAll_cons, hrest, Node.render, hline]
    simp only [List.map_cons, String.intercalate_cons_cons, String.append_assoc]

lemma render_exportedSheet (properties : PlainProperties) :
    (exportedSheet properties).render = Format.render properties .css := by
  have hrender : Format.render properties .css = ":root \x7b\n" ++ "\n".intercalate
      (properties.map fun p => "\t" ++ p.1 ++ ": " ++ p.2 ++ ";") ++ "\n\x7d\n" := rfl
  cases properties with
  | nil => rfl
  | cons property properties =>
    rw [hrender, ← String.toList_inj]
    simp [Stylesheet.render, exportedSheet, exportedRule, exportedGap, Node.render,
      RuleHead.render, BlockEnd.render, renderAll_exportedLines]

/-! ### Reading the sheet -/

/-- The components of the sheet without lines, `gap` being what its host scope holds. -/
def emptyScope (gap : List Char) : List Component :=
  [token ⟨.literal, [':']⟩, token ⟨.ident "root", "root".toList⟩, token ⟨.blank, [' ']⟩,
    block openingMark .curly [token ⟨.blank, gap⟩] (some closingMark), token ⟨.blank, ['\n']⟩]

lemma reads_emptyScope (gap : List Char) :
    Reads [] (emptyScope gap) ⟨[exportedRule [] (String.ofList gap)], "\n"⟩ := by
  have hinner : Reads [] [token ⟨.blank, gap⟩]
      ⟨[], String.ofList ([] ++ (token ⟨.blank, gap⟩).text)⟩ := .gap rfl .nil
  rw [List.nil_append, text_token] at hinner
  have hrest : Reads [] [token ⟨.blank, ['\n']⟩] ⟨[], "\n"⟩ := .gap rfl .nil
  exact .rule rfl (show _ = [_, _, _] ++ _ from rfl) (by simp [isCurly]) hinner hrest

/-- A host scope without lines reads back. -/
lemma printable_emptyScope {gap : List Char} (text : String)
    (h : Css.components text.toList = emptyScope gap) :
    Printable none [exportedRule [] (String.ofList gap)] "\n" := by
  have hterminated : Terminated text := by
    apply terminated_of_components [_, _, _, _] h
    · rintro _ _ _ ⟨⟩
    · rintro l hl
      cases hl
      simp
  have hparse : Stylesheet.parse text 0 = ⟨[exportedRule [] (String.ofList gap)], "\n"⟩ :=
    parse_of_reads h (reads_emptyScope gap) 0
  have hheaded : Node.headedAll (Stylesheet.parse text 0).nodes := by
    rw [hparse]
    rfl
  have hprintable := Stylesheet.printable_parse hterminated hheaded
  rwa [hparse] at hprintable

lemma printable_exportedRule_nil (properties : PlainProperties) :
    Printable none [exportedRule [] (exportedGap properties)] "\n" := by
  unfold exportedGap
  split
  · have hcs : Css.components ":root \x7b\n\n\x7d\n".toList = emptyScope ['\n', '\n'] := by cbv
    exact printable_emptyScope _ hcs
  · have hcs : Css.components ":root \x7b\n\x7d\n".toList = emptyScope ['\n'] := by cbv
    exact printable_emptyScope _ hcs

/-- A tree that starts with a rule is printable only if head, block and rest of that rule are. -/
lemma Printable.of_rule {outer : Option Css.Bracket} {head : RuleHead} {body ns : List Node}
    {tail : BlockEnd} (h : Printable outer (.rule head body tail :: ns) after) :
    (∃ front, HeadPiece outer front (.rule head) (.rule { head with id := 0 })) ∧ tail.closed ∧
    Printable (some .curly) body tail.after ∧ Printable outer ns after := by
  cases h with
  | last _ hpiece =>
    obtain ⟨_, _, _, _, _, hleaf, _⟩ := hpiece
    cases hleaf
  | leaf _ hpiece =>
    obtain ⟨_, _, _, _, _, hleaf, _⟩ := hpiece
    cases hleaf
  | rule hhead hclosed hbody hrest => exact ⟨hhead, hclosed, hbody, hrest⟩

lemma printable_exportedLines (hnames : ∀ p ∈ properties, isCustomProperty p.1)
    (hvalues : ∀ p ∈ properties, Exportable p.2) (hafter : Printable (some .curly) [] after) :
    Printable (some .curly) (exportedLines properties) after := by
  induction properties with
  | nil => exact hafter
  | cons property properties ih =>
    rw [List.forall_mem_cons] at hnames hvalues
    have hback := readsBack_exportedDeclaration hnames.1 hvalues.1
    exact .leaf rfl (hback.exists_piece rfl (by simp)) (ih hnames.2 hvalues.2)

lemma printable_exportedSheet (hnames : ∀ p ∈ properties, isCustomProperty p.1)
    (hvalues : ∀ p ∈ properties, Exportable p.2) :
    Printable none (exportedSheet properties).nodes (exportedSheet properties).after := by
  obtain ⟨hhead, hclosed, hbody, hrest⟩ := (printable_exportedRule_nil properties).of_rule
  exact .rule hhead hclosed (printable_exportedLines hnames hvalues hbody) hrest

/-! ### Collecting from the sheet -/

/-- Each line is ended by its semicolon. -/
lemma delimited_exportedLines (properties : PlainProperties) (after : String) :
    Delimited (exportedLines properties) after := by
  induction properties with
  | nil => exact .nil
  | cons property properties ih => exact .leaf rfl (.inl rfl) ih

/-- The tokens that an exported definition stands for. -/
def exportedEntry (property : String × String) : String × List ValueNode :=
  (property.1, (Value.parse property.2).stripped.nodes)

/-- The definitions read from exported lines are the ones that were exported. -/
lemma definitions_of_alike (halike : Alike (exportedLines properties) body)
    (hmarks : Marks again false false body)
    (hoff : switchesOff (Node.renderAll (exportedLines properties) ++ after) = false)
    (hnames : ∀ p ∈ properties, isCustomProperty p.1)
    (hvalues : ∀ p ∈ properties, Exportable p.2)
    (hreads : ∀ d ∈ declarationsAll body, d.readValue = d.value) :
    (body.filterMap (·.definition? again)).map (fun d => (d.prop, d.definedTokens))
      = properties.map exportedEntry := by
  induction properties generalizing body with
  | nil =>
    cases halike
    rfl
  | cons property properties ih =>
    have hends : Delimited (exportedLines (property :: properties)) after :=
      delimited_exportedLines _ _
    rw [exportedLines, List.map_cons] at halike hoff hends
    rw [switchesOff_cons hends, Bool.or_eq_false_iff] at hoff
    rw [List.forall_mem_cons] at hnames hvalues
    cases halike with
    | @leaf _ n _ body hleaf hrest =>
      cases hleaf with
      | @declaration _ d hprop hrender hsemicolon =>
        rw [Node.declarationsAll_cons, Node.declarations, List.forall_mem_append,
          List.forall_mem_singleton] at hreads
        have hmark : again.contains d.id = false := by
          have hself : again.contains d.id = (false || false || switchesOff d.render) := hmarks.mark
          rw [hself, hrender]
          exact hoff.1
        have hvalue : d.value = property.2 := by
          have hsame := Node.SameLeaf.readValue_eq (.declaration hprop hrender hsemicolon)
          rw [← hreads.1, hsame, readValue_exportedDeclaration hnames.1 hvalues.1]
        have hname : d.prop = property.1 := hprop
        have hdefinition : (Node.declaration d).definition? again = some d := by
          simp [Node.definition?, hname, hnames.1, hmark]
        have hothers := ih hrest hmarks.tail hoff.2 hnames.2 hvalues.2 hreads.2
        rw [List.filterMap_cons_some hdefinition, List.map_cons, hothers, List.map_cons]
        simp [exportedEntry, Declaration.definedTokens, hname, hvalue]

lemma switchesOff_exportedRule (properties : PlainProperties) (after : String) :
    switchesOff (exportedRule properties after).render
      = (switchesOff ":root \x7b" ||
        switchesOff (Node.renderAll (exportedLines properties) ++ after)) := by
  rw [exportedRule, Node.render]
  exact switchesOff_block ":root " (exportedLines properties) ⟨after, true⟩

/-- The definitions read from an exported host scope are the ones that were exported. -/
lemma hostDefinitions_of_alike (halike : Alike [exportedRule properties after] body)
    (hmarks : Marks again false false body)
    (hoff : switchesOff (exportedRule properties after).render = false)
    (hnames : ∀ p ∈ properties, isCustomProperty p.1)
    (hvalues : ∀ p ∈ properties, Exportable p.2)
    (hreads : ∀ d ∈ declarationsAll body, d.readValue = d.value) :
    (hostDefinitions again body).map (fun d => (d.prop, d.definedTokens))
      = properties.map exportedEntry := by
  rw [exportedRule] at halike hoff
  cases halike with
  | leaf hleaf => cases hleaf
  | @rule _ _ inner _ _ _ id hinner hrest =>
    cases hrest
    have hmarksInner := hinner.marks_rule hmarks
    rw [hoff] at hmarksInner
    rw [← exportedRule, switchesOff_exportedRule, Bool.or_eq_false_iff] at hoff
    rw [Node.declarationsAll_cons, Node.declarations, List.forall_mem_append] at hreads
    have hlines := definitions_of_alike hinner hmarksInner hoff.2 hnames hvalues hreads.1
    have hhost : selectsHost ":root" = true := by decide
    rw [hostDefinitions, hostDefinitions, List.append_nil]
    split
    · exact hlines
    · next hempty =>
      -- a host scope that does not count is empty
      have hnil : inner = [] := by simpa [isHostScope, hhost] using hempty
      rw [← hlines, hnil]
      rfl

/-- The definitions of an exported sheet are the ones that were exported. -/
lemma definitions_exportedSheet (hnames : ∀ p ∈ properties, isCustomProperty p.1)
    (hvalues : ∀ p ∈ properties, Exportable p.2)
    (hoff : switchesOff (Format.render properties .css) = false) :
    let sheet := Stylesheet.parse (Format.render properties .css) 0
    sheet.definitions (.scan sheet) = properties.map exportedEntry := by
  intro sheet
  obtain ⟨halike, -⟩ :=
    Stylesheet.alike_parse_render (printable_exportedSheet hnames hvalues) 0
  rw [render_exportedSheet] at halike
  have hrule : switchesOff (exportedRule properties (exportedGap properties)).render = false := by
    have hends : Delimited (exportedSheet properties).nodes (exportedSheet properties).after :=
      .rule (.inl rfl) (delimited_exportedLines _ _) .nil
    have hcons := switchesOff_cons hends
    rw [← render_exportedSheet, Stylesheet.render] at hoff
    exact (Bool.or_eq_false_iff.1 (hcons.symm.trans hoff)).1
  apply hostDefinitions_of_alike halike _ hrule hnames hvalues
  · intro d hd
    exact Stylesheet.readValue_eq_of_mem_parse hd
  · exact Stylesheet.marks_parse _ 0

/-- Collecting writes one definition after the other. -/
lemma entries_collect (sheet : Stylesheet) (ignored : IgnoreSet) (preserve : Bool) :
    (sheet.collect ignored preserve).1.entries
      = OrderedMap.insertAll [] (sheet.definitions ignored) := by
  have hentries := PropertyTable.entries_foldl_insert ∅ (sheet.definitions ignored)
  rw [Stylesheet.definitions, List.foldl_map, ← fst_collectFrom ignored preserve] at hentries
  exact hentries

/-- The texts of exported definitions are the ones that are collected again. -/
lemma toPlain_ofStylesheet_render (hnames : ∀ p ∈ properties, isCustomProperty p.1)
    (hnodup : (OrderedMap.names properties).Nodup) (hvalues : ∀ p ∈ properties, Exportable p.2)
    (hoff : switchesOff (Format.render properties .css) = false) :
    (PropertyTable.ofStylesheet (Format.render properties .css)).toPlain = properties := by
  have hkept : OrderedMap.names ([] ++ properties.map exportedEntry)
      = OrderedMap.names properties := by
    simp [OrderedMap.names, exportedEntry, Function.comp_def]
  have hentries : (PropertyTable.ofStylesheet (Format.render properties .css)).entries
      = properties.map exportedEntry := by
    have hcollect := entries_collect (.parse (Format.render properties .css) 0)
      (.scan (.parse (Format.render properties .css) 0)) true
    rw [definitions_exportedSheet hnames hvalues hoff] at hcollect
    exact hcollect.trans (OrderedMap.insertAll_of_nodup (by rwa [hkept]))
  have hprints : ∀ p ∈ properties,
      (p.1, ValueNode.plainText (Value.parse p.2).stripped.nodes) = p := by
    intro p hp
    rw [(hvalues p hp).prints]
  rw [PropertyTable.toPlain, hentries, List.map_map]
  exact (List.map_congr_left hprints).trans (List.map_id _)

/-! ### Tables of style sheets -/

lemma isCustomProperty_of_definition? {ignored : IgnoreSet} {n : Node} {d : Declaration}
    (h : n.definition? ignored = some d) : isCustomProperty d.prop := by
  cases n with
  | declaration e =>
    rw [Node.definition?] at h
    split at h
    · next hcustom =>
      cases h
      exact (Bool.and_eq_true_iff.1 hcustom).1
    · cases h
  | _ => cases h

/-- A style sheet defines custom properties only. -/
lemma isCustomProperty_of_mem_hostDefinitions (ignored : IgnoreSet) (nodes : List Node) :
    ∀ d ∈ hostDefinitions ignored nodes, isCustomProperty d.prop := by
  induction nodes using Node.induct with
  | nil => simp [hostDefinitions]
  | rule head body tail rest _ ih =>
    rw [hostDefinitions, List.forall_mem_append]
    refine ⟨?_, ih⟩
    intro d hd
    split at hd
    · obtain ⟨n, -, hn⟩ := List.mem_filterMap.1 hd
      exact isCustomProperty_of_definition? hn
    · cases hd
  | document id body after rest ihbody ih =>
    rw [hostDefinitions, List.forall_mem_append]
    exact ⟨ihbody, ih⟩
  | atBlock head body tail rest _ ih => rwa [hostDefinitions]
  | atStatement head semicolon rest ih => rwa [hostDefinitions]
  | declaration d rest ih => rwa [hostDefinitions]
  | comment c rest ih => rwa [hostDefinitions]

lemma isCustomProperty_of_mem_names {text name : String}
    (h : name ∈ (PropertyTable.ofStylesheet text).names) : isCustomProperty name := by
  have htable := tabulates_collect (.parse text 0) (.scan (.parse text 0)) true
  have hmem : name ∈
      (Stylesheet.definitions (.parse text 0) (.scan (.parse text 0))).map (·.1) := by
    rw [← List.mem_eraseDups, ← htable.names]
    exact h
  rw [Stylesheet.definitions, List.map_map, List.mem_map] at hmem
  obtain ⟨d, hd, rfl⟩ := hmem
  exact isCustomProperty_of_mem_hostDefinitions _ _ d hd

namespace PropertyTable

/-- Definitions that are collected from a style sheet, exported as one and collected again are the
same names with the same texts in the same order. This holds of each style sheet whose collected
values read by themselves as what they are, if nothing in the export switches collecting off. -/
theorem toPlain_ofStylesheet_exported (text : String)
    (hvalues : ∀ p ∈ (ofStylesheet text).toPlain, Exportable p.2)
    (hoff : switchesOff (Format.render (ofStylesheet text).toPlain .css) = false) :
    (ofStylesheet (Format.render (ofStylesheet text).toPlain .css)).toPlain
      = (ofStylesheet text).toPlain := by
  have hnames : ∀ p ∈ (ofStylesheet text).toPlain, isCustomProperty p.1 := by
    intro p hp
    apply isCustomProperty_of_mem_names
    rw [← names_toPlain]
    exact List.mem_map_of_mem hp
  have hnodup : (OrderedMap.names (ofStylesheet text).toPlain).Nodup := by
    rw [names_toPlain]
    exact (ofStylesheet text).nodup_names
  exact toPlain_ofStylesheet_render hnames hnodup hvalues hoff

/-! ### Two definitions -/

/-- What is collected from a single host scope in which no name is defined twice. -/
lemma toPlain_ofStylesheet_of_parse {text : String} {head : RuleHead} {ds : List Declaration}
    {tail : BlockEnd}
    (hparse : Stylesheet.parse text 0 = ⟨[.rule head (ds.map .declaration) tail], after⟩)
    (hhost : selectsHost head.selector)
    (hscan : IgnoreSet.scan ⟨[.rule head (ds.map .declaration) tail], after⟩ = .empty)
    (hprops : ∀ d ∈ ds, isCustomProperty d.prop) (hnodup : (ds.map (·.prop)).Nodup) :
    (ofStylesheet text).toPlain
      = ds.map fun d => (d.prop, ValueNode.plainText d.definedTokens) := by
  have hdefined : (ds.map Node.declaration).filterMap (·.definition? .empty) = ds := by
    rw [List.filterMap_map]
    conv_rhs => rw [← List.filterMap_some (l := ds)]
    apply List.filterMap_congr
    intro d hd
    simp [Node.definition?, hprops d hd, IgnoreSet.contains, IgnoreSet.empty]
  have hdefinitions : hostDefinitions .empty [.rule head (ds.map .declaration) tail] = ds := by
    rw [hostDefinitions, hostDefinitions, List.append_nil]
    split
    · exact hdefined
    · next hempty =>
      have hnil : ds = [] := by simpa [isHostScope, hhost] using hempty
      exact hnil.symm
  have hentries : (ofStylesheet text).entries = ds.map fun d => (d.prop, d.definedTokens) := by
    rw [ofStylesheet, entries_collect, hparse, hscan, Stylesheet.definitions, hdefinitions]
    apply OrderedMap.insertAll_of_nodup
    simpa [OrderedMap.names, Function.comp_def] using hnodup
  rw [toPlain, hentries, List.map_map]
  rfl

/-- A style sheet with two definitions, not in the order of their names. -/
def lengths : String := ":root\x7b--b:calc(1px + 2px);--a:red\x7d"

/-- The components of a sum of lengths behind a colon. -/
def lengthSum : List Component :=
  [token ⟨.literal, [':']⟩, block ⟨.function "calc", "calc(".toList⟩ .round
    [token ⟨.literal, "1px".toList⟩, token ⟨.blank, [' ']⟩, token ⟨.literal, ['+']⟩,
      token ⟨.blank, [' ']⟩, token ⟨.literal, "2px".toList⟩] (some ⟨.closing .round, [')']⟩)]

/-- The components of a color behind a colon. -/
def redColor : List Component := [token ⟨.literal, [':']⟩, token ⟨.ident "red", "red".toList⟩]

lemma components_lengths : Css.components lengths.toList
    = [token ⟨.literal, [':']⟩, token ⟨.ident "root", "root".toList⟩,
      block openingMark .curly (token ⟨.ident "--b", "--b".toList⟩ :: (lengthSum
          ++ lineEnd :: token ⟨.ident "--a", "--a".toList⟩ :: redColor)) (some closingMark)] := by
  cbv

lemma parse_lengths : Stylesheet.parse lengths 0
    = ⟨[.rule ⟨0, "", ":root", ""⟩ ([⟨1, "", "--b", ":", "calc(1px + 2px)", "", "", true⟩,
        ⟨2, "", "--a", ":", "red", "", "", false⟩].map .declaration) ⟨"", true⟩], ""⟩ := by
  have hlast : Reads [] (token ⟨.ident "--a", "--a".toList⟩ :: redColor)
      ⟨[.declaration (.ofText "" "--a:red".toList false)], ""⟩ :=
    .unended rfl (by simp [isSemicolon, redColor])
  have hboth : Reads [] (token ⟨.ident "--b", "--b".toList⟩ :: (lengthSum
      ++ lineEnd :: token ⟨.ident "--a", "--a".toList⟩ :: redColor)) _ :=
    .declaration rfl (show _ = token ⟨.ident "--b", "--b".toList⟩ :: lengthSum ++ _ from rfl)
      (by simp [isSemicolon, lengthSum]) rfl hlast
  refine (parse_of_reads components_lengths
    (.rule rfl (show _ = [_, _] ++ _ from rfl) (by simp [isCurly]) hboth .nil) _).trans ?_
  rfl

lemma toPlain_lengths :
    (ofStylesheet lengths).toPlain = [("--b", "calc(1px + 2px)"), ("--a", "red")] := by
  have hcalc : ValueNode.plainText (Value.parse "calc(1px + 2px)").stripped.nodes
      = "calc(1px + 2px)" := by cbv
  have hred : ValueNode.plainText (Value.parse "red").stripped.nodes = "red" := by cbv
  rw [toPlain_ofStylesheet_of_parse parse_lengths (by decide) rfl (by decide) (by decide)]
  simp [Declaration.definedTokens, hcalc, hred]

lemma exportable_lengthSum : Exportable "calc(1px + 2px)" where
  prints := by cbv
  unmarked := by decide
  ends := by cbv
  inside := by
    have hcs : Css.components "calc(1px + 2px)".toList = lengthSum.tail := by cbv
    rw [hcs]
    simp [lengthSum]

lemma exportable_redColor : Exportable "red" where
  prints := by cbv
  unmarked := by decide
  ends := by cbv
  inside := by
    have hcs : Css.components "red".toList = redColor.tail := by cbv
    rw [hcs]
    simp [redColor, Css.Token.closes]

lemma exportable_lengths : ∀ p ∈ (ofStylesheet lengths).toPlain, Exportable p.2 := by
  rw [toPlain_lengths, List.forall_mem_cons, List.forall_mem_singleton]
  exact ⟨exportable_lengthSum, exportable_redColor⟩

/-- The export of `lengths` gives back its two definitions, the second one of `--a`. -/
theorem toPlain_ofStylesheet_exported_lengths :
    (∀ p ∈ (ofStylesheet lengths).toPlain, Exportable p.2) ∧
    switchesOff (Format.render (ofStylesheet lengths).toPlain .css) = false ∧
    (ofStylesheet (Format.render (ofStylesheet lengths).toPlain .css)).toPlain
      = [("--b", "calc(1px + 2px)"), ("--a", "red")] := by
  have hoff : switchesOff (Format.render (ofStylesheet lengths).toPlain .css) = false := by
    rw [toPlain_lengths]
    rfl
  have hagain := toPlain_ofStylesheet_exported lengths exportable_lengths hoff
  exact ⟨exportable_lengths, hoff, hagain.trans toPlain_lengths⟩

/-! ### Marks behind comments -/

/-- A style sheet in which a comment stands behind the mark of a value. -/
def marked : String := ":root\x7b--a:red !important/*c*/\x7d"

/-- The components of a marked color behind a colon. -/
def markedColor : List Component :=
  redColor ++ [token ⟨.blank, [' ']⟩, token ⟨.literal, ['!']⟩,
    token ⟨.ident "important", "important".toList⟩]

lemma components_marked : Css.components marked.toList
    = [token ⟨.literal, [':']⟩, token ⟨.ident "root", "root".toList⟩,
      block openingMark .curly (token ⟨.ident "--a", "--a".toList⟩ ::
        (markedColor ++ [token ⟨.comment, "/*c*/".toList⟩])) (some closingMark)] := by
  cbv

lemma parse_marked : Stylesheet.parse marked 0
    = ⟨[.rule ⟨0, "", ":root", ""⟩
        ([⟨1, "", "--a", ":", "red !important/*c*/", "", "", false⟩].map .declaration)
        ⟨"", true⟩], ""⟩ := by
  refine (parse_of_reads components_marked (reads_rule rfl rfl rfl rfl ?_ .nil) _).trans rfl
  simp [isSemicolon, markedColor, redColor]

lemma toPlain_marked : (ofStylesheet marked).toPlain = [("--a", "red !important")] := by
  have hplain : ValueNode.plainText (Value.parse "red !important/*c*/").stripped.nodes
      = "red !important" := by cbv
  rw [toPlain_ofStylesheet_of_parse parse_marked (by decide) rfl (by decide) (by decide)]
  simp [Declaration.definedTokens, hplain]

lemma components_render_marked :
    Css.components ":root \x7b\n\t--a: red !important;\n\x7d\n".toList
      = [token ⟨.literal, [':']⟩, token ⟨.ident "root", "root".toList⟩, token ⟨.blank, [' ']⟩,
        block openingMark .curly (lineGap :: token ⟨.ident "--a", "--a".toList⟩ ::
          token ⟨.literal, [':']⟩ :: token ⟨.blank, [' ']⟩ :: (markedColor.tail
            ++ [lineEnd, token ⟨.blank, ['\n']⟩])) (some closingMark),
        token ⟨.blank, ['\n']⟩] := by
  cbv

lemma parse_render_marked :
    Stylesheet.parse ":root \x7b\n\t--a: red !important;\n\x7d\n" 0
      = ⟨[.rule ⟨0, "", ":root", " "⟩
          ([⟨1, "\n\t", "--a", ": ", "red", " !important", "", true⟩].map .declaration)
          ⟨"\n", true⟩], "\n"⟩ := by
  have hgap : Reads [] [token ⟨.blank, ['\n']⟩] ⟨[], "\n"⟩ := .gap rfl .nil
  have hline : Reads [] (lineGap :: token ⟨.ident "--a", "--a".toList⟩ ::
      token ⟨.literal, [':']⟩ :: token ⟨.blank, [' ']⟩ :: (markedColor.tail
        ++ [lineEnd, token ⟨.blank, ['\n']⟩])) _ :=
    .gap rfl <| .declaration rfl (show _ = token ⟨.ident "--a", "--a".toList⟩ ::
      token ⟨.literal, [':']⟩ :: token ⟨.blank, [' ']⟩ :: markedColor.tail ++ _ from rfl)
      (by simp [isSemicolon, markedColor, redColor]) rfl hgap
  refine (parse_of_reads components_render_marked
    (.rule rfl (show _ = [_, _, _] ++ _ from rfl) (by simp [isCurly]) hline hgap) _).trans ?_
  rfl

/-- A mark that a comment keeps from being cut off the value is cut off once the comment is gone, so
that it is missing from what is collected from the export. -/
theorem toPlain_ofStylesheet_exported_marked_ne :
    Terminated marked ∧
    (ofStylesheet (Format.render (ofStylesheet marked).toPlain .css)).toPlain
      ≠ (ofStylesheet marked).toPlain := by
  constructor
  · apply terminated_of_components [_, _] components_marked
    · rintro _ _ _ ⟨⟩
    · rintro _ ⟨⟩
  · have hrender : Format.render [("--a", "red !important")] .css
        = ":root \x7b\n\t--a: red !important;\n\x7d\n" := rfl
    have hplain : ValueNode.plainText (Value.parse "red").stripped.nodes = "red" := by cbv
    rw [toPlain_marked, hrender,
      toPlain_ofStylesheet_of_parse parse_render_marked (by decide) rfl (by decide) (by decide)]
    simp [Declaration.definedTokens, hplain]

end PropertyTable

end CustomProperties
