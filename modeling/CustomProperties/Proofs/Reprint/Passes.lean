import CustomProperties.Proofs.Passes.Basic
import CustomProperties.Proofs.Reprint.Rewrites
import Mathlib

/-!
# Reading what a pass prints

A pass over a text prints a sheet that is read back with the structure the pass gave it, if every
declaration that the pass writes reads back by itself. Values are written without a look at what
they do to the text around them, so that this cannot be left out: a value that ends in a backslash
takes the semicolon behind it along.
-/

namespace CustomProperties

open Css (Component Lexeme)
open Css.Component
open Node (declarationsAll)
open Stylesheet (Reads parse_of_reads)

/-! ### Declarations left by collecting -/

lemma Node.declarationsAll_filter_sublist (p : Node → Bool) (ns : List Node) :
    (declarationsAll (ns.filter p)).Sublist (declarationsAll ns) := by
  induction ns with
  | nil => simp
  | cons n ns ih =>
    cases hn : p n with
    | true => simpa [hn] using ih
    | false => simpa [hn] using ih.trans (List.sublist_append_right _ _)

/-- Collecting puts no declarations in. -/
lemma declarationsAll_collectFrom_sublist (ignored : IgnoreSet) (preserve : Bool)
    (table : PropertyTable) (ns : List Node) :
    (declarationsAll (collectFrom ignored preserve table ns).2).Sublist (declarationsAll ns) := by
  induction ns using Node.induct generalizing table with
  | nil => simp [collectFrom]
  | rule head body tail rest ihbody ih =>
    have hleft :
        (declarationsAll (if preserve then body else withoutDefinitions ignored body)).Sublist
          (declarationsAll body) := by
      split
      · exact .refl _
      · exact Node.declarationsAll_filter_sublist _ _
    rw [collectFrom]
    simp only
    generalize (if preserve then body else withoutDefinitions ignored body) = left at hleft ⊢
    rw [Node.declarationsAll_cons, Node.declarations]
    split
    · split
      · exact (ih _).trans (List.sublist_append_right _ _)
      · simpa [Node.declarations] using hleft.append (ih _)
    · simpa [Node.declarations] using ih _
  | atBlock head body tail rest ihbody ih => simpa [collectFrom, Node.declarations] using ih _
  | atStatement head semicolon rest ih => simpa [collectFrom, Node.declarations] using ih _
  | declaration d rest ih => simpa [collectFrom, Node.declarations] using ih _
  | comment c rest ih => simpa [collectFrom, Node.declarations] using ih _
  | document id body after rest ihbody ih =>
    simpa [collectFrom, Node.declarations] using (ihbody _).append (ih _)

namespace Pipeline

variable {pipeline : Pipeline} {text : String}

/-- Each declaration in which a pass over a sheet writes a new value reads back by itself. -/
def WritesReadBack (pipeline : Pipeline) (sheet : Stylesheet) : Prop :=
  ∀ d ∈ declarationsAll sheet.nodes, ∀ value,
    d.updated? (pipeline.ownTable sheet) (.scan sheet) = some value →
      (d.written pipeline.options.preserve value).ReadsBack

/-- What a pass makes of a printable sheet is printable. -/
lemma printable_updatedWith {sheet : Stylesheet} (h : Printable none sheet.nodes sheet.after)
    (hreads : pipeline.WritesReadBack sheet) :
    let out := (pipeline.updatedWith sheet (pipeline.ownTable sheet)).1
    Printable none out.nodes out.after := by
  refine (h.collectFrom ∅).updateNodes (fun d hd value hvalue => ?_) (by simp) _
  exact hreads d ((declarationsAll_collectFrom_sublist _ _ _ _).mem hd) value hvalue

/-- What a pass prints is read back as a tree of the same structure, if nothing is left open in the
text, each of its rules has a head, and each declaration that the pass writes reads back by
itself. -/
theorem outlineAll_parse_render (hsync : pipeline.isSync) (hterminated : Terminated text)
    (hheaded : Node.headedAll (Stylesheet.parse text 0).nodes)
    (hreads : pipeline.WritesReadBack (.parse text 0)) :
    ∃ report out, pipeline.processSync (.parse text 0) = .ok (report, out) ∧
      pipeline.processTextSync text = .ok (report, out.render) ∧
      ∀ next, Node.outlineAll (Stylesheet.parse out.render next).nodes
        = Node.outlineAll out.nodes := by
  have hpass := processSync_of_isSync hsync (.parse text 0)
  refine ⟨_, _, hpass, ?_, fun next => ?_⟩
  · rw [processTextSync, hpass]
    rfl
  · have hprintable := Stylesheet.printable_parse hterminated hheaded
    obtain ⟨halike, -⟩ :=
      Stylesheet.alike_parse_render (printable_updatedWith hprintable hreads) next
    exact halike.outlineAll_eq

end Pipeline

/-! ### One definition and one reference -/

/-- A rule with a selector of two components and one declaration in it. -/
lemma reads_rule {a b c : Component} {opener : Lexeme} {closer : Option Lexeme}
    {tail rest : List Component} {sheet : Stylesheet}
    (hkind : a.itemKind (b :: block opener .curly (c :: tail) closer :: rest) = .rule)
    (ha : a.isCurly = false) (hb : b.isCurly = false)
    (hdeclaration : c.itemKind tail = .declaration)
    (htail : ∀ d ∈ c :: tail, d.isSemicolon = false) (hrest : Reads [] rest sheet) :
    Reads [] (a :: b :: block opener .curly (c :: tail) closer :: rest)
      (sheet.cons (.rule (.ofText [] (textOf [a, b]))
        [.declaration (.ofText (String.ofList []) (textOf (c :: tail)) false)]
        ⟨"", countsAsClosed .curly (c :: tail) closer⟩)) :=
  .rule hkind (show _ = [a, b] ++ _ from rfl) (by simp [ha, hb]) (.unended hdeclaration htail) hrest

/-- The declaration `--a` of a value, in a host scope. -/
def definitionOf (value after : String) : Declaration :=
  ⟨1, "", "--a", ":", value, "", after, false⟩

/-- The declaration `color` of a value. -/
def colorOf (id : NodeId) (value : String) : Declaration :=
  ⟨id, "", "color", ":", value, "", "", false⟩

/-- The table of one definition. -/
def defining (d : Declaration) : PropertyTable := (∅ : PropertyTable).insert d.prop d.definedTokens

/-- A host scope with one definition, and another rule with some declarations. -/
def hostAndRule (d : Declaration) (es : List Declaration) : Stylesheet where
  nodes := [.rule ⟨0, "", ":root", ""⟩ [.declaration d] ⟨"", true⟩,
    .rule ⟨2, "", ".x", ""⟩ (es.map .declaration) ⟨"", true⟩]
  after := ""

lemma mem_declarationsAll_hostAndRule {d e : Declaration} {es : List Declaration} :
    e ∈ declarationsAll (hostAndRule d es).nodes ↔ e = d ∨ e ∈ es := by
  simp [hostAndRule, Node.declarations]

lemma collect_hostAndRule {d : Declaration} (hprop : isCustomProperty d.prop)
    (es : List Declaration) (preserve : Bool) :
    (hostAndRule d es).collect .empty preserve = (defining d,
      if preserve then hostAndRule d es else ⟨(hostAndRule d es).nodes.tail, ""⟩) := by
  have hhost : selectsHost ":root" = true := by decide
  have hother : selectsHost ".x" = false := by decide
  cases preserve <;>
    simp [Stylesheet.collect, collectFrom, hostAndRule, isHostScope, hhost, hother, defining,
      PropertyTable.define, Node.definition?, hprop, IgnoreSet.contains, IgnoreSet.empty,
      withoutDefinitions]

lemma updated?_colorOf {table : PropertyTable} {id : NodeId} {value resolved : String}
    (hmay : mayRefer value)
    (hsplit : splitTrailingComment value = (value, ""))
    (hresolved : resolveText table value = resolved) (hne : resolved ≠ value) :
    (colorOf id value).updated? table .empty = some resolved := by
  have hprop : isCustomProperty "color" = false := by decide
  simp [colorOf, Declaration.updated?, resolvedValue?, IgnoreSet.contains, IgnoreSet.empty, hprop,
    hmay, hsplit, hresolved, hne]

namespace Pipeline

/-- A pass over one definition and one declaration that is updated. -/
lemma processSync_hostAndRule {d e : Declaration} {value : String} (preserve : Bool)
    (hscan : IgnoreSet.scan (hostAndRule d [e]) = .empty) (hprop : isCustomProperty d.prop)
    (hvalue : e.updated? (defining d) .empty = some value) :
    processSync { options := { preserve } } (hostAndRule d [e])
      = .ok ({ collected := 1, updated := 1 },
        if preserve then hostAndRule d [e.withValue (hostAndRule d [e]).freshId value, e]
        else ⟨(hostAndRule d [{ e with value }]).nodes.tail, ""⟩) := by
  have hown : d.updated? (defining d) .empty = none := by
    simp [Declaration.updated?, resolvedValue?, hprop]
  have hsize : (defining d).size = 1 := rfl
  rw [processSync_of_isSync rfl, ownTable, updatedWith, hscan, collect_hostAndRule hprop]
  cases preserve <;>
    simp [Stylesheet.update, updateNodes, updateNode, hostAndRule, Declaration.updateTo, hown,
      hvalue, hsize]

/-- A declaration reads back if the components of its text, ended by a semicolon, are those of one
declaration. -/
lemma readsBack_of_components {d : Declaration} {text : String} {c : Component}
    {tail : List Component} (htext : { d with semicolon := true }.render = text)
    (hcs : Css.components text.toList = c :: tail ++ [token ⟨.semicolon, [';']⟩])
    (hkind : c.itemKind (tail ++ [token ⟨.semicolon, [';']⟩]) = .declaration)
    (hfront : ∀ g ∈ c :: tail, g.isSemicolon = false)
    (hprop : (Declaration.ofText "" (textOf (c :: tail)) true).prop = d.prop)
    (hstays : ∀ l, token l ∈ c :: tail → l.token.closes .curly = false) : d.ReadsBack where
  reads := by
    refine ⟨_, ?_, hprop, rfl⟩
    rw [htext, parse_of_reads hcs (.declaration hkind (show _ = (c :: tail) ++ _ from rfl) hfront
      rfl .nil)]
    rfl
  stays l hl := by
    rw [htext, hcs, List.mem_append, List.mem_singleton, token.injEq] at hl
    rcases hl with hl | rfl
    · exact hstays l hl
    · rfl

/-- A pass over one definition and one declaration writes only what reads back, if this holds of the
new value. -/
lemma writesReadBack_hostAndRule {d e : Declaration} {value : String} (preserve : Bool)
    (hscan : IgnoreSet.scan (hostAndRule d [e]) = .empty) (hprop : isCustomProperty d.prop)
    (hvalue : e.updated? (defining d) .empty = some value)
    (hback : (e.written preserve value).ReadsBack) :
    WritesReadBack { options := { preserve } } (hostAndRule d [e]) := by
  intro f hf new hnew
  rw [ownTable, hscan, collect_hostAndRule hprop] at hnew
  rw [mem_declarationsAll_hostAndRule, List.mem_singleton] at hf
  rcases hf with rfl | rfl
  · simp [Declaration.updated?, resolvedValue?, hprop] at hnew
  · rw [hvalue, Option.some.injEq] at hnew
    subst hnew
    exact hback

/-- A text in which one pixel is referred to. -/
def pixel : String := ":root\x7b--a:1px\x7d.x\x7bcolor:var(--a)\x7d"

lemma parse_pixel : Stylesheet.parse pixel 0
    = hostAndRule (definitionOf "1px" "") [colorOf 3 "var(--a)"] := by
  refine (parse_of_reads (by cbv) (reads_rule rfl rfl rfl rfl ?_ <|
    reads_rule rfl rfl rfl rfl ?_ .nil) _).trans rfl
  all_goals simp [isSemicolon]

lemma terminated_pixel : Terminated pixel := by
  refine terminated_of_components [_, _, _, _, _] (by cbv) ?_ ?_ <;> simp

lemma components_pixel : Css.components "color:1px;".toList
    = [token ⟨.ident "color", "color".toList⟩, token ⟨.literal, [':']⟩,
      token ⟨.literal, "1px".toList⟩] ++ [token ⟨.semicolon, [';']⟩] := by cbv

lemma updated?_pixel :
    (colorOf 3 "var(--a)").updated? (defining (definitionOf "1px" "")) .empty = some "1px" := by
  have hresolved : resolveText (defining (definitionOf "1px" "")) "var(--a)" = "1px" := by cbv
  exact updated?_colorOf (by decide) (by decide) hresolved (by decide)

lemma writesReadBack_pixel (preserve : Bool) :
    WritesReadBack { options := { preserve } } (.parse pixel 0) := by
  rw [parse_pixel]
  refine writesReadBack_hostAndRule preserve rfl (by decide) updated?_pixel ?_
  cases preserve <;>
    exact readsBack_of_components rfl components_pixel rfl (by simp [isSemicolon]) rfl
      (by simp [Css.Token.closes])

/-- A text that is read back after a pass that preserves. -/
theorem outlineAll_parse_render_pixel :
    Terminated pixel ∧ Node.headedAll (Stylesheet.parse pixel 0).nodes ∧
    WritesReadBack { options := {} } (.parse pixel 0) ∧
    ∃ report out, processSync { options := {} } (.parse pixel 0) = .ok (report, out) ∧
      processTextSync { options := {} } pixel = .ok (report, out.render) ∧
      ∀ next, Node.outlineAll (Stylesheet.parse out.render next).nodes
        = Node.outlineAll out.nodes := by
  have hheaded : Node.headedAll (Stylesheet.parse pixel 0).nodes := by
    rw [parse_pixel]
    rfl
  have hreads := writesReadBack_pixel true
  exact ⟨terminated_pixel, hheaded, hreads,
    outlineAll_parse_render rfl terminated_pixel hheaded hreads⟩

/-- A text in which a backslash is referred to. -/
def backslash : String := ":root\x7b--a:\\\n\x7d.x\x7bcolor:var(--a)\x7d"

lemma parse_backslash : Stylesheet.parse backslash 0
    = hostAndRule (definitionOf "\\" "\n") [colorOf 3 "var(--a)"] := by
  refine (parse_of_reads (by cbv) (reads_rule rfl rfl rfl rfl ?_ <|
    reads_rule rfl rfl rfl rfl ?_ .nil) _).trans rfl
  all_goals simp [isSemicolon]

/-- A copy that ends in a backslash runs into the declaration behind it: two declarations are read
back as one. -/
theorem outlineAll_parse_render_backslash_ne :
    Terminated backslash ∧ Node.headedAll (Stylesheet.parse backslash 0).nodes ∧
    ∃ report out, processSync { options := {} } (.parse backslash 0) = .ok (report, out) ∧
      processTextSync { options := {} } backslash = .ok (report, out.render) ∧
      Node.outlineAll (Stylesheet.parse out.render 0).nodes ≠ Node.outlineAll out.nodes := by
  have hpass : processSync { options := {} } (.parse backslash 0)
      = .ok ({ collected := 1, updated := 1 }, hostAndRule (definitionOf "\\" "\n")
        [(colorOf 3 "var(--a)").withValue 4 "\\", colorOf 3 "var(--a)"]) := by
    have hresolved : resolveText (defining (definitionOf "\\" "\n")) "var(--a)" = "\\" := by cbv
    have hvalue : (colorOf 3 "var(--a)").updated? (defining (definitionOf "\\" "\n")) .empty
        = some "\\" := updated?_colorOf (by decide) (by decide) hresolved (by decide)
    rw [parse_backslash]
    exact processSync_hostAndRule (d := definitionOf "\\" "\n") (e := colorOf 3 "var(--a)") true rfl
      (by decide) hvalue
  have hagain : Stylesheet.parse (hostAndRule (definitionOf "\\" "\n")
        [(colorOf 3 "var(--a)").withValue 4 "\\", colorOf 3 "var(--a)"]).render 0
      = hostAndRule (definitionOf "\\" "\n") [colorOf 3 "\\;color:var(--a)"] := by
    have hrender : (hostAndRule (definitionOf "\\" "\n")
        [(colorOf 3 "var(--a)").withValue 4 "\\", colorOf 3 "var(--a)"]).render
        = ":root\x7b--a:\\\n\x7d.x\x7bcolor:\\;color:var(--a)\x7d" := rfl
    rw [hrender]
    refine (parse_of_reads (by cbv) (reads_rule rfl rfl rfl rfl ?_ <|
      reads_rule rfl rfl rfl rfl ?_ .nil) _).trans rfl
    all_goals simp [isSemicolon]
  refine ⟨?_, ?_, _, _, hpass, ?_, ?_⟩
  · refine terminated_of_components [_, _, _, _, _] (by cbv) ?_ ?_ <;> simp
  · rw [parse_backslash]
    rfl
  · rw [processTextSync, hpass]
    rfl
  · rw [hagain]
    simp [hostAndRule, Node.outlineAll, Node.outline]

end Pipeline

end CustomProperties
