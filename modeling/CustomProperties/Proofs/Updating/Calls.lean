import CustomProperties.Proofs.Exporting.Lines
import CustomProperties.Proofs.Lexing.Neighbours
import CustomProperties.Proofs.Lexing.OpenBrackets
import CustomProperties.Proofs.Reprint.Passes
import CustomProperties.Proofs.Updating.TrailingComment
import CustomProperties.Update
import CustomProperties.Value.Parser
import Mathlib.Tactic.Common

/-!
# References and calls of `var` in a text

A value whose text holds no call of `var` is not resolved. Each reference among the tokens of a
value is read from some place of its text (`Value.Place`). If it is written `var(` there, does not
stand right behind the mark `<!--`, and has a closing bracket somewhere behind it, the text holds a
call (`Place.IsCall.mayRefer_eq`). Upper-case letters and escapes make references that are no calls.
-/

namespace CustomProperties

open Css (Bracket Component Lexeme lex components)
open Text (isWord)

/-! ### References at every depth -/

namespace ValueNode

mutual

/-- The references in a token, those in the arguments of other references too. -/
def references : ValueNode → List ValueNode
  | word .. => []
  | comma _ => []
  | comment .. => []
  | function before name args after closed =>
    (if (function before name args after closed).isReference then
      [function before name args after closed] else []) ++ referencesAll args
  | block _ _ nodes _ _ => referencesAll nodes

/-- The references in a sequence of tokens. -/
def referencesAll : List ValueNode → List ValueNode
  | [] => []
  | n :: ns => n.references ++ referencesAll ns

end

@[simp] lemma referencesAll_nil : referencesAll [] = [] := by rw [referencesAll]

@[simp] lemma referencesAll_cons (n : ValueNode) (ns : List ValueNode) :
    referencesAll (n :: ns) = n.references ++ referencesAll ns := by
  rw [referencesAll]

end ValueNode

open ValueNode

/-! ### Places -/

namespace Css.Component

variable {c : Component} {cs : List Component} {front back : List Lexeme} {outer : Option Bracket}
  {opened : List Bracket}

/-- A component stands in a sequence, at any depth, with the lexemes `front` before it and `back`
behind it. -/
inductive Stands (c : Component) : List Lexeme → List Lexeme → List Component → Prop where
  | here (cs : List Component) : Stands c [] (lexemesAll cs) (c :: cs)
  | behind {front back : List Lexeme} {cs : List Component} (b : Component)
      (h : Stands c front back cs) : Stands c (b.lexemes ++ front) back (b :: cs)
  | inside {front back : List Lexeme} {contents : List Component} (opener : Lexeme)
      (bracket : Bracket) (closer : Option Lexeme) (cs : List Component)
      (h : Stands c front back contents) :
      Stands c (opener :: front) (back ++ closer.toList ++ lexemesAll cs)
        (block opener bracket contents closer :: cs)

lemma Stands.lexemesAll_eq (h : Stands c front back cs) :
    lexemesAll cs = front ++ c.lexemes ++ back := by
  induction h with
  | here => simp
  | behind b _ ih => simp [ih]
  | inside _ _ _ _ _ ih => simp [ih]

/-- The first of some components is closed, or it is the last one and leaves brackets open. -/
lemma LeavesOpen.of_cons (h : LeavesOpen outer (c :: cs) opened) :
    (Fits outer c ∨ ∃ opener bracket contents, c = block opener bracket contents Option.none ∧
      ∃ inner, LeavesOpen (some bracket) contents inner) ∧ ∃ rest, LeavesOpen outer cs rest := by
  generalize hall : c :: cs = all at h
  cases h with
  | none hcs =>
    subst hall
    rw [List.forall_mem_cons] at hcs
    exact ⟨.inl hcs.1, [], .none hcs.2⟩
  | @last _ front contents opener bracket opened hfront hopens hcontents =>
    cases front with
    | nil =>
      obtain ⟨rfl, rfl⟩ : c = block opener bracket contents Option.none ∧ cs = [] := by simpa using hall
      exact ⟨.inr ⟨_, _, _, rfl, _, hcontents⟩, [], .none (by simp)⟩
    | cons d front =>
      obtain ⟨rfl, rfl⟩ : c = d ∧ cs = front ++ [block opener bracket contents Option.none] := by
        simpa using hall
      rw [List.forall_mem_cons] at hfront
      exact ⟨.inl hfront.1, _, .last hfront.2 hopens hcontents⟩

/-- A bracket that is closed is closed by its own mark. -/
lemma Stands.closes {opener closer : Lexeme} {bracket : Bracket} {contents : List Component}
    (h : Stands (block opener bracket contents (some closer)) front back cs)
    (hcs : LeavesOpen outer cs opened) :
    opener.token.opens? = some bracket ∧ closer.token.closes bracket = true := by
  induction h generalizing outer opened with
  | here =>
    rcases hcs.of_cons.1 with hfits | ⟨_, _, _, heq, -⟩
    · cases hfits with
      | block hopens _ hcloses => exact ⟨hopens, hcloses⟩
    · simp at heq
  | behind b _ ih =>
    obtain ⟨rest, hrest⟩ := hcs.of_cons.2
    exact ih hrest
  | inside _ bracket _ _ _ ih =>
    rcases hcs.of_cons.1 with hfits | ⟨_, _, _, heq, _, hinner⟩
    · cases hfits with
      | block _ hcontents _ => exact ih (.none hcontents)
    · cases heq
      exact ih hinner

end Css.Component

open Css.Component

namespace Value

/-- Where a function that is read as a token stands in a text: what opens it, what it holds, what
closes it, and the lexemes before and behind it. -/
structure Place (text : String) (n : ValueNode) where
  front : List Lexeme
  opener : Lexeme
  bracket : Bracket
  contents : List Component
  closer : Option Lexeme
  back : List Lexeme
  stands : Stands (block opener bracket contents closer) front back (components text.toList)
  reads : ∃ before, (ofComponentsAfter before [block opener bracket contents closer]).nodes = [n]

variable {text : String} {n : ValueNode}

lemma exists_ofComponentsAfter_block (before : List Char) (opener : Lexeme) (bracket : Bracket)
    (contents : List Component) (closer : Option Lexeme) :
    ∃ m, (ofComponentsAfter before [block opener bracket contents closer]).nodes = [m] := by
  simp [ofComponentsAfter]

/-- What is read from a single lexeme is no reference. -/
lemma referencesAll_ofComponentsAfter_token (before : List Char) (l : Lexeme)
    (rest : List Component) :
    ∃ space, referencesAll (ofComponentsAfter before (token l :: rest)).nodes
      = referencesAll (ofComponentsAfter space rest).nodes := by
  cases htoken : l.token with
  | blank => exact ⟨before ++ l.text, by simp [ofComponentsAfter, htoken]⟩
  | _ => exact ⟨[], by simp [ofComponentsAfter, htoken, references]⟩

/-- What is read from a function or bracket is a reference, or the references are all in it. -/
lemma referencesAll_ofComponentsAfter_block (before : List Char) (opener : Lexeme)
    (bracket : Bracket) (contents : List Component) (closer : Option Lexeme)
    (rest : List Component) :
    referencesAll (ofComponentsAfter before (block opener bracket contents closer :: rest)).nodes
      = (ofComponentsAfter before [block opener bracket contents closer]).nodes.filter (·.isReference)
        ++ referencesAll (ofComponentsAfter [] contents).nodes
        ++ referencesAll (ofComponentsAfter [] rest).nodes := by
  cases htoken : opener.token with
  | function name =>
    simp only [ofComponentsAfter, htoken, referencesAll_cons, references, List.filter_cons,
      List.filter_nil]
  | _ => simp [ofComponentsAfter, htoken, references, isReference]

/-- Each reference is read from some function. -/
lemma exists_stands_of_mem_referencesAll {before : List Char} {cs : List Component}
    (hn : n ∈ referencesAll (ofComponentsAfter before cs).nodes) :
    n.isReference ∧ ∃ opener bracket contents closer front back,
      Stands (block opener bracket contents closer) front back cs ∧
      ∃ space, (ofComponentsAfter space [block opener bracket contents closer]).nodes = [n] := by
  match cs with
  | [] => simp [ofComponentsAfter] at hn
  | Component.token l :: rest =>
    obtain ⟨space, hspace⟩ := referencesAll_ofComponentsAfter_token before l rest
    obtain ⟨href, opener, bracket, contents, closer, front, back, hstands, hreads⟩ :=
      exists_stands_of_mem_referencesAll (hspace ▸ hn)
    exact ⟨href, opener, bracket, contents, closer, _, _, .behind _ hstands, hreads⟩
  | Component.block opener bracket contents closer :: rest =>
    rw [referencesAll_ofComponentsAfter_block, List.mem_append, List.mem_append] at hn
    rcases hn with (hhere | hinside) | hbehind
    · rw [List.mem_filter] at hhere
      refine ⟨hhere.2, opener, bracket, contents, closer, _, _, .here rest, before, ?_⟩
      obtain ⟨m, hm⟩ := exists_ofComponentsAfter_block before opener bracket contents closer
      rw [hm, List.mem_singleton] at hhere
      rw [hm, hhere.1]
    · obtain ⟨href, o, b, inner, c, front, back, hstands, hreads⟩ :=
        exists_stands_of_mem_referencesAll hinside
      exact ⟨href, o, b, inner, c, _, _, .inside _ _ _ _ hstands, hreads⟩
    · obtain ⟨href, o, b, inner, c, front, back, hstands, hreads⟩ :=
        exists_stands_of_mem_referencesAll hbehind
      exact ⟨href, o, b, inner, c, _, _, .behind _ hstands, hreads⟩

lemma nonempty_place (hn : n ∈ referencesAll (Value.parse text).nodes) : Nonempty (Place text n) := by
  obtain ⟨-, opener, bracket, contents, closer, front, back, hstands, hreads⟩ :=
    exists_stands_of_mem_referencesAll hn
  exact ⟨⟨front, opener, bracket, contents, closer, back, hstands, hreads⟩⟩

lemma not_isWord_of_isNameChar {c : Char} (h : Css.isNameChar c = false) :
    isWord c = false ∧ c ≠ '-' := by
  constructor
  · by_contra hword
    rw [Bool.not_eq_false] at hword
    rw [Css.isNameChar_of_isWord hword] at h
    cases h
  · rintro rfl
    exact absurd h (by decide)

namespace Place

variable (place : Place text n)

lemma lex_eq : lex text.toList = place.front ++
    place.opener :: (lexemesAll place.contents ++ place.closer.toList ++ place.back) := by
  have hlexemes := place.stands.lexemesAll_eq
  rw [Css.lexemesAll_components] at hlexemes
  simp [hlexemes]

lemma toList_eq : text.toList = Lexeme.textOf place.front ++ (place.opener.text ++
    (textOf place.contents ++ (Lexeme.textOf place.closer.toList ++ Lexeme.textOf place.back))) := by
  rw [← Css.textOf_lex text.toList, place.lex_eq]
  simp [textOf_lexemesAll]

/-- A reference is a function that holds something. -/
lemma opens?_of_isReference (hn : n.isReference) :
    place.opener.token.opens? = some .round ∧ textOf place.contents ≠ [] := by
  obtain ⟨before, hreads⟩ := place.reads
  cases htoken : place.opener.token with
  | function name =>
    simp only [ofComponentsAfter, htoken, List.cons.injEq, and_true] at hreads
    refine ⟨rfl, fun hempty => ?_⟩
    have hargs : (ofComponentsAfter [] place.contents).nodes ≠ [] := by
      intro hnil
      simp [← hreads, isReference, hnil] at hn
    have hcontents : place.contents ≠ [] := by
      intro hnil
      simp [hnil, ofComponentsAfter] at hargs
    obtain ⟨l, ls, hls⟩ := List.exists_cons_of_ne_nil (lexemesAll_ne_nil hcontents)
    have hl : l ∈ lex text.toList := by simp [place.lex_eq, hls]
    rw [← textOf_lexemesAll, hls, Lexeme.textOf_cons, List.append_eq_nil_iff] at hempty
    exact Css.ne_nil_of_mem_lex hl hempty.1
  | _ =>
    simp only [ofComponentsAfter, htoken, List.cons.injEq, and_true] at hreads
    simp [← hreads, isReference] at hn

/-- The place of a reference is a call that the text test finds: it is written `var(` and does not
stand right behind the mark `<!--`, and it is closed or some closing bracket stands behind its first
character. -/
structure IsCall : Prop where
  opener : place.opener.text = ['v', 'a', 'r', '(']
  apart : ∀ l ∈ place.front.getLast?, l.text ≠ ['<', '!', '-', '-']
  ended : place.closer.isSome ∨
    ')' ∈ (textOf place.contents ++ Lexeme.textOf place.back).drop 1

variable {place}

lemma IsCall.mem_closing (h : place.IsCall) (hn : n.isReference) :
    ')' ∈ (textOf place.contents ++
      (Lexeme.textOf place.closer.toList ++ Lexeme.textOf place.back)).drop 1 := by
  obtain ⟨hopens, hne⟩ := place.opens?_of_isReference hn
  cases hcloser : place.closer with
  | none => simpa [hcloser] using h.ended
  | some closer =>
    have hmem : closer ∈ lex text.toList := by simp [place.lex_eq, hcloser]
    obtain ⟨hbracket, hcloses⟩ :=
      (hcloser ▸ place.stands).closes (Css.leavesOpen_components text.toList)
    have hround : place.bracket = .round := Option.some.inj (hbracket.symm.trans hopens)
    have htext : closer.text = [')'] := by
      rw [Css.Lexeme.text_eq_of_closes (Css.spelled_of_mem_lex hmem) hcloses, hround]
      rfl
    obtain ⟨c, rest, hcontents⟩ := List.exists_cons_of_ne_nil hne
    simp [hcontents, htext]

/-- The lexeme before a call would have taken the call in if it ended in a character of a name. -/
lemma IsCall.not_isWord (h : place.IsCall) :
    ∀ c ∈ (Lexeme.textOf place.front).getLast?, isWord c = false ∧ c ≠ '-' := by
  rcases place.front.eq_nil_or_concat with hfront | ⟨ls, l, hfront⟩
  · simp [hfront]
  · have hlex := place.lex_eq
    rw [hfront, List.concat_eq_append, List.append_assoc, List.singleton_append] at hlex
    have hmark : l.text ≠ ['<', '!', '-', '-'] := h.apart l (by simp [hfront])
    rcases (Css.apart_of_lex hlex).resolve_right hmark with hends | hbreak
    · obtain ⟨c, hc, hname⟩ := hends.append (Lexeme.textOf ls)
      have htext : Lexeme.textOf place.front = Lexeme.textOf ls ++ l.text := by simp [hfront]
      intro d hd
      rw [htext] at hd
      obtain rfl : d = c := Option.mem_unique hd hc
      exact not_isWord_of_isNameChar hname
    · -- the call itself starts a name
      have hstart := hbreak 'v' (by simp [h.opener])
      exact absurd hstart (by decide)

end Place

end Value

/-! ### The text test -/

lemma mentionsCall_append {front text : List Char} {fresh : Bool}
    (hfront : ∀ c ∈ front.getLast?, isWord c = false ∧ c ≠ '-')
    (hfresh : front = [] → fresh = true) (htext : mentionsCall true text = true) :
    mentionsCall fresh (front ++ text) = true := by
  induction front generalizing fresh with
  | nil => simpa [hfresh rfl] using htext
  | cons c front ih =>
    rw [List.cons_append, mentionsCall, Bool.or_eq_true]
    right
    apply ih
    · intro d hd
      exact hfront d (by simp [List.getLast?_cons, Option.mem_def.1 hd])
    · rintro rfl
      have hc := hfront c rfl
      simp [hc]

lemma mentionsCall_var {text : List Char} (h : ')' ∈ text.drop 1) :
    mentionsCall true ('v' :: 'a' :: 'r' :: '(' :: text) = true := by
  cases text with
  | nil => simp at h
  | cons c rest => simp_all [mentionsCall, startsCall]

/-- The text of a value tells that it holds a reference that is written as a call. -/
lemma Value.Place.IsCall.mayRefer_eq {text : String} {n : ValueNode} {place : Value.Place text n}
    (h : place.IsCall) (hn : n.isReference) : mayRefer text = true := by
  rw [mayRefer, place.toList_eq, h.opener]
  exact mentionsCall_append h.not_isWord (fun _ => rfl) (mentionsCall_var (h.mem_closing hn))

/-- A declaration with a reference in its value is resolved, unless it is ignored or a definition, if
the reference is written as a call. Every reference has a place in the text of the value where to
look for that, at whatever depth it stands. -/
theorem Declaration.updated?_of_reference (table : PropertyTable) {ignored : IgnoreSet}
    {d : Declaration} {n : ValueNode} (hignored : ignored.contains d.id = false)
    (hprop : isCustomProperty d.prop = false)
    (hn : n ∈ referencesAll (Value.parse d.value).nodes) :
    Nonempty (Value.Place d.value n) ∧
    ∀ place : Value.Place d.value n, place.IsCall →
      mayRefer d.value = true ∧
      d.updated? table ignored =
        let (body, ending) := splitTrailingComment d.value
        let resolved := resolveText table body
        if resolved = body then none else some (resolved ++ ending) := by
  refine ⟨Value.nonempty_place hn, fun place hcall => ?_⟩
  have hmay : mayRefer d.value = true :=
    hcall.mayRefer_eq (Value.exists_stands_of_mem_referencesAll hn).1
  refine ⟨hmay, ?_⟩
  simp [Declaration.updated?, resolvedValue?, hignored, hprop, hmay]

/-- A call inside of another function. -/
theorem Declaration.updated?_of_reference_nested :
    let n : ValueNode := .function " " "var" [.word "" "--a"] "" true
    let d := colorOf 3 "calc(2px + var(--a))"
    IgnoreSet.empty.contains d.id = false ∧ isCustomProperty d.prop = false ∧
      n ∈ referencesAll (Value.parse d.value).nodes ∧
      (∃ place : Value.Place d.value n, place.IsCall) ∧
      d.updated? oneLength .empty = some "calc(2px + 1px)" := by
  intro n d
  have hprop : isCustomProperty d.prop = false := by decide
  have hreferences : referencesAll (Value.parse d.value).nodes = [n] := by cbv
  have hn : n ∈ referencesAll (Value.parse d.value).nodes := by simp [hreferences]
  have hcomponents : components d.value.toList
      = [block ⟨.function "calc", "calc(".toList⟩ .round
          [token ⟨.literal, "2px".toList⟩, token ⟨.blank, " ".toList⟩, token ⟨.literal, "+".toList⟩,
            token ⟨.blank, " ".toList⟩,
            block ⟨.function "var", "var(".toList⟩ .round [token ⟨.ident "--a", "--a".toList⟩]
              (some ⟨.closing .round, ")".toList⟩)]
          (some ⟨.closing .round, ")".toList⟩)] := by cbv
  have hstands := Stands.inside ⟨.function "calc", "calc(".toList⟩ .round
    (some ⟨.closing .round, ")".toList⟩) [] <|
    .behind (token ⟨.literal, "2px".toList⟩) <| .behind (token ⟨.blank, " ".toList⟩) <|
    .behind (token ⟨.literal, "+".toList⟩) <| .behind (token ⟨.blank, " ".toList⟩) <|
    .here (c := block ⟨.function "var", "var(".toList⟩ .round [token ⟨.ident "--a", "--a".toList⟩]
      (some ⟨.closing .round, ")".toList⟩)) []
  let place : Value.Place d.value n :=
    ⟨_, _, _, _, _, _, hcomponents ▸ hstands, [' '], by cbv⟩
  have hcall : place.IsCall := ⟨rfl, by simp [place], .inl rfl⟩
  have hsplit : splitTrailingComment d.value = ("calc(2px + var(--a))", "") := by decide
  have hresolved : resolveText oneLength "calc(2px + var(--a))" = "calc(2px + 1px)" := by cbv
  refine ⟨rfl, hprop, hn, ⟨place, hcall⟩, ?_⟩
  rw [((Declaration.updated?_of_reference oneLength rfl hprop hn).2 place hcall).2, hsplit]
  simp [hresolved]

/-- The letters of a reference may be of either case, those of a call may not. -/
theorem Declaration.updated?_of_reference_upperCase_ne :
    let n : ValueNode := .function "" "VAR" [.word "" "--a"] "" true
    let d := colorOf 3 "VAR(--a)"
    n ∈ referencesAll (Value.parse d.value).nodes ∧
      oneLength.substitution [] n.children = .stored "--a" [.word "" "1px"] ∧
      resolveText oneLength d.value = "1px" ∧
      IgnoreSet.empty.contains d.id = false ∧ isCustomProperty d.prop = false ∧
      mayRefer d.value = false ∧ d.updated? oneLength .empty = none := by
  intro n d
  have hreferences : referencesAll (Value.parse d.value).nodes = [n] := by cbv
  have hmay : mayRefer d.value = false := by decide
  refine ⟨by simp [hreferences], by cbv, by cbv, rfl, by decide, hmay, ?_⟩
  simp [Declaration.updated?, resolvedValue?, hmay]

end CustomProperties
