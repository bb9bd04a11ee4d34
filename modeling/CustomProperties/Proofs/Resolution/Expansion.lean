import CustomProperties.Proofs.Resolution.ReferenceGraph
import Mathlib

/-!
# Resolution is expansion

`Expands` says how the references of a sequence are replaced, each one by itself and without
hidden names, and says nothing about an order of replacements. On an acyclic table every sequence
has exactly one expansion, and resolution finds it: no name is hidden where it can be met again,
and the part of a sequence that is resolved anew when a fallback is taken is its own expansion.
-/

namespace CustomProperties

open Relation (ReflTransGen)
open ValueNode

/-- The stored tokens that a reference with these arguments stands for: its first argument is a
word that names an entry. -/
def PropertyTable.storedFor? (table : PropertyTable) (args : List ValueNode) :
    Option (List ValueNode) :=
  (referent? args).bind table.get?

/-- `Expands table nodes out`: replacing the references of `nodes` gives `out`. -/
inductive Expands (table : PropertyTable) : List ValueNode → List ValueNode → Prop where
  | nil : Expands table [] []
  /-- A reference to an entry becomes the expansion of the stored tokens, which first take over
  its white space. -/
  | entry {n : ValueNode} {stored inner rest out : List ValueNode} (h : n.isReference)
      (he : table.storedFor? n.children = some stored)
      (hinner : Expands table (withLeading n.before stored) inner)
      (hrest : Expands table rest out) : Expands table (n :: rest) (inner ++ out)
  /-- A reference to anything else becomes the expansion of its fallback, likewise. -/
  | fallback {n : ValueNode} {inner rest out : List ValueNode} (h : n.isReference)
      (he : table.storedFor? n.children = none) (hf : afterComma n.children ≠ [])
      (hinner : Expands table (withLeading n.before (afterComma n.children)) inner)
      (hrest : Expands table rest out) : Expands table (n :: rest) (inner ++ out)
  /-- Without a fallback it stays as it is, with its arguments. -/
  | stays {n : ValueNode} {rest out : List ValueNode} (h : n.isReference)
      (he : table.storedFor? n.children = none) (hf : afterComma n.children = [])
      (hrest : Expands table rest out) : Expands table (n :: rest) (n :: out)
  /-- Any other function or bracket has its children expanded; other tokens have none. -/
  | other {n : ValueNode} {inner rest out : List ValueNode} (h : ¬ n.isReference)
      (hinner : Expands table n.children inner) (hrest : Expands table rest out) :
      Expands table (n :: rest) (n.withChildren inner :: out)

namespace Expands

variable {table : PropertyTable} {nodes xs ys out : List ValueNode}

/-- A sequence has at most one expansion. -/
lemma unique {out' : List ValueNode} (h : Expands table nodes out)
    (h' : Expands table nodes out') : out = out' := by
  induction h generalizing out' with
  | nil => cases h'; rfl
  | entry href he _ _ ihinner ihrest =>
    cases h' with
    | entry _ he' hinner' hrest' =>
      cases he.symm.trans he'
      rw [ihinner hinner', ihrest hrest']
    | fallback _ he' => cases he.symm.trans he'
    | stays _ he' => cases he.symm.trans he'
    | other hn => exact absurd href hn
  | fallback href he hf _ _ ihinner ihrest =>
    cases h' with
    | entry _ he' => cases he.symm.trans he'
    | fallback _ _ _ hinner' hrest' => rw [ihinner hinner', ihrest hrest']
    | stays _ _ hf' => exact absurd hf' hf
    | other hn => exact absurd href hn
  | stays href he hf _ ihrest =>
    cases h' with
    | entry _ he' => cases he.symm.trans he'
    | fallback _ _ hf' => exact absurd hf hf'
    | stays _ _ _ hrest' => rw [ihrest hrest']
    | other hn => exact absurd href hn
  | other hn _ _ ihinner ihrest =>
    cases h' with
    | entry href => exact absurd href hn
    | fallback href => exact absurd href hn
    | stays href => exact absurd href hn
    | other _ hinner' hrest' => rw [ihinner hinner', ihrest hrest']

lemma append {out' : List ValueNode} (h : Expands table xs out) (h' : Expands table ys out') :
    Expands table (xs ++ ys) (out ++ out') := by
  induction h with
  | nil => exact h'
  | entry h he hinner _ _ ih =>
    rw [List.append_assoc]
    exact .entry h he hinner ih
  | fallback h he hf hinner _ _ ih =>
    rw [List.append_assoc]
    exact .fallback h he hf hinner ih
  | stays h he hf _ ih => exact .stays h he hf ih
  | other h hinner _ _ ih => exact .other h hinner ih

/-- The expansion of two sequences one after the other comes in two parts. -/
lemma of_append (h : Expands table (xs ++ ys) out) :
    ∃ out₁ out₂, out = out₁ ++ out₂ ∧ Expands table xs out₁ ∧ Expands table ys out₂ := by
  induction xs generalizing out with
  | nil => exact ⟨[], out, rfl, .nil, h⟩
  | cons n xs ih =>
    cases h with
    | @entry _ _ inner _ _ href he hinner hrest =>
      obtain ⟨out₁, out₂, rfl, h₁, h₂⟩ := ih hrest
      exact ⟨inner ++ out₁, out₂, by simp, .entry href he hinner h₁, h₂⟩
    | @fallback _ inner _ _ href he hf hinner hrest =>
      obtain ⟨out₁, out₂, rfl, h₁, h₂⟩ := ih hrest
      exact ⟨inner ++ out₁, out₂, by simp, .fallback href he hf hinner h₁, h₂⟩
    | stays href he hf hrest =>
      obtain ⟨out₁, out₂, rfl, h₁, h₂⟩ := ih hrest
      exact ⟨n :: out₁, out₂, rfl, .stays href he hf h₁, h₂⟩
    | @other _ inner _ _ hn hinner hrest =>
      obtain ⟨out₁, out₂, rfl, h₁, h₂⟩ := ih hrest
      exact ⟨n.withChildren inner :: out₁, out₂, rfl, .other hn hinner h₁, h₂⟩

/-- An expansion is its own expansion: what is left in it are references that stay. -/
lemma idempotent (h : Expands table nodes out) : Expands table out out := by
  induction h with
  | nil => exact .nil
  | entry _ _ _ _ ihinner ihrest => exact ihinner.append ihrest
  | fallback _ _ _ _ _ ihinner ihrest => exact ihinner.append ihrest
  | stays h he hf _ ih => exact .stays h he hf ih
  | @other n inner rest out hn hinner _ ihinner ih =>
    have hnil : n.children = [] → inner = [] := by
      intro hc
      rw [hc] at hinner
      cases hinner
      rfl
    have hfix : Expands table (n.withChildren inner).children inner := by
      rwa [children_withChildren hnil]
    simpa using Expands.other (not_isReference_withChildren hn hnil) hfix ih

end Expands

/-! ### Acyclic tables -/

namespace PropertyTable

variable {table : PropertyTable} {hidden : List String} {n : ValueNode}
  {args nodes : List ValueNode} {name : String}

/-- No hidden name can be reached from a name. -/
def Apart (table : PropertyTable) (hidden : List String) (m : String) : Prop :=
  ∀ name ∈ hidden, ¬ ReflTransGen table.Refers m name

/-- On an acyclic table a name does not come back below itself, so that hiding it hides nothing
from its own tokens. -/
lemma confines_apart (hacyclic : table.Acyclic) : table.Confines table.Apart where
  stored := by
    intro hidden name nodes hname hg m hm h hh path
    have edge : table.Refers name m := ⟨nodes, hg, hm⟩
    rcases List.mem_cons.1 hh with rfl | hh
    · exact hacyclic h (.head' edge path)
    · exact hname h hh (.head edge path)
  of_cons := fun hm h hh => hm h (List.mem_cons_of_mem _ hh)

lemma storedFor?_of_stored (hs : table.substitution hidden args = .stored name nodes) :
    table.storedFor? args = some nodes := by
  obtain ⟨hr, -, hg⟩ := of_substitution_eq_stored hs
  simp [storedFor?, hr, hg]

/-- A reference that finds no entry in sight has none at all, if its name is not hidden. -/
lemma storedFor?_of_unknown (hu : table.Unknown hidden n.children) (h : n.isReference)
    (hn : ∀ m ∈ n.mentioned, table.Apart hidden m) : table.storedFor? n.children = none := by
  rw [storedFor?, Option.bind_eq_none_iff]
  intro name hr
  rcases hu name hr with hh | hg
  · exact absurd .refl (hn name (referent_mem_mentioned h hr) name hh)
  · exact hg

/-- Resolution behind a part that is its own expansion adds the expansion of the rest. -/
lemma expands_resolveFrom (hacyclic : table.Acyclic) (hidden : List String) (done : Settled)
    (todo : List ValueNode) (hdone : MentionsOnly (table.Apart hidden) done.1)
    (htodo : MentionsOnly (table.Apart hidden) todo) : Expands table done.1 done.1 →
    ∃ out, Expands table todo out ∧ (resolveFrom table hidden done todo).1 = done.1 ++ out := by
  refine (confines_apart hacyclic).induct ?nil ?stored ?fallback ?stays ?other hidden done todo
    hdone htodo
  case nil =>
    intro hidden done _
    exact ⟨[], .nil, by simp⟩
  case stored =>
    intro hidden done n rest name nodes h hs ihstored ihrest hfix
    -- an expansion is its own expansion: the part that is done stays a fixed point
    obtain ⟨inner, hinner, heq⟩ := ihstored .nil
    change (resolveHiding _ _ _).1 = inner at heq
    obtain ⟨out, hout, hres⟩ := ihrest (hfix.append (heq ▸ hinner.idempotent))
    refine ⟨inner ++ out, .entry h (storedFor?_of_stored hs) hinner hout, ?_⟩
    rw [resolveFrom_stored h hs, hres, Settled.val_append, heq, List.append_assoc]
  case fallback =>
    intro hidden done n rest nodes hn h hs ih hfix
    obtain ⟨hu, hne, rfl⟩ := of_substitution_eq_fallback hs
    obtain ⟨whole, hwhole, hres⟩ := ih .nil
    -- the part that was done comes out as it went in
    obtain ⟨front, tail, rfl, hfront, htail⟩ := hwhole.of_append
    obtain ⟨inner, out, rfl, hinner, hout⟩ := htail.of_append
    cases hfront.unique hfix
    refine ⟨inner ++ out, .fallback h (storedFor?_of_unknown hu h hn) hne hinner hout, ?_⟩
    rw [resolveFrom_fallback h hs]
    exact hres
  case stays =>
    intro hidden done n rest hn h hs ih hfix
    obtain ⟨hu, he⟩ := of_substitution_eq_stays hs
    have hentry := storedFor?_of_unknown hu h hn
    obtain ⟨out, hout, hres⟩ := ih (hfix.append (.stays h hentry he .nil))
    refine ⟨n :: out, .stays h hentry he hout, ?_⟩
    rw [resolveFrom_stays h hs, hres]
    simp
  case other =>
    intro hidden done n rest h ihchildren ih hfix
    obtain ⟨inner, hinner, heq⟩ := ihchildren .nil
    change (resolveHiding _ _ _).1 = inner at heq
    have hhead : Expands table [n] [n.withChildren inner] := .other h hinner .nil
    obtain ⟨out, hout, hres⟩ := ih (hfix.append (by simpa [heq] using hhead.idempotent))
    refine ⟨n.withChildren inner :: out, .other h hinner hout, ?_⟩
    rw [resolveFrom_other h, hres]
    simp [heq]

end PropertyTable

/-- On an acyclic table resolution gives the one expansion that a sequence has. -/
theorem expands_iff_resolve_eq {table : PropertyTable} (hacyclic : table.Acyclic)
    (nodes out : List ValueNode) : Expands table nodes out ↔ resolve table nodes = out := by
  obtain ⟨out', hout, hres⟩ := PropertyTable.expands_resolveFrom hacyclic [] .nil nodes
    mentionsOnly_nil (fun m _ name hname => absurd hname List.not_mem_nil) .nil
  have hresolve : resolve table nodes = out' := hres
  rw [hresolve]
  constructor
  · intro h
    exact hout.unique h
  · rintro rfl
    exact hout

/-- Two entries, one of which refers to the other, also in a fallback. -/
def spacing : PropertyTable where
  entries := [("--gap", [.word "" "4px"]),
    ("--pad", [.function "" "var" [.word "" "--gap"] "" true,
      .function " " "var" [.word "" "--none", .comma "", .word "" "1px",
        .function " " "var" [.word "" "--gap"] "" true] "" true])]

lemma acyclic_spacing : spacing.Acyclic := by
  refine PropertyTable.acyclic_of_rank (fun name => if name = "--pad" then 1 else 0) ?_
  rintro n m ⟨stored, hg, hm⟩
  simp only [PropertyTable.get?, spacing, OrderedMap.get?_cons, OrderedMap.get?_nil] at hg
  split_ifs at hg with hgap hpad
  · cases hg
    simp [mentioned] at hm
  · cases hg
    subst hpad
    simp only [mentionedAll_cons, mentionedAll_nil, mentioned, referent?] at hm
    have hrank : m = "--gap" ∨ m = "--none" ∨ m = "--gap" := by
      simpa [isReference, word?, Text.sameLetters] using hm
    rcases hrank with rfl | rfl | rfl <;> simp

/-- `calc( var(--pad) var(--none))` comes to `calc( 4px 1px 4px var(--none))`. -/
theorem expands_iff_resolve_eq_spacing :
    resolve spacing
        [.function "" "calc" [.function " " "var" [.word "" "--pad"] "" true,
          .function " " "var" [.word "" "--none"] "" true] "" true]
      = [.function "" "calc" [.word " " "4px", .word " " "1px", .word " " "4px",
          .function " " "var" [.word "" "--none"] "" true] "" true] ∧
    Expands spacing
      [.function "" "calc" [.function " " "var" [.word "" "--pad"] "" true,
        .function " " "var" [.word "" "--none"] "" true] "" true]
      [.function "" "calc" [.word " " "4px", .word " " "1px", .word " " "4px",
        .function " " "var" [.word "" "--none"] "" true] "" true] := by
  have hres : resolve spacing
      [.function "" "calc" [.function " " "var" [.word "" "--pad"] "" true,
        .function " " "var" [.word "" "--none"] "" true] "" true]
      = [.function "" "calc" [.word " " "4px", .word " " "1px", .word " " "4px",
          .function " " "var" [.word "" "--none"] "" true] "" true] := by cbv
  exact ⟨hres, (expands_iff_resolve_eq acyclic_spacing _ _).2 hres⟩

end CustomProperties
