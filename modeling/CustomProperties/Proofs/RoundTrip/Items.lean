import CustomProperties.Proofs.RoundTrip.Grammar
import Mathlib.Data.List.TakeWhile
import Mathlib.Tactic.Common

/-!
# Printing heads and declarations

The fields of a head and of a declaration are pieces of the text they were read from, one after the
other, so that printing them gives that text.
-/

namespace CustomProperties

open Text (trimEnd trimStart trailingBlanks isBlank)

/-! ### Heads -/

lemma toList_render_ruleHead (before selector : List Char) :
    (RuleHead.ofText before selector).render.toList = before ++ selector := by
  simp [RuleHead.render, RuleHead.ofText]

lemma toList_render_atHead (before params name : List Char) :
    (AtHead.ofText before ('@' :: name) params).render.toList
      = before ++ '@' :: (name ++ params) := by
  simp [AtHead.render, AtHead.ofText]

/-! ### Declarations -/

/-- Cutting the mark `!important` off cuts a text in two. -/
lemma cutImportant_append (text : List Char) :
    (cutImportant text).1 ++ (cutImportant text).2 = text := by
  unfold cutImportant
  simp only
  split
  · split
    · next front hfront =>
      -- what stands before the mark, read from the end
      have hmark : '!' :: front <:+ text.reverse :=
        hfront ▸ (List.dropWhile_suffix _).trans (List.drop_suffix _ _)
      have hsuffix : front.dropWhile isBlank <:+ text.reverse :=
        ((List.dropWhile_suffix _).trans (List.suffix_cons _ _)).trans hmark
      have hprefix : (front.dropWhile isBlank).reverse <+: text :=
        List.reverse_suffix.1 (by simpa using hsuffix)
      exact (List.prefix_iff_eq_append.1 hprefix)
    · simp
  · simp

/-- The name, the colon with the blanks around it and the rest make up the body of a declaration. -/
lemma exists_between (body : List Char) :
    ∃ between, (if ':' ∈ body then trimEnd (body.takeWhile (· ≠ ':')) else body) ++ between
      ++ trimStart (body.dropWhile (· ≠ ':') |>.drop 1) = body := by
  by_cases h : ':' ∈ body
  · have hne : body.dropWhile (· ≠ ':') ≠ [] := by
      simpa [List.dropWhile_eq_nil_iff] using h
    obtain ⟨c, rest, hrest⟩ := List.exists_cons_of_ne_nil hne
    refine ⟨trailingBlanks (body.takeWhile (· ≠ ':')) ++ c :: rest.takeWhile isBlank, ?_⟩
    calc _ = body.takeWhile (· ≠ ':') ++ c :: (rest.takeWhile isBlank ++ rest.dropWhile isBlank) := by
          rw [if_pos h, hrest, ← List.append_assoc, Text.trimEnd_append_trailingBlanks]
          simp [trimStart]
      _ = body := by rw [List.takeWhile_append_dropWhile, ← hrest, List.takeWhile_append_dropWhile]
  · have hnil : body.dropWhile (· ≠ ':') = [] := by
      rw [List.dropWhile_eq_nil_iff]
      intro c hc
      simpa using fun he : c = ':' => h (he ▸ hc)
    exact ⟨[], by rw [hnil, if_neg h]; simp [trimStart]⟩

/-- The middle of a text, cut out by the lengths of what stands around it. -/
lemma take_drop_of_append_eq {front middle back text : List Char}
    (h : front ++ middle ++ back = text) :
    (text.drop front.length).take (text.length - front.length - back.length) = middle := by
  subst h
  simp

lemma toList_render_declaration (before : String) (text : List Char) (semicolon : Bool) :
    (Declaration.ofText before text semicolon).render.toList
      = before.toList ++ text ++ (if semicolon then [';'] else []) := by
  obtain ⟨between, hbody⟩ := exists_between (trimEnd text)
  have hsemicolon : (if semicolon then ";" else "").toList = if semicolon then [';'] else [] := by
    cases semicolon <;> rfl
  simp only [Declaration.render, Declaration.ofText, String.toList_append, String.toList_ofList,
    take_drop_of_append_eq hbody, hsemicolon]
  generalize trimStart ((trimEnd text).dropWhile (· ≠ ':') |>.drop 1) = rest at hbody ⊢
  generalize (if ':' ∈ trimEnd text then trimEnd ((trimEnd text).takeWhile (· ≠ ':'))
    else trimEnd text) = prop at hbody ⊢
  calc _ = before.toList ++ (prop ++ between ++ ((cutImportant rest).1 ++ (cutImportant rest).2))
          ++ trailingBlanks text ++ (if semicolon then [';'] else []) := by
        simp only [List.append_assoc]
    _ = before.toList ++ (trimEnd text ++ trailingBlanks text)
          ++ (if semicolon then [';'] else []) := by
        rw [cutImportant_append, hbody, List.append_assoc before.toList]
    _ = before.toList ++ text ++ (if semicolon then [';'] else []) := by
        rw [Text.trimEnd_append_trailingBlanks]

end CustomProperties
