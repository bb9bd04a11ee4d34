import CustomProperties.Directive
import CustomProperties.Proofs.Lexing.Locality
import Mathlib.Tactic.Common

/-!
# Directives and stops

No directive goes across a stop, and what comes behind the end of its last word does not matter from
a stop on. So a text switches resolution off if one of the pieces does that stops cut it into
(`switchesOff_append`).
-/

namespace CustomProperties.Directive

open Css (isStop EndsInStop)
open Text (trimStart isBlank isWord endsWord)

variable {word text rest : List Char} {stop : Char}

/-- A word without a letter that matches a stop is found before the stop or not at all. -/
lemma dropWord?_append_stop (hword : ∀ letter ∈ word, matchesLetter letter stop = false) :
    dropWord? word (text ++ stop :: rest) = (dropWord? word text).map (· ++ stop :: rest) := by
  induction word generalizing text with
  | nil => rfl
  | cons letter word ih =>
    rw [List.forall_mem_cons] at hword
    cases text with
    | nil => simp [dropWord?, hword.1]
    | cons c text =>
      rw [List.cons_append, dropWord?, dropWord?, ih hword.2]
      split <;> rfl

lemma trimStart_append_stop (hstop : isStop stop) :
    trimStart (text ++ stop :: rest) = trimStart text ++ stop :: rest := by
  have hblank : isBlank stop = false := by
    rcases Css.eq_of_isStop hstop with rfl | rfl | rfl | rfl <;> rfl
  unfold trimStart
  induction text with
  | nil => simp [hblank]
  | cons c text ih =>
    rw [List.cons_append, List.dropWhile_cons, List.dropWhile_cons, ih]
    split <;> rfl

lemma endsWord_append_stop (hstop : isStop stop) :
    endsWord (text ++ stop :: rest) = endsWord text := by
  cases text with
  | nil => rcases Css.eq_of_isStop hstop with rfl | rfl | rfl | rfl <;> rfl
  | cons => rfl

lemma matchesLetter_name (hstop : isStop stop) :
    ∀ letter ∈ "custom-properties:".toList, matchesLetter letter stop = false := by
  rcases Css.eq_of_isStop hstop with rfl | rfl | rfl | rfl <;> simp [matchesLetter]

lemma matchesLetter_off (hstop : isStop stop) :
    ∀ letter ∈ "off".toList, matchesLetter letter stop = false := by
  rcases Css.eq_of_isStop hstop with rfl | rfl | rfl | rfl <;> simp [matchesLetter]

lemma startsOff_append_stop (text : List Char) (hstop : isStop stop) :
    startsOff (text ++ stop :: rest) = startsOff text := by
  unfold startsOff dropName?
  rw [dropWord?_append_stop (matchesLetter_name hstop)]
  cases dropWord? "custom-properties:".toList text with
  | none => rfl
  | some text =>
    simp only [Option.map_some, Option.bind_some]
    rw [trimStart_append_stop hstop, dropWord?_append_stop (matchesLetter_off hstop)]
    cases dropWord? "off".toList (trimStart text) with
    | none => rfl
    | some text => exact endsWord_append_stop hstop

lemma startsOff_nil : startsOff [] = false := rfl

lemma somewhere_startsOff_append_stop (text rest : List Char) (hstop : isStop stop) :
    somewhere startsOff (text ++ stop :: rest)
      = (somewhere startsOff text || somewhere startsOff rest) := by
  induction text with
  | nil =>
    have hstart : startsOff (stop :: rest) = false := startsOff_append_stop [] hstop
    simp [somewhere, hstart, startsOff_nil]
  | cons c text ih =>
    have hstart : startsOff (c :: (text ++ stop :: rest)) = startsOff (c :: text) :=
      startsOff_append_stop (c :: text) hstop
    rw [List.cons_append, somewhere, somewhere, ih, hstart, Bool.or_assoc]

@[simp] lemma switchesOff_empty : switchesOff "" = false := rfl

/-- A text that ends in a stop has nothing to do with what comes behind it. -/
lemma switchesOff_append {front back : String} (h : EndsInStop front.toList) :
    switchesOff (front ++ back) = (switchesOff front || switchesOff back) := by
  obtain ⟨text, stop, htext, hstop⟩ := h.exists_append
  have hfront := somewhere_startsOff_append_stop text [] hstop
  have hnil : somewhere startsOff [] = false := rfl
  rw [switchesOff, switchesOff, switchesOff, String.toList_append, htext, List.append_assoc,
    List.singleton_append, somewhere_startsOff_append_stop _ _ hstop, hfront, hnil, Bool.or_false]

/-- The mark that closes a block is part of no directive. -/
lemma switchesOff_append_mark (front : String) :
    switchesOff (front ++ "\x7d") = switchesOff front := by
  have hstop : isStop '}' := rfl
  have hfront := somewhere_startsOff_append_stop front.toList [] hstop
  have hnil : somewhere startsOff [] = false := rfl
  rw [hnil, Bool.or_false] at hfront
  rw [switchesOff, switchesOff, String.toList_append]
  exact hfront

end CustomProperties.Directive
