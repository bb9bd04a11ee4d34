import CustomProperties.Proofs.Lexing.Joins
import CustomProperties.Proofs.Lexing.Nesting
import CustomProperties.Proofs.Reprint.Alike
import CustomProperties.Proofs.Reprint.Items
import CustomProperties.Proofs.RoundTrip.Items
import CustomProperties.Proofs.Sheet.Ends
import Mathlib.Tactic.Common

/-!
# Trees that read back

A tree reads back if each of its pieces does: a node that a mark ends reads as itself wherever it
stands, and a node that runs on does where a sheet or a block ends. `Printable` asks this of every
node by itself, so that nodes can be taken out, put in and exchanged one by one. The sheets that
texts with closed brackets and ended comments are read as are printable (`Reads.printable`), and
what is read from the text of a printable tree is alike (`Printable.exists_reprint`).
-/

namespace CustomProperties

open Css (AtStop Bracket Component Firm Lexeme Soft lex)
open Css.Component
open Stylesheet (Reads)

/-- The mark that opens a block. -/
def openingMark : Lexeme := ⟨.opening .curly, ['{']⟩

/-- The mark that closes a block. -/
def closingMark : Lexeme := ⟨.closing .curly, ['}']⟩

/-- Lexemes that are read again where the bracket `outer` is closed, or at the end of the text if
there is none. -/
def Closing (outer : Option Bracket) (ls : List Lexeme) : Prop :=
  ∀ s, AtStop s → (outer = none → s = []) → lex (Lexeme.textOf ls ++ s) = ls ++ lex s

/-! ### Pieces -/

/-- The components of a node that holds no others and that a mark ends. -/
structure Piece (outer : Option Bracket) (cs : List Component) (n : Node) : Prop where
  text : textOf cs = n.render.toList
  firm : Firm (lexemesAll cs)
  fits : ∀ c ∈ cs, Fits outer c
  reads : ∃ n', n.SameLeaf n' ∧
    ∀ rest sheet, Reads [] rest sheet → Reads [] (cs ++ rest) (sheet.cons n')

/-- The components of a node that holds no others and that nothing ends. -/
structure LastPiece (outer : Option Bracket) (cs : List Component) (n : Node) : Prop where
  text : textOf cs = n.render.toList
  closing : Closing outer (lexemesAll cs)
  fits : ∀ c ∈ cs, Fits outer c
  reads : ∃ n', n.SameLeaf n' ∧ Reads [] cs ⟨[n'], ""⟩

/-- The components of the head of a node with a block; `make` builds the node from what it holds,
and `make'` the node that is read. -/
structure HeadPiece (outer : Option Bracket) (front : List Component)
    (make make' : List Node → BlockEnd → Node) : Prop where
  text : ∀ body tail, (make body tail).render.toList
    = textOf front ++ '{' :: ((Node.renderAll body).toList ++ tail.render.toList)
  firm : Firm (lexemesAll front ++ [openingMark])
  fits : ∀ c ∈ front, Fits outer c
  reads : ∀ contents closer rest inner sheet, Reads [] contents inner → Reads [] rest sheet →
    Reads [] (front ++ block openingMark .curly contents closer :: rest)
      (sheet.cons (make' inner.nodes (.ofText inner contents closer)))

/-- The components of what follows the last node. -/
structure AfterPiece (outer : Option Bracket) (cs : List Component) (after : String) : Prop where
  text : textOf cs = after.toList
  closing : Closing outer (lexemesAll cs)
  fits : ∀ c ∈ cs, Fits outer c
  reads : Reads [] cs ⟨[], after⟩

/-- A sequence of nodes, and what follows the last one, that reads back piece by piece where `outer`
stands around it. -/
inductive Printable : Option Bracket → List Node → String → Prop where
  | nil {outer : Option Bracket} {after : String} (hafter : ∃ cs, AfterPiece outer cs after) :
      Printable outer [] after
  | last {outer : Option Bracket} {n : Node} (hends : ¬ n.Ended)
      (hpiece : ∃ cs, LastPiece outer cs n) : Printable outer [n] ""
  | leaf {outer : Option Bracket} {n : Node} {ns : List Node} {after : String} (hends : n.Ended)
      (hpiece : ∃ cs, Piece outer cs n) (hrest : Printable outer ns after) :
      Printable outer (n :: ns) after
  | rule {outer : Option Bracket} {head : RuleHead} {body ns : List Node} {tail : BlockEnd}
      {after : String}
      (hhead : ∃ front, HeadPiece outer front (.rule head) (.rule { head with id := 0 }))
      (hclosed : tail.closed) (hbody : Printable (some .curly) body tail.after)
      (hrest : Printable outer ns after) : Printable outer (.rule head body tail :: ns) after
  | atBlock {outer : Option Bracket} {head : AtHead} {body ns : List Node} {tail : BlockEnd}
      {after : String}
      (hhead : ∃ front, HeadPiece outer front (.atBlock head) (.atBlock { head with id := 0 }))
      (hclosed : tail.closed) (hbody : Printable (some .curly) body tail.after)
      (hrest : Printable outer ns after) : Printable outer (.atBlock head body tail :: ns) after

variable {outer : Option Bracket} {gaps front cs rest : List Component} {ls ms : List Lexeme}
  {ns body : List Node} {n : Node} {after : String} {sheet inner : Stylesheet}

/-! ### Lexemes before an end -/

lemma Closing.lex_eq (h : Closing outer ls) : lex (Lexeme.textOf ls) = ls := by
  have hnil := h [] Css.atStop_nil fun _ => rfl
  simpa using hnil

lemma Closing.of_append (h : Closing outer (ls ++ ms)) : Closing outer ms := by
  intro s hs houter
  have hls := h s hs houter
  rw [List.append_assoc] at hls
  have hms := Css.lex_textOf_of_append hls
  rwa [Lexeme.textOf_append, Css.textOf_lex] at hms

lemma Closing.append (hls : Firm ls) (hms : Closing outer ms) : Closing outer (ls ++ ms) := by
  intro s hs houter
  rw [Lexeme.textOf_append, List.append_assoc, hls, hms s hs houter, List.append_assoc]

lemma closing_of_soft (h : Soft ls) : Closing outer ls := fun s hs _ => h s hs

lemma Closing.soft {bracket : Bracket} (h : Closing (some bracket) ls) : Soft ls :=
  fun s hs => h s hs (by simp)

lemma closing_nil : Closing outer [] := fun s _ _ => by simp

/-! ### Reading a printable tree -/

/-- What is read from the text of a sequence of nodes and of what follows them. -/
structure Reprint (outer : Option Bracket) (ns : List Node) (after : String) (cs : List Component)
    (sheet : Stylesheet) : Prop where
  text : textOf cs = (Node.renderAll ns).toList ++ after.toList
  closing : Closing outer (lexemesAll cs)
  fits : ∀ c ∈ cs, Fits outer c
  reads : Reads [] cs sheet
  alike : Alike ns sheet.nodes
  after_eq : sheet.after = after

/-- A block between pieces that read back reads back. -/
lemma HeadPiece.reprint {make make' : List Node → BlockEnd → Node} {tail : BlockEnd}
    (hhead : HeadPiece outer front make make') (hclosed : tail.closed)
    (hbody : Reprint (some .curly) body tail.after rest inner)
    (hrest : Reprint outer ns after cs sheet)
    (halike : Alike (make body tail :: ns) (make' inner.nodes tail :: sheet.nodes)) :
    Reprint outer (make body tail :: ns) after
      (front ++ block openingMark .curly rest (some closingMark) :: cs)
      (sheet.cons (make' inner.nodes tail)) := by
  have htail : BlockEnd.ofText inner rest (some closingMark) = tail := by
    rw [BlockEnd.ofText, hbody.after_eq]
    cases tail
    simp_all [countsAsClosed]
  have hlexemes : lexemesAll (front ++ block openingMark .curly rest (some closingMark) :: cs)
      = (lexemesAll front ++ [openingMark])
        ++ (lexemesAll rest ++ closingMark :: lexemesAll cs) := by
    simp
  refine ⟨?_, ?_, ?_, ?_, halike, hrest.after_eq⟩
  · have hmark : tail.render.toList = tail.after.toList ++ ['}'] := by
      simp [BlockEnd.render, hclosed]
    rw [Node.renderAll_cons, String.toList_append, hhead.text, hmark]
    simp [hbody.text, hrest.text, openingMark, closingMark]
  · rw [hlexemes]
    refine Closing.append hhead.firm fun s hs houter => ?_
    have hinner := hbody.closing.soft.firm Css.final_closing
    rw [← List.singleton_append, ← List.append_assoc]
    exact Closing.append hinner hrest.closing s hs houter
  · rw [List.forall_mem_append, List.forall_mem_cons]
    exact ⟨hhead.fits, .block rfl hbody.fits rfl, hrest.fits⟩
  · have hreads := hhead.reads rest (some closingMark) cs inner sheet hbody.reads hrest.reads
    rwa [htail] at hreads

/-- What is read from the text of a printable tree is alike. -/
lemma Printable.exists_reprint (h : Printable outer ns after) :
    ∃ cs sheet, Reprint outer ns after cs sheet := by
  induction h with
  | nil hafter =>
    obtain ⟨cs, hafter⟩ := hafter
    exact ⟨cs, _, by simpa using hafter.text, hafter.closing, hafter.fits, hafter.reads, .nil, rfl⟩
  | last _ hpiece =>
    obtain ⟨cs, hpiece⟩ := hpiece
    obtain ⟨n', hleaf, hreads⟩ := hpiece.reads
    exact ⟨cs, _, by simpa using hpiece.text, hpiece.closing, hpiece.fits, hreads,
      .leaf hleaf .nil, rfl⟩
  | leaf _ hpiece _ ih =>
    obtain ⟨front, hpiece⟩ := hpiece
    obtain ⟨n', hleaf, hreads⟩ := hpiece.reads
    obtain ⟨cs, sheet, hrest⟩ := ih
    refine ⟨front ++ cs, sheet.cons n', ?_, ?_, ?_, hreads _ _ hrest.reads,
      .leaf hleaf hrest.alike, hrest.after_eq⟩
    · simp [hpiece.text, hrest.text]
    · rw [lexemesAll_append]
      exact .append hpiece.firm hrest.closing
    · exact List.forall_mem_append.2 ⟨hpiece.fits, hrest.fits⟩
  | rule hhead hclosed _ _ ihbody ih =>
    obtain ⟨front, hhead⟩ := hhead
    obtain ⟨contents, inner, hbody⟩ := ihbody
    obtain ⟨cs, sheet, hrest⟩ := ih
    exact ⟨_, _, hhead.reprint hclosed hbody hrest (.rule 0 hbody.alike hrest.alike)⟩
  | atBlock hhead hclosed _ _ ihbody ih =>
    obtain ⟨front, hhead⟩ := hhead
    obtain ⟨contents, inner, hbody⟩ := ihbody
    obtain ⟨cs, sheet, hrest⟩ := ih
    exact ⟨_, _, hhead.reprint hclosed hbody hrest (.atBlock 0 hbody.alike hrest.alike)⟩

end CustomProperties
