import CustomProperties.Format
import CustomProperties.Proofs.Reprint.Rewrites
import CustomProperties.Proofs.Reprint.Values

/-!
# Exported lines

A definition is exported as a line: its name, a colon, the text of its value and a semicolon. The
name is read back wherever such a line stands. The value is read back if it reads by itself as what
it stands for (`Exportable`).
-/

namespace CustomProperties

open Css (Component Lexeme lex)
open Css.Component
open Text (trimEnd trimStart isBlank isWord)

/-! ### Names -/

section

variable {word rest : List Char} {c : Char}

lemma Text.isWord_of_isAlpha (h : c.isAlpha) : isWord c := by
  have hascii : c.toNat < 0x80 := by
    have hcode : c.toNat = c.val.toNat := rfl
    have hupper : 'Z'.val.toNat = 90 := rfl
    have hlower : 'z'.val.toNat = 122 := rfl
    simp only [Char.isAlpha, Char.isUpper, Char.isLower, Bool.or_eq_true, Bool.and_eq_true,
      decide_eq_true_eq, UInt32.le_iff_toNat_le, ge_iff_le] at h
    omega
  simp [isWord, hascii, Char.isAlphanum, h]

/-- The code points of blanks. -/
def Text.blankCodes : List Nat :=
  [9, 10, 11, 12, 13, 0x20, 0x85, 0xA0, 0x1680, 0x2000, 0x2001, 0x2002, 0x2003, 0x2004, 0x2005,
    0x2006, 0x2007, 0x2008, 0x2009, 0x200A, 0x2028, 0x2029, 0x202F, 0x205F, 0x3000]

lemma Text.isBlank_of_isWord (h : isWord c) : isBlank c = false := by
  by_contra hblank
  have hcode : c.toNat ∈ blankCodes := by
    simp only [isBlank, Bool.not_eq_false, Bool.or_eq_true, Bool.and_eq_true, decide_eq_true_eq,
      beq_iff_eq] at hblank
    simp only [blankCodes, List.mem_cons, List.not_mem_nil, or_false]
    omega
  have hnone : ∀ code ∈ blankCodes, isWord (Char.ofNat code) = false := by decide +kernel
  rw [← Char.ofNat_toNat c, hnone _ hcode] at h
  cases h

namespace Css

lemma isNameChar_of_isWord (h : isWord c) : isNameChar c := by
  unfold isWord at h
  split at h
  · simp only [Char.isAlphanum, Bool.or_eq_true, beq_iff_eq] at h
    simp only [isNameChar, isNameStart, isDigit, Bool.or_eq_true]
    rcases h with (h | h) | h
    · exact .inl (.inl (.inl (.inl (.inl h))))
    · exact .inl (.inr h)
    · exact .inl (.inl (.inl (.inl (.inr (by simpa using h)))))
  · next hbeyond =>
    have hstart : 0x80 ≤ c.toNat := Nat.le_of_not_lt hbeyond
    simp [isNameChar, isNameStart, hstart]

/-- A character of a name that stands for itself. -/
def IsPlainName (c : Char) : Prop := isNameChar c ∧ c ≠ '\\' ∧ c ≠ '\x00'

lemma isPlainName_of_isWord (h : isWord c) : IsPlainName c := by
  refine ⟨isNameChar_of_isWord h, ?_, ?_⟩ <;>
  · rintro rfl
    exact absurd h (by decide)

lemma cutName_append (hword : ∀ d ∈ word, IsPlainName d) (hc : isNameChar c = false ∧ c ≠ '\\') :
    cutName (word ++ c :: rest) = (word, c :: rest) := by
  induction word with
  | nil => simp [cutName, hc]
  | cons d word ih =>
    rw [List.forall_mem_cons] at hword
    obtain ⟨⟨hname, hback, -⟩, hword⟩ := hword
    rw [List.cons_append, cutName, if_neg hback, if_pos hname, ih hword]
    rfl

lemma decodeName_eq (hword : ∀ d ∈ word, IsPlainName d) : decodeName word = word :=
  decodeName_of_not_mem (fun h => (hword _ h).2.1 rfl) fun h => (hword _ h).2.2 rfl

end Css

end

lemma exists_of_isCustomProperty {name : String} (h : isCustomProperty name) :
    ∃ c rest, name.toList = '-' :: '-' :: c :: rest ∧ isWord c ∧
      ∀ d ∈ rest, isWord d ∨ d = '-' := by
  unfold isCustomProperty at h
  split at h
  · next c rest hname =>
    simp only [Bool.and_eq_true, Bool.or_eq_true, beq_iff_eq, List.all_eq_true] at h
    obtain ⟨hc, hrest⟩ := h
    refine ⟨c, rest, hname, ?_, hrest⟩
    rcases hc with hc | rfl
    · exact Text.isWord_of_isAlpha hc
    · decide
  · cases h

/-- The name of a custom property holds word characters and hyphens only. -/
lemma isWord_or_of_mem {name : String} (h : isCustomProperty name) :
    ∀ d ∈ name.toList, isWord d ∨ d = '-' := by
  obtain ⟨c, rest, hname, hc, hrest⟩ := exists_of_isCustomProperty h
  rw [hname, List.forall_mem_cons, List.forall_mem_cons, List.forall_mem_cons]
  exact ⟨.inr rfl, .inr rfl, .inl hc, hrest⟩

lemma isPlainName_of_mem {name : String} (h : isCustomProperty name) :
    ∀ d ∈ name.toList, Css.IsPlainName d := by
  intro d hd
  rcases isWord_or_of_mem h d hd with hd | rfl
  · exact Css.isPlainName_of_isWord hd
  · exact ⟨rfl, by decide, by decide⟩

/-- The name of a custom property is read up to the colon behind it. -/
lemma read_name {name : String} (h : isCustomProperty name) {c : Char} {tail : List Char}
    (htext : name.toList = '-' :: '-' :: c :: tail) (rest : List Char) :
    Css.read '-' ('-' :: c :: tail ++ ':' :: rest)
      = ⟨.ident name, (name.toList, ':' :: rest)⟩ := by
  have hplain := isPlainName_of_mem h
  have hcut : Css.cutNameFrom '-' ('-' :: c :: tail ++ ':' :: rest)
      = (name.toList, ':' :: rest) := by
    rw [htext, List.forall_mem_cons] at hplain
    have htail : Css.cutName ('-' :: c :: tail ++ ':' :: rest) = ('-' :: c :: tail, ':' :: rest) :=
      Css.cutName_append hplain.2 (by decide)
    rw [Css.cutNameFrom, if_neg (by decide), htail, htext]
    rfl
  have hclose : ¬ ['-', '>'] <+: '-' :: c :: tail ++ ':' :: rest := by
    simp only [List.cons_append, List.cons_prefix_cons]
    rintro ⟨-, rfl, -⟩
    -- no name holds the end of such a mark
    have hmark := (hplain '>' (by simp [htext])).1
    exact absurd hmark (by decide)
  calc Css.read '-' ('-' :: c :: tail ++ ':' :: rest)
      = Css.readPunctuation '-' ('-' :: c :: tail ++ ':' :: rest) := rfl
    _ = Css.readName '-' ('-' :: c :: tail ++ ':' :: rest) := Css.readPunctuation_hyphen hclose
    _ = ⟨.ident name, (name.toList, ':' :: rest)⟩ := by
      rw [Css.readName, hcut]
      simp [Css.decodeName_eq hplain]

/-- The name of a custom property is read as one word before a colon. -/
lemma lex_name {name : String} (h : isCustomProperty name) (rest : List Char) :
    lex (name.toList ++ ':' :: rest) = ⟨.ident name, name.toList⟩ :: lex (':' :: rest) := by
  obtain ⟨c, tail, htext, -⟩ := exists_of_isCustomProperty h
  rw [htext, List.cons_append, Css.lex_cons, read_name h htext, htext]

/-! ### Values -/

/-- A text that reads, before a semicolon, as the value that it stands for. -/
structure Exportable (value : String) : Prop where
  /-- Its tokens print it, and no comments stand among them. -/
  prints : ValueNode.plainText (Value.parse value).stripped.nodes = value
  /-- It does not end in the mark `!important`. -/
  unmarked : (cutImportant value.toList).2 = []
  /-- A semicolon behind it ends it. -/
  ends : Css.components (value ++ ";").toList
    = Css.components value.toList ++ [token ⟨.semicolon, [';']⟩]
  /-- Outside of brackets it holds nothing that ends a declaration or a block. -/
  inside : ∀ l, token l ∈ Css.components value.toList →
    l.token ≠ .semicolon ∧ l.token.closes .curly = false

lemma Text.trimEnd_trim (text : List Char) : trimEnd (Text.trim text) = Text.trim text := by
  change List.rdropWhile isBlank (Text.trim text) = _
  rw [List.rdropWhile_eq_self_iff]
  intro hne
  have hsuffix : Text.trim text <:+ List.rdropWhile isBlank text := List.dropWhile_suffix _
  have hlast := List.rdropWhile_eq_self_iff.1 (List.rdropWhile_idempotent isBlank text)
  rw [hsuffix.getLast hne]
  exact hlast _

lemma Text.trimStart_trim (text : List Char) : trimStart (Text.trim text) = Text.trim text :=
  List.dropWhile_idempotent _ _

namespace Exportable

variable {name value : String}

lemma trimStart_eq (h : Exportable value) : trimStart value.toList = value.toList := by
  rw [← h.prints, ValueNode.plainText, Text.trimmed, String.toList_ofList]
  exact Text.trimStart_trim _

lemma trimEnd_eq (h : Exportable value) : trimEnd value.toList = value.toList := by
  rw [← h.prints, ValueNode.plainText, Text.trimmed, String.toList_ofList]
  exact Text.trimEnd_trim _

end Exportable

/-- The text of a definition in its line, between the gap before the name and the semicolon. -/
def exportedText (property : String × String) : List Char :=
  property.1.toList ++ ':' :: ' ' :: property.2.toList

section

variable {property : String × String}

lemma trimEnd_name {name : String} (h : isCustomProperty name) :
    trimEnd name.toList = name.toList := by
  change List.rdropWhile isBlank name.toList = _
  rw [List.rdropWhile_eq_self_iff]
  intro hne
  rcases isWord_or_of_mem h _ (List.getLast_mem hne) with hlast | hlast
  · rw [Text.isBlank_of_isWord hlast]
    decide
  · rw [hlast]
    decide

/-- Without the blanks at its end the text of a definition is a name, a colon and a value. -/
lemma exists_trimEnd_exportedText (hvalue : Exportable property.2) :
    ∃ tail, trimEnd (exportedText property) = property.1.toList ++ ':' :: tail ∧
      trimStart tail = property.2.toList := by
  have htext : exportedText property
      = property.1.toList ++ ([':', ' '] ++ property.2.toList) := rfl
  have hcolon : trimEnd [':', ' '] = [':'] := rfl
  rw [htext, trimEnd_append, trimEnd_append, hvalue.trimEnd_eq, hcolon]
  by_cases hempty : property.2.toList = []
  · rw [if_pos hempty, if_neg (List.cons_ne_nil _ _), hempty]
    exact ⟨[], rfl, rfl⟩
  · rw [if_neg hempty, if_neg (by simp)]
    exact ⟨' ' :: property.2.toList, rfl, hvalue.trimStart_eq⟩

/-- The name and the value of a definition are cut out of its line again. -/
lemma ofText_exportedText (hname : isCustomProperty property.1) (hvalue : Exportable property.2)
    (before : String) (semicolon : Bool) :
    (Declaration.ofText before (exportedText property) semicolon).prop = property.1 ∧
    (Declaration.ofText before (exportedText property) semicolon).value = property.2 := by
  obtain ⟨tail, hbody, htail⟩ := exists_trimEnd_exportedText hvalue
  have hcolon : ∀ d ∈ property.1.toList, d ≠ ':' := by
    rintro d hd rfl
    exact absurd (isWord_or_of_mem hname _ hd) (by decide)
  have hfront : (property.1.toList ++ ':' :: tail).takeWhile (· ≠ ':') = property.1.toList := by
    rw [List.takeWhile_append_of_pos (by simpa using hcolon)]
    simp
  have hback : (property.1.toList ++ ':' :: tail).dropWhile (· ≠ ':') = ':' :: tail := by
    rw [List.dropWhile_append_of_pos (by simpa using hcolon)]
    simp
  have hmark := cutImportant_append property.2.toList
  rw [hvalue.unmarked, List.append_nil] at hmark
  constructor
  · simp only [Declaration.ofText, hbody, hfront]
    rw [if_pos (by simp), trimEnd_name hname, String.ofList_toList]
  · simp only [Declaration.ofText, hbody, hback, List.drop_one, List.tail_cons, htail, hmark,
      String.ofList_toList]

/-! ### Components of lines -/

/-- The mark that ends a line. -/
def lineEnd : Component := token ⟨.semicolon, [';']⟩

/-- The components of the text of a definition in its line. -/
def exportedComponents (property : String × String) : List Component :=
  token ⟨.ident property.1, property.1.toList⟩ :: token ⟨.literal, [':']⟩ :: token ⟨.blank, [' ']⟩
    :: Css.components property.2.toList

lemma textOf_exportedComponents :
    textOf (exportedComponents property) = exportedText property := by
  simp [exportedComponents, exportedText]

/-- The gap before a line. -/
def lineGap : Component := token ⟨.blank, ['\n', '\t']⟩

lemma fits_components_append (hvalue : Exportable property.2) :
    ∀ c ∈ Css.components property.2.toList ++ [lineEnd], Fits none c := by
  have hends := hvalue.ends
  rw [lineEnd, ← hends]
  refine Css.fits_components (terminated_of_components _ hends ?_ ?_).closed <;> simp

lemma isBlank_of_isSpace {c : Char} (h : Css.isSpace c) : isBlank c := by
  simp only [Css.isSpace, Css.isNewline, Bool.or_eq_true, beq_iff_eq] at h
  rcases h with (rfl | rfl) | (rfl | rfl) | rfl <;> rfl

/-- The blank before a value goes on with no blank of the value. -/
lemma lex_blank_value (hvalue : Exportable property.2) :
    lex (' ' :: (property.2.toList ++ [';']))
      = ⟨.blank, [' ']⟩ :: lex (property.2.toList ++ [';']) := by
  have hstop : (property.2.toList ++ [';']).takeWhile Css.isSpace = [] ∧
      (property.2.toList ++ [';']).dropWhile Css.isSpace = property.2.toList ++ [';'] := by
    cases htext : property.2.toList with
    | nil => exact ⟨rfl, rfl⟩
    | cons d ds =>
      have hd : isBlank d = false := by
        have htrim := hvalue.trimStart_eq
        rw [htext, trimStart, List.dropWhile_eq_self_iff] at htrim
        have hhead : ¬ isBlank d = true := htrim (by simp)
        simpa using hhead
      have hspace : Css.isSpace d = false := by
        by_contra hspace
        rw [isBlank_of_isSpace (by simpa using hspace)] at hd
        cases hd
      simp [hspace]
  rw [Css.lex_cons, Css.read_of_space rfl, Css.cutWhile, hstop.1, hstop.2]
  rfl

lemma lex_exportedLine (hname : isCustomProperty property.1) (hvalue : Exportable property.2) :
    lex ('\n' :: '\t' :: (exportedText property ++ [';']))
      = lexemesAll (lineGap :: exportedComponents property ++ [lineEnd]) := by
  obtain ⟨c, rest, htext, -⟩ := exists_of_isCustomProperty hname
  have hgap : lex ('\n' :: '\t' :: (exportedText property ++ [';']))
      = ⟨.blank, ['\n', '\t']⟩ :: lex (exportedText property ++ [';']) := by
    rw [exportedText, htext, Css.lex_cons]
    rfl
  have hcolon : lex (':' :: ' ' :: (property.2.toList ++ [';']))
      = ⟨.literal, [':']⟩ :: lex (' ' :: (property.2.toList ++ [';'])) := by
    rw [Css.lex_cons]
    rfl
  have hends : lex (property.2.toList ++ [';'])
      = lexemesAll (Css.components property.2.toList ++ [lineEnd]) := by
    rw [lineEnd, ← hvalue.ends, Css.lexemesAll_components, String.toList_append]
    rfl
  rw [hgap, exportedText, List.append_assoc, List.cons_append, lex_name hname, List.cons_append,
    hcolon, lex_blank_value hvalue, hends]
  simp [lineGap, exportedComponents]

/-- The components of a line. -/
lemma components_exportedLine (hname : isCustomProperty property.1)
    (hvalue : Exportable property.2) :
    Css.components ('\n' :: '\t' :: (exportedText property ++ [';']))
      = [lineGap] ++ (exportedComponents property ++ [lineEnd]) := by
  rw [Css.components, lex_exportedLine hname hvalue, group_lexemesAll]
  · rfl
  · have hfits := fits_components_append hvalue
    simp only [exportedComponents, List.cons_append, List.forall_mem_cons]
    exact ⟨.token rfl (by simp), .token rfl (by simp), .token rfl (by simp), .token rfl (by simp),
      hfits⟩

/-- The declaration that a definition is exported as. -/
def exportedDeclaration (property : String × String) : Declaration :=
  ⟨0, "\n\t", property.1, ": ", property.2, "", "", true⟩

lemma toList_render_exportedDeclaration (property : String × String) :
    (exportedDeclaration property).render.toList
      = '\n' :: '\t' :: (exportedText property ++ [';']) := by
  simp [Declaration.render, exportedDeclaration, exportedText]

lemma itemKind_exportedComponents (hname : isCustomProperty property.1) (rest : List Component) :
    (token ⟨.ident property.1, property.1.toList⟩).itemKind rest = .declaration := by
  obtain ⟨c, tail, htext, -⟩ := exists_of_isCustomProperty hname
  have hcustom : (token ⟨.ident property.1, property.1.toList⟩).isCustomName = true := by
    simp [isCustomName, htext]
  simp [itemKind, startsRule, hcustom]

lemma isSemicolon_exportedComponents (hvalue : Exportable property.2) :
    ∀ c ∈ exportedComponents property, c.isSemicolon = false := by
  rw [exportedComponents, List.forall_mem_cons, List.forall_mem_cons, List.forall_mem_cons]
  refine ⟨rfl, rfl, rfl, ?_⟩
  intro c hc
  cases c with
  | token l => simpa [isSemicolon] using (hvalue.inside l hc).1
  | block => rfl

/-- A line reads as a declaration whatever stands behind it. -/
lemma reads_exportedLine (hname : isCustomProperty property.1) (hvalue : Exportable property.2)
    {rest : List Component} {sheet : Stylesheet} (hrest : Stylesheet.Reads [] rest sheet) :
    Stylesheet.Reads [] ([lineGap] ++ (exportedComponents property ++ lineEnd :: rest))
      (sheet.cons (.declaration (.ofText "\n\t" (exportedText property) true))) := by
  have hgap : ∀ c ∈ [lineGap], c.IsGap := by
    rw [List.forall_mem_singleton]
    exact ⟨_, rfl, .inl rfl⟩
  refine .of_gaps hgap ?_
  rw [← textOf_exportedComponents]
  exact .declaration (itemKind_exportedComponents hname _)
    (show _ = exportedComponents property ++ _ from rfl) (isSemicolon_exportedComponents hvalue) rfl
    hrest

/-- A line reads back by itself. -/
lemma readsBack_exportedDeclaration (hname : isCustomProperty property.1)
    (hvalue : Exportable property.2) : (exportedDeclaration property).ReadsBack := by
  have hcs : Css.components (exportedDeclaration property).render.toList
      = [lineGap] ++ (exportedComponents property ++ [lineEnd]) := by
    rw [toList_render_exportedDeclaration, components_exportedLine hname hvalue]
  constructor
  · refine ⟨.ofText "\n\t" (exportedText property) true, ?_,
      (ofText_exportedText hname hvalue "\n\t" true).1, rfl⟩
    exact (Stylesheet.parse_of_reads hcs (reads_exportedLine hname hvalue .nil) 0).trans rfl
  · intro l hl
    have hmem : token l ∈ [lineGap] ++ (exportedComponents property ++ [lineEnd]) := hcs ▸ hl
    simp only [exportedComponents, lineGap, lineEnd, List.cons_append, List.nil_append,
      List.mem_cons, List.mem_append, token.injEq, List.not_mem_nil, or_false] at hmem
    rcases hmem with rfl | rfl | rfl | rfl | hmem | rfl
    · rfl
    · rfl
    · rfl
    · rfl
    · exact (hvalue.inside l hmem).2
    · rfl

/-- The value that is read from a line is the one that was exported. -/
lemma readValue_exportedDeclaration (hname : isCustomProperty property.1)
    (hvalue : Exportable property.2) : (exportedDeclaration property).readValue = property.2 := by
  have htext : { exportedDeclaration property with semicolon := false }.render.toList
      = ['\n', '\t'] ++ exportedText property := by
    simp [Declaration.render, exportedDeclaration, exportedText]
  rw [Declaration.readValue, htext, value_ofText_append (by decide) _ "" "" false false]
  exact (ofText_exportedText hname hvalue "" false).2

end

end CustomProperties
