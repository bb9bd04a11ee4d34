import CustomProperties.Proofs.Modules.Productions
import CustomProperties.Proofs.Modules.Tokens

/-!
# Parsing written modules

A written module holds one statement, which exports an object. Its members are written line by line,
and are read one after the other as the members of that object.
-/

namespace CustomProperties.Module

open Format (literalMember)

variable {gap text rest rest' : List Char} {token token' : Token} {c : Cursor}

/-! ### What the cursor stands on -/

/-- A cursor stands on a token before the rest of a text. -/
structure Cursor.At (c : Cursor) (token : Token) (rest : List Char) : Prop where
  token : c.token = token
  rest : c.rest = rest

/-- A text holds a token, behind some blanks, and then the rest. -/
def Holds (text : List Char) (token : Token) (rest : List Char) : Prop :=
  ∀ start, (Cursor.ofText start text).At token rest

/-- The cursor goes on to the token that the text behind it holds. -/
lemma Cursor.At.next (h : c.At token rest) (hrest : Holds rest token' rest') :
    c.next.At token' rest' := by
  rw [Cursor.next, h.rest]
  exact hrest false

lemma Cursor.At.next_eq (h : c.At token rest) : c.next = .ofText false rest := by
  rw [Cursor.next, h.rest]

lemma holds_of_read (hgap : gap ⊆ gapBlanks) (hbegins : Begins text)
    (hread : ∀ first, Token.read first text = (token, rest)) :
    Holds (gap ++ text) token rest := by
  intro start
  constructor <;> simp [Cursor.ofText, skipGap_append hgap hbegins, hread]

lemma holds_string (hgap : gap ⊆ gapBlanks) (value : String) (rest : List Char) :
    Holds (gap ++ '\'' :: ((Format.escape value).toList ++ '\'' :: rest)) (.string (some value))
      rest := by
  apply holds_of_read hgap
  · exact begins_cons (by decide) (by decide)
  · intro first
    exact read_string first value rest

/-- The marks in written modules that are no part of longer ones. -/
def plainMarks : List (Char × String) :=
  [(':', ":"), (',', ","), (';', ";"), ('\x7b', "\x7b"), ('\x7d', "\x7d")]

lemma holds_mark (mark : String) {c : Char} (hmark : (c, mark) ∈ plainMarks)
    (hgap : gap ⊆ gapBlanks) (rest : List Char) :
    Holds (gap ++ c :: rest) (.mark mark) rest := by
  simp only [plainMarks, List.mem_cons, Prod.mk.injEq, List.not_mem_nil, or_false] at hmark
  apply holds_of_read hgap
  · rcases hmark with ⟨rfl, rfl⟩ | ⟨rfl, rfl⟩ | ⟨rfl, rfl⟩ | ⟨rfl, rfl⟩ | ⟨rfl, rfl⟩ <;>
      exact begins_cons (by decide) (by decide)
  · intro first
    rcases hmark with ⟨rfl, rfl⟩ | ⟨rfl, rfl⟩ | ⟨rfl, rfl⟩ | ⟨rfl, rfl⟩ | ⟨rfl, rfl⟩ <;> rfl

/-- The words in written modules. -/
def exportWords : List String := ["export", "const", "module", "exports", "customProperties"]

lemma holds_word (word : String) (hword : word ∈ exportWords) (hgap : gap ⊆ gapBlanks)
    {c : Char} (hc : c ∈ [' ', ':', '.']) (rest : List Char) :
    Holds (gap ++ (word.toList ++ c :: rest)) (.word word false) (c :: rest) := by
  have hnames : ∀ word ∈ exportWords, word.toList.all fun c =>
    continuesName c && c != '\\' := by decide
  have hstarts : ∀ word ∈ exportWords, word.toList.head?.any fun c =>
    startsName c && !(isLineBreak c || isGapBlank c) && !(['/', '<', '-'].contains c) := by decide
  have hname : ∀ c ∈ word.toList, continuesName c ∧ c ≠ '\\' := by
    simpa [List.all_eq_true] using hnames word hword
  have hstop : continuesName c = false ∧ c ≠ '\\' := by
    simp only [List.mem_cons, List.not_mem_nil, or_false] at hc
    rcases hc with rfl | rfl | rfl <;> decide
  have hstart := hstarts word hword
  match htext : word.toList with
  | [] => simp [htext] at hstart
  | d :: ds =>
    simp only [htext, List.head?_cons, Option.any_some, Bool.and_eq_true, Bool.not_eq_true']
      at hstart
    rw [← htext]
    apply holds_of_read hgap
    · rw [htext]
      exact begins_cons hstart.1.2 (by simpa using hstart.2)
    · intro first
      exact read_word htext hstart.1.1 hname hstop first

namespace Grammar

open Parse

variable {indent : String} {n : Nat} {context : Context}

/-! ### Members -/

/-- The member that a definition is written as. -/
def memberOf (property : String × String) : Member :=
  .property (some property.1) (.string (some property.2))

/-- What stands behind the key of a written member. -/
def valueText (value : String) (behind : List Char) : List Char :=
  ':' :: ' ' :: '\'' :: ((Format.escape value).toList ++ '\'' :: behind)

lemma holds_literalMember (hindent : indent.toList ⊆ gapBlanks)
    (property : String × String) (behind : List Char) :
    Holds ('\n' :: ((literalMember indent property).toList ++ behind)) (.string (some property.1))
      (valueText property.2 behind) := by
  have hgap : '\n' :: indent.toList ⊆ gapBlanks := by
    rw [List.cons_subset]
    exact ⟨by decide, hindent⟩
  have hholds := holds_string hgap property.1 (valueText property.2 behind)
  simpa [literalMember, valueText] using hholds

/-- A written member is read up to the comma behind it, or to the closing bracket. -/
lemma separatedItem_valueText (hcontext : context.generator = false) {key value : String}
    {behind : List Char} (hkey : c.At (.string (some key)) (valueText value behind)) {mark : String}
    (hmark : mark = "," ∨ mark = "\x7d") (hbehind : Holds behind (.mark mark) rest) :
    separatedItem "\x7d" ((nested (n + 2)).objectMember context) c
      = .ok (memberOf (key, value), .ofText false (if mark = "," then rest else behind)) := by
  have hstop : mark ∈ stopMarks := by rcases hmark with rfl | rfl <;> decide
  have hequals : mark ≠ "=" := by rcases hmark with rfl | rfl <;> decide
  have hcolon := hkey.next (holds_mark ":" (by decide) (List.nil_subset _) _)
  have hvalue := hcolon.next (@holds_string [' '] (by decide) value behind)
  have hlast := hvalue.next hbehind
  have hassignment : (nested (n + 2)).assignment context.inside c.next.next
      = .ok (.string (some value), c.next.next.next) :=
    assignment_string hcontext hvalue.token hstop hequals hlast.token
  have hbehind' : c.next.next.next.token = .mark "," ∨ c.next.next.next.token = .mark "\x7d" := by
    rw [hlast.token]
    rcases hmark with rfl | rfl
    · exact .inl rfl
    · exact .inr rfl
  rw [separatedItem_member (.inl hkey.token) hcolon.token hassignment hbehind', hlast.token]
  rcases hmark with rfl | rfl
  · simp [memberOf, hlast.next_eq]
  · simp [memberOf, hvalue.next_eq]

/-- Definitions written line by line as the members of an object. -/
def memberLines (indent : String) (properties : PlainProperties) : List Char :=
  (",\n".intercalate (properties.map (literalMember indent))).toList

lemma memberLines_singleton (p : String × String) :
    memberLines indent [p] = (literalMember indent p).toList := by
  simp [memberLines]

lemma memberLines_cons_cons (p q : String × String) (ps : PlainProperties) :
    memberLines indent (p :: q :: ps)
      = (literalMember indent p).toList ++ ',' :: '\n' :: memberLines indent (q :: ps) := by
  simp [memberLines, String.intercalate_cons_cons]

lemma length_le_length_memberLines (indent : String) (properties : PlainProperties) :
    properties.length ≤ (memberLines indent properties).length := by
  match properties with
  | [] => simp
  | [p] => simp [memberLines_singleton, literalMember]; omega
  | p :: q :: ps =>
    have ih := length_le_length_memberLines indent (q :: ps)
    rw [memberLines_cons_cons]
    simp only [List.length_append, List.length_cons] at ih ⊢
    omega

/-- Behind the first of written members there is more text than there are other members. -/
lemma exists_memberLines_cons (indent : String) (p : String × String) (ps : PlainProperties) :
    ∃ behind, memberLines indent (p :: ps) = (literalMember indent p).toList ++ behind
      ∧ ps.length ≤ behind.length := by
  match ps with
  | [] => exact ⟨[], by simp [memberLines_singleton], by simp⟩
  | q :: qs =>
    refine ⟨',' :: '\n' :: memberLines indent (q :: qs), memberLines_cons_cons p q qs, ?_⟩
    have hlength := length_le_length_memberLines indent (q :: qs)
    simp only [List.length_cons] at hlength ⊢
    omega

/-- A written member comes before the others. -/
lemma repeatedWithin_literalMember (hindent : indent.toList ⊆ gapBlanks)
    (hcontext : context.generator = false) (property : String × String) {behind : List Char}
    {mark : String} (hmark : mark = "," ∨ mark = "\x7d") (hbehind : Holds behind (.mark mark) rest)
    {m : ℕ} {members : List Member}
    (hrest : repeatedWithin (passMark "\x7d")
        (separatedItem "\x7d" ((nested (n + 2)).objectMember context)) m
        (.ofText false (if mark = "," then rest else behind)) = .ok (members, c))
    (start : Bool) :
    repeatedWithin (passMark "\x7d") (separatedItem "\x7d" ((nested (n + 2)).objectMember context))
        (m + 1) (.ofText start ('\n' :: ((literalMember indent property).toList ++ behind)))
      = .ok (memberOf property :: members, c) := by
  have hkey := holds_literalMember hindent property behind start
  apply repeatedWithin_item _ (separatedItem_valueText hcontext hkey hmark hbehind) hrest
  rw [hkey.token]
  rfl

/-- Written members are read one after the other, and the bracket behind them closes the object. -/
lemma repeatedWithin_memberLines (hindent : indent.toList ⊆ gapBlanks)
    (hgap : gap ⊆ gapBlanks) (hcontext : context.generator = false)
    (properties : PlainProperties) {m : ℕ} (hm : properties.length < m) (start : Bool) :
    repeatedWithin (passMark "\x7d") (separatedItem "\x7d" ((nested (n + 2)).objectMember context))
        m (.ofText start ('\n' :: (memberLines indent properties ++ (gap ++ '\x7d' :: rest))))
      = .ok (properties.map memberOf, .ofText false rest) := by
  have hclosed : Holds (gap ++ '\x7d' :: rest) (.mark "\x7d") rest :=
    holds_mark "\x7d" (by decide) hgap rest
  obtain ⟨m, rfl⟩ : ∃ k, m = k + 1 := ⟨m - 1, by omega⟩
  induction properties generalizing m start with
  | nil =>
    have hgap' : '\n' :: gap ⊆ gapBlanks := by
      rw [List.cons_subset]
      exact ⟨by decide, hgap⟩
    have hclosed' : Holds (('\n' :: gap) ++ '\x7d' :: rest) (.mark "\x7d") rest :=
      holds_mark "\x7d" (by decide) hgap' rest
    rw [← (hclosed' start).next_eq]
    exact repeatedWithin_closed (hclosed' start).token m
  | cons p ps ih =>
    rw [List.length_cons, Nat.add_lt_add_iff_right] at hm
    obtain ⟨m, rfl⟩ : ∃ k, m = k + 1 := ⟨m - 1, by omega⟩
    cases ps with
    | nil =>
      rw [memberLines_singleton]
      apply repeatedWithin_literalMember hindent hcontext p (.inr rfl) hclosed
      rw [if_neg (by decide), ← (hclosed false).next_eq]
      exact repeatedWithin_closed (hclosed false).token m
    | cons q qs =>
      rw [memberLines_cons_cons, List.append_assoc]
      have hcomma : Holds (',' :: '\n' :: (memberLines indent (q :: qs) ++ (gap ++ '\x7d' :: rest)))
          (.mark ",") ('\n' :: (memberLines indent (q :: qs) ++ (gap ++ '\x7d' :: rest))) :=
        holds_mark "," (by decide) (List.nil_subset _) _
      apply repeatedWithin_literalMember hindent hcontext p (.inl rfl) hcomma
      exact ih false m hm

/-- The object that written members are in. -/
lemma objectMembers_memberLines (hindent : indent.toList ⊆ gapBlanks)
    (hgap : gap ⊆ gapBlanks) (hcontext : context.generator = false)
    (properties : PlainProperties) (start : Bool) :
    (nested (n + 2)).objectMembers context
        (.ofText start ('\n' :: (memberLines indent properties ++ (gap ++ '\x7d' :: rest))))
      = .ok (properties.map memberOf, .ofText false rest) := by
  apply repeatedWithin_memberLines hindent hgap hcontext
  match properties with
  | [] => simp
  | p :: ps =>
    obtain ⟨behind, hlines, hlength⟩ := exists_memberLines_cons indent p ps
    rw [hlines, List.append_assoc]
    have hkey := holds_literalMember hindent p (behind ++ (gap ++ '\x7d' :: rest)) start
    rw [hkey.rest, valueText]
    simp only [List.length_append, List.length_cons]
    omega

/-! ### Modules -/

lemma holds_equals (rest : List Char) :
    Holds (' ' :: '=' :: ' ' :: rest) (.mark "=") (' ' :: rest) := by
  show Holds ([' '] ++ '=' :: ' ' :: rest) _ _
  apply holds_of_read (by decide)
  · exact begins_cons (by decide) (by decide)
  · intro first
    rfl

lemma holds_point (rest : List Char) :
    Holds ('.' :: ("exports".toList ++ rest)) (.mark ".") ("exports".toList ++ rest) := by
  show Holds ([] ++ '.' :: ("exports".toList ++ rest)) _ _
  apply holds_of_read (by decide)
  · exact begins_cons (by decide) (by decide)
  · intro first
    rfl

lemma holds_end : Holds ['\n'] .endOfText [] := by
  intro start
  constructor <;> rfl

end Grammar

open Grammar

variable (properties : PlainProperties)

lemma toList_render_esModule :
    (Format.render properties .esModule).toList
      = "export".toList ++ ' ' :: ("const".toList ++ ' ' :: ("customProperties".toList ++ ' ' :: '='
          :: ' ' :: '\x7b' :: '\n' :: (memberLines "\t" properties
            ++ (['\n'] ++ '\x7d' :: ';' :: ['\n'])))) := by
  have hrender : Format.render properties .esModule
      = "export const customProperties = \x7b\n"
        ++ ",\n".intercalate (properties.map (literalMember "\t")) ++ "\n\x7d;\n" := rfl
  rw [hrender, String.toList_append, String.toList_append, memberLines, List.append_assoc]
  rfl

lemma toList_render_commonModule :
    (Format.render properties .commonModule).toList
      = "module".toList ++ '.' :: ("exports".toList ++ ' ' :: '=' :: ' ' :: '\x7b'
          :: (['\n', '\t'] ++ ("customProperties".toList ++ ':' :: ' ' :: '\x7b' :: '\n'
            :: (memberLines "\t\t" properties ++ (['\n', '\t'] ++ '\x7d' :: '\n' :: '\x7d'
              :: ';' :: ['\n']))))) := by
  have hrender : Format.render properties .commonModule
      = "module.exports = \x7b\n\tcustomProperties: \x7b\n"
        ++ ",\n".intercalate (properties.map (literalMember "\t\t")) ++ "\n\t\x7d\n\x7d;\n" := rfl
  rw [hrender, String.toList_append, String.toList_append, memberLines, List.append_assoc]
  rfl

lemma ofModule_cons {d : Char} {ds : List Char} (hmark : d ≠ '\uFEFF') (hsign : d ≠ '#') :
    Cursor.ofModule (d :: ds) = .ofText true (d :: ds) := by
  rw [Cursor.ofModule]
  · intro rest hrest
    exact hmark (List.cons.inj hrest).1
  · intro rest hrest
    exact hsign (List.cons.inj hrest).1

/-- A text that holds one item up to its end is parsed as that item. -/
lemma parse_of_item {source : String} {c₀ : Cursor} {item : Item}
    (hmodule : Cursor.ofModule source.toList = c₀) (hopen : c₀.token ≠ .endOfText)
    (hitem : ∀ n, (nested (n + 16)).item topContext c₀ = .ok (item, c))
    (hend : c.token = .endOfText) : parse source = some [item] := by
  have hitems : Parse.repeated (Parse.look (·.token == .endOfText))
      ((nested (4 * source.toList.length + 16)).item { top := true }) c₀ = .ok ([item], c) := by
    apply repeated_one _ (hitem _)
    · simp [hend]
    · simp [hopen]
  simp only [parse, hmodule, hitems]

/-- A module that exports a constant with an object as its value. -/
lemma parse_export {source : String} {behind : List Char} {members : List Member}
    (hsource : source.toList = "export".toList ++ ' ' :: ("const".toList ++ ' '
      :: ("customProperties".toList ++ ' ' :: '=' :: ' ' :: '\x7b' :: behind)))
    (hmembers : ∀ n, (nested (n + 2)).objectMembers topContext.inside (.ofText false behind)
      = .ok (members, c))
    (hend : c.At (.mark ";") ['\n']) :
    parse source
      = some [.exportVariables [(some "customProperties", some (.object members))]] := by
  have hexport := @holds_word [] "export" (by decide) (by decide) ' ' (by decide)
    ("const".toList
      ++ ' ' :: ("customProperties".toList ++ ' ' :: '=' :: ' ' :: '\x7b' :: behind)) true
  rw [List.nil_append, ← hsource] at hexport
  have hmodule : Cursor.ofModule source.toList = .ofText true source.toList := by
    rw [hsource]
    exact ofModule_cons (by decide) (by decide)
  generalize Cursor.ofText true source.toList = c₀ at hexport hmodule
  have hconst := hexport.next (@holds_word [' '] "const" (by decide) (by decide) _ (by decide) _)
  have hname := hconst.next
    (@holds_word [' '] "customProperties" (by decide) (by decide) _ (by decide) _)
  have hequals := hname.next (holds_equals _)
  have hbrace := hequals.next (@holds_mark [' '] "\x7b" _ (by decide) (by decide) behind)
  apply parse_of_item hmodule
  · rw [hexport.token]
    decide
  · intro n
    apply item_exportVariables hexport.token hconst.token hname.token (by decide) (by decide)
      hequals.token _ hend.token
    apply assignment_object rfl hbrace.token _ (by decide) (by decide) hend.token
    rw [hbrace.next_eq]
    exact hmembers _
  · exact (hend.next holds_end).token

/-- A module that assigns an object with one object in it to `module.exports`. -/
lemma parse_moduleExports {source : String} {behind : List Char} {members : List Member}
    (hsource : source.toList = "module".toList ++ '.' :: ("exports".toList ++ ' ' :: '=' :: ' '
      :: '\x7b' :: (['\n', '\t'] ++ ("customProperties".toList ++ ':' :: ' ' :: '\x7b' :: behind))))
    (hmembers : ∀ n, (nested (n + 2)).objectMembers topContext.inside (.ofText false behind)
      = .ok (members, c))
    (hclose : c.At (.mark "\x7d") [';', '\n']) :
    parse source = some [.expression (.assignment moduleExports
      (.object [.property (some "customProperties") (.object members)]))] := by
  have howner := @holds_word [] "module" (by decide) (by decide) '.' (by decide)
    ("exports".toList ++ ' ' :: '=' :: ' ' :: '\x7b' :: (['\n', '\t']
      ++ ("customProperties".toList ++ ':' :: ' ' :: '\x7b' :: behind))) true
  rw [List.nil_append, ← hsource] at howner
  have hmodule : Cursor.ofModule source.toList = .ofText true source.toList := by
    rw [hsource]
    exact ofModule_cons (by decide) (by decide)
  generalize Cursor.ofText true source.toList = c₀ at howner hmodule
  have hpoint := howner.next (holds_point _)
  have hexports := hpoint.next (@holds_word [] "exports" (by decide) (by decide) _ (by decide) _)
  have hequals := hexports.next (holds_equals _)
  have hbrace := hequals.next (@holds_mark [' '] "\x7b" _ (by decide) (by decide) _)
  have hkey := hbrace.next
    (@holds_word ['\n', '\t'] "customProperties" (by decide) (by decide) _ (by decide) _)
  have hcolon := hkey.next (@holds_mark [] ":" _ (by decide) (by decide) _)
  have hopen := hcolon.next (@holds_mark [' '] "\x7b" _ (by decide) (by decide) behind)
  have hend := hclose.next (@holds_mark [] ";" _ (by decide) (by decide) _)
  apply parse_of_item hmodule
  · rw [howner.token]
    decide
  · intro n
    apply item_moduleExports howner.token hpoint.token hexports.token hequals.token _ hend.token
    apply assignment_object rfl hbrace.token _ (by decide) (by decide) hend.token
    have hvalue : (nested (n + 13)).assignment topContext.inside.inside
        c₀.next.next.next.next.next.next.next = .ok (.object members, c) := by
      apply assignment_object rfl hopen.token _ (by decide) (by decide) hclose.token
      rw [hopen.next_eq]
      exact hmembers _
    have hitem := separatedItem_member (.inr hkey.token) hcolon.token hvalue (.inr hclose.token)
    rw [if_neg (by simp [hclose.token])] at hitem
    have hclosed : (Token.word "customProperties" false).isMark "\x7d" = false := rfl
    apply repeatedWithin_item (hkey.token ▸ hclosed) hitem
    exact repeatedWithin_closed hclose.token _
  · exact (hend.next holds_end).token

/-- The module that exports a constant is parsed as the export of the object in it. -/
lemma parse_render_esModule :
    parse (Format.render properties .esModule) = some [.exportVariables
      [(some "customProperties", some (.object (properties.map memberOf)))]] := by
  apply parse_export (toList_render_esModule properties)
  · intro n
    exact objectMembers_memberLines (by decide) (by decide) rfl properties false
  · exact @holds_mark [] ";" _ (by decide) (by decide) ['\n'] false

/-- The module that assigns to `module.exports` is parsed as the assignment of the object in it. -/
lemma parse_render_commonModule :
    parse (Format.render properties .commonModule) = some [.expression (.assignment moduleExports
      (.object [.property (some "customProperties") (.object (properties.map memberOf))]))] := by
  apply parse_moduleExports (toList_render_commonModule properties)
  · intro n
    exact objectMembers_memberLines (by decide) (by decide) rfl properties false
  · exact @holds_mark ['\n'] "\x7d" _ (by decide) (by decide) [';', '\n'] false

end CustomProperties.Module
