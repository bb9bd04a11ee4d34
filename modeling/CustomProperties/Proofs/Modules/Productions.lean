import CustomProperties.Module.Parser
import Mathlib.Tactic.Common

/-!
# Productions of written modules

A written module uses few of the productions of a grammar. Here it is said of each of them what it
makes of a cursor that stands on the right token: literals and members as operands, operands that no
operator follows, members of objects, and the two statements that export an object.
-/

namespace CustomProperties.Module

/-! ### Parsers step by step -/

namespace Parse

variable {α β : Type}

@[simp] lemma bind_apply (p : Parse α) (f : α → Parse β) (c : Cursor) :
    (p >>= f) c = (p c >>= fun result => f result.1 result.2) := rfl

@[simp] lemma ok_bind {ε γ δ : Type} (a : γ) (f : γ → Except ε δ) : (Except.ok a >>= f) = f a := rfl

@[simp] lemma pure_apply (a : α) (c : Cursor) : (pure a : Parse α) c = .ok (a, c) := rfl

@[simp] lemma map_apply (f : α → β) (p : Parse α) (c : Cursor) :
    (f <$> p) c = (p c >>= fun result => .ok (f result.1, result.2)) := rfl

@[simp] lemma if_apply (condition : Prop) [Decidable condition] (p q : Parse α) (c : Cursor) :
    (if condition then p else q) c = if condition then p c else q c := by
  split <;> rfl

@[simp] lemma look_apply (f : Cursor → α) (c : Cursor) : look f c = .ok (f c, c) := rfl

@[simp] lemma atMark_apply (mark : String) (c : Cursor) :
    atMark mark c = .ok (c.token.isMark mark, c) := rfl

@[simp] lemma atWord_apply (word : String) (c : Cursor) :
    atWord word c = .ok (c.token.isWord word, c) := rfl

@[simp] lemma advance_apply (c : Cursor) : advance c = .ok ((), c.next) := rfl

@[simp] lemma pass_apply (here : Cursor → Bool) (c : Cursor) :
    pass (look here) c = if here c then .ok (true, c.next) else .ok (false, c) := by
  simp [pass]

@[simp] lemma passMark_apply (mark : String) (c : Cursor) :
    passMark mark c = if c.token.isMark mark then .ok (true, c.next) else .ok (false, c) :=
  pass_apply ..

@[simp] lemma passWord_apply (word : String) (c : Cursor) :
    passWord word c = if c.token.isWord word then .ok (true, c.next) else .ok (false, c) :=
  pass_apply ..

@[simp] lemma mistakeIf_false (c : Cursor) : mistakeIf false c = .ok ((), c) := rfl

@[simp] lemma guardThat_true (c : Cursor) : guardThat true c = .ok ((), c) := rfl

end Parse

/-! ### Tokens before and behind operands -/

@[simp] lemma Token.isMark_mark (mark text : String) :
    (Token.mark text).isMark mark = (text == mark) := rfl

@[simp] lemma Token.isMark_word (mark text : String) (onlyName : Bool) :
    (Token.word text onlyName).isMark mark = false := rfl

@[simp] lemma Token.isWord_mark (word text : String) : (Token.mark text).isWord word = false := rfl

@[simp] lemma Token.isWord_word (word text : String) (onlyName : Bool) :
    (Token.word text onlyName).isWord word = (text == word && !onlyName) := rfl

/-- A token that an operand starts with, and no operator. -/
structure Token.Opens (token : Token) : Prop where
  words : ∀ word ∈ ["new", "super", "import", "await", "delete", "void", "typeof"],
    token.isWord word = false
  marks : ∀ mark ∈ ["++", "--", "-", "+", "~", "!"], token.isMark mark = false
  readable : token ≠ .unreadable

/-- A token that no operator follows an operand with, unless it assigns. -/
structure Token.Stops (token : Token) : Prop where
  marks : ∀ mark ∈ ["?", "[", "(", ".", "++", "--"], token.isMark mark = false
  template : token.isTemplate = false
  precedence : ∀ context, Grammar.precedence? context token = none

lemma Token.opens_string (value : Option String) : Token.Opens (.string value) where
  words := by simp [Token.isWord]
  marks := by simp [Token.isMark]
  readable := by simp

lemma Token.opens_brace : Token.Opens (.mark "\x7b") where
  words := by simp [Token.isWord]
  marks := by simp [Token.isMark]
  readable := by simp

lemma Token.opens_module : Token.Opens (.word "module" false) where
  words := by simp [Token.isWord]
  marks := by simp [Token.isMark]
  readable := by simp

/-- The marks behind operands in written modules. -/
def stopMarks : List String := [",", "\x7d", ";", "="]

lemma Token.stops_mark {mark : String} (h : mark ∈ stopMarks) : Token.Stops (.mark mark) := by
  simp only [stopMarks, List.mem_cons, List.not_mem_nil, or_false] at h
  refine ⟨?_, rfl, ?_⟩
  · rcases h with rfl | rfl | rfl | rfl <;> simp [Token.isMark]
  · intro context
    rcases h with rfl | rfl | rfl | rfl <;> rfl

/-- A name, a member, or a literal: an expression without operators and functions. -/
def Expression.isPrimary : Expression → Bool
  | string _ => true
  | name _ => true
  | object _ => true
  | member .. => true
  | _ => false

lemma Expression.isArrow_of_isPrimary {e : Expression} (h : e.isPrimary) : e.isArrow = false := by
  cases e <;> simp_all [isPrimary, isArrow]

lemma Expression.junction_of_isPrimary {e : Expression} (h : e.isPrimary) :
    e.junction = .none := by
  cases e <;> simp_all [isPrimary, junction]

namespace Grammar

open Parse

variable {g : Grammar} {n : Nat} {context : Context} {calls mayArrow : Bool} {c c' c'' : Cursor}
  {e e' : Expression}

/-! ### Operands without operators -/

lemma subscriptsAt_stop (h : c.token.Stops) : g.subscriptsAt context calls e c = .ok (e, c) := by
  have hmarks := h.marks
  simp only [List.forall_mem_cons] at hmarks
  simp [subscriptsAt, passChain, hmarks, h.template]

lemma operatorsAt_stop (h : c.token.Stops) (least : Nat) (he : e.isPrimary) :
    g.operatorsAt context least e c = .ok (e, c) := by
  have hmixed : (Junction.none == Junction.mixed) = false := rfl
  simp [operatorsAt, e.junction_of_isPrimary he, hmixed, h.precedence]

lemma constructedAt_operand (hopens : c.token.Opens)
    (hoperand : g.operand context mayArrow c = .ok (e, c')) (he : e.isPrimary)
    (hsubscripts : g.subscripts context false e c' = .ok (e', c'')) :
    g.constructedAt context mayArrow c = .ok (e', c'') := by
  have hwords := hopens.words
  simp only [List.forall_mem_cons] at hwords
  simp [constructedAt, hwords, hoperand, e.isArrow_of_isPrimary he, hsubscripts]

lemma calledAt_operand (hopens : c.token.Opens)
    (hconstructed : g.constructedAt context mayArrow c = .ok (e, c')) (he : e.isPrimary)
    (hstop : c'.token.Stops) : g.calledAt context mayArrow c = .ok (e, c') := by
  have hwords := hopens.words
  have hmarks := hstop.marks
  simp only [List.forall_mem_cons] at hwords hmarks
  simp [calledAt, hwords, hconstructed, e.isArrow_of_isPrimary he, hmarks]

lemma unaryAt_operand (hopens : c.token.Opens)
    (hcalled : g.calledAt context mayArrow c = .ok (e, c')) (he : e.isPrimary)
    (hstop : c'.token.Stops) : g.unaryAt context mayArrow c = .ok (e, c') := by
  have hwords := hopens.words
  have hbefore := hopens.marks
  have hbehind := hstop.marks
  simp only [List.forall_mem_cons] at hwords hbefore hbehind
  simp [unaryAt, atStep, atUnary, hwords, hbefore, hcalled, e.isArrow_of_isPrimary he, hbehind]

/-- An operand with no operators around it is a choice by itself. -/
lemma choice_operand (hopens : c.token.Opens)
    (hoperand : (nested (n + 1)).operand context mayArrow c = .ok (e, c')) (he : e.isPrimary)
    (hsubscripts : (nested (n + 1)).subscripts context false e c' = .ok (e', c''))
    (he' : e'.isPrimary) (hstop : c''.token.Stops) :
    (nested (n + 1)).choice context mayArrow c = .ok (e', c'') := by
  have hconstructed := constructedAt_operand hopens hoperand he hsubscripts
  have hcalled := calledAt_operand hopens hconstructed he' hstop
  have hunary := unaryAt_operand hopens hcalled he' hstop
  have hoperators : (nested (n + 1)).operators context 0 e' c'' = .ok (e', c'') :=
    operatorsAt_stop hstop 0 he'
  have harrow := e'.isArrow_of_isPrimary he'
  have hmarks := hstop.marks
  simp only [List.forall_mem_cons] at hmarks
  have hbinary : (nested (n + 1)).binary context mayArrow c = .ok (e', c'') := by
    simp [binary, firstOperand, hunary, harrow, hoperators]
  simp [choice, hbinary, harrow, hmarks]

/-- An expression that an assignment may start with is the target of one before an equals sign, and
an assignment by itself before another stop. -/
lemma assignmentAt_choice (hgenerator : context.generator = false) (hopens : c.token.Opens)
    (hchoice : g.choice context c.token.startsArrow c = .ok (e, c')) (he : e.isPrimary)
    {mark : String} (hmark : mark ∈ stopMarks) (hstop : c'.token = .mark mark) :
    g.assignmentAt context c
      = if mark = "=" then (guardThat e.isTarget >>= fun _ => advance >>= fun _ =>
          g.assignment context >>= fun value => pure (.assignment e value)) c'
        else .ok (e, c') := by
  have hreadable : c.isUnreadable = false := beq_eq_false_iff_ne.mpr hopens.readable
  have hunread : failUnreadable c = .ok ((), c) := by simp [failUnreadable, hreadable]
  have hchange : atChange c' = .ok (false, c') := by
    simp only [stopMarks, List.mem_cons, List.not_mem_nil, or_false] at hmark
    rcases hmark with rfl | rfl | rfl | rfl <;> simp [atChange, hstop, Token.isMark]
  have hequals : c'.token.isMark "=" = (mark == "=") := by rw [hstop, Token.isMark]
  cases e with
  | string _ | name _ | object _ | member _ _ =>
    simp [assignmentAt, hgenerator, hunread, hchoice, hequals, hchange]
  | _ => cases he

/-- An operand before a stop other than an equals sign is an assignment by itself. -/
lemma assignment_operand (hgenerator : context.generator = false) (hopens : c.token.Opens)
    (hoperand : (nested (n + 1)).operand context c.token.startsArrow c = .ok (e, c'))
    (he : e.isPrimary) {mark : String} (hmark : mark ∈ stopMarks) (hequals : mark ≠ "=")
    (hstop : c'.token = .mark mark) :
    (nested (n + 2)).assignment context c = .ok (e, c') := by
  have hstops : c'.token.Stops := hstop ▸ Token.stops_mark hmark
  have hchoice := choice_operand hopens hoperand he (subscriptsAt_stop hstops) he hstops
  have hassignment := assignmentAt_choice hgenerator hopens hchoice he hmark hstop
  rwa [if_neg hequals] at hassignment

/-- A string before such a stop. -/
lemma assignment_string {value : Option String} (hgenerator : context.generator = false)
    (hstring : c.token = .string value) {mark : String} (hmark : mark ∈ stopMarks)
    (hequals : mark ≠ "=") (hstop : c.next.token = .mark mark) :
    (nested (n + 2)).assignment context c = .ok (.string value, c.next) := by
  apply assignment_operand hgenerator _ _ rfl hmark hequals hstop
  · rw [hstring]
    exact Token.opens_string value
  · simp [operand, hstring]

/-- An object before such a stop. -/
lemma assignment_object {members : List Member} (hgenerator : context.generator = false)
    (hbrace : c.token = .mark "\x7b")
    (hmembers : (nested (n + 1)).objectMembers context c.next = .ok (members, c'))
    {mark : String} (hmark : mark ∈ stopMarks) (hequals : mark ≠ "=")
    (hstop : c'.token = .mark mark) :
    (nested (n + 2)).assignment context c = .ok (.object members, c') := by
  apply assignment_operand hgenerator _ _ rfl hmark hequals hstop
  · rw [hbrace]
    exact Token.opens_brace
  · simp [operand, hbrace, hmembers]

/-! ### Objects -/

/-- A member of an object with a string or a word as its key, up to the comma behind it, or to the
closing bracket. -/
lemma separatedItem_member {key : String} {value : Expression}
    (hkey : c.token = .string (some key) ∨ c.token = .word key false)
    (hcolon : c.next.token = .mark ":")
    (hvalue : g.assignment context.inside c.next.next = .ok (value, c'))
    (hstop : c'.token = .mark "," ∨ c'.token = .mark "\x7d") :
    separatedItem "\x7d" (g.objectMember context) c
      = .ok (.property (some key) value, if c'.token = .mark "," then c'.next else c') := by
  have hmember : g.objectMember context c = .ok (.property (some key) value, c') := by
    rcases hkey with hkey | hkey <;>
      simp [objectMember, Grammar.key, hkey, Token.isMark, hcolon, hvalue]
  rcases hstop with hstop | hstop <;>
    simp [separatedItem, hmember, hstop, Token.isMark, expectMark]

/-- A closing bracket ends the members. -/
lemma repeatedWithin_closed {α : Type} {item : Parse α} {close : String}
    (h : c.token = .mark close) (n : Nat) :
    repeatedWithin (passMark close) item (n + 1) c = .ok ([], c.next) := by
  simp [repeatedWithin, h, Token.isMark]

/-- A member comes before the others. -/
lemma repeatedWithin_item {α : Type} {item : Parse α} {a : α} {as : List α} {close : String}
    (h : c.token.isMark close = false) (hitem : item c = .ok (a, c')) {n : Nat}
    (hrest : repeatedWithin (passMark close) item n c' = .ok (as, c'')) :
    repeatedWithin (passMark close) item (n + 1) c = .ok (a :: as, c'') := by
  simp [repeatedWithin, h, hitem, hrest]

/-! ### Statements -/

/-- A name that is declared without a mistake. -/
lemma declaredName_word {name : String} (hcontext : context.generator = false)
    (hname : c.token = .word name false) (hdeclarable : (Token.word name false).isDeclarable)
    (hplain : name ∉ "let" :: fixedNames ++ mistakenNames) (noLet : Bool) :
    declaredName context noLet c = .ok (name, c.next) := by
  simp only [List.cons_append, List.mem_cons, List.mem_append, not_or] at hplain
  have hlet : (name == "let") = false := beq_eq_false_iff_ne.mpr hplain.1
  simp [declaredName, nameOf, hname, hdeclarable, hlet, hplain, hcontext]

lemma pattern_word {name : String} (hcontext : context.generator = false)
    (hname : c.token = .word name false) (hdeclarable : (Token.word name false).isDeclarable)
    (hplain : name ∉ "let" :: fixedNames ++ mistakenNames) (noLet : Bool) :
    (nested (n + 1)).pattern context noLet c = .ok (some name, c.next) := by
  have hdeclared := declaredName_word hcontext hname hdeclarable hplain noLet
  have hreadable : failUnreadable c = .ok ((), c) := by
    simp [failUnreadable, Cursor.isUnreadable, hname]
  simp [nested, patternAt, hname, hreadable, hdeclared]

/-- The place of a statement at the top of a module. -/
def topContext : Context := { top := true }

/-- An exported constant. -/
lemma item_exportVariables {name : String} {value : Expression}
    (hexport : c.token = .word "export" false) (hconst : c.next.token = .word "const" false)
    (hname : c.next.next.token = .word name false)
    (hdeclarable : (Token.word name false).isDeclarable)
    (hplain : name ∉ "let" :: fixedNames ++ mistakenNames)
    (hequals : c.next.next.next.token = .mark "=")
    (hvalue : (nested (n + 1)).assignment topContext.inside c.next.next.next.next
      = .ok (value, c'))
    (hend : c'.token = .mark ";") :
    (nested (n + 1)).item topContext c
      = .ok (.exportVariables [(some name, some value)], c'.next) := by
  have hpattern : (nested (n + 1)).pattern topContext.inside true c.next.next
      = .ok (some name, c.next.next.next) :=
    pattern_word rfl hname hdeclarable hplain true
  have hstart : (nested (n + 1)).startValue topContext.inside .const false true c.next.next.next
      = .ok (some value, c') := by
    simp [startValue, hequals, hvalue]
  have hvar : (Declarator.const != Declarator.var) = true := rfl
  have hbindings : (nested (n + 1)).bindings topContext.inside .const false c.next
      = .ok ([(some name, some value)], c') := by
    simp [bindings, bindingsWithin, hname, hpattern, hstart, hend, hvar]
  simp [item, exportRest, declarator?, variableList, hexport, hconst, atWords, hbindings, passEnd,
    hend]

/-- The target of an assignment to `module.exports`. -/
def moduleExports : Expression := .member (.name "module") (some "exports")

lemma choice_moduleExports (howner : c.token = .word "module" false)
    (hpoint : c.next.token = .mark ".") (hkey : c.next.next.token = .word "exports" false)
    (hequals : c.next.next.next.token = .mark "=") :
    (nested (n + 2)).choice context c.token.startsArrow c
      = .ok (moduleExports, c.next.next.next) := by
  have hstop : c.next.next.next.token.Stops := hequals ▸ Token.stops_mark (by decide)
  have hbehind : (nested (n + 1)).subscripts context false moduleExports c.next.next.next
      = .ok (moduleExports, c.next.next.next) := subscriptsAt_stop hstop
  have hsubscripts : (nested (n + 2)).subscripts context false (.name "module") c.next
      = .ok (moduleExports, c.next.next.next) := by
    rw [moduleExports] at hbehind
    show (nested (n + 1)).subscriptsAt _ _ _ _ = _
    simp [subscriptsAt, passChain, pointKey, hpoint, hkey, Expression.isChain, hbehind,
      moduleExports]
  have hoperand : (nested (n + 2)).operand context c.token.startsArrow c
      = .ok (.name "module", c.next) := by
    have hreference : (Token.word "module" false).isReference := by decide
    have hplain : "module" ∉ mistakenNames := by decide
    simp [operand, wordOperand, howner, atWords, hreference, reference, nameOf, hplain, hpoint]
  exact choice_operand (howner ▸ Token.opens_module) hoperand rfl hsubscripts rfl hstop

/-- A statement that assigns to `module.exports`. -/
lemma item_moduleExports {value : Expression} (howner : c.token = .word "module" false)
    (hpoint : c.next.token = .mark ".") (hkey : c.next.next.token = .word "exports" false)
    (hequals : c.next.next.next.token = .mark "=")
    (hvalue : (nested (n + 2)).assignment topContext.inside c.next.next.next.next
      = .ok (value, c'))
    (hend : c'.token = .mark ";") :
    (nested (n + 4)).item topContext c
      = .ok (.expression (.assignment moduleExports value), c'.next) := by
  have hchoice : (nested (n + 2)).choice topContext.inside c.token.startsArrow c
      = .ok (moduleExports, c.next.next.next) :=
    choice_moduleExports howner hpoint hkey hequals
  have hassignment : (nested (n + 3)).assignment topContext.inside c
      = .ok (.assignment moduleExports value, c') := by
    show (nested (n + 2)).assignmentAt _ _ = _
    rw [assignmentAt_choice rfl (howner ▸ Token.opens_module) hchoice rfl (by decide) hequals]
    simp [hvalue, moduleExports, Expression.isTarget]
  have hstatement : (nested (n + 4)).statement topContext true c
      = .ok (.expression (.assignment moduleExports value), c'.next) := by
    show (nested (n + 3)).statementAt _ _ _ = _
    simp [statementAt, howner, wordStatement, plainWord, declarator?, otherStatement, resources,
      atWords, expressionStatement, expression, hassignment, hend, passEnd]
  have himport : atImportExpression c = .ok (false, c) := by simp [atImportExpression, howner]
  simp [item, howner, himport, hstatement]

/-- One item up to the end. -/
lemma repeated_one {α : Type} {ended : Parse Bool} {item : Parse α} {a : α}
    (hopen : ended c = .ok (false, c)) (hitem : item c = .ok (a, c'))
    (hended : ended c' = .ok (true, c')) : repeated ended item c = .ok ([a], c') := by
  simp [repeated, repeatedWithin, hopen, hitem, hended]

end Grammar

end CustomProperties.Module
