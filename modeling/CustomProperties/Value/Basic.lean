import CustomProperties.Css.Token
import CustomProperties.Text.Ascii
import CustomProperties.Text.Blank

/-!
# Declaration values

A value is a tree of tokens: words, commas, comments, function calls and brackets. Every node
keeps the white space before it and every sequence the white space after its last node, so that
`Value.render` gives back the text a value was read from.
-/

namespace CustomProperties

open Css (Bracket)
open Text (sameLetters trimmed)

/-- One token of a value, with the white space before it. -/
inductive ValueNode where
  /-- Literal text: names, numbers, strings, urls, punctuation. -/
  | word (before text : String)
  | comma (before : String)
  /-- A comment with its marks. -/
  | comment (before text : String)
  | function (before name : String) (args : List ValueNode) (after : String) (closed : Bool)
  | block (before : String) (bracket : Bracket) (nodes : List ValueNode) (after : String)
      (closed : Bool)
deriving Inhabited

/-- A sequence of tokens and the white space after the last one. -/
structure Value where
  nodes : List ValueNode
  after : String
deriving Inhabited

namespace ValueNode

/-- The white space before a token. -/
def before : ValueNode → String
  | word before _ | comma before | comment before _ | function before .. | block before .. => before

/-- The same token after other white space. -/
def withBefore (before : String) : ValueNode → ValueNode
  | word _ text => word before text
  | comma _ => comma before
  | comment _ text => comment before text
  | function _ name args after closed => function before name args after closed
  | block _ bracket nodes after closed => block before bracket nodes after closed

/-- The text of a word. -/
def word? : ValueNode → Option String
  | word _ text => some text
  | _ => none

/-- Whether a token is a comma. -/
def isComma : ValueNode → Bool
  | comma _ => true
  | _ => false

/-- Whether a token is a comment. -/
def isComment : ValueNode → Bool
  | comment .. => true
  | _ => false

/-- Whether a token is a `var()` call with at least one argument. The letters of the function's
name may be of either case. -/
def isReference : ValueNode → Bool
  | function _ name args _ _ => sameLetters name "var" && !args.isEmpty
  | _ => false

mutual

/-- The text of a token and the white space before it. -/
def render : ValueNode → String
  | word before text => before ++ text
  | comma before => before ++ ","
  | comment before text => before ++ text
  | function before name args after closed =>
    before ++ name ++ "(" ++ renderAll args ++ after ++ (if closed then ")" else "")
  | block before bracket nodes after closed =>
    before ++ String.singleton bracket.opening ++ renderAll nodes ++ after
      ++ (if closed then String.singleton bracket.closing else "")

/-- The text of a sequence of tokens. -/
def renderAll : List ValueNode → String
  | [] => ""
  | n :: ns => n.render ++ renderAll ns

end

@[simp] theorem renderAll_nil : renderAll [] = "" := by rw [renderAll]

@[simp] theorem renderAll_cons (n : ValueNode) (ns : List ValueNode) :
    renderAll (n :: ns) = n.render ++ renderAll ns := by rw [renderAll]

@[simp] theorem renderAll_append (ns ms : List ValueNode) :
    renderAll (ns ++ ms) = renderAll ns ++ renderAll ms := by
  induction ns with
  | nil => simp
  | cons n ns ih => simp [ih, String.append_assoc]

mutual

/-- A token without the comments inside it. -/
def stripped : ValueNode → ValueNode
  | word before text => word before text
  | comma before => comma before
  | comment before text => comment before text
  | function before name args after closed => function before name (strippedAll args) after closed
  | block before bracket nodes after closed => block before bracket (strippedAll nodes) after closed

/-- A sequence of tokens without its comments, at every depth. -/
def strippedAll : List ValueNode → List ValueNode
  | [] => []
  | n :: ns => if n.isComment then strippedAll ns else n.stripped :: strippedAll ns

end

/-- The tokens with the first one after other white space. -/
def withLeading (before : String) : List ValueNode → List ValueNode
  | [] => []
  | n :: ns => n.withBefore before :: ns

@[simp] theorem withLeading_nil (before : String) : withLeading before [] = [] := rfl

@[simp] theorem withLeading_cons (before : String) (n : ValueNode) (ns : List ValueNode) :
    withLeading before (n :: ns) = n.withBefore before :: ns := rfl

/-- The text of a sequence of tokens without the blanks at its ends. -/
def plainText (nodes : List ValueNode) : String := trimmed (renderAll nodes)

mutual

/-- Whether two tokens are the same. -/
def same : ValueNode → ValueNode → Bool
  | word b t, word b' t' => b == b' && t == t'
  | comma b, comma b' => b == b'
  | comment b t, comment b' t' => b == b' && t == t'
  | function b n args a c, function b' n' args' a' c' =>
    b == b' && n == n' && sameAll args args' && a == a' && c == c'
  | block b k nodes a c, block b' k' nodes' a' c' =>
    b == b' && k == k' && sameAll nodes nodes' && a == a' && c == c'
  | _, _ => false

/-- Whether two sequences of tokens are the same. -/
def sameAll : List ValueNode → List ValueNode → Bool
  | [], [] => true
  | n :: ns, m :: ms => n.same m && sameAll ns ms
  | _, _ => false

end

/-! ### Children -/

/-- The arguments of a function and the contents of a bracket; other tokens have no children. -/
def children : ValueNode → List ValueNode
  | function _ _ args _ _ => args
  | block _ _ nodes _ _ => nodes
  | word .. | comma _ | comment .. => []

/-- The same function or bracket around other children. A token without children stays as it
is. -/
def withChildren (nodes : List ValueNode) : ValueNode → ValueNode
  | function before name _ after closed => function before name nodes after closed
  | block before bracket _ after closed => block before bracket nodes after closed
  | word before text => word before text
  | comma before => comma before
  | comment before text => comment before text

@[simp] theorem withChildren_children (n : ValueNode) : n.withChildren n.children = n := by
  cases n <;> rfl

@[simp] theorem withChildren_withChildren (n : ValueNode) (nodes nodes' : List ValueNode) :
    (n.withChildren nodes).withChildren nodes' = n.withChildren nodes' := by
  cases n <;> rfl

theorem exists_function_of_isReference {n : ValueNode} (h : n.isReference) :
    ∃ before name args after closed, n = function before name args after closed := by
  cases n with
  | function before name args after closed => exact ⟨before, name, args, after, closed, rfl⟩
  | _ => simp [isReference] at h

theorem children_withChildren {n : ValueNode} {nodes : List ValueNode}
    (hnil : n.children = [] → nodes = []) : (n.withChildren nodes).children = nodes := by
  cases n with
  | function => rfl
  | block => rfl
  | _ => exact (hnil rfl).symm

/-- Other children make no reference, unless they are the first arguments of a `var()`. -/
theorem not_isReference_withChildren {n : ValueNode} {nodes : List ValueNode}
    (h : ¬ n.isReference) (hnil : n.children = [] → nodes = []) :
    ¬ (n.withChildren nodes).isReference := by
  cases n with
  | function before name args after closed =>
    cases args with
    | nil => simpa [withChildren, hnil rfl] using h
    | cons => simp_all [withChildren, isReference]
  | _ => simp [withChildren, isReference]

theorem sizeOf_children_le (n : ValueNode) : sizeOf n.children ≤ sizeOf n := by
  cases n <;> simp [children]
  all_goals omega

end ValueNode

namespace Value

/-- The text of a value. -/
def render (value : Value) : String := ValueNode.renderAll value.nodes ++ value.after

/-- The text of a value without the blanks at its ends. -/
def plainText (value : Value) : String := trimmed value.render

/-- A value without its comments, at every depth. -/
def stripped (value : Value) : Value := { value with nodes := ValueNode.strippedAll value.nodes }

end Value

end CustomProperties
