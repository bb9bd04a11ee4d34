import CustomProperties.Sheet.Basic
import CustomProperties.Text.Blank
import CustomProperties.Text.Word

/-!
# Ignore directives

Two directives switch resolution off for parts of a sheet:

* a node whose text says `custom-properties: off` is ignored, and so is every node directly inside
  it;
* a comment that says `custom-properties: ignore next` has the node right after it ignored.

A scan finds all ignored nodes before the tree is edited.
-/

namespace CustomProperties

open Text (isBlank trimStart endsWord)

namespace Directive

/-- Whether a character is a lower-case letter or sign in either case. A long s is an s. -/
def matchesLetter (letter c : Char) : Bool :=
  c.toLower == letter || (letter == 's' && c == 'ſ')

/-- What follows a word that a text starts with, in letters of either case. -/
def dropWord? : List Char → List Char → Option (List Char)
  | [], text => some text
  | letter :: word, c :: text => if matchesLetter letter c then dropWord? word text else none
  | _ :: _, [] => none

/-- What follows the name of the directives at the start of a text, and the blanks after it. -/
def dropName? (text : List Char) : Option (List Char) :=
  (dropWord? "custom-properties:".toList text).map trimStart

/-- Whether a text starts with the directive `off`. -/
def startsOff (text : List Char) : Bool :=
  ((dropName? text).bind (dropWord? "off".toList)).any endsWord

/-- Whether a text starts with the directive `ignore next`. -/
def startsIgnoreNext (text : List Char) : Bool :=
  match (dropName? text).bind (dropWord? "ignore".toList) with
  | some (c :: rest) =>
    isBlank c && (dropWord? "next".toList (trimStart rest)).any endsWord
  | _ => false

/-- Whether a condition holds of the text from some place on. -/
def somewhere (p : List Char → Bool) : List Char → Bool
  | [] => p []
  | c :: rest => p (c :: rest) || somewhere p rest

/-- Whether a text switches resolution off. -/
def switchesOff (text : String) : Bool := somewhere startsOff text.toList

/-- Whether the text of a comment asks to ignore the node after it. -/
def ignoresNext (text : String) : Bool := somewhere startsIgnoreNext text.toList

end Directive

/-- The numbers of the nodes left out of collecting and updating. -/
structure IgnoreSet where
  ids : List NodeId
deriving Inhabited

namespace IgnoreSet

/-- The set without nodes. -/
def empty : IgnoreSet := ⟨[]⟩

/-- Whether a node is ignored. -/
def contains (ignored : IgnoreSet) (id : NodeId) : Bool := ignored.ids.contains id

/-- How many nodes are ignored. -/
def size (ignored : IgnoreSet) : Nat := ignored.ids.length

/-- Whether a node is a comment that asks to ignore the next one. -/
def asksIgnoreNext : Node → Bool
  | .comment c => Directive.ignoresNext c.text
  | _ => false

mutual

/-- The ignored nodes of a node and what it holds. It is ignored itself if `marked` says so or its
own text switches resolution off; an embedded sheet passes nothing on to what it holds. -/
def scanNode (marked : Bool) : Node → List NodeId
  | .rule head body tail =>
    let off := Directive.switchesOff (Node.rule head body tail).render
    (if marked || off then [head.id] else []) ++ scanNodes off false body
  | .atBlock head body tail =>
    let off := Directive.switchesOff (Node.atBlock head body tail).render
    (if marked || off then [head.id] else []) ++ scanNodes off false body
  | .document id body after =>
    let off := Directive.switchesOff (Node.document id body after).render
    (if marked || off then [id] else []) ++ scanNodes false false body
  | .atStatement head semicolon =>
    if marked || Directive.switchesOff (Node.atStatement head semicolon).render then [head.id]
    else []
  | .declaration d => if marked || Directive.switchesOff d.render then [d.id] else []
  | .comment c => if marked || Directive.switchesOff c.render then [c.id] else []

/-- The ignored nodes of a sequence and what it holds: all of the sequence if resolution is `off`
there, and its first node if `ignoreNext` says so. -/
def scanNodes (off ignoreNext : Bool) : List Node → List NodeId
  | [] => []
  | n :: ns => scanNode (off || ignoreNext) n ++ scanNodes off (asksIgnoreNext n) ns

end

/-- The ignored nodes of a sheet. -/
def scan (sheet : Stylesheet) : IgnoreSet := ⟨scanNodes false false sheet.nodes⟩

end IgnoreSet

end CustomProperties
