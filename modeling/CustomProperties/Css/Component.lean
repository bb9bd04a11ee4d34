import CustomProperties.Css.Lexer

/-!
# Component values

`Component.group` nests a sequence of lexemes by its brackets. A bracket is closed by the first
closing mark of its own kind that stands directly inside it; a closing mark of another kind is an
ordinary lexeme there, and a bracket that is never closed holds everything up to the end.
Grouping changes no text: `textOf_components`.
-/

namespace CustomProperties.Css

/-- A lexeme, or a bracket with all it holds. -/
inductive Component where
  | token (lexeme : Lexeme)
  /-- A bracket: the lexeme that opens it, its contents, and the lexeme that closes it. -/
  | block (opener : Lexeme) (bracket : Bracket) (contents : List Component)
      (closer : Option Lexeme)
deriving Inhabited

namespace Component

mutual

/-- The text of a component. -/
def text : Component → List Char
  | token l => l.text
  | block opener _ contents closer =>
    opener.text ++ textOf contents ++ (closer.map (·.text)).getD []

/-- The text of a sequence of components. -/
def textOf : List Component → List Char
  | [] => []
  | c :: cs => c.text ++ textOf cs

end

@[simp] theorem text_token (l : Lexeme) : (token l).text = l.text := by rw [text]

@[simp] theorem text_block (opener : Lexeme) (bracket : Bracket) (contents : List Component)
    (closer : Option Lexeme) :
    (block opener bracket contents closer).text
      = opener.text ++ textOf contents ++ (closer.map (·.text)).getD [] := by rw [text]

@[simp] theorem textOf_nil : textOf [] = [] := by rw [textOf]

@[simp] theorem textOf_cons (c : Component) (cs : List Component) :
    textOf (c :: cs) = c.text ++ textOf cs := by rw [textOf]

@[simp] theorem textOf_append (cs ds : List Component) :
    textOf (cs ++ ds) = textOf cs ++ textOf ds := by
  induction cs with
  | nil => simp
  | cons c cs ih => simp [ih]

/-- Whether a component is a semicolon. -/
def isSemicolon : Component → Bool
  | token l => l.token == .semicolon
  | block .. => false

/-- Whether a component is a block in curly brackets. -/
def isCurly : Component → Bool
  | block _ .curly _ _ => true
  | _ => false

/-- Whether a block counts as closed: it is closed by its own mark, or nothing closes it but the
text ends in that mark all the same, inside a string or a comment. -/
def countsAsClosed (bracket : Bracket) (contents : List Component) (closer : Option Lexeme) :
    Bool :=
  closer.isSome || (textOf contents).getLast? == some bracket.closing

/-! ### Grouping -/

/-- A bracket still open: what stands before it, in reverse, and what opens it. -/
structure Frame where
  outer : List Component
  opener : Lexeme
  bracket : Bracket

/-- End an open bracket, given its contents in reverse. -/
def Frame.finish (frame : Frame) (contents : List Component) (closer : Option Lexeme) :
    List Component :=
  block frame.opener frame.bracket contents.reverse closer :: frame.outer

/-- The state of grouping: the brackets still open, innermost first, and what stands directly in
the innermost one so far, in reverse. -/
structure Grouping where
  frames : List Frame
  inner : List Component

namespace Grouping

/-- Nothing read yet. -/
def start : Grouping := ⟨[], []⟩

/-- Take in one lexeme. -/
def step (g : Grouping) (l : Lexeme) : Grouping :=
  match l.token.opens? with
  | some bracket => ⟨⟨g.inner, l, bracket⟩ :: g.frames, []⟩
  | none =>
    match g.frames with
    | frame :: frames =>
      if l.token.closes frame.bracket then ⟨frames, frame.finish g.inner (some l)⟩
      else ⟨g.frames, token l :: g.inner⟩
    | [] => ⟨[], token l :: g.inner⟩

/-- The components, with the brackets that are still open ended where the text ends. -/
def finish : List Frame → List Component → List Component
  | [], inner => inner.reverse
  | frame :: frames, inner => finish frames (frame.finish inner none)

end Grouping

/-- Nest lexemes by their brackets. -/
def group (lexemes : List Lexeme) : List Component :=
  let g := lexemes.foldl Grouping.step .start
  Grouping.finish g.frames g.inner

namespace Grouping

/-- The text taken in so far. -/
def text : List Frame → List Component → List Char
  | [], inner => textOf inner.reverse
  | frame :: frames, inner => text frames frame.outer ++ frame.opener.text ++ textOf inner.reverse

theorem text_cons (frames : List Frame) (c : Component) (inner : List Component) :
    text frames (c :: inner) = text frames inner ++ c.text := by
  cases frames <;> simp [text]

theorem text_step (g : Grouping) (l : Lexeme) :
    text (g.step l).frames (g.step l).inner = text g.frames g.inner ++ l.text := by
  obtain ⟨frames, inner⟩ := g
  unfold step
  split
  · simp [text]
  · split
    · rename_i frame frames h
      simp only at h
      subst h
      simp only
      split
      · rw [Frame.finish, text_cons]
        simp [text]
      · exact text_cons ..
    · rename_i h
      simp only at h
      subst h
      simp [text]

theorem text_foldl (lexemes : List Lexeme) (g : Grouping) :
    text (lexemes.foldl step g).frames (lexemes.foldl step g).inner
      = text g.frames g.inner ++ Lexeme.textOf lexemes := by
  induction lexemes generalizing g with
  | nil => simp
  | cons l ls ih => simp [ih, text_step]

theorem textOf_finish (frames : List Frame) (inner : List Component) :
    textOf (finish frames inner) = text frames inner := by
  induction frames generalizing inner with
  | nil => rfl
  | cons frame frames ih =>
    rw [finish, ih, Frame.finish, text_cons]
    simp [text]

end Grouping

/-- Grouping keeps the text. -/
@[simp] theorem textOf_group (lexemes : List Lexeme) :
    textOf (group lexemes) = Lexeme.textOf lexemes := by
  simp [group, Grouping.textOf_finish, Grouping.text_foldl, Grouping.text, Grouping.start]

end Component

/-- The components of a text. -/
def components (text : List Char) : List Component := Component.group (lex text)

/-- The components of a text tile it. -/
@[simp] theorem textOf_components (text : List Char) :
    Component.textOf (components text) = text := by
  simp [components]

end CustomProperties.Css
