import CustomProperties.Text.WordTable

/-!
# Word characters and word boundaries
-/

namespace CustomProperties.Text

/-- Whether a character belongs to a word: letters, marks, decimal digits, connector
punctuation such as `_`, and the two join controls. -/
def isWord (c : Char) : Bool :=
  if c.toNat < 0x80 then c.isAlphanum || c == '_' else wordRanges.covers c.toNat

/-- Whether a word that ends right before `rest` ends there. -/
def endsWord : List Char → Bool
  | [] => true
  | c :: _ => !isWord c

@[simp] theorem endsWord_nil : endsWord [] = true := rfl

@[simp] theorem endsWord_cons (c : Char) (rest : List Char) : endsWord (c :: rest) = !isWord c :=
  rfl

end CustomProperties.Text
