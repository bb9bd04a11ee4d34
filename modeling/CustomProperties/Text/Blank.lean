/-!
# Blank characters

The characters with the property White_Space, and cutting them off the ends of a text.
-/

namespace CustomProperties.Text

/-- Whether a character has the property White_Space. -/
def isBlank (c : Char) : Bool :=
  let n := c.toNat
  (9 ≤ n && n ≤ 13) || n == 0x20 || n == 0x85 || n == 0xA0 || n == 0x1680
    || (0x2000 ≤ n && n ≤ 0x200A) || n == 0x2028 || n == 0x2029 || n == 0x202F
    || n == 0x205F || n == 0x3000

/-- Cut the leading blanks off. -/
def trimStart (text : List Char) : List Char := text.dropWhile isBlank

/-- Cut the trailing blanks off. -/
def trimEnd (text : List Char) : List Char := (text.reverse.dropWhile isBlank).reverse

/-- The trailing blanks. -/
def trailingBlanks (text : List Char) : List Char := (text.reverse.takeWhile isBlank).reverse

/-- Cut the blanks off both ends. -/
def trim (text : List Char) : List Char := trimStart (trimEnd text)

/-- A text without the blanks at its ends. -/
def trimmed (text : String) : String := String.ofList (trim text.toList)

/-- A text is its trimmed front followed by its trailing blanks. -/
@[simp] theorem trimEnd_append_trailingBlanks (text : List Char) :
    trimEnd text ++ trailingBlanks text = text := by
  rw [trimEnd, trailingBlanks, ← List.reverse_append, List.takeWhile_append_dropWhile,
    List.reverse_reverse]

end CustomProperties.Text
