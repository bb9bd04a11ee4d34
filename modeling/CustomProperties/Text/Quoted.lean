import CustomProperties.Text.ExtendTable
import CustomProperties.Text.InvisibleTable

/-!
# Quoted text

Text in messages is quoted so that every character of it can be seen: double quotes and backslashes
are escaped, and so are characters that show nothing on their own.
-/

namespace CustomProperties.Text

/-- Whether a character shows something of its own. -/
def isVisible (c : Char) : Bool :=
  if c.toNat < 0x80 then 0x20 ≤ c.toNat && c.toNat < 0x7F
  else !invisibleRanges.covers c.toNat && !extendRanges.covers c.toNat

/-- A character in quoted text. -/
def quoteChar (c : Char) : List Char :=
  if c = '"' || c = '\\' then ['\\', c]
  else if c = '\x00' then ['\\', '0']
  else if c = '\t' then ['\\', 't']
  else if c = '\n' then ['\\', 'n']
  else if c = '\r' then ['\\', 'r']
  else if isVisible c then [c]
  else "\\u\x7b".toList ++ Nat.toDigits 16 c.toNat ++ ['}']

/-- A text in double quotes. -/
def quoted (text : String) : String :=
  String.ofList ('"' :: text.toList.flatMap quoteChar ++ ['"'])

end CustomProperties.Text
