import CustomProperties.Text.ContinueTable
import CustomProperties.Text.Word

/-!
# Identifier characters

The characters with the properties ID_Start and ID_Continue. They are close to the word characters:
beyond ASCII an identifier holds all of these but a few, and a few others.
-/

namespace CustomProperties.Text

/-- The word characters above U+007F that no identifier holds. -/
def wordOnlyRanges : RangeTable := [
  (0x488, 0x489), (0x1ABE, 0x1ABE), (0x20DD, 0x20E0), (0x20E2, 0x20E4), (0x24B6, 0x24E9),
  (0x2E2F, 0x2E2F), (0xA670, 0xA672), (0x1F130, 0x1F149), (0x1F150, 0x1F169), (0x1F170, 0x1F189)]

/-- The characters above U+007F that start an identifier though they belong to no word. -/
def startOnlyRanges : RangeTable := [
  (0x58B, 0x58C), (0x88F, 0x88F), (0xC5C, 0xC5C), (0xCDC, 0xCDC), (0x209D, 0x209F),
  (0x2118, 0x2118), (0x212E, 0x212E), (0x309B, 0x309C), (0xA7CE, 0xA7CF), (0xA7D2, 0xA7D2),
  (0xA7D4, 0xA7D4), (0xA7F1, 0xA7F1), (0x10940, 0x10959), (0x10EC5, 0x10EC7), (0x11DB0, 0x11DDB),
  (0x16EA0, 0x16EB8), (0x16EBB, 0x16ED3), (0x16FF2, 0x16FF6), (0x187F8, 0x187FF),
  (0x18D09, 0x18D1E), (0x18D80, 0x18DF2), (0x1E6C0, 0x1E6DE), (0x1E6E0, 0x1E6E2),
  (0x1E6E4, 0x1E6E5), (0x1E6E7, 0x1E6ED), (0x1E6F0, 0x1E6F4), (0x1E6FE, 0x1E6FF),
  (0x2B73A, 0x2B73F), (0x2CEA2, 0x2CEAD), (0x323B0, 0x33479), (0x3D000, 0x3FC3F)]

/-- Whether an identifier may start with a character. -/
def startsIdentifier (c : Char) : Bool :=
  let code := c.toNat
  if code < 0x80 then c.isAlpha
  else startOnlyRanges.covers code
    || (isWord c && !wordOnlyRanges.covers code && !continueOnlyRanges.covers code)

/-- Whether an identifier may go on with a character. -/
def continuesIdentifier (c : Char) : Bool :=
  let code := c.toNat
  if code < 0x80 then c.isAlphanum || c == '_'
  else startsIdentifier c || continueOnlyRanges.covers code

end CustomProperties.Text
