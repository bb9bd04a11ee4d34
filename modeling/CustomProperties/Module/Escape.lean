import CustomProperties.Text.Digits

/-!
# Escapes

What a backslash in a string, a template or a name stands for. Digits of an escape may have
separators before and between them, and two escapes that write the halves of a surrogate pair are
one. An escape that is broken off is taken up to the character that breaks it.
-/

namespace CustomProperties.Module

open Text (isDigitIn valueOfDigits charOfPair?)

/-- Whether a character ends a line. -/
def isLineBreak (c : Char) : Bool :=
  c == '\n' || c == '\r' || c == '\u2028' || c == '\u2029'

/-- What a backslash and the characters behind it stand for, and how many these are. -/
inductive Escape where
  | code (code length : Nat)
  /-- The end of a line, which is not part of the text. -/
  | lineBreak (length : Nat)
  | broken (length : Nat)
deriving DecidableEq, Repr

namespace Escape

/-- An escape with more characters before it. -/
def after (front : Nat) : Escape → Escape
  | code n length => code n (front + length)
  | lineBreak length => lineBreak (front + length)
  | broken length => broken (front + length)

/-- The digits to a base at the start of a text, at most `count`, and how many characters they and
the separators among them take. -/
def digits (base : Nat) : (count : Nat) → List Char → List Char × Nat
  | 0, _ => ([], 0)
  | _, [] => ([], 0)
  | count + 1, c :: rest =>
    if c == '_' then
      let more := digits base (count + 1) rest
      (more.1, more.2 + 1)
    else if isDigitIn base c then
      let more := digits base count rest
      (c :: more.1, more.2 + 1)
    else ([], 0)

/-- An escape of a fixed number of hexadecimal digits. -/
def ofDigits (count : Nat) (text : List Char) : Escape :=
  let run := digits 16 count text
  if run.1.length = count then code (valueOfDigits 16 run.1) run.2 else broken run.2

/-- An escape of hexadecimal digits up to a closing bracket. -/
def ofBracketed (text : List Char) : Escape :=
  let run := digits 16 text.length text
  let value := valueOfDigits 16 run.1
  if run.1.isEmpty || 0x10FFFF < value || (text.drop run.2).head? != some '}' then broken run.2
  else code value (run.2 + 1)

/-- An escape that writes one code, from behind its `u` on. -/
def ofCode : List Char → Escape
  | '{' :: text => (ofBracketed text).after 1
  | text => ofDigits 4 text

/-- An escape from behind its `u` on. The first half of a surrogate pair may be followed by an
escape for the second one. -/
def ofUnicode (text : List Char) : Escape :=
  match ofCode text with
  | code high length =>
    if 0xD800 ≤ high && high < 0xDC00 then
      match text.drop length with
      | '\\' :: 'u' :: rest =>
        match ofDigits 4 rest with
        | code low more =>
          match charOfPair? high low with
          | some c => code c.toNat (length + 2 + more)
          | none => code high length
        | other => other.after (length + 2)
      | _ => code high length
    else code high length
  | other => other

/-- The octal digits at the start of a text, at most three and writing no more than 255. -/
def octalDigits (text : List Char) : List Char :=
  let digits := (text.take 3).takeWhile (isDigitIn 8)
  if 255 < valueOfDigits 8 digits then digits.take 2 else digits

/-- The code of the character that a letter behind a backslash stands for. -/
def simple (c : Char) : Nat :=
  match c with
  | 'n' => 0x0A
  | 'r' => 0x0D
  | 't' => 0x09
  | 'b' => 0x08
  | 'v' => 0x0B
  | 'f' => 0x0C
  | c => c.toNat

/-- Read what is behind a backslash. Octal digits have no place in a template. -/
def read (inTemplate : Bool) : List Char → Escape
  | [] => broken 0
  | '\r' :: '\n' :: _ => lineBreak 2
  | c :: rest =>
    if isLineBreak c then lineBreak 1
    else if c == 'x' then (ofDigits 2 rest).after 1
    else if c == 'u' then (ofUnicode rest).after 1
    else if isDigitIn 8 c then
      if c == '0' && !(rest.head?.any (isDigitIn 8)) then code 0 1
      else if inTemplate then broken 1
      else
        let digits := octalDigits (c :: rest)
        code (valueOfDigits 8 digits) digits.length
    else code (simple c) 1

end Escape

end CustomProperties.Module
