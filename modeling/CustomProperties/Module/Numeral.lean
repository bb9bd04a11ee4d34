import CustomProperties.Module.Token
import CustomProperties.Text.Digits

/-!
# Numerals

Numbers are read with separators anywhere among their digits. What is to a base other than ten is
rounded at every digit. A numeral without digits, or right before a name, is unreadable, but taken
in as far as it goes.
-/

namespace CustomProperties.Module

open Text (digit? isDigitIn valueOfDigits)

namespace Numeral

/-- The digits to a base at the start of a text, with the separators between them. -/
def digitsFrom (base : Nat) (text : List Char) : List Char :=
  text.takeWhile fun c => c == '_' || isDigitIn base c

/-- The digits without separators. -/
def withoutSeparators (digits : List Char) : List Char := digits.filter (· != '_')

/-- The number that digits to a base write, rounded at every digit. -/
def integer (base : Nat) (digits : List Char) : Double :=
  digits.foldl (fun x c => x.appendDigit base ((digit? base c).getD 0)) (.zero false)

/-- Whether a text starts with a name of ASCII characters, which must not follow a number right
away. -/
def meetsName (text : List Char) : Bool :=
  text.head?.any fun c => c.isAlpha || c == '$' || c == '_'

/-- A number that ends before `rest`. -/
def before (rest : List Char) (value : Double) : Token × List Char :=
  if meetsName rest then (.unreadable, rest) else (.number value, rest)

/-- Read a number to a base other than ten, behind the letter that tells the base. -/
def readBased (base : Nat) (text : List Char) : Token × List Char :=
  let front := digitsFrom base text
  let digits := withoutSeparators front
  let rest := text.drop front.length
  if digits.isEmpty then (.unreadable, rest)
  else match rest with
    | 'n' :: rest => (.bigInteger, rest)
    | rest => before rest (integer base digits)

/-- Read the exponent of a number, if there is one: its value, unless it has no digits, and the text
behind it. -/
def readExponent : List Char → Option Int × List Char
  | c :: rest =>
    if c == 'e' || c == 'E' then
      let (negative, text) := match rest with
        | '-' :: text => (true, text)
        | '+' :: text => (false, text)
        | text => (false, text)
      let front := digitsFrom 10 text
      let digits := withoutSeparators front
      let size : Int := valueOfDigits 10 digits
      (if digits.isEmpty then none else some (if negative then -size else size),
        text.drop front.length)
    else (some 0, c :: rest)
  | [] => (some 0, [])

/-- Read the fraction and the exponent of a number with the given digits before the point. -/
def readFraction (whole : List Char) (text : List Char) : Token × List Char :=
  let (fraction, rest) := match text with
    | '.' :: rest =>
      let front := digitsFrom 10 rest
      (withoutSeparators front, rest.drop front.length)
    | _ => ([], text)
  match readExponent rest with
  | (none, rest) => (.unreadable, rest)
  | (some exponent, rest) =>
    let digits := valueOfDigits 10 (whole ++ fraction)
    before rest (.ofDecimal false digits (exponent - fraction.length))

/-- Read a number that starts with a digit. One that starts with zero and holds neither an eight nor
a nine is octal. -/
def readDecimal (text : List Char) : Token × List Char :=
  let front := digitsFrom 10 text
  let digits := withoutSeparators front
  let rest := text.drop front.length
  let zeroFirst := text.head? == some '0'
  match rest with
  | 'n' :: more =>
    if zeroFirst && front.length != 1 then (.unreadable, rest) else (.bigInteger, more)
  | _ =>
    if zeroFirst && front.length != 1 && digits.all (isDigitIn 8) then
      before rest (integer 8 digits)
    else readFraction digits rest

/-- Read a number. -/
def read (c : Char) (rest : List Char) : Token × List Char :=
  match c, rest with
  | '.', _ => readFraction [] (c :: rest)
  | '0', 'x' :: rest => readBased 16 rest
  | '0', 'X' :: rest => readBased 16 rest
  | '0', 'o' :: rest => readBased 8 rest
  | '0', 'O' :: rest => readBased 8 rest
  | '0', 'b' :: rest => readBased 2 rest
  | '0', 'B' :: rest => readBased 2 rest
  | _, _ => readDecimal (c :: rest)

end Numeral

end CustomProperties.Module
