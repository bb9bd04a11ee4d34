import CustomProperties.Json.Basic
import CustomProperties.Text.Digits

/-!
# Reading JSON

A text is cut into tokens, and a machine with a stack of the open arrays and objects takes the
tokens one by one. At most 127 arrays and objects may be open at a time.
-/

namespace CustomProperties.Json

open Text (hexDigit? textOfCodes?)

/-- A token of JSON text. -/
inductive Token where
  | openArray
  | closeArray
  | openObject
  | closeObject
  | comma
  | colon
  /-- A string, or none if it holds half of a surrogate pair. -/
  | string (value : Option String)
  /-- A number, a truth value or null, or none for a number that is too great. -/
  | scalar (value : Option Json)
deriving Inhabited

/-! ### Strings -/

/-- The number that four hexadecimal digits write. -/
def hexFour? (a b c d : Char) : Option Nat := do
  let (w, x, y, z) := (← hexDigit? a, ← hexDigit? b, ← hexDigit? c, ← hexDigit? d)
  pure (((w * 16 + x) * 16 + y) * 16 + z)

/-- The character that a letter stands for behind a backslash. -/
def simpleEscape? (c : Char) : Option Char :=
  if c = '"' ∨ c = '\\' ∨ c = '/' then some c
  else if c = 'b' then some '\x08'
  else if c = 'f' then some '\x0c'
  else if c = 'n' then some '\n'
  else if c = 'r' then some '\r'
  else if c = 't' then some '\t'
  else none

/-- Read a string up to its closing quote: the codes in it, and the text behind it. -/
def readString : List Char → Option (List Nat × List Char)
  | [] => none
  | '"' :: rest => some ([], rest)
  | '\\' :: 'u' :: a :: b :: c :: d :: rest => do
    let code ← hexFour? a b c d
    let (codes, rest) ← readString rest
    pure (code :: codes, rest)
  | '\\' :: c :: rest => do
    let char ← simpleEscape? c
    let (codes, rest) ← readString rest
    pure (char.toNat :: codes, rest)
  | c :: rest => do
    if c.toNat < 0x20 || c = '\\' then none
    let (codes, rest) ← readString rest
    pure (c.toNat :: codes, rest)

/-! ### Numbers -/

/-- Whether a character is a decimal digit. -/
def isDigit (c : Char) : Bool := '0' ≤ c && c ≤ '9'

/-- The value of a decimal digit. -/
def digitValue (c : Char) : Nat := c.toNat - '0'.toNat

/-- The greatest number of 64 bits. -/
def maxNatural : Nat := Nat.pow 2 64 - 1

/-- Take digits into a number as long as it fits in 64 bits: the number, how many digits were taken,
and the digits left over. -/
def takeDigits : Nat → Nat → List Char → Nat × Nat × List Char
  | n, taken, [] => (n, taken, [])
  | n, taken, c :: cs =>
    let next := 10 * n + digitValue c
    if maxNatural < next then (n, taken, c :: cs) else takeDigits next (taken + 1) cs

/-- The double `significand * 10 ^ exponent`: the significand is rounded first, and then multiplied
or divided by powers of ten that are rounded themselves. There is none where the product is
infinite. -/
def scaleBy (significand : Nat) (exponent : Int) : Option Double :=
  let start := Double.ofNat significand
  if 308 < exponent then
    if start.isZero then some start else none
  else if 0 ≤ exponent then
    let product := start.mul (Double.ofDecimal false 1 exponent)
    if product.isInfinite then none else some product
  else some (divide start exponent.natAbs 4)
where
  /-- Divide by a power of ten, in steps of at most 308; three of them leave nothing. -/
  divide (x : Double) (power : Nat) : Nat → Double
    | 0 => .zero false
    | n + 1 =>
      if power ≤ 308 then x.div (Double.ofDecimal false 1 power)
      else if x.isZero then x
      else divide (x.div (Double.ofDecimal false 1 308)) (power - 308) n

/-- The exponent of a number: the letter, a sign and digits. Gives the exponent and the text behind
it; no exponent is zero. -/
def readExponent : List Char → Option (Int × List Char)
  | c :: rest =>
    if c = 'e' ∨ c = 'E' then
      let (negative, digits) := match rest with
        | '+' :: digits => (false, digits)
        | '-' :: digits => (true, digits)
        | _ => (false, rest)
      let exponent := (digits.takeWhile isDigit).foldl (fun n c => 10 * n + digitValue c) 0
      if digits.takeWhile isDigit = [] then none
      else some (if negative then -exponent else exponent, digits.dropWhile isDigit)
    else some (0, c :: rest)
  | [] => some (0, [])

/-- A number without its sign, unless it is too great, and the text behind it. -/
def readMagnitude (negative : Bool) (text : List Char) : Option (Option Json × List Char) := do
  let whole := text.takeWhile isDigit
  let rest := text.dropWhile isDigit
  if whole = [] || (whole.head? = some '0' && whole ≠ ['0']) then none
  let (significand, _, dropped) := takeDigits 0 0 whole
  let sign (x : Double) := if negative then x.neg else x
  let real (significand : Nat) (shift : Int) (rest : List Char) :
      Option (Option Json × List Char) := do
    let (exponent, rest) ← readExponent rest
    pure ((scaleBy significand (shift + exponent)).map fun x => double (sign x), rest)
  match rest with
  | '.' :: more =>
    let fraction := more.takeWhile isDigit
    if fraction = [] then none
    let (significand, used, _) := takeDigits significand 0 fraction
    real significand (dropped.length - used) (more.dropWhile isDigit)
  | 'e' :: _ | 'E' :: _ => real significand dropped.length rest
  | _ =>
    if dropped ≠ [] then real significand dropped.length rest
    else if negative then
      if significand = 0 || Nat.pow 2 63 < significand then
        pure (some (double (Double.ofNat significand).neg), rest)
      else pure (some (integer (-significand)), rest)
    else pure (some (integer significand), rest)

/-- A number, unless it is too great, and the text behind it. -/
def readNumber : List Char → Option (Option Json × List Char)
  | '-' :: rest => readMagnitude true rest
  | text => readMagnitude false text

/-! ### Tokens -/

/-- Whether a character may stand between tokens. -/
def isGap (c : Char) : Bool := c == ' ' || c == '\n' || c == '\t' || c == '\r'

/-- The first token of a text without leading blanks, and the text behind it. -/
def readToken : List Char → Option (Token × List Char)
  | '[' :: rest => some (.openArray, rest)
  | ']' :: rest => some (.closeArray, rest)
  | '{' :: rest => some (.openObject, rest)
  | '}' :: rest => some (.closeObject, rest)
  | ',' :: rest => some (.comma, rest)
  | ':' :: rest => some (.colon, rest)
  | '"' :: rest =>
    (readString rest).map fun (codes, rest) =>
      (.string ((textOfCodes? codes).map String.ofList), rest)
  | 'n' :: 'u' :: 'l' :: 'l' :: rest => some (.scalar (some null), rest)
  | 't' :: 'r' :: 'u' :: 'e' :: rest => some (.scalar (some (bool true)), rest)
  | 'f' :: 'a' :: 'l' :: 's' :: 'e' :: rest => some (.scalar (some (bool false)), rest)
  | text => (readNumber text).map fun (number, rest) => (.scalar number, rest)

/-- The tokens of a text. The first argument bounds how many there are. -/
def tokensWithin : Nat → List Char → Option (List Token)
  | bound, text =>
    match text.dropWhile isGap, bound with
    | [], _ => some []
    | _, 0 => none
    | text, bound + 1 => do
      let (token, rest) ← readToken text
      pure (token :: (← tokensWithin bound rest))

/-- The tokens of a text. Every token takes at least one character. -/
def tokens (text : List Char) : Option (List Token) := tokensWithin text.length text

/-! ### Nesting -/

/-- An array or object still open, its items or members so far in reverse. -/
inductive Frame where
  | array (items : List Json)
  /-- An object and the name whose value is being read. -/
  | object (members : List (String × Json)) (name : String)

/-- What the machine waits for, inside the frames that are open. -/
inductive State where
  | value (frames : List Frame)
  /-- The first value of an array, or the array's end. -/
  | item (frames : List Frame)
  /-- A name. The end of the object will do if nothing stands in it yet. -/
  | name (frames : List Frame) (members : List (String × Json))
  | colon (frames : List Frame) (members : List (String × Json)) (name : String)
  /-- What stands behind a value. -/
  | next (frames : List Frame) (value : Json)

/-- How many arrays and objects may be open. -/
def maxDepth : Nat := 127

/-- Whether what is read inside some frames is part of a member of the outermost object that is
passed over. -/
def isPassedOver (passOver : String → Bool) : List Frame → Bool
  | [] => false
  | [.object _ name] => passOver name
  | _ :: frames => isPassedOver passOver frames

/-- Take the first token of a value. What is passed over may be nested to any depth, and hold
strings and numbers that stand for nothing. -/
def stepValue (passOver : String → Bool) (frames : List Frame) : Token → Option State
  | .scalar (some value) => some (.next frames value)
  | .string (some value) => some (.next frames (.string value))
  | .scalar none => if isPassedOver passOver frames then some (.next frames .null) else none
  | .string none => if isPassedOver passOver frames then some (.next frames .null) else none
  | .openArray =>
    if frames.length < maxDepth || isPassedOver passOver frames then some (.item frames) else none
  | .openObject =>
    if frames.length < maxDepth || isPassedOver passOver frames then some (.name frames []) else none
  | _ => none

/-- Take one token. -/
def step (passOver : String → Bool) : State → Token → Option State
  | .value frames, token => stepValue passOver frames token
  | .item frames, .closeArray => some (.next frames (.array []))
  | .item frames, token => stepValue passOver (.array [] :: frames) token
  | .name frames members, .string (some name) => some (.colon frames members name)
  | .name frames members, .string none =>
    if isPassedOver passOver frames then some (.colon frames members "") else none
  | .name frames [], .closeObject => some (.next frames (.object []))
  | .colon frames members name, .colon => some (.value (.object members name :: frames))
  | .next (.array items :: frames) value, .comma => some (.value (.array (value :: items) :: frames))
  | .next (.array items :: frames) value, .closeArray =>
    some (.next frames (.array (value :: items).reverse))
  | .next (.object members name :: frames) value, .comma =>
    some (.name frames ((name, value) :: members))
  | .next (.object members name :: frames) value, .closeObject =>
    some (.next frames (.object ((name, value) :: members).reverse))
  | _, _ => none

/-- Take tokens one by one. -/
def run (passOver : String → Bool) : State → List Token → Option State
  | state, [] => some state
  | state, token :: tokens => (step passOver state token).bind (run passOver · tokens)

/-- The value that a text is, members kept as written. Of members of the outermost object that are
passed over only the form is looked at. -/
def parseRaw (passOver : String → Bool) (text : String) : Option Json := do
  match ← run passOver (.value []) (← tokens text.toList) with
  | .next [] value => pure value
  | _ => none

/-- The value that a text is. -/
def parse (text : String) : Option Json := (parseRaw (fun _ => false) text).map merged

end CustomProperties.Json
