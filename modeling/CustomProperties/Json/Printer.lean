import CustomProperties.Json.Basic

/-!
# Writing JSON

`Json.compact` writes a value on one line without blanks, `Json.pretty` with two blanks for every
level. In strings, quotes, backslashes and control characters are escaped and nothing else.
-/

namespace CustomProperties.Json

/-- A hexadecimal digit in lower case. -/
def hexDigit (n : Nat) : Char := Nat.digitChar (n % 16)

/-- A character inside a string. -/
def escapeChar (c : Char) : List Char :=
  if c = '"' then ['\\', '"']
  else if c = '\\' then ['\\', '\\']
  else if c = '\x08' then ['\\', 'b']
  else if c = '\x0c' then ['\\', 'f']
  else if c = '\n' then ['\\', 'n']
  else if c = '\r' then ['\\', 'r']
  else if c = '\t' then ['\\', 't']
  else if c.toNat < 0x20 then
    ['\\', 'u', '0', '0', hexDigit (c.toNat / 16), hexDigit c.toNat]
  else [c]

/-- A text as a string. -/
def quote (text : String) : String :=
  String.ofList ('"' :: text.toList.flatMap escapeChar ++ ['"'])

/-- A double: positional from `0.00001` to below `10 ^ 16`, then with at least one digit after the
point, and with an exponent otherwise. -/
def writeDouble : Double → String
  | .infinite _ => "null"
  | .finite negative mantissa exponent =>
    let d := Double.shortest .even mantissa exponent
    let magnitude :=
      if mantissa = 0 then "0.0"
      else if -5 ≤ d.pointPosition - 1 ∧ d.pointPosition - 1 ≤ 15 then
        if 0 ≤ d.exponent then d.positional ++ ".0" else d.positional
      else d.scientific
    (if negative then "-" else "") ++ magnitude

mutual

/-- A value on one line. -/
def compact : Json → String
  | null => "null"
  | bool value => if value then "true" else "false"
  | integer value => toString value
  | double value => writeDouble value
  | string value => quote value
  | array items => "[" ++ compactItems items ++ "]"
  | object members => "\x7b" ++ compactMembers members ++ "\x7d"

/-- The values of an array, with commas between them. -/
def compactItems : List Json → String
  | [] => ""
  | [item] => item.compact
  | item :: items => item.compact ++ "," ++ compactItems items

/-- The members of an object, with commas between them. -/
def compactMembers : List (String × Json) → String
  | [] => ""
  | [(name, value)] => quote name ++ ":" ++ value.compact
  | (name, value) :: members =>
    quote name ++ ":" ++ value.compact ++ "," ++ compactMembers members

end

/-- A new line, two blanks in for every level. -/
def newline (level : Nat) : String := String.ofList ('\n' :: List.replicate (2 * level) ' ')

mutual

/-- A value over several lines, from a line at `level`. -/
def prettyAt (level : Nat) : Json → String
  | array [] => "[]"
  | object [] => "\x7b\x7d"
  | array items => "[" ++ prettyItems (level + 1) items ++ newline level ++ "]"
  | object members => "\x7b" ++ prettyMembers (level + 1) members ++ newline level ++ "\x7d"
  | null => compact null
  | bool value => compact (bool value)
  | integer value => compact (integer value)
  | double value => compact (double value)
  | string value => compact (string value)

/-- The values of an array, a line each. -/
def prettyItems (level : Nat) : List Json → String
  | [] => ""
  | [item] => newline level ++ item.prettyAt level
  | item :: items => newline level ++ item.prettyAt level ++ "," ++ prettyItems level items

/-- The members of an object, a line each. -/
def prettyMembers (level : Nat) : List (String × Json) → String
  | [] => ""
  | [(name, value)] => newline level ++ quote name ++ ": " ++ value.prettyAt level
  | (name, value) :: members =>
    newline level ++ quote name ++ ": " ++ value.prettyAt level ++ ","
      ++ prettyMembers level members

end

/-- A value over several lines. -/
def pretty (value : Json) : String := value.prettyAt 0

end CustomProperties.Json
