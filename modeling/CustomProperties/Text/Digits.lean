/-!
# Digits and character codes
-/

namespace CustomProperties.Text

/-- The value of a hexadecimal digit. -/
def hexDigit? (c : Char) : Option Nat :=
  if '0' ≤ c ∧ c ≤ '9' then some (c.toNat - '0'.toNat)
  else if 'a' ≤ c ∧ c ≤ 'f' then some (c.toNat - 'a'.toNat + 10)
  else if 'A' ≤ c ∧ c ≤ 'F' then some (c.toNat - 'A'.toNat + 10)
  else none

/-- The value of a digit to a base of at most sixteen. -/
def digit? (base : Nat) (c : Char) : Option Nat := (hexDigit? c).filter (· < base)

/-- Whether a character is a digit to a base. -/
def isDigitIn (base : Nat) (c : Char) : Bool := (digit? base c).isSome

/-- The number that digits to a base write. Other characters do not count. -/
def valueOfDigits (base : Nat) (text : List Char) : Nat :=
  text.foldl (fun n c => match digit? base c with
    | some digit => base * n + digit
    | none => n) 0

/-- The character of a code point that is no surrogate. -/
def charOfCode? (code : Nat) : Option Char :=
  if h : code.isValidChar then some (Char.ofNatAux code h) else none

/-- The character that two surrogates stand for. -/
def charOfPair? (high low : Nat) : Option Char :=
  if 0xD800 ≤ high ∧ high < 0xDC00 ∧ 0xDC00 ≤ low ∧ low < 0xE000 then
    charOfCode? (0x10000 + (high - 0xD800) * 0x400 + (low - 0xDC00))
  else none

@[simp] theorem charOfCode?_toNat (c : Char) : charOfCode? c.toNat = some c := by
  have h : c.toNat.isValidChar := c.valid
  rw [charOfCode?, dif_pos h]
  rfl

/-- The text of code points, in which a surrogate may stand only as one of a pair. -/
def textOfCodes? : List Nat → Option (List Char)
  | [] => some []
  | code :: rest =>
    match charOfCode? code with
    | some c => (textOfCodes? rest).map (c :: ·)
    | none =>
      match rest with
      | low :: rest => do
        let c ← charOfPair? code low
        (textOfCodes? rest).map (c :: ·)
      | [] => none

/-- The text of the codes of characters is those characters. -/
@[simp] theorem textOfCodes?_map_toNat (text : List Char) :
    textOfCodes? (text.map Char.toNat) = some text := by
  induction text with
  | nil => rfl
  | cons c text ih =>
    rw [List.map_cons, textOfCodes?.eq_def]
    simp [ih]

end CustomProperties.Text
