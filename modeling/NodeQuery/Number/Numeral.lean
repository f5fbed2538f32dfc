import NodeQuery.Number.Binary64

/-!
# Numerals

A numeral is written as an optional sign, digits with at most one decimal point among
them, and an optional exponent. Its value is an exact decimal, a whole coefficient times a
power of ten; the floating point number it denotes is the nearest one.

Only the ASCII digits count as digits.
-/

namespace NodeQuery.Number

/-- The whole number that a run of digits denotes. -/
def naturalOfDigits (digits : List Char) : Nat :=
  digits.foldl (fun value digit => 10 * value + (digit.toNat - '0'.toNat)) 0

/-- The digits of a whole number, without leading zeros. -/
def digitsOfNatural (value : Nat) : List Char := Nat.toDigits 10 value

/-- The digits of an integer, after a minus sign if it is negative. -/
def integerText : Int → List Char
  | .ofNat value => digitsOfNatural value
  | .negSucc value => '-' :: digitsOfNatural (value + 1)

/-- An exact decimal number: a sign and a whole coefficient times a power of ten. -/
structure Decimal where
  /-- Whether a minus sign was written; it also tells the two zeros apart. -/
  negative : Bool
  /-- The digits read as one whole number. -/
  coefficient : Nat
  /-- The power of ten that the coefficient is multiplied by. -/
  exponent : Int
deriving DecidableEq, Repr

namespace Decimal

/-- One more than the power of ten of the leading digit. -/
def magnitude (value : Decimal) : Int :=
  (digitsOfNatural value.coefficient).length + value.exponent

/-- The floating point number nearest to a decimal. Beyond the range of the format the
answer is known from the leading digit alone, and no power of ten is computed. -/
def toBinary64 (value : Decimal) : Binary64 :=
  if value.coefficient = 0 ∨ value.magnitude < -330 then .zero value.negative
  else if 310 < value.magnitude then .infinity value.negative
  else if 0 ≤ value.exponent then
    .ofQuotient value.negative (value.coefficient * Nat.pow 10 value.exponent.toNat) 1
  else .ofQuotient value.negative value.coefficient (Nat.pow 10 (-value.exponent).toNat)

end Decimal

/-- A sign, which may be missing, and the text after it. -/
def takeSign : List Char → Bool × List Char
  | '-' :: rest => (true, rest)
  | '+' :: rest => (false, rest)
  | text => (false, text)

/-- A numeral as it is written. -/
structure Numeral where
  /-- Whether it starts with a minus sign. -/
  negative : Bool
  /-- The digits before the decimal point. -/
  whole : List Char
  /-- The digits after the decimal point, if there is a point. -/
  fraction : Option (List Char)
  /-- The value of the exponent, if there is one. -/
  exponent : Option Int
deriving DecidableEq, Repr

namespace Numeral

/-- Reads the exponent after its mark: an optional sign and at least one digit. -/
def readExponent? (text : List Char) : Option Int :=
  let (negative, digits) := takeSign text
  if digits.isEmpty || !digits.all Char.isDigit then none
  else
    let value : Int := naturalOfDigits digits
    some (if negative then -value else value)

/-- Reads what follows the digits of a numeral: nothing or an exponent. -/
def readTail? : List Char → Option (Option Int)
  | [] => some none
  | mark :: rest =>
    if mark = 'e' ∨ mark = 'E' then (readExponent? rest).map some else none

/-- Reads a numeral that makes up a whole text. -/
def read? (text : List Char) : Option Numeral := do
  let (negative, unsigned) := takeSign text
  let whole := unsigned.takeWhile Char.isDigit
  let (fraction, rest) :=
    match unsigned.dropWhile Char.isDigit with
    | '.' :: rest => (some (rest.takeWhile Char.isDigit), rest.dropWhile Char.isDigit)
    | rest => (none, rest)
  if whole.isEmpty && (fraction.getD []).isEmpty then none
  else
    let exponent ← readTail? rest
    some { negative, whole, fraction, exponent }

/-- Whether a numeral is written with neither a point nor an exponent. -/
def isWhole (numeral : Numeral) : Bool := numeral.fraction.isNone && numeral.exponent.isNone

/-- The exact value of a numeral. -/
def value (numeral : Numeral) : Decimal where
  negative := numeral.negative
  coefficient := naturalOfDigits (numeral.whole ++ numeral.fraction.getD [])
  exponent := numeral.exponent.getD 0 - (numeral.fraction.getD []).length

/-- The integer that the digits before the point denote. -/
def integer (numeral : Numeral) : Int :=
  let value : Int := naturalOfDigits numeral.whole
  if numeral.negative then -value else value

end Numeral

end NodeQuery.Number
