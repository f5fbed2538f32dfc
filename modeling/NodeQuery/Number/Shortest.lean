import NodeQuery.Number.Numeral

/-!
# Shortest decimals

A floating point number is written with the fewest digits that are read back as the same
number. For each count of digits the two decimals of that length around the number are
tried; the first count with a decimal that reads back wins, of two such decimals the nearer
one, and of two equally near ones the larger. The exact decimal expansion stands behind the
search, so that a result always exists and always reads back.

How the digits are laid out is a separate decision, a `Layout`.
-/

namespace NodeQuery.Number

namespace Binary64

/-- The power of ten of the leading digit of a positive multiple of the unit. -/
def leadingExponent (amount : Nat) : Int :=
  ((digitsOfNatural (amount * Nat.pow 10 330 / unitsPerOne)).length : Int) - 331

/-- A multiple of the unit divided by a power of ten, as a quotient of whole numbers. -/
def scaledQuotient (amount : Nat) (exponent : Int) : Nat × Nat :=
  if 0 ≤ exponent then (amount, unitsPerOne * Nat.pow 10 exponent.toNat)
  else (amount * Nat.pow 10 (-exponent).toNat, unitsPerOne)

/-- Whether a decimal is read back as the number of a rank. -/
def readsBack (rank : Nat) (candidate : Decimal) : Bool :=
  candidate.toBinary64 == ofRank false rank

/-- The decimal with a given last place nearest to the number of a rank, if it is read back;
otherwise the other neighbour, if that one is. -/
def decimalAt? (rank : Nat) (exponent : Int) : Option Decimal :=
  let (numerator, denominator) := scaledQuotient (units rank) exponent
  let below := numerator / denominator
  let lower : Decimal := ⟨false, below, exponent⟩
  let upper : Decimal := ⟨false, below + 1, exponent⟩
  let (near, far) :=
    if 2 * (numerator % denominator) < denominator then (lower, upper) else (upper, lower)
  if readsBack rank near then some near
  else if readsBack rank far then some far
  else none

/-- The exact decimal expansion of the number of a rank. -/
def exactDecimal (rank : Nat) : Decimal := ⟨false, units rank * Nat.pow 5 1074, -1074⟩

/-- The decimal of fewest digits that is read back as the positive number of a rank. -/
def shortestDecimal (rank : Nat) : Decimal :=
  let leading := leadingExponent (units rank)
  ((List.range 17).findSome? fun count => decimalAt? rank (leading - Int.ofNat count)).getD
    (exactDecimal rank)

end Binary64

/-- How the digits of a floating point number are laid out. -/
structure Layout where
  /-- The power of ten of the leading digit from which on no exponent is written, if any is
  small enough to need one. -/
  least : Option Int
  /-- The power of ten of the leading digit up to which no exponent is written, if any is
  large enough to need one. -/
  greatest : Option Int
  /-- Whether a whole number without an exponent ends in a point and a zero. -/
  pointZero : Bool
deriving DecidableEq, Repr

namespace Layout

/-- Whether a number with this power of ten at its leading digit is written without an
exponent. -/
def isPositional (layout : Layout) (leading : Int) : Bool :=
  layout.least.all (· ≤ leading) && layout.greatest.all (leading ≤ ·)

/-- Writes digits without an exponent, the first one standing at a power of ten. -/
def positional (layout : Layout) (digits : List Char) (leading : Int) : List Char :=
  if leading < 0 then
    '0' :: '.' :: (List.replicate ((-leading).toNat - 1) '0' ++ digits)
  else
    let wholeLength := leading.toNat + 1
    let padding := List.replicate (wholeLength - digits.length) '0'
    let whole := digits.take wholeLength ++ padding
    match digits.drop wholeLength with
    | [] => if layout.pointZero then whole ++ ['.', '0'] else whole
    | fraction => whole ++ '.' :: fraction

/-- Writes digits with an exponent after the letter e, the first one standing before the
point. -/
def scientific (digits : List Char) (leading : Int) : List Char :=
  let mantissa :=
    match digits with
    | [] => []
    | [only] => [only]
    | first :: rest => first :: '.' :: rest
  mantissa ++ 'e' :: integerText leading

/-- Writes a positive decimal without its trailing zeros. -/
def decimalText (layout : Layout) (value : Decimal) : List Char :=
  let written := digitsOfNatural value.coefficient
  let digits := (written.reverse.dropWhile (· == '0')).reverse
  let leading := value.exponent + written.length - 1
  if layout.isPositional leading then layout.positional digits leading
  else scientific digits leading

/-- Writes a floating point number. -/
def text (layout : Layout) : Binary64 → List Char
  | .nan => ['N', 'a', 'N']
  | .infinity negative => (if negative then ['-'] else []) ++ ['i', 'n', 'f']
  | .finite negative rank =>
    let magnitude :=
      if rank.val = 0 then layout.positional ['0'] 0
      else layout.decimalText (Binary64.shortestDecimal rank)
    (if negative then ['-'] else []) ++ magnitude

/-- The layout of selector text: an exponent below a ten thousandth and from 10 to the 16th
on, and always a point or an exponent. -/
def selector : Layout := ⟨some (-4), some 15, true⟩

/-- The layout of JSON text: an exponent below a hundred thousandth and from 10 to the 16th
on, and always a point or an exponent. -/
def json : Layout := ⟨some (-5), some 15, true⟩

end Layout

end NodeQuery.Number
