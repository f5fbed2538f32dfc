/-!
# Binary floating point numbers of 64 bits

A finite number has a sign and a rank: its place in the ascending list of the magnitudes
that the format can hold, zero first. The rank is also the bit pattern less its sign bit, so
that neighbouring ranks are neighbouring numbers and no two values share a number except the
two zeros. Every magnitude is a whole multiple of the least positive one, its *unit*
`2 ^ -1074`, and is held here as that multiple.

Rounding takes the nearest magnitude and, between two equally near, the one of even rank.
-/

namespace NodeQuery.Number

/-- The number of finite magnitudes, zero included. -/
def magnitudeCount : Nat := 0x7ff * Nat.pow 2 52

/-- A floating point number of 64 bits. -/
inductive Binary64 where
  /-- No number. -/
  | nan
  /-- Beyond every finite number of its sign. -/
  | infinity (negative : Bool)
  /-- The finite number with this sign and this place among the magnitudes. -/
  | finite (negative : Bool) (rank : Fin magnitudeCount)
deriving DecidableEq, Repr

namespace Binary64

/-- The magnitude of a rank in multiples of the unit. -/
def units (rank : Nat) : Nat :=
  if rank / Nat.pow 2 52 = 0 then rank
  else (Nat.pow 2 52 + rank % Nat.pow 2 52) * Nat.pow 2 (rank / Nat.pow 2 52 - 1)

/-- The whole number nearest to a quotient, an exact half going to the even neighbour. -/
def roundHalfEven (numerator denominator : Nat) : Nat :=
  let quotient := numerator / denominator
  let doubled := 2 * (numerator % denominator)
  if denominator < doubled then quotient + 1
  else if doubled = denominator then quotient + quotient % 2
  else quotient

/-- The rank nearest to a quotient given in multiples of the unit. The first operand of the
sum counts the ranks below the binade, the second the steps within it. -/
def nearestRank (numerator denominator : Nat) : Nat :=
  let shift := (numerator / denominator).log2 - 52
  shift * Nat.pow 2 52 + roundHalfEven numerator (denominator * Nat.pow 2 shift)

/-- The multiple of the unit that makes one. -/
def unitsPerOne : Nat := Nat.pow 2 1074

/-- The number of this sign and rank; a rank past the last finite one is an infinity. -/
def ofRank (negative : Bool) (rank : Nat) : Binary64 :=
  if fits : rank < magnitudeCount then finite negative ⟨rank, fits⟩ else infinity negative

/-- The number nearest to a quotient. -/
def ofQuotient (negative : Bool) (numerator denominator : Nat) : Binary64 :=
  ofRank negative (nearestRank (numerator * unitsPerOne) denominator)

/-- The zero of a sign. -/
def zero (negative : Bool) : Binary64 := finite negative ⟨0, by decide⟩

/-- Whether this is a number and no infinity. -/
def isFinite : Binary64 → Bool
  | finite _ _ => true
  | _ => false

/-- Numerical equality: the two zeros are equal, and what is no number equals nothing. -/
def agrees : Binary64 → Binary64 → Bool
  | finite leftNegative left, finite rightNegative right =>
    left == right && (leftNegative == rightNegative || left.val == 0)
  | infinity leftNegative, infinity rightNegative => leftNegative == rightNegative
  | _, _ => false

end Binary64

end NodeQuery.Number
