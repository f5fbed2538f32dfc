import Mathlib.Algebra.Order.Field.Basic
import Mathlib.Algebra.Order.Field.Power
import Mathlib.Algebra.Order.Field.Rat
import Mathlib.Algebra.Order.Group.Abs
import Mathlib.Data.Nat.Cast.Order.Field
import Mathlib.Data.Rat.Cast.Order
import Mathlib.Order.Monotone.Basic
import Mathlib.Tactic.FieldSimp
import Mathlib.Tactic.Linarith
import Mathlib.Tactic.Ring
import NodeQuery.Proofs.Number.Grammar

/-!
# Correct rounding

The floating point number of a decimal is found by whole arithmetic: a shift, one division, a
look at its remainder, and bounds on the leading digit that spare the large powers of ten. Here
the same number is said by distance alone. Of all magnitudes none is nearer to the exact value,
and where two are equally near the one of even rank is taken. The magnitudes go on past the
last finite one in steps of the same kind, and a value whose nearest magnitude is one of those
is out of range.

At most one place of an ascending scale is nearest in this sense, so that the two descriptions
agree on every decimal.

Main statement: `Decimal.rounds_iff`.
-/

namespace NodeQuery.Number

/-! ## Nearest places -/

/-- Whether a place of an ascending scale is the one that a value is rounded to: no point of
the scale is nearer to the value, and if another one is equally near, this place is even. -/
structure IsNearest (scale : Nat → Nat) (value : ℚ) (place : Nat) : Prop where
  /-- No point is nearer. -/
  closest : ∀ other, |(scale place : ℚ) - value| ≤ |(scale other : ℚ) - value|
  /-- The even place is taken where two are equally near. -/
  even : ∀ other, other ≠ place → |(scale other : ℚ) - value| = |(scale place : ℚ) - value| →
    place % 2 = 0

section Uniqueness

variable {scale : Nat → Nat} {value : ℚ}

/-- Between two places that are equally near and both even there is one that is nearer. -/
theorem IsNearest.not_lt (ascending : StrictMono scale) {left right : Nat}
    (first : IsNearest scale value left) (second : IsNearest scale value right) :
    ¬ left < right := by
  intro less
  have same : |(scale left : ℚ) - value| = |(scale right : ℚ) - value| :=
    le_antisymm (first.closest right) (second.closest left)
  have evenLeft := first.even right (Nat.ne_of_gt less) same.symm
  have evenRight := second.even left (Nat.ne_of_lt less) same
  have above : (scale left : ℚ) < scale (left + 1) := by
    exact_mod_cast ascending (Nat.lt_succ_self left)
  have below : (scale (left + 1) : ℚ) < scale right := by
    exact_mod_cast ascending (show left + 1 < right by omega)
  have middle : value - scale left = scale right - value := by
    rcases abs_eq_abs.1 same with equal | opposite <;> linarith
  have nearer := first.closest (left + 1)
  rw [abs_of_neg (by linarith : (scale left : ℚ) - value < 0)] at nearer
  rcases le_abs'.1 nearer with far | far <;> linarith

/-- A value is rounded to one place only. -/
theorem IsNearest.unique (ascending : StrictMono scale) {place other : Nat}
    (first : IsNearest scale value place) (second : IsNearest scale value other) :
    place = other :=
  Nat.le_antisymm (Nat.not_lt.1 (second.not_lt ascending first))
    (Nat.not_lt.1 (first.not_lt ascending second))

end Uniqueness

/-! ## Whole numbers -/

namespace Binary64

/-- A whole number is nearest to what it is less than one half away from, and an even one to
what it is one half away from. -/
theorem isNearest_of_error {whole : Nat} {value : ℚ}
    (error : |(whole : ℚ) - value| < 1 / 2 ∨ |(whole : ℚ) - value| = 1 / 2 ∧ whole % 2 = 0) :
    IsNearest id value whole := by
  have apart : ∀ other, other ≠ whole →
      1 ≤ |(other : ℚ) - value| + |(whole : ℚ) - value| := by
    intro other different
    have step : 1 ≤ |(other : ℤ) - whole| := Int.one_le_abs (by omega)
    have distance : (1 : ℚ) ≤ |(other : ℚ) - whole| := by exact_mod_cast step
    have triangle := abs_sub_le (other : ℚ) value whole
    rw [abs_sub_comm value] at triangle
    linarith
  constructor
  · intro other
    by_cases same : other = whole
    · rw [same]
    · have far := apart other same
      simp only [id]
      rcases error with error | ⟨error, -⟩ <;> linarith
  · intro other different tie
    have far := apart other different
    simp only [id] at tie
    rcases error with error | ⟨-, even⟩
    · linarith
    · exact even

/-- Rounding a quotient half to even takes the nearest whole number. -/
theorem isNearest_roundHalfEven (numerator : Nat) {denominator : Nat} (positive : 0 < denominator) :
    IsNearest id ((numerator : ℚ) / denominator) (roundHalfEven numerator denominator) := by
  apply isNearest_of_error
  have divisor : (0 : ℚ) < denominator := by exact_mod_cast positive
  have split : (numerator : ℚ) / denominator =
      (numerator / denominator : Nat) + (numerator % denominator : Nat) / (denominator : ℚ) := by
    have whole : (denominator : ℚ) * (numerator / denominator : Nat) +
        (numerator % denominator : Nat) = numerator := by
      exact_mod_cast Nat.div_add_mod numerator denominator
    field_simp
    linarith
  have below : (numerator % denominator : Nat) / (denominator : ℚ) < 1 := by
    rw [div_lt_one divisor]
    exact_mod_cast Nat.mod_lt numerator positive
  have above : 0 ≤ (numerator % denominator : Nat) / (denominator : ℚ) :=
    div_nonneg (Nat.cast_nonneg _) divisor.le
  simp only [roundHalfEven]
  rw [split]
  generalize numerator / denominator = quotient
  split_ifs with large half
  · -- the remainder is more than one half
    have remainder : 1 / 2 < (numerator % denominator : Nat) / (denominator : ℚ) := by
      rw [div_lt_div_iff₀ two_pos divisor]
      exact_mod_cast (by omega : 1 * denominator < numerator % denominator * 2)
    left
    rw [Nat.cast_succ, abs_lt]
    constructor <;> linarith
  · have remainder : (numerator % denominator : Nat) / (denominator : ℚ) = 1 / 2 := by
      rw [div_eq_div_iff divisor.ne' two_ne_zero]
      exact_mod_cast (by omega : numerator % denominator * 2 = 1 * denominator)
    right
    refine ⟨?_, by omega⟩
    rw [remainder]
    rcases Nat.mod_two_eq_zero_or_one quotient with parity | parity <;>
      rw [parity] <;> norm_num
  · have remainder : (numerator % denominator : Nat) / (denominator : ℚ) < 1 / 2 := by
      rw [div_lt_div_iff₀ divisor two_pos]
      exact_mod_cast (by omega : numerator % denominator * 2 < 1 * denominator)
    left
    rw [abs_lt]
    constructor <;> linarith

/-! ## Magnitudes -/

/-- A place of a binade, or the first one of the next, in multiples of the unit. -/
theorem units_step {shift steps : Nat} (lower : shift = 0 ∨ 2 ^ 52 ≤ steps)
    (upper : steps ≤ 2 ^ 53) : units (shift * 2 ^ 52 + steps) = steps * 2 ^ shift := by
  simp only [units, Nat.pow_eq]
  by_cases low : steps < 2 ^ 52
  · have none : shift = 0 := by omega
    subst none
    have start : (0 * 2 ^ 52 + steps) / 2 ^ 52 = 0 := by omega
    rw [if_pos start]
    omega
  by_cases high : steps = 2 ^ 53
  · subst high
    have binade : (shift * 2 ^ 52 + 2 ^ 53) / 2 ^ 52 = shift + 2 := by omega
    have first : (shift * 2 ^ 52 + 2 ^ 53) % 2 ^ 52 = 0 := by omega
    have later : ¬ shift + 2 = 0 := by omega
    have index : shift + 2 - 1 = 1 + shift := by omega
    have double : (2 ^ 52 + 0) * 2 ^ 1 = 2 ^ 53 := rfl
    rw [binade, first, if_neg later, index, Nat.pow_add, ← Nat.mul_assoc, double]
  · have binade : (shift * 2 ^ 52 + steps) / 2 ^ 52 = shift + 1 := by omega
    have place : 2 ^ 52 + (shift * 2 ^ 52 + steps) % 2 ^ 52 = steps := by omega
    have later : ¬ shift + 1 = 0 := by omega
    rw [binade, place, if_neg later, Nat.add_sub_cancel]

/-- Every rank is a place of its binade. -/
theorem exists_step (rank : Nat) :
    ∃ shift steps, rank = shift * 2 ^ 52 + steps ∧ (shift = 0 ∨ 2 ^ 52 ≤ steps) ∧
      steps < 2 ^ 53 := by
  by_cases start : rank < 2 ^ 53
  · exact ⟨0, rank, by omega, Or.inl rfl, start⟩
  · refine ⟨rank / 2 ^ 52 - 1, 2 ^ 52 + rank % 2 ^ 52, ?_, Or.inr (by omega), by omega⟩
    omega

/-- The magnitudes ascend. -/
theorem units_strictMono : StrictMono units := by
  apply strictMono_nat_of_lt_succ
  intro rank
  obtain ⟨shift, steps, rfl, lower, upper⟩ := exists_step rank
  have next : shift * 2 ^ 52 + steps + 1 = shift * 2 ^ 52 + (steps + 1) := by omega
  rw [next, units_step lower (by omega), units_step (by omega) (by omega)]
  exact Nat.mul_lt_mul_of_pos_right (by omega) (Nat.two_pow_pos shift)

/-- Only the magnitude of rank zero is zero. -/
theorem units_pos {rank : Nat} (positive : 0 < rank) : 0 < units rank :=
  units_strictMono positive

/-- A magnitude is nearest to itself. -/
theorem isNearest_units (rank : Nat) : IsNearest units (units rank) rank := by
  constructor
  · intro other
    rw [sub_self, abs_zero]
    exact abs_nonneg _
  · intro other different tie
    rw [sub_self, abs_zero, abs_eq_zero, sub_eq_zero] at tie
    exact absurd (units_strictMono.injective (by exact_mod_cast tie)) different

/-- From its start on, the magnitudes of a binade and of those above it are whole multiples of
its step. -/
theorem exists_multiple_of_le {shift rank : Nat}
    (above : shift = 0 ∨ (shift + 1) * 2 ^ 52 ≤ rank) :
    ∃ steps, units rank = steps * 2 ^ shift := by
  obtain ⟨exponent, steps, rfl, lower, upper⟩ := exists_step rank
  have order : shift ≤ exponent := by omega
  refine ⟨steps * 2 ^ (exponent - shift), ?_⟩
  rw [units_step lower (by omega), Nat.mul_assoc, ← Nat.pow_add, Nat.sub_add_cancel order]

/-! ## The nearest rank -/

/-- The quotient less its remainder bounds what it is rounded to. -/
theorem roundHalfEven_bounds (numerator denominator : Nat) :
    numerator / denominator ≤ roundHalfEven numerator denominator ∧
      roundHalfEven numerator denominator ≤ numerator / denominator + 1 := by
  simp only [roundHalfEven]
  split_ifs <;> omega

/-- The step of the binade that a number lies in leaves 53 binary digits of it, or fewer where
the step is the unit. -/
theorem shifted_bounds {quotient shift : Nat} (binade : shift = quotient.log2 - 52) :
    (shift = 0 ∨ 2 ^ 52 ≤ quotient / 2 ^ shift) ∧ quotient / 2 ^ shift < 2 ^ 53 := by
  constructor
  · by_cases small : quotient.log2 ≤ 52
    · exact Or.inl (by omega)
    · have nonzero : quotient ≠ 0 := by
        rintro rfl
        exact small (by decide)
      have exponent : 52 + shift = quotient.log2 := by omega
      refine Or.inr ((Nat.le_div_iff_mul_le (Nat.two_pow_pos shift)).2 ?_)
      rw [← Nat.pow_add, exponent]
      exact Nat.log2_self_le nonzero
  · have exponent : quotient.log2 + 1 ≤ 53 + shift := by omega
    rw [Nat.div_lt_iff_lt_mul (Nat.two_pow_pos shift), ← Nat.pow_add]
    exact Nat.lt_of_lt_of_le Nat.lt_log2_self (Nat.pow_le_pow_right (by decide) exponent)

/-- Magnitudes of lower binades lie below the start of a binade. -/
theorem units_lt_start {shift rank : Nat} (below : rank < (shift + 1) * 2 ^ 52) :
    units rank < 2 ^ 52 * 2 ^ shift := by
  rw [← units_step (Or.inr le_rfl) (by decide : 2 ^ 52 ≤ 2 ^ 53)]
  exact units_strictMono (by omega)

/-- Distances from the multiples of a step are multiples of distances from whole numbers. -/
theorem abs_multiple_sub (whole value : ℚ) {step : ℚ} (positive : 0 < step) :
    |whole * step - value| = |whole - value / step| * step := by
  calc |whole * step - value|
      = |(whole - value / step) * step| := by rw [sub_mul, div_mul_cancel₀ value positive.ne']
    _ = |whole - value / step| * step := by rw [abs_mul, abs_of_pos positive]

/-- Below a binade every magnitude is farther from a value in it than the multiples of its step
that are nearest. -/
theorem farther_of_below {value : ℚ} {shift steps other : Nat}
    (near : IsNearest id (value / 2 ^ shift) steps) (start : (2 ^ 52 : ℚ) * 2 ^ shift ≤ value)
    (below : other < (shift + 1) * 2 ^ 52) :
    |(steps : ℚ) * 2 ^ shift - value| < |(units other : ℚ) - value| := by
  have step : (0 : ℚ) < 2 ^ shift := by positivity
  have outside : (units other : ℚ) < 2 ^ 52 * 2 ^ shift := by exact_mod_cast units_lt_start below
  have nearest : |(steps : ℚ) - value / 2 ^ shift| ≤ |(2 ^ 52 : ℚ) - value / 2 ^ shift| := by
    exact_mod_cast near.closest (2 ^ 52)
  calc |(steps : ℚ) * 2 ^ shift - value|
      ≤ |(2 ^ 52 : ℚ) * 2 ^ shift - value| := by
        rw [abs_multiple_sub _ _ step, abs_multiple_sub _ _ step]
        exact mul_le_mul_of_nonneg_right nearest step.le
    _ = value - 2 ^ 52 * 2 ^ shift := by rw [abs_of_nonpos (sub_nonpos.2 start), neg_sub]
    _ < value - units other := sub_lt_sub_left outside value
    _ = |(units other : ℚ) - value| := by
        rw [abs_of_neg (sub_neg.2 (outside.trans_le start)), neg_sub]

/-- A value is rounded to the place of its binade that it is rounded to as a multiple of the
binade's step. -/
theorem isNearest_of_steps {value : ℚ} {shift steps : Nat}
    (near : IsNearest id (value / 2 ^ shift) steps) (lower : shift = 0 ∨ 2 ^ 52 ≤ steps)
    (upper : steps ≤ 2 ^ 53) (start : shift = 0 ∨ (2 ^ 52 : ℚ) * 2 ^ shift ≤ value) :
    IsNearest units value (shift * 2 ^ 52 + steps) := by
  have step : (0 : ℚ) < 2 ^ shift := by positivity
  have magnitude : (units (shift * 2 ^ 52 + steps) : ℚ) = steps * 2 ^ shift := by
    exact_mod_cast units_step lower upper
  -- magnitudes of lower binades need not be multiples of the step
  have multiple_or_farther : ∀ other, (∃ whole : Nat, (units other : ℚ) = whole * 2 ^ shift) ∨
      |(steps : ℚ) * 2 ^ shift - value| < |(units other : ℚ) - value| := by
    intro other
    by_cases above : shift = 0 ∨ (shift + 1) * 2 ^ 52 ≤ other
    · obtain ⟨whole, multiple⟩ := exists_multiple_of_le above
      exact Or.inl ⟨whole, by exact_mod_cast multiple⟩
    · obtain ⟨first, below⟩ := not_or.1 above
      exact Or.inr (farther_of_below near (start.resolve_left first) (Nat.not_le.1 below))
  constructor
  · intro other
    rw [magnitude]
    rcases multiple_or_farther other with ⟨whole, multiple⟩ | farther
    · rw [multiple, abs_multiple_sub _ _ step, abs_multiple_sub _ _ step]
      exact mul_le_mul_of_nonneg_right (near.closest whole) step.le
    · exact farther.le
  · intro other different tie
    rcases multiple_or_farther other with ⟨whole, multiple⟩ | farther
    · have apart : whole ≠ steps := by
        rintro rfl
        have same : (units other : ℚ) = units (shift * 2 ^ 52 + whole) :=
          multiple.trans magnitude.symm
        exact different (units_strictMono.injective (by exact_mod_cast same))
      rw [magnitude, multiple, abs_multiple_sub _ _ step, abs_multiple_sub _ _ step] at tie
      have even := near.even whole apart (mul_right_cancel₀ step.ne' tie)
      omega
    · rw [magnitude] at tie
      exact absurd tie farther.ne'

/-- The rank of a quotient is nearest to it. -/
theorem isNearest_nearestRank (numerator : Nat) {denominator : Nat} (positive : 0 < denominator) :
    IsNearest units ((numerator : ℚ) / denominator) (nearestRank numerator denominator) := by
  obtain ⟨shift, binade⟩ : ∃ shift, shift = (numerator / denominator).log2 - 52 := ⟨_, rfl⟩
  have near := isNearest_roundHalfEven numerator (Nat.mul_pos positive (Nat.two_pow_pos shift))
  have bounds := roundHalfEven_bounds numerator (denominator * 2 ^ shift)
  rw [← Nat.div_div_eq_div_mul] at bounds
  obtain ⟨lower, upper⟩ := shifted_bounds binade
  have start : shift = 0 ∨ (2 ^ 52 : ℚ) * 2 ^ shift ≤ numerator / denominator := by
    refine lower.imp_right fun many => ?_
    have whole := (Nat.le_div_iff_mul_le (Nat.two_pow_pos shift)).1 many
    exact le_trans (by exact_mod_cast whole) Nat.cast_div_le
  rw [Nat.cast_mul, ← div_div, Nat.cast_pow, Nat.cast_ofNat] at near
  rw [nearestRank, ← binade, Nat.pow_eq, Nat.pow_eq]
  exact isNearest_of_steps near (by omega) (by omega) start

/-- Some units make one. -/
theorem unitsPerOne_pos : 0 < unitsPerOne := by decide +kernel

/-- Whether a number is the correctly rounded one of a sign and an exact magnitude. -/
def Rounds (negative : Bool) (magnitude : ℚ) (value : Binary64) : Prop :=
  ∃ rank, IsNearest units (magnitude * unitsPerOne) rank ∧ value = ofRank negative rank

/-- A magnitude is rounded to one number only. -/
theorem Rounds.unique {negative : Bool} {magnitude : ℚ} {value other : Binary64}
    (first : Rounds negative magnitude value) (second : Rounds negative magnitude other) :
    value = other := by
  obtain ⟨rank, near, rfl⟩ := first
  obtain ⟨rank', near', rfl⟩ := second
  rw [near.unique units_strictMono near']

/-- Zero is nearest to what is less than one half of the unit. -/
theorem isNearest_zero {value : ℚ} (nonnegative : 0 ≤ value) (small : value < 1 / 2) :
    IsNearest units value 0 := by
  refine ⟨fun other => ?_, fun other different tie => rfl⟩
  have start : units 0 = 0 := rfl
  rw [start, Nat.cast_zero, zero_sub, abs_neg, abs_of_nonneg nonnegative]
  rcases Nat.eq_zero_or_pos other with rfl | positive
  · rw [start, Nat.cast_zero, zero_sub, abs_neg, abs_of_nonneg nonnegative]
  · have one : (1 : ℚ) ≤ units other := by exact_mod_cast units_pos positive
    refine le_trans ?_ (le_abs_self _)
    linarith

/-- From the first magnitude that has no place on, every value is out of range. -/
theorem magnitudeCount_le_of_isNearest {value : ℚ} {rank : Nat}
    (near : IsNearest units value rank) (large : (units magnitudeCount : ℚ) ≤ value) :
    magnitudeCount ≤ rank := by
  by_contra inRange
  have below : (units rank : ℚ) < units magnitudeCount := by
    exact_mod_cast units_strictMono (Nat.not_le.1 inRange)
  have closest := near.closest magnitudeCount
  rw [abs_of_nonpos (sub_nonpos.2 large), abs_of_neg (sub_neg.2 (below.trans_le large))] at closest
  linarith

end Binary64

/-! ## Decimals -/

namespace Decimal

open Binary64

/-- The absolute value of a decimal. -/
def absolute (value : Decimal) : ℚ := value.coefficient * 10 ^ value.exponent

/-- The absolute value as a quotient of whole numbers. -/
theorem absolute_eq_div (value : Decimal) :
    value.absolute = (value.coefficient * 10 ^ value.exponent.toNat : Nat) /
      (10 ^ (-value.exponent).toNat : Nat) := by
  rw [absolute]
  rcases le_total 0 value.exponent with whole | part
  · have none : (-value.exponent).toNat = 0 := by omega
    obtain ⟨exponent, same⟩ := Int.eq_ofNat_of_zero_le whole
    rw [none, same]
    simp
  · have none : value.exponent.toNat = 0 := by omega
    obtain ⟨exponent, same⟩ := Int.eq_ofNat_of_zero_le (Int.neg_nonneg.2 part)
    have power : value.exponent = -(exponent : Int) := by omega
    rw [none, same, power, zpow_neg, zpow_natCast]
    simp [div_eq_mul_inv]

/-- The absolute value is below the power of ten after the one of the leading digit. -/
theorem absolute_lt (value : Decimal) : value.absolute < 10 ^ value.magnitude := by
  have bound := lt_pow_length value.coefficient
  rw [absolute, magnitude, zpow_add₀ (by norm_num), zpow_natCast]
  exact mul_lt_mul_of_pos_right (by exact_mod_cast bound) (zpow_pos (by norm_num) _)

/-- The absolute value reaches the power of ten of its leading digit, if that is not zero. -/
theorem le_absolute {value : Decimal} (nonzero : value.coefficient ≠ 0) :
    (10 : ℚ) ^ (value.magnitude - 1) ≤ value.absolute := by
  obtain ⟨count, length⟩ : ∃ count, (digitsOfNatural value.coefficient).length = count + 1 :=
    Nat.exists_eq_succ_of_ne_zero (List.length_pos_iff.2 (digitsOfNatural_ne_nil _)).ne'
  have bound : 10 ^ count ≤ value.coefficient := pow_le_of_lt_length nonzero (by omega)
  have exponent : value.magnitude - 1 = (count : Int) + value.exponent := by
    rw [magnitude, length]
    omega
  rw [absolute, exponent, zpow_add₀ (by norm_num), zpow_natCast]
  exact mul_le_mul_of_nonneg_right (by exact_mod_cast bound) (zpow_pos (by norm_num) _).le

/-- A decimal with a leading digit far enough below the unit is less than one half of it. -/
theorem absolute_mul_lt {value : Decimal} {count : Nat} (tiny : value.magnitude ≤ -(count : Int))
    (enough : unitsPerOne * 2 < 10 ^ count) : value.absolute * unitsPerOne < 1 / 2 := by
  have enough' : (unitsPerOne : ℚ) * 2 < 10 ^ count := by exact_mod_cast enough
  have below : value.absolute < (10 ^ count)⁻¹ := by
    rw [← zpow_natCast, ← zpow_neg]
    exact value.absolute_lt.trans_le (zpow_le_zpow_right₀ (by norm_num) tiny)
  have positive : (0 : ℚ) < unitsPerOne := Nat.cast_pos.2 unitsPerOne_pos
  generalize (unitsPerOne : ℚ) = unit at enough' positive ⊢
  calc value.absolute * unit
      < (10 ^ count)⁻¹ * unit := mul_lt_mul_of_pos_right below positive
    _ < 1 / 2 := by rwa [lt_div_iff₀ two_pos, mul_assoc, inv_mul_lt_one₀ (by positivity)]

/-- A decimal with a leading digit far enough above a magnitude is not below it. -/
theorem le_absolute_mul {value : Decimal} {count rank : Nat} (nonzero : value.coefficient ≠ 0)
    (huge : (count : Int) < value.magnitude) (enough : units rank ≤ 10 ^ count * unitsPerOne) :
    (units rank : ℚ) ≤ value.absolute * unitsPerOne := by
  have enough' : (units rank : ℚ) ≤ 10 ^ count * unitsPerOne := by exact_mod_cast enough
  have above : (10 : ℚ) ^ count ≤ value.absolute := by
    rw [← zpow_natCast]
    exact (zpow_le_zpow_right₀ (by norm_num) (by omega)).trans (le_absolute nonzero)
  exact enough'.trans (mul_le_mul_of_nonneg_right above (Nat.cast_nonneg _))

/-- The rank of the exact quotient is nearest to a decimal. -/
theorem isNearest_quotient (value : Decimal) :
    IsNearest units (value.absolute * unitsPerOne)
      (nearestRank (value.coefficient * 10 ^ value.exponent.toNat * unitsPerOne)
        (10 ^ (-value.exponent).toNat)) := by
  have near := isNearest_nearestRank
    (value.coefficient * 10 ^ value.exponent.toNat * unitsPerOne)
    (Nat.pow_pos (by decide) : 0 < 10 ^ (-value.exponent).toNat)
  have same : value.absolute * unitsPerOne =
      (value.coefficient * 10 ^ value.exponent.toNat * unitsPerOne : Nat) /
        (10 ^ (-value.exponent).toNat : Nat) := by
    rw [absolute_eq_div, Nat.cast_mul _ unitsPerOne, div_mul_eq_mul_div]
  rwa [← same] at near

/-- The floating point number of a decimal is its absolute value under its sign, correctly
rounded. -/
theorem rounds_toBinary64 (value : Decimal) :
    Rounds value.negative value.absolute value.toBinary64 := by
  have near := value.isNearest_quotient
  rw [toBinary64]
  split_ifs with tiny huge whole
  · have small : value.absolute * unitsPerOne < 1 / 2 := by
      rcases tiny with none | far
      · rw [absolute, none, Nat.cast_zero, zero_mul, zero_mul]
        exact one_half_pos
      · exact absolute_mul_lt (show value.magnitude ≤ -(331 : Nat) by omega) (by decide +kernel)
    have nonnegative : 0 ≤ value.absolute * unitsPerOne :=
      mul_nonneg (mul_nonneg (Nat.cast_nonneg _) (zpow_pos (by norm_num) _).le) (Nat.cast_nonneg _)
    exact ⟨0, isNearest_zero nonnegative small, rfl⟩
  · have large : (units magnitudeCount : ℚ) ≤ value.absolute * unitsPerOne :=
      le_absolute_mul (fun none => tiny (Or.inl none)) huge (by decide +kernel)
    refine ⟨_, near, ?_⟩
    rw [ofRank, dif_neg (Nat.not_lt.2 (magnitudeCount_le_of_isNearest near large))]
  · have none : (-value.exponent).toNat = 0 := by omega
    rw [none, Nat.pow_zero] at near
    exact ⟨_, near, rfl⟩
  · have none : value.exponent.toNat = 0 := by omega
    rw [none, Nat.pow_zero, Nat.mul_one] at near
    exact ⟨_, near, rfl⟩

/-- A number is the correctly rounded one of a decimal exactly if it is its floating point
number. -/
theorem rounds_iff {value : Decimal} {rounded : Binary64} :
    Rounds value.negative value.absolute rounded ↔ rounded = value.toBinary64 := by
  constructor
  · exact fun rounds => rounds.unique value.rounds_toBinary64
  · rintro rfl
    exact value.rounds_toBinary64

end Decimal

end NodeQuery.Number
