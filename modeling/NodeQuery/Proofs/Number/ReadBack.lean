import NodeQuery.Number.Shortest
import NodeQuery.Proofs.Number.Nearest

/-!
# Numbers are read back from their texts

The text of an integer and the text of a finite floating point number are numerals, and each
numeral is read back as the number that was written. For integers this is the inverse law of
digits. For floating point numbers the digits may have lost trailing zeros, gained padding and
moved across the point, so the decimal that is read differs from the one that was written.
Both have the same value, and `Decimal.toBinary64_scale` says that rounding sees the value
alone.

Main statements: `Numeral.read?_integerText` and `Layout.read?_text`.
-/

namespace NodeQuery.Number

/-! ## Rounding sees the value alone -/

namespace Binary64

/-- The same magnitude with another sign. -/
def withSign (negative : Bool) : Binary64 → Binary64
  | nan => nan
  | infinity _ => infinity negative
  | finite _ rank => finite negative rank

/-- Ranks give the same magnitude under either sign. -/
theorem ofRank_withSign (sign negative : Bool) (rank : Nat) :
    (ofRank sign rank).withSign negative = ofRank negative rank := by
  unfold ofRank
  split <;> rfl

end Binary64

namespace Decimal

open Binary64

/-- The sign of a decimal is the sign of its floating point number. -/
theorem toBinary64_withSign (sign negative : Bool) (coefficient : Nat) (exponent : Int) :
    (Decimal.mk sign coefficient exponent).toBinary64.withSign negative =
      (Decimal.mk negative coefficient exponent).toBinary64 := by
  obtain ⟨rank, near, same⟩ := rounds_toBinary64 ⟨sign, coefficient, exponent⟩
  rw [same, ofRank_withSign]
  exact rounds_iff.1 ⟨rank, near, rfl⟩

/-- Zeros at the end of the coefficient count as steps of the exponent: decimals of one value
are rounded to one number. -/
theorem toBinary64_scale (negative : Bool) (coefficient count : Nat) (exponent : Int) :
    (Decimal.mk negative (coefficient * 10 ^ count) exponent).toBinary64 =
      (Decimal.mk negative coefficient (exponent + count)).toBinary64 := by
  have same : (Decimal.mk negative (coefficient * 10 ^ count) exponent).absolute =
      (Decimal.mk negative coefficient (exponent + count)).absolute := by
    simp only [absolute]
    rw [zpow_add₀ (by norm_num), zpow_natCast]
    push_cast
    ring
  have rounds := rounds_toBinary64 ⟨negative, coefficient * 10 ^ count, exponent⟩
  rw [same] at rounds
  exact rounds_iff.1 rounds

end Decimal

/-! ## The shortest decimal -/

namespace Binary64

/-- A multiple of the unit is a decimal, since the unit times some factor is a power of ten. -/
theorem absolute_mul_of_factor (negative : Bool) (amount factor count : Nat)
    (scaled : factor * unitsPerOne = Nat.pow 10 count) :
    (Decimal.mk negative (amount * factor) (-(count : Int))).absolute * unitsPerOne = amount := by
  rw [Nat.pow_eq] at scaled
  have scaled' : (factor : ℚ) * unitsPerOne = 10 ^ count := by exact_mod_cast scaled
  have nonzero : (10 : ℚ) ^ count ≠ 0 := by positivity
  rw [Decimal.absolute, zpow_neg, zpow_natCast, Nat.cast_mul]
  calc (amount : ℚ) * factor * (10 ^ count)⁻¹ * unitsPerOne
      = amount * (factor * unitsPerOne) * (10 ^ count)⁻¹ := by ring
    _ = amount := by rw [scaled', mul_inv_cancel_right₀ nonzero]

/-- The exact decimal expansion of a magnitude is rounded to it. -/
theorem toBinary64_exactDecimal (rank : Nat) :
    (exactDecimal rank).toBinary64 = ofRank false rank := by
  have exact : (exactDecimal rank).absolute * unitsPerOne = units rank :=
    absolute_mul_of_factor false (units rank) (Nat.pow 5 1074) 1074 (by decide +kernel)
  refine (Decimal.rounds_iff.1 ⟨rank, ?_, rfl⟩).symm
  rw [exact]
  exact isNearest_units rank

/-- A decimal found on a grid is rounded to the magnitude it was sought for. -/
theorem toBinary64_of_decimalAt? {rank : Nat} {exponent : Int} {found : Decimal}
    (search : decimalAt? rank exponent = some found) :
    found.toBinary64 = ofRank false rank := by
  simp only [decimalAt?] at search
  generalize (scaledQuotient (units rank) exponent).1 = numerator at search
  generalize (scaledQuotient (units rank) exponent).2 = denominator at search
  split at search
  all_goals
    split at search
    · rename_i reads
      obtain rfl := Option.some.inj search
      exact eq_of_beq reads
    split at search
    · rename_i reads
      obtain rfl := Option.some.inj search
      exact eq_of_beq reads
    · contradiction

/-- The shortest decimal of a magnitude is rounded to it. -/
theorem toBinary64_shortestDecimal (rank : Nat) :
    (shortestDecimal rank).toBinary64 = ofRank false rank := by
  simp only [shortestDecimal]
  cases search : (List.range 17).findSome? fun count =>
      decimalAt? rank (leadingExponent (units rank) - Int.ofNat count) with
  | none => exact toBinary64_exactDecimal rank
  | some found =>
    obtain ⟨count, -, grid⟩ := List.exists_of_findSome?_eq_some search
    exact toBinary64_of_decimalAt? grid

/-- The shortest decimal of a positive magnitude has a nonzero coefficient. -/
theorem coefficient_shortestDecimal_ne_zero {rank : Nat} (positive : 0 < rank)
    (bound : rank < magnitudeCount) : (shortestDecimal rank).coefficient ≠ 0 := by
  intro vanishes
  have rounded := toBinary64_shortestDecimal rank
  rw [Decimal.toBinary64, if_pos (Or.inl vanishes), ofRank, dif_pos bound, zero] at rounded
  injection rounded with _ same
  have : 0 = rank := congrArg Fin.val same
  omega

end Binary64

/-! ## Numerals -/

/-- The minus sign of a negative number. -/
def signText (negative : Bool) : List Char := if negative then ['-'] else []

/-- A minus sign that is written where it is needed is a sign. -/
theorem signText_signText (negative : Bool) : SignText (signText negative) negative := by
  cases negative with
  | true => exact .minus
  | false => exact .missing

/-- The text of an integer is the digits of its magnitude after its sign. -/
theorem integerText_eq (value : Int) :
    integerText value = signText (decide (value < 0)) ++ digitsOfNatural value.natAbs := by
  cases value with
  | ofNat value => simp [integerText, signText, Int.natAbs]
  | negSucc value =>
    simp [integerText, signText, Int.natAbs, Int.negSucc_lt_zero]

/-- The sign of an integer and its magnitude make it up. -/
theorem signed_natAbs (value : Int) : signed (decide (value < 0)) value.natAbs = value := by
  by_cases negative : value < 0
  · rw [signed, if_pos (decide_eq_true negative)]
    omega
  · rw [signed, if_neg fun holds => negative (of_decide_eq_true holds)]
    omega

/-- The text of an integer is a sign and digits that denote it. -/
theorem wholeText_integerText (value : Int) : WholeText (integerText value) value := by
  have written := WholeText.intro (signText_signText (decide (value < 0)))
    (digitsOfNatural_ne_nil value.natAbs) fun _ => isDigit_of_mem_digitsOfNatural
  rw [← integerText_eq] at written
  rwa [show Nat.ofDigitChars 10 (digitsOfNatural value.natAbs) 0 = value.natAbs from
    naturalOfDigits_digitsOfNatural _, signed_natAbs] at written

/-- The text of an integer is the numeral without point and exponent that denotes it. -/
theorem Numeral.read?_integerText (value : Int) :
    ∃ numeral, read? (integerText value) = some numeral ∧ numeral.isWhole = true ∧
      numeral.integer = value := by
  obtain ⟨numeral, written, whole, integer⟩ := wholeText_iff.1 (wholeText_integerText value)
  exact ⟨numeral, read?_of_numeralText written, whole, integer⟩

/-! ## Layouts -/

/-- The zeros at the end of a list of digits can be split off. -/
theorem exists_trailing_zeros (written : List Char) :
    ∃ count, written =
      (written.reverse.dropWhile (· == '0')).reverse ++ List.replicate count '0' := by
  have split := List.takeWhile_append_dropWhile (p := (· == '0')) (l := written.reverse)
  have zeros : ∀ digit ∈ (written.reverse.takeWhile (· == '0')).reverse, digit = '0' := by
    intro digit member
    exact eq_of_beq (List.all_eq_true.1 (List.all_takeWhile ..) digit (List.mem_reverse.1 member))
  refine ⟨(written.reverse.takeWhile (· == '0')).reverse.length, ?_⟩
  rw [← List.eq_replicate_of_mem zeros, ← List.reverse_append, split, List.reverse_reverse]

namespace Layout

open Numeral

/-- Whether a text has digits of the same value as given ones around a point, the first of the
given ones standing at a power of ten: with so many zeros after them, the digits of the text
are those given. -/
def IsPointed (digits : List Char) (leading : Int) (text : List Char) : Prop :=
  ∃ whole fraction : List Char, ∃ count : Nat,
    text = whole ++ '.' :: fraction ∧ whole ≠ [] ∧
      (∀ digit ∈ whole ++ fraction, digit.isDigit = true) ∧
      naturalOfDigits (whole ++ fraction) = naturalOfDigits digits * 10 ^ count ∧
      (count : Int) - fraction.length = leading + 1 - digits.length

/-- Zeros are digits. -/
theorem isDigit_of_mem_zeros {count : Nat} {digit : Char}
    (member : digit ∈ List.replicate count '0') : digit.isDigit = true := by
  rw [List.eq_of_mem_replicate member]
  rfl

/-- Below one, zeros stand between the point and the digits. -/
theorem isPointed_below {digits : List Char} {leading : Int} (below : leading < 0)
    (all : ∀ digit ∈ digits, digit.isDigit = true) :
    IsPointed digits leading
      ('0' :: '.' :: (List.replicate ((-leading).toNat - 1) '0' ++ digits)) := by
  refine ⟨['0'], List.replicate ((-leading).toNat - 1) '0' ++ digits, 0, rfl, by simp, ?_, ?_, ?_⟩
  · intro digit member
    rcases List.mem_append.1 member with zero | later
    · exact @isDigit_of_mem_zeros 1 digit zero
    · rcases List.mem_append.1 later with zero | given
      · exact isDigit_of_mem_zeros zero
      · exact all digit given
  · rw [naturalOfDigits_append, naturalOfDigits_append, naturalOfDigits_zeros]
    simp [naturalOfDigits]
  · have length : (-leading).toNat - 1 + 1 = (-leading).toNat := by omega
    rw [List.length_append, List.length_replicate]
    omega

/-- Where the digits do not reach the point, zeros stand between them and it, and one after. -/
theorem isPointed_padded {digits : List Char} {leading : Int} (above : 0 ≤ leading)
    (nonempty : digits ≠ []) (all : ∀ digit ∈ digits, digit.isDigit = true)
    (short : digits.length ≤ leading.toNat + 1) :
    IsPointed digits leading
      (digits ++ List.replicate (leading.toNat + 1 - digits.length) '0' ++ ['.', '0']) := by
  refine ⟨digits ++ List.replicate (leading.toNat + 1 - digits.length) '0', ['0'],
    leading.toNat + 1 - digits.length + 1, rfl, by simp [nonempty], ?_, ?_, ?_⟩
  · intro digit member
    rcases List.mem_append.1 member with earlier | zero
    · rcases List.mem_append.1 earlier with given | zero
      · exact all digit given
      · exact isDigit_of_mem_zeros zero
    · exact @isDigit_of_mem_zeros 1 digit zero
  · rw [List.append_assoc, ← List.replicate_succ', naturalOfDigits_append,
      naturalOfDigits_zeros, Nat.add_zero, List.length_replicate]
  · rw [List.length_singleton]
    omega

/-- Otherwise the point stands among the digits. -/
theorem isPointed_parted {digits : List Char} {leading : Int} (above : 0 ≤ leading)
    (nonempty : digits ≠ []) (all : ∀ digit ∈ digits, digit.isDigit = true)
    (long : leading.toNat + 1 < digits.length) :
    IsPointed digits leading
      (digits.take (leading.toNat + 1) ++ '.' :: digits.drop (leading.toNat + 1)) := by
  have joined := List.take_append_drop (leading.toNat + 1) digits
  refine ⟨_, _, 0, rfl, by simp [nonempty], ?_, ?_, ?_⟩
  · rwa [joined]
  · rw [joined, Nat.pow_zero, Nat.mul_one]
  · rw [List.length_drop]
    omega

/-- Digits that are laid out without an exponent stand around a point. -/
theorem isPointed_positional {layout : Layout} (pointed : layout.pointZero = true)
    {digits : List Char} (leading : Int) (nonempty : digits ≠ [])
    (all : ∀ digit ∈ digits, digit.isDigit = true) :
    IsPointed digits leading (layout.positional digits leading) := by
  unfold positional
  split
  · rename_i below
    exact isPointed_below below all
  · rename_i above
    have positive : 0 ≤ leading := by omega
    by_cases short : digits.length ≤ leading.toNat + 1
    · have padding : digits.take (leading.toNat + 1) = digits := List.take_of_length_le short
      have rest : digits.drop (leading.toNat + 1) = [] := List.drop_of_length_le short
      simp only [padding, rest]
      exact isPointed_padded positive nonempty all short
    · have long : leading.toNat + 1 < digits.length := by omega
      have padding : leading.toNat + 1 - digits.length = 0 := by omega
      have back : digits.drop (leading.toNat + 1) ≠ [] := by
        intro vanishes
        have count := congrArg List.length vanishes
        rw [List.length_drop, List.length_nil] at count
        omega
      have parted := isPointed_parted positive nonempty all long
      obtain ⟨next, others, tail⟩ := List.exists_cons_of_ne_nil back
      rw [tail] at parted
      simp only [padding, List.replicate_zero, List.append_nil, tail]
      exact parted

/-- Digits that are laid out without an exponent are read back as a decimal of their value,
the first one standing at the given power of ten. -/
theorem read?_positional {layout : Layout} (pointed : layout.pointZero = true) (negative : Bool)
    (digits : List Char) (leading : Int) (nonempty : digits ≠ [])
    (all : ∀ digit ∈ digits, digit.isDigit = true) :
    ∃ numeral, read? (signText negative ++ layout.positional digits leading) = some numeral ∧
      numeral.isWhole = false ∧
      numeral.value.toBinary64 = (Decimal.mk negative (naturalOfDigits digits)
        (leading + 1 - digits.length)).toBinary64 := by
  obtain ⟨whole, fraction, count, text, written, numeric, value, place⟩ :=
    isPointed_positional pointed leading nonempty all
  have some : whole ++ fraction ≠ [] := List.append_ne_nil_of_left_ne_nil written _
  have numeral := NumeralText.intro (signText_signText negative) (.point some numeric) .missing
  rw [List.append_nil, ← text] at numeral
  refine ⟨_, read?_of_numeralText numeral, rfl, ?_⟩
  have exponent : -(fraction.length : Int) + count = leading + 1 - digits.length := by omega
  simp only [Numeral.value, Option.getD_some, Option.getD_none, value, Int.zero_sub,
    Decimal.toBinary64_scale, exponent]

/-- Digits that are laid out with an exponent are read back as a decimal of their value. -/
theorem read?_scientific (negative : Bool) {digits : List Char} (leading : Int)
    (nonempty : digits ≠ []) (all : ∀ digit ∈ digits, digit.isDigit = true) :
    ∃ numeral, read? (signText negative ++ scientific digits leading) = some numeral ∧
      numeral.isWhole = false ∧
      numeral.value.toBinary64 = (Decimal.mk negative (naturalOfDigits digits)
        (leading + 1 - digits.length)).toBinary64 := by
  have tail := TailText.exponent (Or.inl rfl) (wholeText_integerText leading)
  match digits, nonempty with
  | [only], nonempty =>
    have numeral := NumeralText.intro (signText_signText negative) (.whole nonempty all) tail
    refine ⟨_, read?_of_numeralText numeral, rfl, ?_⟩
    simp [Numeral.value]
  | first :: next :: rest, nonempty =>
    have mantissa := @MantissaText.point [first] (next :: rest) nonempty all
    have numeral := NumeralText.intro (signText_signText negative) mantissa tail
    refine ⟨_, read?_of_numeralText numeral, rfl, ?_⟩
    simp only [Numeral.value, Option.getD_some, List.singleton_append, List.length_cons]
    congr 2
    omega

/-- A positive decimal is read back as a decimal of its value, with or without an exponent. -/
theorem read?_decimalText {layout : Layout} (pointed : layout.pointZero = true) (negative : Bool)
    {value : Decimal} (nonzero : value.coefficient ≠ 0) :
    ∃ numeral, read? (signText negative ++ layout.decimalText value) = some numeral ∧
      numeral.isWhole = false ∧ numeral.value.toBinary64 =
        (Decimal.mk negative value.coefficient value.exponent).toBinary64 := by
  obtain ⟨count, written⟩ := exists_trailing_zeros (digitsOfNatural value.coefficient)
  simp only [decimalText]
  generalize ((digitsOfNatural value.coefficient).reverse.dropWhile (· == '0')).reverse = digits
    at written ⊢
  have coefficient : value.coefficient = naturalOfDigits digits * 10 ^ count := by
    rw [← naturalOfDigits_digitsOfNatural value.coefficient, written, naturalOfDigits_append,
      naturalOfDigits_zeros, Nat.add_zero, List.length_replicate]
  have nonempty : digits ≠ [] := by
    rintro rfl
    rw [coefficient] at nonzero
    simp [naturalOfDigits] at nonzero
  have all : ∀ digit ∈ digits, digit.isDigit = true := by
    intro digit member
    have inside : digit ∈ digitsOfNatural value.coefficient := by
      rw [written]
      exact List.mem_append_left _ member
    exact isDigit_of_mem_digitsOfNatural inside
  have place : value.exponent + (digitsOfNatural value.coefficient).length - 1 + 1 -
      digits.length = value.exponent + count := by
    rw [written, List.length_append, List.length_replicate]
    omega
  rw [coefficient, Decimal.toBinary64_scale, ← place]
  rw [coefficient] at *
  split
  · exact read?_positional pointed negative _ _ nonempty all
  · exact read?_scientific negative _ nonempty all

/-- The text of a finite number is a numeral with a point or an exponent that is rounded to
the number. -/
theorem read?_text {layout : Layout} (pointed : layout.pointZero = true) {value : Binary64}
    (finite : value.isFinite = true) :
    ∃ numeral, read? (layout.text value) = some numeral ∧ numeral.isWhole = false ∧
      numeral.value.toBinary64 = value := by
  cases value with
  | nan => cases finite
  | infinity negative => cases finite
  | finite negative rank =>
    simp only [text]
    by_cases zero : rank.val = 0
    · obtain ⟨numeral, read, whole, value⟩ :=
        read?_positional pointed negative ['0'] 0 (by simp) (by simp [Char.isDigit])
      refine ⟨numeral, by rw [if_pos zero]; exact read, whole, ?_⟩
      have vanishes : naturalOfDigits ['0'] = 0 := rfl
      rw [value, vanishes, Decimal.toBinary64, if_pos (Or.inl rfl)]
      exact congrArg (Binary64.finite negative) (Fin.ext zero.symm)
    · have positive : 0 < rank.val := Nat.pos_of_ne_zero zero
      have rounded := Binary64.toBinary64_shortestDecimal rank
      have nonzero := Binary64.coefficient_shortestDecimal_ne_zero positive rank.isLt
      rw [if_neg zero]
      generalize Binary64.shortestDecimal rank = shortest at rounded nonzero ⊢
      obtain ⟨sign, coefficient, exponent⟩ := shortest
      obtain ⟨numeral, read, whole, value⟩ := read?_decimalText pointed negative nonzero
      refine ⟨numeral, read, whole, ?_⟩
      rw [value, ← Decimal.toBinary64_withSign sign, rounded, Binary64.ofRank_withSign,
        Binary64.ofRank, dif_pos rank.isLt]

end Layout

end NodeQuery.Number
