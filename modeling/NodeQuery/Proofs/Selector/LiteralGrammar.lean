import Mathlib
import NodeQuery.Proofs.Number.Grammar
import NodeQuery.Proofs.Number.Nearest
import NodeQuery.Proofs.Selector.Literal

/-!
# The grammar of literals

The type of an unquoted literal follows from one grammar. The three words stand in any case of
ASCII letters. An optional sign and digits are an integer, if that fits 64 bits. Every other
numeral is a floating point number, the one that its exact value is rounded to, if that is
finite. A text that the grammar does not derive is a text, without its escape marks.

So an integer of more than 64 bits is a floating point number, and a numeral beyond the range of
these is a text, as are infinity and what is no number by their names, a sign alone, digits of
other scripts, a second point and an exponent without digits before or after its mark.

Main statement: `Value.ofLiteral_eq_iff`.
-/

namespace NodeQuery

namespace Number.Numeral

/-- The absolute value of a numeral: the digits before the point are ones, those after it
parts of one, and the exponent moves the point. -/
def absolute (numeral : Numeral) : ℚ :=
  (Nat.ofDigitChars 10 numeral.whole 0 +
      Nat.ofDigitChars 10 (numeral.fraction.getD []) 0 / 10 ^ (numeral.fraction.getD []).length) *
    10 ^ numeral.exponent.getD 0

/-- The decimal of a numeral has its absolute value. -/
theorem absolute_value (numeral : Numeral) : numeral.value.absolute = numeral.absolute := by
  have digits : (naturalOfDigits (numeral.whole ++ numeral.fraction.getD []) : ℚ) =
      Nat.ofDigitChars 10 numeral.whole 0 * 10 ^ (numeral.fraction.getD []).length +
        Nat.ofDigitChars 10 (numeral.fraction.getD []) 0 := by
    rw [naturalOfDigits_append]
    push_cast
    rfl
  rw [Decimal.absolute, value, absolute]
  simp only [digits]
  rw [zpow_sub₀ (by norm_num), zpow_natCast]
  field_simp

end Number.Numeral

namespace Value

open Number Text

/-! ## Rules -/

/-- Whether a text is a word of small letters, each of them small or capital. -/
def Cased (word text : List Char) : Prop :=
  List.Forall₂ (fun letter written => written = letter ∨ written = letter.toUpper) word text

/-- The words that are literals. -/
inductive WordText : List Char → Value → Prop where
  /-- The word for what holds. -/
  | truth {raw : List Char} (word : Cased ['t', 'r', 'u', 'e'] raw) : WordText raw (bool true)
  /-- The word for what does not hold. -/
  | falsehood {raw : List Char} (word : Cased ['f', 'a', 'l', 's', 'e'] raw) :
      WordText raw (bool false)
  /-- The word for the absent value. -/
  | absent {raw : List Char} (word : Cased ['n', 'u', 'l', 'l'] raw) : WordText raw null

/-- The numerals that are literals. -/
inductive NumberText : List Char → Value → Prop where
  /-- An optional sign and digits are an integer of 64 bits, if one is equal to them. -/
  | int {raw : List Char} {value : Int64} (whole : WholeText raw value.toInt) :
      NumberText raw (int value)
  /-- Any other numeral is the floating point number that it is rounded to, if that is finite. -/
  | float {raw : List Char} {numeral : Numeral} {value : Binary64}
      (noInt : ∀ other : Int64, ¬ WholeText raw other.toInt) (written : NumeralText raw numeral)
      (rounded : Binary64.Rounds numeral.negative numeral.absolute value)
      (finite : value.isFinite = true) : NumberText raw (float value)

/-- A literal and its value. -/
inductive LiteralText (raw : List Char) (value : Value) : Prop where
  /-- A word. -/
  | word (written : WordText raw value) : LiteralText raw value
  /-- A number. -/
  | number (written : NumberText raw value) : LiteralText raw value

/-! ## Words -/

/-- What is lowered to a small letter is that letter or its capital. -/
theorem toLower_eq_iff {letter written : Char} (small : letter.isLower = true) :
    written.toLower = letter ↔ written = letter ∨ written = letter.toUpper := by
  constructor
  · rintro rfl
    by_cases capital : written.isUpper = true
    · have raised := Char.toUpper_eq_of_not_isLower (Char.not_isLower_of_isUpper capital)
      exact Or.inr ((Char.toUpper_toLower_eq_toUpper written).trans raised).symm
    · exact Or.inl (Char.toLower_eq_of_not_isUpper capital).symm
  · have lowered := Char.toLower_eq_of_not_isUpper (Char.not_isUpper_of_isLower small)
    rintro (rfl | rfl)
    · exact lowered
    · exact (Char.toLower_toUpper_eq_toLower letter).trans lowered

/-- What is lowered to a word is that word with each letter small or capital. -/
theorem map_toLower_eq_iff {word raw : List Char} (small : ∀ letter ∈ word, letter.isLower = true) :
    raw.map Char.toLower = word ↔ Cased word raw := by
  induction word generalizing raw with
  | nil => simp [Cased]
  | cons letter word hypothesis =>
    obtain ⟨first, others⟩ := List.forall_mem_cons.1 small
    cases raw with
    | nil => simp [Cased]
    | cons written raw =>
      rw [List.map_cons, List.cons.injEq, toLower_eq_iff first, hypothesis others]
      simp only [Cased, List.forall₂_cons]

/-! ## Numbers -/

/-- A numeral is an integer of 64 bits exactly if it is an optional sign and digits that denote
one. -/
theorem ofWholeNumeral?_eq_some_iff {raw : List Char} {numeral : Numeral} {value : Value}
    (written : NumeralText raw numeral) :
    ofWholeNumeral? numeral = some value ↔
      ∃ integer : Int64, WholeText raw integer.toInt ∧ value = int integer := by
  constructor
  · intro typed
    simp only [ofWholeNumeral?] at typed
    split at typed
    · rename_i fits
      obtain ⟨whole, lower, upper⟩ := fits
      obtain rfl := Option.some.inj typed
      have same : (Int64.ofInt numeral.integer).toInt = numeral.integer :=
        Int64.toInt_ofInt_of_le lower (Int.lt_of_le_of_lt upper (by decide))
      refine ⟨_, ?_, rfl⟩
      rw [same]
      exact Numeral.wholeText_iff.2 ⟨numeral, written, whole, rfl⟩
    · contradiction
  · rintro ⟨integer, whole, rfl⟩
    obtain ⟨other, again, isWhole, same⟩ := Numeral.wholeText_iff.1 whole
    obtain rfl := Numeral.numeralText_unique again written
    rw [ofWholeNumeral?, same,
      if_pos ⟨isWhole, integer.minValue_le_toInt, integer.toInt_le⟩, Int64.ofInt_toInt]

/-- The numbers that are read are the numerals that are literals. -/
theorem bind_ofNumeral?_eq_some_iff {raw : List Char} {value : Value} :
    (Numeral.read? raw).bind ofNumeral? = some value ↔ NumberText raw value := by
  constructor
  · intro typed
    obtain ⟨numeral, read, typed⟩ := Option.bind_eq_some_iff.1 typed
    have written := Numeral.numeralText_of_read? read
    rw [ofNumeral?] at typed
    cases integer : ofWholeNumeral? numeral with
    | some found =>
      obtain ⟨whole, spelled, rfl⟩ := (ofWholeNumeral?_eq_some_iff written).1 integer
      rw [integer, Option.some_or] at typed
      obtain rfl := Option.some.inj typed
      exact .int spelled
    | none =>
      rw [integer, Option.none_or] at typed
      split at typed
      · rename_i finite
        obtain rfl := Option.some.inj typed
        refine .float ?_ written ?_ finite
        · intro other whole
          have found := (ofWholeNumeral?_eq_some_iff written).2 ⟨other, whole, rfl⟩
          rw [integer] at found
          contradiction
        · rw [← Numeral.absolute_value]
          exact numeral.value.rounds_toBinary64
      · contradiction
  · rintro (⟨whole⟩ | ⟨noInt, written, rounded, finite⟩)
    · obtain ⟨numeral, written, -, -⟩ := Numeral.wholeText_iff.1 whole
      rw [Numeral.read?_of_numeralText written, Option.bind_some, ofNumeral?,
        (ofWholeNumeral?_eq_some_iff written).2 ⟨_, whole, rfl⟩, Option.some_or]
    · rename_i numeral value
      have none : ofWholeNumeral? numeral = none := by
        refine Option.eq_none_iff_forall_ne_some.2 fun found integer => ?_
        obtain ⟨other, whole, -⟩ := (ofWholeNumeral?_eq_some_iff written).1 integer
        exact noInt other whole
      rw [← Numeral.absolute_value] at rounded
      obtain rfl := Decimal.rounds_iff.1 rounded
      rw [Numeral.read?_of_numeralText written, Option.bind_some, ofNumeral?, none,
        Option.none_or, if_pos finite]

/-! ## Literals -/

/-- A literal of the grammar has its value there. -/
theorem ofLiteral_of_literalText {raw : List Char} {value : Value}
    (written : LiteralText raw value) : ofLiteral raw = value := by
  obtain (⟨word⟩ | ⟨word⟩ | ⟨word⟩) | number := written
  · simp [ofLiteral, (map_toLower_eq_iff (forall_mem_of_all (by decide))).2 word]
  · simp [ofLiteral, (map_toLower_eq_iff (forall_mem_of_all (by decide))).2 word]
  · simp [ofLiteral, (map_toLower_eq_iff (forall_mem_of_all (by decide))).2 word]
  · obtain ⟨numeral, read, typed⟩ :=
      Option.bind_eq_some_iff.1 (bind_ofNumeral?_eq_some_iff.2 number)
    exact ofLiteral_of_read? read typed

/-- What the grammar does not derive is a text. -/
theorem ofLiteral_of_no_literal {raw : List Char} (none : ∀ value, ¬ LiteralText raw value) :
    ofLiteral raw = text (String.ofList (unescape raw)) := by
  have noNumber : (Numeral.read? raw).bind ofNumeral? = .none :=
    Option.eq_none_iff_forall_ne_some.2 fun value typed =>
      none value (.number (bind_ofNumeral?_eq_some_iff.1 typed))
  have noTruth : raw.map Char.toLower ≠ ['t', 'r', 'u', 'e'] := fun word =>
    none _ (.word (.truth ((map_toLower_eq_iff (forall_mem_of_all (by decide))).1 word)))
  have noFalsehood : raw.map Char.toLower ≠ ['f', 'a', 'l', 's', 'e'] := fun word =>
    none _ (.word (.falsehood ((map_toLower_eq_iff (forall_mem_of_all (by decide))).1 word)))
  have noAbsence : raw.map Char.toLower ≠ ['n', 'u', 'l', 'l'] := fun word =>
    none _ (.word (.absent ((map_toLower_eq_iff (forall_mem_of_all (by decide))).1 word)))
  rw [ofLiteral, if_neg noTruth, if_neg noFalsehood, if_neg noAbsence, noNumber, Option.getD_none]

/-- An unquoted literal has the value that the grammar gives it, and without one it is a text. -/
theorem ofLiteral_eq_iff (raw : List Char) (value : Value) :
    ofLiteral raw = value ↔ LiteralText raw value ∨
      (∀ other, ¬ LiteralText raw other) ∧ value = text (String.ofList (unescape raw)) := by
  constructor
  · rintro rfl
    by_cases derived : ∃ value, LiteralText raw value
    · obtain ⟨value, written⟩ := derived
      rw [ofLiteral_of_literalText written]
      exact Or.inl written
    · have none : ∀ value, ¬ LiteralText raw value := fun value written => derived ⟨value, written⟩
      exact Or.inr ⟨none, ofLiteral_of_no_literal none⟩
  · rintro (written | ⟨none, rfl⟩)
    · exact ofLiteral_of_literalText written
    · exact ofLiteral_of_no_literal none

end Value

end NodeQuery
