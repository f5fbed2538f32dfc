import Mathlib.Algebra.Order.Ring.Nat
import NodeQuery.Number.Numeral

/-!
# The grammar of numerals

A numeral is an optional sign, digits with at most one decimal point among them and at least
one digit in all, and an optional exponent: the letter e in either case, an optional sign and
one or more digits. The rules here say so piece by piece, each with what the piece denotes, and
know nothing of a reader that looks for the end of a run of digits. The reader accepts exactly
what the rules derive.

A text that is an optional sign and one or more digits is a numeral too. It denotes an integer.
The laws of the digits themselves stand first: what they denote, and how many there are.

Main statements: `Numeral.read?_eq_some_iff` and `Numeral.wholeText_iff`.
-/

namespace NodeQuery.Number

/-! ## Digits -/

/-- The digits of a whole number denote it. -/
theorem naturalOfDigits_digitsOfNatural (value : Nat) :
    naturalOfDigits (digitsOfNatural value) = value :=
  Nat.ofDigitChars_toDigits (by decide) (by decide)

/-- Digits after others shift these to the left. -/
theorem naturalOfDigits_append (front back : List Char) :
    naturalOfDigits (front ++ back) =
      naturalOfDigits front * 10 ^ back.length + naturalOfDigits back := by
  change Nat.ofDigitChars 10 (front ++ back) 0 = _
  rw [Nat.ofDigitChars_append, Nat.ofDigitChars_eq_ofDigitChars_zero, Nat.mul_comm]
  rfl

/-- Zeros denote nothing. -/
theorem naturalOfDigits_zeros (count : Nat) :
    naturalOfDigits (List.replicate count '0') = 0 := by
  change Nat.ofDigitChars 10 (List.replicate count '0') 0 = 0
  rw [Nat.ofDigitChars_replicate_zero, Nat.mul_zero]

/-- Each digit of a whole number is one of the ten ASCII digits. -/
theorem isDigit_of_mem_digitsOfNatural {value : Nat} {digit : Char}
    (member : digit ∈ digitsOfNatural value) : digit.isDigit = true :=
  Nat.isDigit_of_mem_toDigits (by decide) (by decide) member

/-- A whole number has at least one digit. -/
theorem digitsOfNatural_ne_nil (value : Nat) : digitsOfNatural value ≠ [] :=
  Nat.toDigits_ne_nil

/-- A whole number is below the power of ten with as many zeros as it has digits. -/
theorem lt_pow_length (value : Nat) : value < 10 ^ (digitsOfNatural value).length :=
  (Nat.length_toDigits_le_iff (by decide)
    (List.length_pos_iff.2 (digitsOfNatural_ne_nil value))).1 (Nat.le_refl _)

/-- A positive whole number reaches every power of ten with fewer zeros than it has digits. -/
theorem pow_le_of_lt_length {value count : Nat} (nonzero : value ≠ 0)
    (fewer : count < (digitsOfNatural value).length) : 10 ^ count ≤ value := by
  rcases Nat.eq_zero_or_pos count with rfl | positive
  · exact Nat.pos_of_ne_zero nonzero
  · refine Nat.not_lt.1 fun small => ?_
    exact Nat.not_le.2 fewer ((Nat.length_toDigits_le_iff (by decide) positive).2 small)

/-! ## Rules -/

/-- Whether a text is made of ASCII digits. -/
def AllDigits (text : List Char) : Prop := ∀ digit ∈ text, digit.isDigit = true

/-- A sign, which may be missing, and whether it is a minus. -/
inductive SignText : List Char → Bool → Prop where
  /-- No sign. -/
  | missing : SignText [] false
  /-- A plus sign. -/
  | plus : SignText ['+'] false
  /-- A minus sign. -/
  | minus : SignText ['-'] true

/-- The integer with a sign and an absolute value. -/
def signed (negative : Bool) (absolute : Nat) : Int := if negative then -absolute else absolute

/-- An optional sign and one or more digits, and the integer that they denote. -/
inductive WholeText : List Char → Int → Prop where
  /-- The sign stands before the digits. -/
  | intro {sign digits : List Char} {negative : Bool} (signs : SignText sign negative)
      (nonempty : digits ≠ []) (all : AllDigits digits) :
      WholeText (sign ++ digits) (signed negative (Nat.ofDigitChars 10 digits 0))

/-- Digits with at most one point among them and at least one digit in all; the digits before
the point, and those after it if there is a point. -/
inductive MantissaText : List Char → List Char → Option (List Char) → Prop where
  /-- Digits alone. -/
  | whole {digits : List Char} (nonempty : digits ≠ []) (all : AllDigits digits) :
      MantissaText digits digits none
  /-- Digits around a point, on one side at least. -/
  | point {whole fraction : List Char} (nonempty : whole ++ fraction ≠ [])
      (all : AllDigits (whole ++ fraction)) :
      MantissaText (whole ++ '.' :: fraction) whole (some fraction)

/-- What follows the digits of a numeral: nothing or an exponent. -/
inductive TailText : List Char → Option Int → Prop where
  /-- Nothing. -/
  | missing : TailText [] none
  /-- An integer after the letter e. -/
  | exponent {mark : Char} {text : List Char} {value : Int} (marked : mark = 'e' ∨ mark = 'E')
      (whole : WholeText text value) : TailText (mark :: text) (some value)

/-- A numeral and its parts. -/
inductive NumeralText : List Char → Numeral → Prop where
  /-- The parts stand one after another. -/
  | intro {sign mantissa tail whole : List Char} {negative : Bool}
      {fraction : Option (List Char)} {exponent : Option Int} (signs : SignText sign negative)
      (digits : MantissaText mantissa whole fraction) (follows : TailText tail exponent) :
      NumeralText (sign ++ (mantissa ++ tail)) ⟨negative, whole, fraction, exponent⟩

/-! ## Signs and runs of digits -/

/-- Every text starts with a sign, if only a missing one. -/
theorem signText_takeSign (text : List Char) :
    ∃ sign, SignText sign (takeSign text).1 ∧ text = sign ++ (takeSign text).2 := by
  unfold takeSign
  split
  · exact ⟨_, .minus, rfl⟩
  · exact ⟨_, .plus, rfl⟩
  · exact ⟨_, .missing, rfl⟩

/-- A sign is read up to where no other sign follows. -/
theorem SignText.takeSign {sign rest : List Char} {negative : Bool}
    (signs : SignText sign negative) (unsigned : ∀ next ∈ rest.head?, next ≠ '-' ∧ next ≠ '+') :
    takeSign (sign ++ rest) = (negative, rest) := by
  cases signs with
  | plus => rfl
  | minus => rfl
  | missing =>
    rw [List.nil_append]
    unfold Number.takeSign
    split
    · exact absurd rfl (unsigned '-' rfl).1
    · exact absurd rfl (unsigned '+' rfl).2
    · rfl

/-- No digit is a sign or a point. -/
theorem ne_of_isDigit {digit : Char} (isDigit : digit.isDigit = true) :
    digit ≠ '-' ∧ digit ≠ '+' ∧ digit ≠ '.' := by
  refine ⟨?_, ?_, ?_⟩ <;> rintro rfl <;> exact absurd isDigit (by decide)

/-- Digits start with no sign. -/
theorem unsigned_of_allDigits {digits : List Char} (rest : List Char) (nonempty : digits ≠ [])
    (all : AllDigits digits) : ∀ next ∈ (digits ++ rest).head?, next ≠ '-' ∧ next ≠ '+' := by
  obtain ⟨first, others, rfl⟩ := List.exists_cons_of_ne_nil nonempty
  intro next head
  obtain rfl : first = next := Option.some.inj head
  have digit := ne_of_isDigit (all first (List.mem_cons_self ..))
  exact ⟨digit.1, digit.2.1⟩

/-- Digits with a point among them start with no sign. -/
theorem MantissaText.unsigned {mantissa whole rest : List Char} {fraction : Option (List Char)}
    (digits : MantissaText mantissa whole fraction) :
    ∀ next ∈ (mantissa ++ rest).head?, next ≠ '-' ∧ next ≠ '+' := by
  cases digits with
  | whole nonempty all => exact unsigned_of_allDigits rest nonempty all
  | point nonempty all =>
    rename_i fraction
    cases whole with
    | nil => simp
    | cons first others =>
      have front : AllDigits (first :: others) := fun digit member =>
        all digit (List.mem_append_left fraction member)
      rw [List.append_assoc]
      exact unsigned_of_allDigits _ (List.cons_ne_nil _ _) front

/-- The run of digits at the start of a text ends where something else follows. -/
theorem takeWhile_digits {digits rest : List Char} (all : AllDigits digits)
    (stop : ∀ next ∈ rest.head?, next.isDigit = false) :
    (digits ++ rest).takeWhile Char.isDigit = digits ∧
      (digits ++ rest).dropWhile Char.isDigit = rest := by
  rw [List.takeWhile_append_of_pos all, List.dropWhile_append_of_pos all]
  cases rest with
  | nil => simp
  | cons next others =>
    have other := stop next rfl
    simp [List.takeWhile, List.dropWhile, other]

/-- The run of digits at the start of a text is made of digits. -/
theorem allDigits_takeWhile (text : List Char) : AllDigits (text.takeWhile Char.isDigit) :=
  fun digit member => List.all_eq_true.1 List.all_takeWhile digit member

/-! ## The reader -/

namespace Numeral

/-- What is read as an exponent is an integer. -/
theorem readExponent?_eq_some_iff {text : List Char} {value : Int} :
    readExponent? text = some value ↔ WholeText text value := by
  constructor
  · intro read
    obtain ⟨sign, signs, split⟩ := signText_takeSign text
    simp only [readExponent?] at read
    split at read
    · contradiction
    · rename_i accepted
      obtain ⟨nonempty, all⟩ : (takeSign text).2 ≠ [] ∧ AllDigits (takeSign text).2 := by
        simpa [AllDigits] using accepted
      obtain rfl := Option.some.inj read
      have whole := WholeText.intro signs nonempty all
      rwa [← split] at whole
  · rintro @⟨sign, digits, negative, signs, nonempty, all⟩
    have unsigned := unsigned_of_allDigits [] nonempty all
    rw [List.append_nil] at unsigned
    have some : digits.isEmpty = false := List.isEmpty_eq_false_iff.2 nonempty
    have numeric : digits.all Char.isDigit = true := List.all_eq_true.2 all
    rw [readExponent?, signs.takeSign unsigned]
    simp only [some, numeric, Bool.not_true, Bool.or_false, Bool.false_eq_true, if_false]
    rfl

/-- What is read behind the digits is nothing or an exponent. -/
theorem readTail?_eq_some_iff {text : List Char} {exponent : Option Int} :
    readTail? text = some exponent ↔ TailText text exponent := by
  constructor
  · intro read
    cases text with
    | nil =>
      obtain rfl := Option.some.inj read
      exact .missing
    | cons mark rest =>
      rw [readTail?] at read
      split at read
      · rename_i marked
        obtain ⟨value, whole, rfl⟩ := Option.map_eq_some_iff.1 read
        exact .exponent marked (readExponent?_eq_some_iff.1 whole)
      · contradiction
  · rintro (_ | ⟨marked, whole⟩)
    · rfl
    · rw [readTail?, if_pos marked, readExponent?_eq_some_iff.2 whole, Option.map_some]

/-- What follows the digits of a numeral starts with no digit. -/
theorem stop_of_tailText {tail : List Char} {exponent : Option Int}
    (follows : TailText tail exponent) : ∀ next ∈ tail.head?, next.isDigit = false := by
  rcases follows with _ | ⟨rfl | rfl, _⟩ <;> simp [Char.isDigit]

/-- The parts of a numeral are read from it. -/
theorem read?_of_numeralText {text : List Char} {numeral : Numeral}
    (written : NumeralText text numeral) : read? text = some numeral := by
  obtain @⟨sign, mantissa, tail, whole, negative, fraction, exponent, signs, digits, follows⟩ :=
    written
  have rest := readTail?_eq_some_iff.2 follows
  have stop := stop_of_tailText follows
  rw [read?, signs.takeSign digits.unsigned]
  cases digits with
  | whole nonempty all =>
    obtain ⟨front, back⟩ := takeWhile_digits all stop
    simp only [front, back]
    -- behind the digits the tail shows no point
    rcases follows with _ | ⟨rfl | rfl, _⟩ <;> simp [nonempty, rest]
  | @point _ fraction nonempty all =>
    have point : ∀ next ∈ ('.' :: (fraction ++ tail)).head?, next.isDigit = false := by
      simp [Char.isDigit]
    obtain ⟨front, back⟩ := takeWhile_digits
      (fun digit member => all digit (List.mem_append_left fraction member)) point
    obtain ⟨frontFraction, backFraction⟩ := takeWhile_digits
      (fun digit member => all digit (List.mem_append_right whole member)) stop
    have some : whole = [] → fraction ≠ [] := by simpa using nonempty
    rw [List.append_assoc, List.cons_append]
    simp only [front, back, frontFraction, backFraction]
    simpa [rest] using some

/-- What is read as a numeral is one. -/
theorem numeralText_of_read? {text : List Char} {numeral : Numeral}
    (read : read? text = some numeral) : NumeralText text numeral := by
  obtain ⟨sign, signs, split⟩ := signText_takeSign text
  have front := allDigits_takeWhile (takeSign text).2
  have parted := List.takeWhile_append_dropWhile (p := Char.isDigit) (l := (takeSign text).2)
  simp only [read?, Option.bind_eq_bind] at read
  split at read
  · rename_i rest pointed
    rw [pointed] at parted
    split at read
    · contradiction
    rename_i some
    obtain ⟨exponent, tail, same⟩ := Option.bind_eq_some_iff.1 read
    obtain rfl := Option.some.inj same
    have nonempty :
        (takeSign text).2.takeWhile Char.isDigit ++ rest.takeWhile Char.isDigit ≠ [] := by
      simpa using some
    have all := List.forall_mem_append.2 ⟨front, allDigits_takeWhile rest⟩
    have written := NumeralText.intro signs (.point nonempty all) (readTail?_eq_some_iff.1 tail)
    rwa [List.append_assoc, List.cons_append, List.takeWhile_append_dropWhile, parted,
      ← split] at written
  · split at read
    · contradiction
    rename_i some
    obtain ⟨exponent, tail, same⟩ := Option.bind_eq_some_iff.1 read
    obtain rfl := Option.some.inj same
    have nonempty : (takeSign text).2.takeWhile Char.isDigit ≠ [] := by simpa using some
    have written := NumeralText.intro signs (.whole nonempty front)
      (readTail?_eq_some_iff.1 tail)
    rwa [parted, ← split] at written

/-- The reader accepts the numerals and takes them apart. -/
theorem read?_eq_some_iff {text : List Char} {numeral : Numeral} :
    read? text = some numeral ↔ NumeralText text numeral :=
  ⟨numeralText_of_read?, read?_of_numeralText⟩

/-- Digits on one side of a point are enough; a point alone and a bare exponent are none. -/
example : (read? ['.', '5']).isSome ∧ read? ['.'] = none ∧ read? ['1', 'e'] = none := by decide

/-- A text is one numeral at most. -/
theorem numeralText_unique {text : List Char} {numeral other : Numeral}
    (first : NumeralText text numeral) (second : NumeralText text other) : numeral = other :=
  Option.some.inj ((read?_of_numeralText first).symm.trans (read?_of_numeralText second))

/-- A numeral without point and exponent is an optional sign and digits, and these denote its
integer. -/
theorem wholeText_iff {text : List Char} {value : Int} :
    WholeText text value ↔
      ∃ numeral, NumeralText text numeral ∧ numeral.isWhole = true ∧ numeral.integer = value := by
  constructor
  · rintro @⟨sign, digits, negative, signs, nonempty, all⟩
    refine ⟨⟨negative, digits, none, none⟩, ?_, rfl, rfl⟩
    simpa using NumeralText.intro signs (.whole nonempty all) .missing
  · rintro ⟨numeral, ⟨signs, digits, follows⟩, whole, rfl⟩
    cases digits with
    | point => contradiction
    | whole nonempty all =>
      cases follows with
      | exponent => contradiction
      | missing =>
        rw [List.append_nil]
        exact .intro signs nonempty all

end Numeral

end NodeQuery.Number
