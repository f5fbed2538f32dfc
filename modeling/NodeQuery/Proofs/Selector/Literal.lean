import NodeQuery.Proofs.Number.ReadBack
import NodeQuery.Proofs.Text.Search
import NodeQuery.Selector.Value

/-!
# Canonical texts of literals

A value without quotes is written with letters, digits, signs and points only. None of these
characters opens or closes anything, escapes, separates or starts an operator, so that such a
text stands for itself wherever it is written. Its spelling determines its type, and what is
read from it is the value that was written.

Main statements: `isLiteralChar_of_mem_chars` and `ofLiteral_chars`.
-/

namespace NodeQuery

namespace Number

/-- Recognizes the characters that numerals are made of. -/
def isNumeralChar (value : Char) : Bool :=
  value.isDigit || ['-', '+', '.', 'e', 'E'].contains value

/-- A digit is a character of numerals. -/
theorem isNumeralChar_of_isDigit {value : Char} (digit : value.isDigit = true) :
    isNumeralChar value = true := by
  simp [isNumeralChar, digit]

/-- A sign is a character of numerals. -/
theorem isNumeralChar_of_signText {sign : List Char} {negative : Bool}
    (signs : SignText sign negative) : ∀ value ∈ sign, isNumeralChar value = true := by
  cases signs <;> simp [isNumeralChar]

/-- A sign and digits are characters of numerals. -/
theorem isNumeralChar_of_wholeText {text : List Char} {integer : Int}
    (whole : WholeText text integer) : ∀ value ∈ text, isNumeralChar value = true := by
  obtain ⟨signs, -, all⟩ := whole
  exact List.forall_mem_append.2 ⟨isNumeralChar_of_signText signs,
    fun value member => isNumeralChar_of_isDigit (all value member)⟩

/-- A numeral is made of characters of numerals. -/
theorem isNumeralChar_of_numeralText {text : List Char} {numeral : Numeral}
    (written : NumeralText text numeral) : ∀ value ∈ text, isNumeralChar value = true := by
  obtain ⟨signs, digits, follows⟩ := written
  refine List.forall_mem_append.2
    ⟨isNumeralChar_of_signText signs, List.forall_mem_append.2 ⟨?_, ?_⟩⟩
  · cases digits with
    | whole nonempty all => exact fun value member => isNumeralChar_of_isDigit (all value member)
    | point nonempty all =>
      obtain ⟨front, back⟩ := List.forall_mem_append.1 all
      refine List.forall_mem_append.2 ⟨?_, List.forall_mem_cons.2 ⟨by decide, ?_⟩⟩
      · exact fun value member => isNumeralChar_of_isDigit (front value member)
      · exact fun value member => isNumeralChar_of_isDigit (back value member)
  · rcases follows with _ | ⟨rfl | rfl, whole⟩
    · simp
    all_goals exact List.forall_mem_cons.2 ⟨by decide, isNumeralChar_of_wholeText whole⟩

/-- A digit has no other case. -/
theorem toLower_of_isDigit {value : Char} (digit : value.isDigit = true) :
    value.toLower = value := by
  refine dif_neg ?_
  rintro ⟨upper, _⟩
  simp only [Char.isDigit, Bool.and_eq_true, decide_eq_true_eq] at digit
  exact absurd (UInt32.le_trans upper digit.2) (by decide)

/-- Characters of numerals are lowered to such characters. -/
theorem isNumeralChar_toLower {value : Char} (numeral : isNumeralChar value = true) :
    isNumeralChar value.toLower = true := by
  simp only [isNumeralChar, Bool.or_eq_true, List.contains_iff_mem, List.mem_cons,
    List.not_mem_nil, or_false] at numeral
  rcases numeral with digit | rfl | rfl | rfl | rfl | rfl
  · rw [toLower_of_isDigit digit]
    exact isNumeralChar_of_isDigit digit
  all_goals decide

end Number

namespace Value

open Text

/-! ## Characters -/

/-- Recognizes the characters that values without quotes are written with. -/
def isLiteralChar (value : Char) : Bool := value.isAlphanum || ['-', '+', '.'].contains value

/-- A character of numerals is one of literals. -/
theorem isLiteralChar_of_isNumeralChar {value : Char}
    (numeral : Number.isNumeralChar value = true) : isLiteralChar value = true := by
  simp only [Number.isNumeralChar, Bool.or_eq_true, List.contains_iff_mem, List.mem_cons,
    List.not_mem_nil, or_false] at numeral
  rcases numeral with digit | rfl | rfl | rfl | rfl | rfl
  · simp [isLiteralChar, Char.isAlphanum, digit]
  all_goals decide

/-- The characters that have a meaning somewhere in a pattern. -/
def meaningful : List Char :=
  escapeMark :: blanks ++ openers ++ enclosures.map Prod.snd ++
    ['=', '!', '~', '?', '^', '$', '*', '>', '<', '#', '/', ':']

/-- No character of literals has a meaning of its own. -/
theorem not_mem_meaningful {value : Char} (literal : isLiteralChar value = true) :
    value ∉ meaningful := by
  intro member
  have none : ∀ other ∈ meaningful, isLiteralChar other = false := forall_mem_of_all (by decide)
  rw [none value member] at literal
  exact absurd literal (by decide)

/-- No character of literals escapes another. -/
theorem ne_escapeMark_of_isLiteralChar {value : Char} (literal : isLiteralChar value = true) :
    value ≠ escapeMark := by
  rintro rfl
  exact not_mem_meaningful literal (by decide)

/-- No character of literals is a blank. -/
theorem isBlank_of_isLiteralChar {value : Char} (literal : isLiteralChar value = true) :
    isBlank value = false := by
  have all : ∀ blank ∈ blanks, blank ∈ meaningful := forall_mem_of_all (by decide)
  refine Bool.eq_false_iff.2 fun blank => not_mem_meaningful literal ?_
  exact all value (List.contains_iff_mem.1 blank)

/-- No character of literals opens an enclosure. -/
theorem not_mem_openers_of_isLiteralChar {value : Char} (literal : isLiteralChar value = true) :
    value ∉ openers := by
  have all : ∀ opener ∈ openers, opener ∈ meaningful := forall_mem_of_all (by decide)
  exact fun member => not_mem_meaningful literal (all value member)

/-- No character of literals is a quote. -/
theorem isQuote_of_isLiteralChar {value : Char} (literal : isLiteralChar value = true) :
    isQuote value = false := by
  refine Bool.eq_false_iff.2 fun quote => not_mem_meaningful literal ?_
  rcases Bool.or_eq_true _ _ ▸ quote with same | same <;> rw [beq_iff_eq.1 same] <;> decide

/-- Whether a value is written without quotes and can be written: an absent value, a truth
value, an integer or a finite floating point number. -/
def isLiteral : Value → Bool
  | null | bool _ | int _ => true
  | float value => value.isFinite
  | text _ | list _ => false

/-- Floating point numbers are written with a point or an exponent. -/
theorem pointZero_selector : Number.Layout.selector.pointZero = true := rfl

/-- Literals are written with the characters of literals. -/
theorem isLiteralChar_of_mem_chars {value : Value} (literal : value.isLiteral = true) :
    ∀ char ∈ value.chars, isLiteralChar char = true := by
  cases value with
  | null => exact forall_mem_of_all (by decide)
  | bool value => cases value <;> exact forall_mem_of_all (by decide)
  | int value =>
    obtain ⟨numeral, read, _⟩ := Number.Numeral.read?_integerText value.toInt
    intro char member
    rw [chars] at member
    exact isLiteralChar_of_isNumeralChar
      (Number.isNumeralChar_of_numeralText (Number.Numeral.numeralText_of_read? read) char member)
  | float value =>
    obtain ⟨numeral, read, _⟩ := Number.Layout.read?_text pointZero_selector literal
    intro char member
    rw [chars] at member
    exact isLiteralChar_of_isNumeralChar
      (Number.isNumeralChar_of_numeralText (Number.Numeral.numeralText_of_read? read) char member)
  | text value => simp [isLiteral] at literal
  | list items => simp [isLiteral] at literal

/-! ## Reading back -/

/-- A numeral is no other spelling of a word. -/
theorem ofLiteral_of_read? {raw : List Char} {numeral : Number.Numeral} {value : Value}
    (read : Number.Numeral.read? raw = some numeral) (typed : ofNumeral? numeral = some value) :
    ofLiteral raw = value := by
  have avoids : ∀ letter, Number.isNumeralChar letter = false →
      letter ∉ raw.map Char.toLower := by
    intro letter other member
    obtain ⟨char, inside, rfl⟩ := List.mem_map.1 member
    have spelled := Number.isNumeralChar_toLower
      (Number.isNumeralChar_of_numeralText (Number.Numeral.numeralText_of_read? read) char inside)
    rw [other] at spelled
    exact absurd spelled (by decide)
  have isTrue : raw.map Char.toLower ≠ ['t', 'r', 'u', 'e'] := by
    intro word
    exact avoids 't' (by decide) (by simp [word])
  have isFalse : raw.map Char.toLower ≠ ['f', 'a', 'l', 's', 'e'] := by
    intro word
    exact avoids 'f' (by decide) (by simp [word])
  have isNull : raw.map Char.toLower ≠ ['n', 'u', 'l', 'l'] := by
    intro word
    exact avoids 'n' (by decide) (by simp [word])
  rw [ofLiteral, if_neg isTrue, if_neg isFalse, if_neg isNull, read, Option.bind_some, typed,
    Option.getD_some]

/-- The value read from the text of a literal is that literal. -/
theorem ofLiteral_chars {value : Value} (literal : value.isLiteral = true) :
    ofLiteral value.chars = value := by
  cases value with
  | null => rfl
  | bool value => cases value <;> rfl
  | int value =>
    obtain ⟨numeral, read, whole, integer⟩ := Number.Numeral.read?_integerText value.toInt
    rw [chars]
    refine ofLiteral_of_read? read ?_
    have lower := value.minValue_le_toInt
    have upper := value.toInt_le
    rw [ofNumeral?, ofWholeNumeral?, integer, if_pos ⟨whole, lower, upper⟩, Int64.ofInt_toInt]
    rfl
  | float value =>
    obtain ⟨numeral, read, whole, rounded⟩ :=
      Number.Layout.read?_text pointZero_selector literal
    rw [chars]
    refine ofLiteral_of_read? read ?_
    have finite : value.isFinite = true := literal
    rw [ofNumeral?, ofWholeNumeral?, whole, if_neg (by simp), rounded, finite]
    rfl
  | text value => simp [isLiteral] at literal
  | list items => simp [isLiteral] at literal

end Value

end NodeQuery
