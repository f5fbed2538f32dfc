import NodeQuery.Number.Shortest
import NodeQuery.Text.Escape

/-!
# Typed conditions

The condition of an attribute is a typed value. An unquoted literal is typed by its
spelling: truth values and null in any case of ASCII letters, whole numbers of 64 bits,
other numerals as floating point numbers, and everything else as text.

Two values agree when they are equal up to numerical equality of their floating point
numbers, so that the two zeros agree and what is no number agrees with nothing.
-/

namespace NodeQuery

/-- The condition of an attribute. -/
inductive Value where
  /-- The absent value, also the condition of a presence test. -/
  | null
  /-- A truth value. -/
  | bool (value : Bool)
  /-- A whole number of 64 bits. -/
  | int (value : Int64)
  /-- A number with a point or an exponent. -/
  | float (value : Number.Binary64)
  /-- A text. -/
  | text (value : String)
  /-- The items that a membership test allows. -/
  | list (items : List Value)
deriving Repr, Inhabited

namespace Value

/-- The text of a text value. -/
def text? : Value → Option String
  | text value => some value
  | _ => none

/-- Whether this is the absent value. -/
def isNull : Value → Bool
  | null => true
  | _ => false

/-- Whether this is a list. -/
def isList : Value → Bool
  | list _ => true
  | _ => false

mutual

/-- Equality up to a relation of floating point numbers. -/
def equalBy (related : Number.Binary64 → Number.Binary64 → Bool) : Value → Value → Bool
  | null, null => true
  | bool left, bool right => left == right
  | int left, int right => left == right
  | float left, float right => related left right
  | text left, text right => left == right
  | list left, list right => equalItemsBy related left right
  | _, _ => false

/-- Equality of lists, item by item, up to a relation of floating point numbers. -/
def equalItemsBy (related : Number.Binary64 → Number.Binary64 → Bool) :
    List Value → List Value → Bool
  | [], [] => true
  | left :: leftRest, right :: rightRest =>
    equalBy related left right && equalItemsBy related leftRest rightRest
  | _, _ => false

end

mutual

/-- Up to equality of floating point numbers, equal values are the same. -/
theorem equalBy_beq_iff : (left right : Value) → (equalBy (· == ·) left right = true ↔ left = right)
  | null, right => by cases right <;> simp [equalBy]
  | bool _, right => by cases right <;> simp [equalBy]
  | int _, right => by cases right <;> simp [equalBy]
  | float _, right => by cases right <;> simp [equalBy]
  | text _, right => by cases right <;> simp [equalBy]
  | list items, right => by cases right <;> simp [equalBy, equalItemsBy_beq_iff items]

/-- Up to equality of floating point numbers, lists with equal items are the same. -/
theorem equalItemsBy_beq_iff :
    (left right : List Value) → (equalItemsBy (· == ·) left right = true ↔ left = right)
  | [], right => by cases right <;> simp [equalItemsBy]
  | first :: rest, right => by
    cases right with
    | nil => simp [equalItemsBy]
    | cons other others =>
      simp [equalItemsBy, equalBy_beq_iff first other, equalItemsBy_beq_iff rest others]

end

/-- Values can be told apart. -/
instance : DecidableEq Value := fun left right =>
  decidable_of_iff _ (equalBy_beq_iff left right)

/-- Equality up to numerical equality of floating point numbers. -/
def agrees (left right : Value) : Bool := equalBy Number.Binary64.agrees left right

mutual

/-- The canonical text of a value: text between double quotes, the items of a list separated
by spaces. -/
def chars : Value → List Char
  | null => ['n', 'u', 'l', 'l']
  | bool true => ['t', 'r', 'u', 'e']
  | bool false => ['f', 'a', 'l', 's', 'e']
  | int value => Number.integerText value.toInt
  | float value => Number.Layout.selector.text value
  | text value => '"' :: (Text.escape ['"'] value.toList ++ ['"'])
  | list items => charsOfItems items

/-- The canonical texts of items with spaces between them. -/
def charsOfItems : List Value → List Char
  | [] => []
  | [last] => last.chars
  | item :: next :: rest => item.chars ++ ' ' :: charsOfItems (next :: rest)

end

/-- The integer literal of a numeral: written without point and exponent, and of 64 bits. -/
def ofWholeNumeral? (numeral : Number.Numeral) : Option Value :=
  let value := numeral.integer
  if numeral.isWhole ∧ Int64.minValue.toInt ≤ value ∧ value ≤ Int64.maxValue.toInt then
    some (int (Int64.ofInt value))
  else none

/-- The value of a numeral: an integer where it is one, else a floating point number where
it is in range. -/
def ofNumeral? (numeral : Number.Numeral) : Option Value :=
  (ofWholeNumeral? numeral).or
    (if numeral.value.toBinary64.isFinite then some (float numeral.value.toBinary64) else none)

/-- Types an unquoted literal by its spelling. -/
def ofLiteral (raw : List Char) : Value :=
  let lowered := raw.map Char.toLower
  if lowered = ['t', 'r', 'u', 'e'] then bool true
  else if lowered = ['f', 'a', 'l', 's', 'e'] then bool false
  else if lowered = ['n', 'u', 'l', 'l'] then null
  else ((Number.Numeral.read? raw).bind ofNumeral?).getD (text (String.ofList (Text.unescape raw)))

end Value

end NodeQuery
