import NodeQuery.Selector.Error
import NodeQuery.Selector.Value
import NodeQuery.Text.Enclosure

/-!
# Attribute selectors

An attribute selector tests that an attribute is present or compares it with a condition.
Its text is `[name]` or `[name operator condition]`; the part between the brackets is its
body. The first character of the body always belongs to the name, and the name ends at the
first unhidden character that starts an operator. The condition of a membership test is a
list of items separated by spaces.

Main statement: each operator is read back from its symbol.
-/

namespace NodeQuery

open Text

/-- How an attribute is compared with its condition. -/
inductive Operator where
  /-- Equal. -/
  | equals
  /-- Different. -/
  | notEquals
  /-- Among the items of a list. -/
  | inList
  /-- Matched by a regular expression. -/
  | regExp
  /-- Starting with a text. -/
  | startsWith
  /-- Ending with a text. -/
  | endsWith
  /-- Containing a text. -/
  | contains
  /-- Greater. -/
  | greater
  /-- Greater or equal. -/
  | greaterOrEqual
  /-- Less. -/
  | less
  /-- Less or equal. -/
  | lessOrEqual
deriving DecidableEq, Repr

namespace Operator

/-- All operators. -/
def all : List Operator :=
  [equals, notEquals, inList, regExp, startsWith, endsWith, contains, greater, greaterOrEqual,
    less, lessOrEqual]

/-- The text of an operator. -/
def symbol : Operator → List Char
  | equals => ['=']
  | notEquals => ['!', '=']
  | inList => ['~', '=']
  | regExp => ['?', '=']
  | startsWith => ['^', '=']
  | endsWith => ['$', '=']
  | contains => ['*', '=']
  | greater => ['>']
  | greaterOrEqual => ['>', '=']
  | less => ['<']
  | lessOrEqual => ['<', '=']

/-- The operator that a text stands for. -/
def ofSymbol? (symbol : List Char) : Option Operator := all.find? (·.symbol == symbol)

/-- The characters that operators start with. -/
def leads : List Char := ['=', '!', '~', '?', '^', '$', '*', '>', '<']

/-- Each operator is read back from its symbol. -/
theorem ofSymbol?_symbol (operator : Operator) :
    ofSymbol? operator.symbol = some operator := by
  cases operator <;> decide

end Operator

/-- A presence test, or a comparison of an attribute with a condition. -/
structure Attribute where
  /-- The name of the attribute. -/
  name : String
  /-- The operator of a comparison; a presence test has none. -/
  operator : Option Operator
  /-- The condition of a comparison; it is absent in a presence test. -/
  condition : Value
deriving DecidableEq, Repr, Inhabited

namespace Attribute

/-- The test that an attribute is present. -/
def present (name : String) : Attribute := ⟨name, none, .null⟩

/-- The comparison of an attribute with a condition. -/
def compare (name : String) (operator : Operator) (condition : Value) : Attribute :=
  ⟨name, some operator, condition⟩

/-- Equality up to numerical equality of floating point numbers. -/
def agrees (left right : Attribute) : Bool :=
  left.name == right.name && left.operator == right.operator &&
    left.condition.agrees right.condition

/-- The characters with a meaning inside an attribute name. -/
def nameSpecials : List Char :=
  ['=', '!', '~', '^', '$', '?', '*', '>', '<', '[', ']', '"', '\'', '(', ')', '\x7b', '\x7d']

/-- The canonical text of the part between the brackets. -/
def body (test : Attribute) : List Char :=
  escape nameSpecials test.name.toList ++
    match test.operator with
    | some operator => operator.symbol ++ test.condition.chars
    | none => []

/-- The canonical text of an attribute selector. -/
def chars (test : Attribute) : List Char := '[' :: (test.body ++ [']'])

/-- Reads a quoted text at its opening quote; the cells after its closing quote remain. -/
def readQuoted (opener : Cell) (rest : List Cell) : Except ParseError (Value × List Cell) :=
  match findPlain opener.char rest with
  | some length =>
    let content := unescape (cellChars (rest.take length))
    .ok (.text (String.ofList content), rest.drop (length + 1))
  | none => .error (.unterminatedQuote (String.ofList (cellChars (opener :: rest))))

/-- Reads a single condition: a quoted text, whatever follows it, or a literal. -/
def readScalar (cells : List Cell) : Except ParseError Value :=
  match cells with
  | [] => .ok .null
  | cell :: rest =>
    if isQuote cell.char then (readQuoted cell rest).map Prod.fst
    else .ok (Value.ofLiteral (trimmedChars cells))

/-- The cells that follow a quoted text are fewer than those after its opening quote. -/
theorem readQuoted_length {opener : Cell} {rest remaining : List Cell} {value : Value}
    (read : readQuoted opener rest = .ok (value, remaining)) :
    remaining.length ≤ rest.length := by
  unfold readQuoted at read
  split at read
  · injection read with same
    injection same with _ drop
    subst drop
    simp
  · injection read

/-- Reads the items of a list: quoted texts, and literals that end before a space. -/
def readItems (cells : List Cell) : Except ParseError (List Value) :=
  match _start : afterBlanks cells with
  | [] => .ok []
  | cell :: rest =>
    if isQuote cell.char then
      match _split : readQuoted cell rest with
      | .error error => .error error
      | .ok (item, remaining) => (readItems remaining).map (item :: ·)
    else
      let length := (findPlain ' ' rest).getD rest.length
      let item := Value.ofLiteral (cell.char :: cellChars (rest.take length))
      (readItems (rest.drop length)).map (item :: ·)
termination_by cells.length
decreasing_by
  · have shorter := readQuoted_length _split
    have bound := afterBlanks_length_le cells
    rw [_start, List.length_cons] at bound
    omega
  · have bound := afterBlanks_length_le cells
    rw [_start, List.length_cons] at bound
    simp only [List.length_drop]
    omega

/-- Reads the condition of an operator; nothing written is the empty list or the absent
value. -/
def readCondition (operator : Operator) (cells : List Cell) : Except ParseError Value :=
  if operator = .inList then (readItems cells).map Value.list
  else readScalar (afterBlanks cells)

/-- The text of the operator at the start of some cells: the first character and an equals
sign right after it. -/
def operatorSymbol : List Cell → List Char
  | [] => []
  | [lead] => [lead.char]
  | lead :: next :: _ => if next.char = '=' then [lead.char, '='] else [lead.char]

/-- Reads the body of an attribute selector. -/
def parse (pattern : List Char) : Except ParseError Attribute :=
  match cellsOf pattern with
  | [] => .error (.emptyAttributeName (String.ofList pattern))
  | cell :: rest =>
    match findTarget Operator.leads rest with
    | none => .ok (present (String.ofList (unescape (trimmedChars (cell :: rest)))))
    | some length =>
      let name := String.ofList (unescape (trimmedChars (cell :: rest.take length)))
      let symbol := operatorSymbol (rest.drop length)
      match Operator.ofSymbol? symbol with
      | none =>
        .error (.invalidOperator (String.ofList symbol) (String.ofList (trimSpaces pattern)))
      | some operator =>
        (readCondition operator (rest.drop (length + symbol.length))).map (compare name operator)

end Attribute

end NodeQuery
