import NodeQuery.Selector.Path

/-!
# Pseudo selectors

A pseudo selector changes the query by name and may carry a value between parentheses. The
name `sort` has a value of its own form, an attribute and an order; what any other name
means is left to who builds the query. An empty value is no value.
-/

namespace NodeQuery

open Text

/-- The order of sorting. -/
inductive SortOrder where
  /-- Least first. -/
  | ascending
  /-- Greatest first. -/
  | descending
deriving DecidableEq, Repr

namespace SortOrder

/-- The word for an order. -/
def name : SortOrder → String
  | ascending => "asc"
  | descending => "desc"

/-- The order that a word stands for, in any case of ASCII letters. -/
def ofName? (word : List Char) : Option SortOrder :=
  let lowered := word.map Char.toLower
  if lowered = ['a', 's', 'c'] then some ascending
  else if lowered = ['d', 'e', 's', 'c'] then some descending
  else none

end SortOrder

/-- A named change to the query. -/
inductive Pseudo where
  /-- A name with an optional value. -/
  | named (name : String) (value : Option String)
  /-- The order of an attribute. -/
  | sort (attributeName : String) (order : SortOrder)
deriving DecidableEq, Repr

namespace Pseudo

/-- The name reserved for sorting. -/
def sortName : String := "sort"

/-- The pseudo selector of a name; an empty value is left out. -/
def ofName (name : String) (value : Option String) : Pseudo :=
  named name (value.filter (· ≠ ""))

/-- The name of a pseudo selector. -/
def name : Pseudo → String
  | named name _ => name
  | sort _ _ => sortName

/-- The value as it is written between the parentheses, before escaping. -/
def value? : Pseudo → Option String
  | named _ value => value
  | sort attributeName order => some (attributeName ++ " " ++ order.name)

/-- The characters with a meaning inside the parentheses. -/
def specials : List Char := ['(', ')', '"', '\'', '[', ']', '\x7b', '\x7d']

/-- The canonical text of the part after the colon. -/
def body (pseudo : Pseudo) : List Char :=
  escape valueSpecials pseudo.name.toList ++
    match pseudo.value? with
    | some value => '(' :: (escape specials value.toList ++ [')'])
    | none => []

/-- The canonical text of a pseudo selector. -/
def chars (pseudo : Pseudo) : List Char := ':' :: pseudo.body

/-- Removes the double quotes at both ends of a text. -/
def trimQuotes (text : List Char) : List Char :=
  dropTrailing (· == '"') (text.dropWhile (· == '"'))

/-- Reads the value of a sort: an attribute, which may stand between double quotes, and the
word for an order. Only the first word after the attribute counts. -/
def parseSort (value : Option (List Char)) (pattern : List Char) : Except ParseError Pseudo :=
  match value with
  | none => .error (.invalidPseudo (String.ofList pattern))
  | some text =>
    let attributeName := trimQuotes (text.takeWhile (!isSpace ·))
    let word := firstWord (text.dropWhile (!isSpace ·))
    if attributeName.isEmpty then .error (.invalidPseudo (String.ofList pattern))
    else if word.isEmpty then .ok (sort (String.ofList attributeName) .ascending)
    else
      match SortOrder.ofName? word with
      | some order => .ok (sort (String.ofList attributeName) order)
      | none => .error (.invalidSortOrder (String.ofList word))

/-- Reads the value after an opening parenthesis; an empty one is none. -/
def readValue (cells : List Cell) (pattern : List Char) :
    Except ParseError (Option (List Char)) :=
  match findTarget [')'] cells with
  | none => .error (.missingClosingParen (String.ofList pattern))
  | some length =>
    let value := unescape (trimmedChars (cells.take length))
    .ok (if value.isEmpty then none else some value)

/-- The pseudo selector of a name and a value that were read. -/
def ofParts (name : List Char) (value : Option (List Char)) (pattern : List Char) :
    Except ParseError Pseudo :=
  if name = sortName.toList then parseSort value pattern
  else .ok (ofName (String.ofList name) (value.map String.ofList))

/-- Reads the body of a pseudo selector. -/
def parse (pattern : List Char) : Except ParseError Pseudo := do
  let cells := cellsOf pattern
  let opening := findTarget ['('] cells
  let name := unescape (trimmedChars (cells.take (opening.getD cells.length)))
  if name.isEmpty then .error (.invalidPseudo (String.ofList pattern))
  else
    match opening with
    | none => ofParts name none pattern
    | some length => do
      let value ← readValue (cells.drop (length + 1)) pattern
      ofParts name value pattern

end Pseudo

end NodeQuery
