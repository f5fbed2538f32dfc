import NodeQuery.Json.Basic
import NodeQuery.Number.Shortest

/-!
# JSON text

A value is written either without any space or over several lines, each level indented by
two more spaces than the one around it. Empty arrays and objects take no space in both
forms. Controls without a letter of their own are written with four hexadecimal digits; a
floating point number that is not finite is written as the absent value.
-/

namespace NodeQuery.Json

/-- Four hexadecimal digits of a code point below 0x10000. -/
def hexDigits4 (point : Nat) : List Char :=
  let digits := Nat.toDigits 16 point
  List.replicate (4 - digits.length) '0' ++ digits

/-- The form of one character in a JSON string. -/
def stringChar (value : Char) : List Char :=
  if value = '"' ∨ value = '\\' then ['\\', value]
  else if value = '\x08' then ['\\', 'b']
  else if value = '\x0c' then ['\\', 'f']
  else if value = '\n' then ['\\', 'n']
  else if value = '\r' then ['\\', 'r']
  else if value = '\t' then ['\\', 't']
  else if value.toNat < 0x20 then '\\' :: 'u' :: hexDigits4 value.toNat
  else [value]

/-- A text as a JSON string. -/
def stringText (text : String) : List Char := '"' :: (text.toList.flatMap stringChar ++ ['"'])

/-- A value that holds no other values. -/
def scalarText : Json → List Char
  | .bool true => ['t', 'r', 'u', 'e']
  | .bool false => ['f', 'a', 'l', 's', 'e']
  | .int value => Number.integerText value
  | .float value =>
    if value.isFinite then Number.Layout.json.text value else ['n', 'u', 'l', 'l']
  | .string value => stringText value
  | _ => ['n', 'u', 'l', 'l']

mutual

/-- Writes a value without any space. -/
def compactText : Json → List Char
  | .array items => '[' :: (compactItems items ++ [']'])
  | .object fields => '\x7b' :: (compactFields fields ++ ['\x7d'])
  | scalar => scalarText scalar

/-- Writes the items of an array with commas between them. -/
def compactItems : List Json → List Char
  | [] => []
  | [last] => compactText last
  | item :: next :: rest => compactText item ++ ',' :: compactItems (next :: rest)

/-- Writes the fields of an object with commas between them. -/
def compactFields : List (String × Json) → List Char
  | [] => []
  | [(name, last)] => stringText name ++ ':' :: compactText last
  | (name, value) :: next :: rest =>
    stringText name ++ ':' :: (compactText value ++ ',' :: compactFields (next :: rest))

end

/-- A new line indented to a level. -/
def lineStart (level : Nat) : List Char := '\n' :: List.replicate (2 * level) ' '

mutual

/-- Writes a value over several lines, starting at a level of indentation. -/
def prettyAt (level : Nat) : Json → List Char
  | .array [] => ['[', ']']
  | .array items => '[' :: (prettyItems (level + 1) items ++ lineStart level ++ [']'])
  | .object [] => ['\x7b', '\x7d']
  | .object fields => '\x7b' :: (prettyFields (level + 1) fields ++ lineStart level ++ ['\x7d'])
  | scalar => scalarText scalar

/-- Writes each item of an array on a line of its own. -/
def prettyItems (level : Nat) : List Json → List Char
  | [] => []
  | [last] => lineStart level ++ prettyAt level last
  | item :: next :: rest =>
    lineStart level ++ prettyAt level item ++ ',' :: prettyItems level (next :: rest)

/-- Writes each field of an object on a line of its own. -/
def prettyFields (level : Nat) : List (String × Json) → List Char
  | [] => []
  | [(name, last)] => lineStart level ++ stringText name ++ ':' :: ' ' :: prettyAt level last
  | (name, value) :: next :: rest =>
    lineStart level ++ stringText name ++
      ':' :: ' ' :: (prettyAt level value ++ ',' :: prettyFields level (next :: rest))

end

/-- A value in one line. -/
def compact (value : Json) : String := String.ofList (compactText value)

/-- A value over several lines. -/
def pretty (value : Json) : String := String.ofList (prettyAt 0 value)

end NodeQuery.Json
