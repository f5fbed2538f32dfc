import NodeQuery.Json.Basic
import NodeQuery.Number.Numeral

/-!
# Reading JSON text

The reader accepts one value with white space around it and nothing after it. The fields of
an object are kept as they are written, in their order and with repetitions. A whole number
that fits neither 64 bits unsigned nor 64 bits signed is read as a floating point number, as
is a negative zero; a number too large for the format is refused.

Reading is bounded by the length of the text: every step into a value consumes a character.
-/

namespace NodeQuery.Json

/-- Recognizes the white space between the parts of JSON text. -/
def isSeparator (value : Char) : Bool :=
  value == ' ' || value == '\n' || value == '\t' || value == '\r'

/-- The text after its leading white space. -/
def skipSeparators (text : List Char) : List Char := text.dropWhile isSeparator

/-- The value of a hexadecimal digit. -/
def hexValue? (digit : Char) : Option Nat :=
  if digit.isDigit then some (digit.toNat - '0'.toNat)
  else if 'a' ≤ digit ∧ digit ≤ 'f' then some (digit.toNat - 'a'.toNat + 10)
  else if 'A' ≤ digit ∧ digit ≤ 'F' then some (digit.toNat - 'A'.toNat + 10)
  else none

/-- Reads four hexadecimal digits. -/
def readHex4? : List Char → Option (Nat × List Char)
  | first :: second :: third :: fourth :: rest => do
    let a ← hexValue? first
    let b ← hexValue? second
    let c ← hexValue? third
    let d ← hexValue? fourth
    some (((a * 16 + b) * 16 + c) * 16 + d, rest)
  | _ => none

/-- The character that a letter after a backslash stands for. -/
def escapedChar? (letter : Char) : Option Char :=
  [('"', '"'), ('\\', '\\'), ('/', '/'), ('b', '\x08'), ('f', '\x0c'), ('n', '\n'),
    ('r', '\r'), ('t', '\t')].lookup letter

/-- Reads a code point after a backslash and the letter u; two halves of a surrogate pair
make one character, and half a pair is refused. -/
def readCodePoint? (text : List Char) : Option (Char × List Char) := do
  let (first, rest) ← readHex4? text
  if 0xd800 ≤ first ∧ first ≤ 0xdbff then
    match rest with
    | '\\' :: 'u' :: low =>
      let (second, after) ← readHex4? low
      if 0xdc00 ≤ second ∧ second ≤ 0xdfff then
        some (Char.ofNat (0x10000 + (first - 0xd800) * 0x400 + (second - 0xdc00)), after)
      else none
    | _ => none
  else if 0xdc00 ≤ first ∧ first ≤ 0xdfff then none
  else some (Char.ofNat first, rest)

/-- Reads the characters of a string up to its closing quote; `done` holds those read, the
last one first. -/
def readStringFrom? : Nat → List Char → List Char → Option (String × List Char)
  | 0, _, _ => none
  | _ + 1, _, [] => none
  | fuel + 1, done, head :: rest =>
    if head = '"' then some (String.ofList done.reverse, rest)
    else if head = '\\' then
      match rest with
      | 'u' :: digits => do
        let (value, after) ← readCodePoint? digits
        readStringFrom? fuel (value :: done) after
      | letter :: after => do
        let value ← escapedChar? letter
        readStringFrom? fuel (value :: done) after
      | [] => none
    else if head.toNat < 0x20 then none
    else readStringFrom? fuel (head :: done) rest

/-- Reads a string after its opening quote. -/
def readString? (text : List Char) : Option (String × List Char) :=
  readStringFrom? (text.length + 1) [] text

/-- Reads a required run of digits. -/
def readDigits? (text : List Char) : Option (List Char × List Char) :=
  let digits := text.takeWhile Char.isDigit
  if digits.isEmpty then none else some (digits, text.dropWhile Char.isDigit)

/-- Reads the digits before the point: a zero alone or digits that start with another. -/
def readWhole? (text : List Char) : Option (List Char × List Char) := do
  let (digits, rest) ← readDigits? text
  if digits.head? = some '0' ∧ 1 < digits.length then none else some (digits, rest)

/-- Reads a fraction if there is one. -/
def readFraction? : List Char → Option (Option (List Char) × List Char)
  | '.' :: rest => do
    let (digits, after) ← readDigits? rest
    some (some digits, after)
  | text => some (none, text)

/-- Reads an exponent if there is one. -/
def readExponent? : List Char → Option (Option Int × List Char)
  | mark :: rest =>
    if mark = 'e' ∨ mark = 'E' then do
      let (negative, unsigned) := Number.takeSign rest
      let (digits, after) ← readDigits? unsigned
      let value : Int := Number.naturalOfDigits digits
      some (some (if negative then -value else value), after)
    else some (none, mark :: rest)
  | [] => some (none, [])

/-- The value of a numeral, if it is in range. -/
def ofNumeral? (numeral : Number.Numeral) : Option Json :=
  let whole := numeral.integer
  if numeral.isWhole ∧ ¬ (numeral.negative ∧ whole = 0) ∧ Int64.minValue.toInt ≤ whole ∧
      whole < UInt64.size then
    some (.int whole)
  else
    let value := numeral.value.toBinary64
    if value.isFinite then some (.float value) else none

/-- Reads a number. -/
def readNumber? (text : List Char) : Option (Json × List Char) := do
  let (negative, unsigned) :=
    match text with
    | '-' :: rest => (true, rest)
    | _ => (false, text)
  let (whole, afterWhole) ← readWhole? unsigned
  let (fraction, afterFraction) ← readFraction? afterWhole
  let (exponent, rest) ← readExponent? afterFraction
  let value ← ofNumeral? { negative, whole, fraction, exponent }
  some (value, rest)

mutual

/-- Reads a value at the start of a text without leading white space. -/
def readValue? : Nat → List Char → Option (Json × List Char)
  | 0, _ => none
  | fuel + 1, text =>
    match text with
    | 'n' :: 'u' :: 'l' :: 'l' :: rest => some (.null, rest)
    | 't' :: 'r' :: 'u' :: 'e' :: rest => some (.bool true, rest)
    | 'f' :: 'a' :: 'l' :: 's' :: 'e' :: rest => some (.bool false, rest)
    | '"' :: rest => do
      let (value, after) ← readString? rest
      some (.string value, after)
    | '[' :: rest =>
      match skipSeparators rest with
      | ']' :: after => some (.array [], after)
      | inner => do
        let (items, after) ← readItems? fuel inner
        some (.array items, after)
    | '\x7b' :: rest =>
      match skipSeparators rest with
      | '\x7d' :: after => some (.object [], after)
      | inner => do
        let (fields, after) ← readFields? fuel inner
        some (.object fields, after)
    | _ => readNumber? text

/-- Reads the items of an array and its closing bracket. -/
def readItems? : Nat → List Char → Option (List Json × List Char)
  | 0, _ => none
  | fuel + 1, text => do
    let (item, rest) ← readValue? fuel text
    match skipSeparators rest with
    | ']' :: after => some ([item], after)
    | ',' :: more =>
      let (items, after) ← readItems? fuel (skipSeparators more)
      some (item :: items, after)
    | _ => none

/-- Reads the fields of an object and its closing brace. -/
def readFields? : Nat → List Char → Option (List (String × Json) × List Char)
  | 0, _ => none
  | fuel + 1, text =>
    match text with
    | '"' :: start => do
      let (name, rest) ← readString? start
      match skipSeparators rest with
      | ':' :: afterColon =>
        let (value, afterValue) ← readValue? fuel (skipSeparators afterColon)
        match skipSeparators afterValue with
        | '\x7d' :: after => some ([(name, value)], after)
        | ',' :: more =>
          let (fields, after) ← readFields? fuel (skipSeparators more)
          some ((name, value) :: fields, after)
        | _ => none
      | _ => none
    | _ => none

end

/-- Reads a text that holds one value and nothing else. -/
def read? (text : String) : Option Json := do
  let characters := text.toList
  let (value, rest) ← readValue? (2 * characters.length + 1) (skipSeparators characters)
  if (skipSeparators rest).isEmpty then some value else none

end NodeQuery.Json
