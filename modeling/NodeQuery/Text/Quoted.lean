import NodeQuery.Text.Visible

/-!
# Quoted text

A quoted text shows each character unambiguously on one line: the double quote and the
backslash after a backslash, the common controls by a letter, and every other character that
is invisible or attaches to its neighbour by its code point in hexadecimal digits between
braces.
-/

namespace NodeQuery.Text

/-- The form of one character between the quotes. -/
def quotedChar (value : Char) : List Char :=
  if value = '\x00' then ['\\', '0']
  else if value = '\t' then ['\\', 't']
  else if value = '\n' then ['\\', 'n']
  else if value = '\r' then ['\\', 'r']
  else if value = '"' ∨ value = '\\' then ['\\', value]
  else if standsAlone value then [value]
  else '\\' :: 'u' :: '\x7b' :: (Nat.toDigits 16 value.toNat ++ ['\x7d'])

/-- A text between double quotes, each of its characters unambiguous. -/
def quoted (text : List Char) : List Char := '"' :: (text.flatMap quotedChar ++ ['"'])

end NodeQuery.Text
