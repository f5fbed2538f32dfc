import NodeQuery.Text.Enclosure

/-!
# Scans

A scan answers questions about positions of a trimmed text: which character stands there,
whether it is escaped, where the next unhidden target is. It never consumes its text, and a
position outside the text is no error but has nothing to show.

Positions count characters from the start of the trimmed text. The searches are those on
lists of cells, moved by the position at which they start.
-/

namespace NodeQuery.Text

/-- A trimmed text that can be asked about its positions. -/
structure Scan where
  /-- The characters with their marks and enclosures. -/
  cells : List Cell
deriving DecidableEq, Repr

namespace Scan

/-- Trims a text and prepares it for questions. -/
def ofText (text : List Char) : Scan := ⟨cellsOf text⟩

/-- The number of characters. -/
def length (scan : Scan) : Nat := scan.cells.length

/-- Whether nothing but blanks was given. -/
def isEmpty (scan : Scan) : Bool := scan.cells.isEmpty

/-- The character at a position. -/
def char? (scan : Scan) (position : Nat) : Option Char := scan.cells[position]?.map (·.char)

/-- Whether the character at a position is escaped. -/
def isEscaped (scan : Scan) (position : Nat) : Bool :=
  scan.cells[position]?.any (·.escaped)

/-- The cells from one position up to another, as far as there are any. -/
def range (scan : Scan) (start stop : Nat) : List Cell := (scan.cells.take stop).drop start

/-- The characters from one position up to another. -/
def slice (scan : Scan) (start stop : Nat) : List Char := cellChars (scan.range start stop)

/-- The characters from one position up to another less the unescaped blanks around them. -/
def trimmedSlice (scan : Scan) (start stop : Nat) : List Char :=
  trimmedChars (scan.range start stop)

/-- The first position at or after `start` that holds no blank. -/
def nextKey? (scan : Scan) (start : Nat) : Option Nat :=
  ((scan.cells.drop start).findIdx? (!isBlank ·.char)).map (· + start)

/-- The last position at or before `start` that holds no blank. -/
def previousKey? (scan : Scan) (start : Nat) : Option Nat :=
  let front := scan.cells.take (start + 1)
  (front.reverse.findIdx? (!isBlank ·.char)).map (front.length - 1 - ·)

/-- Whether an unescaped opener stands at a position. -/
def isOpening (scan : Scan) (position : Nat) : Bool :=
  scan.cells[position]?.any fun cell => !cell.escaped && (closerOf? cell.char).isSome

/-- Whether an unescaped closer stands at a position. -/
def isClosing (scan : Scan) (position : Nat) : Bool :=
  scan.cells[position]?.any fun cell => !cell.escaped && isCloser cell.char

/-- The first position at or after `start` that holds a target which no enclosure opened
at or after `start` hides. -/
def find? (scan : Scan) (targets : List Char) (start : Nat) (escapedToo : Bool) : Option Nat :=
  (findFrom targets escapedToo 0 (scan.cells.drop start)).map (· + start)

/-- The first position at or after `start` with this character unescaped, hidden or not. -/
def findPlain? (scan : Scan) (target : Char) (start : Nat) : Option Nat :=
  (findPlain target (scan.cells.drop start)).map (· + start)

/-- The position of the closer of the opener at a position. -/
def closer? (scan : Scan) (position : Nat) : Option Nat :=
  (scan.cells[position]?.bind (·.reach)).map (· + position)

end Scan

end NodeQuery.Text
