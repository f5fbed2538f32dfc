import NodeQuery.Text.Mark

/-!
# Enclosures

Quotes and brackets hide what stands between them. Quotes do not nest and hide all but
their own closer; brackets nest and may hold quotes. An opener without a closer is an
ordinary character.

`link` equips every marked character with the distance to its closer, from the end of the
text to its start. A search then runs once over the text and steps over each enclosure
whole, so that it is a structural recursion. Main statement: the distance stored in a cell
is the one that the search for its closer finds.
-/

namespace NodeQuery.Text

/-- The pairs of opening and closing characters. -/
def enclosures : List (Char × Char) :=
  [('"', '"'), ('\'', '\''), ('[', ']'), ('(', ')'), ('\x7b', '\x7d')]

/-- The character that closes what another one opens. -/
def closerOf? (opener : Char) : Option Char := enclosures.lookup opener

/-- Recognizes the characters that close an enclosure. -/
def isCloser (value : Char) : Bool := enclosures.any (·.2 == value)

/-- Recognizes the two quotes. -/
def isQuote (value : Char) : Bool := value == '"' || value == '\''

/-- A marked character that knows how far away its closer stands. -/
structure Cell extends Mark where
  /-- The distance to the closer, for a character that opens a closed enclosure. -/
  reach : Option Nat
deriving DecidableEq, Repr

/-- Whether a cell holds one of the targets; an escaped one counts only when asked for. -/
def Cell.isTarget (targets : List Char) (escapedToo : Bool) (cell : Cell) : Bool :=
  targets.contains cell.char && (escapedToo || !cell.escaped)

/-- How many cells after this one its enclosure hides, the closer included. -/
def Cell.hidden (cell : Cell) : Nat := if cell.escaped then 0 else cell.reach.getD 0

/-- The offset of the first target after the first `skip` cells that no enclosure hides.
A target is recognized before the enclosure that it opens is stepped over. -/
def findFrom (targets : List Char) (escapedToo : Bool) : Nat → List Cell → Option Nat
  | _, [] => none
  | skip + 1, _ :: rest => (findFrom targets escapedToo skip rest).map (· + 1)
  | 0, cell :: rest =>
    if cell.isTarget targets escapedToo then some 0
    else (findFrom targets escapedToo cell.hidden rest).map (· + 1)

/-- The offset of the first unescaped target that no enclosure hides. -/
def findTarget (targets : List Char) (cells : List Cell) : Option Nat :=
  findFrom targets false 0 cells

/-- The offset of the first unescaped occurrence of a character, hidden or not. -/
def findPlain (target : Char) (cells : List Cell) : Option Nat :=
  cells.findIdx? (fun cell => cell.char == target && !cell.escaped)

/-- The distance from an opener to its closer among the cells after it. -/
def reachOf (opener : Char) (rest : List Cell) : Option Nat :=
  (closerOf? opener).bind fun closer =>
    (if isQuote opener then findPlain closer rest else findTarget [closer] rest).map (· + 1)

/-- Equips every marked character with the distance to its closer. -/
def link : List Mark → List Cell
  | [] => []
  | mark :: rest =>
    let linked := link rest
    ⟨mark, reachOf mark.char linked⟩ :: linked

/-- Linking keeps the marked characters. -/
theorem link_marks (values : List Mark) : (link values).map Cell.toMark = values := by
  induction values with
  | nil => rfl
  | cons mark rest hypothesis => simp [link, hypothesis]

/-- The distance stored in a cell is the one that the search for its closer finds. -/
theorem link_cons (mark : Mark) (rest : List Mark) :
    link (mark :: rest) = ⟨mark, reachOf mark.char (link rest)⟩ :: link rest := rfl

/-- The characters that cells stand on. -/
def cellChars (cells : List Cell) : List Char := cells.map (·.char)

/-- The characters of cells less the unescaped blanks around them. -/
def trimmedChars (cells : List Cell) : List Char := chars (trimMarks (cells.map Cell.toMark))

/-- A text ready to be searched: marked, trimmed and linked. -/
def cellsOf (text : List Char) : List Cell := link (trimMarks (marks text))

/-- The cells after the blanks at the start. -/
def afterBlanks (cells : List Cell) : List Cell := cells.dropWhile (isBlank ·.char)

/-- Skipping blanks makes no text longer. -/
theorem afterBlanks_length_le (cells : List Cell) :
    (afterBlanks cells).length ≤ cells.length :=
  (List.dropWhile_suffix _).length_le

end NodeQuery.Text
