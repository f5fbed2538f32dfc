import NodeQuery.Text.Blank
import NodeQuery.Text.Escape

/-!
# Marked characters

Each character of a pattern is marked with whether an odd run of backslashes stands right
before it, that is, whether it has lost its special meaning. Trimming respects the marks:
an escaped blank at the end of a pattern belongs to its value.

Main statements: marking loses no character, and a mark depends on the character before it
alone.
-/

namespace NodeQuery.Text

/-- A character and whether it is escaped. -/
structure Mark where
  /-- The character itself. -/
  char : Char
  /-- Whether an odd run of backslashes stands right before it. -/
  escaped : Bool
deriving DecidableEq, Repr

/-- Whether this backslash escapes the character after it. -/
def Mark.escapesNext (mark : Mark) : Bool := mark.char == escapeMark && !mark.escaped

/-- Whether this is an unescaped blank. -/
def Mark.isLooseBlank (mark : Mark) : Bool := isBlank mark.char && !mark.escaped

/-- Marks a text whose first character is escaped or not, as given. -/
def marksFrom (escaped : Bool) : List Char → List Mark
  | [] => []
  | head :: rest => ⟨head, escaped⟩ :: marksFrom (Mark.escapesNext ⟨head, escaped⟩) rest

/-- Marks a text from its start. -/
def marks (text : List Char) : List Mark := marksFrom false text

/-- Marking loses no character and adds none. -/
theorem marksFrom_chars (escaped : Bool) (text : List Char) :
    (marksFrom escaped text).map Mark.char = text := by
  induction text generalizing escaped with
  | nil => rfl
  | cons head rest hypothesis => simp [marksFrom, hypothesis]

/-- Removes the longest run of unescaped blanks at the end, then every blank at the start. -/
def trimMarks (values : List Mark) : List Mark :=
  (dropTrailing Mark.isLooseBlank values).dropWhile (isBlank ·.char)

/-- The characters that marks stand on. -/
def chars (values : List Mark) : List Char := values.map Mark.char

end NodeQuery.Text
