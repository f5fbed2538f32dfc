import NodeQuery.Selector.Basic

/-!
# Reading selectors

A pattern is cut at its unhidden combinators into pieces, one for each sequence. Blanks may
stand around an explicit combinator; where there is none between two sequences, the blanks
themselves mean any depth below. A combinator that no sequence follows is reported with its
position in the trimmed pattern, after the errors of the pieces before it.
-/

namespace NodeQuery.Selector

open Text

/-- A piece of a pattern. -/
inductive Piece where
  /-- The text of a sequence and the combinator before it. -/
  | joined (combinator : Option Combinator) (text : List Char)
  /-- A combinator at this position that no sequence follows. -/
  | dangling (position : Nat)
deriving DecidableEq, Repr

/-- Reads the explicit combinator at the start of some cells and the blanks after it; where
there is none, the implicit one holds. -/
def readExplicit (implicit : Option Combinator) (cells : List Cell) :
    Option Combinator × List Cell :=
  match cells with
  | [] => (implicit, [])
  | cell :: rest =>
    match Combinator.ofChar? cell.char with
    | none | some .descendant => (implicit, cell :: rest)
    | some explicit => (some explicit, afterBlanks rest)

/-- Reads what stands before a sequence: blanks and at most one explicit combinator. Before
the first sequence there need be no combinator. -/
def readLead (first : Bool) (cells : List Cell) : Option Combinator × List Cell :=
  let implicit :=
    if first then none
    else cells.head?.map fun cell => (Combinator.ofChar? cell.char).getD .descendant
  readExplicit implicit (afterBlanks cells)

/-- Reading a combinator leaves no more cells than there were. -/
theorem readExplicit_length_le (implicit : Option Combinator) (cells : List Cell) :
    (readExplicit implicit cells).2.length ≤ cells.length := by
  unfold readExplicit
  split
  · simp
  · rename_i cell rest
    have skip := afterBlanks_length_le rest
    split <;> simp
    omega

/-- What stands before a sequence leaves no more cells than there were. -/
theorem readLead_length_le (first : Bool) (cells : List Cell) :
    (readLead first cells).2.length ≤ cells.length :=
  Nat.le_trans (readExplicit_length_le _ _) (afterBlanks_length_le cells)

/-- The pieces of the cells from a position on. -/
def pieces (first : Bool) (position : Nat) (cells : List Cell) : List Piece :=
  let combinator := (readLead first cells).1
  match _body : (readLead first cells).2 with
  | [] => [.dangling position]
  | head :: rest =>
    match findTarget Combinator.symbols (head :: rest) with
    | none => [.joined combinator (cellChars (head :: rest))]
    | some 0 => [.dangling position]
    | some (tail + 1) =>
      let start := position + (cells.length - (rest.length + 1))
      .joined combinator (head.char :: cellChars (rest.take tail)) ::
        pieces false (start + (tail + 1)) (rest.drop tail)
termination_by cells.length
decreasing_by
  have bound := readLead_length_le first cells
  rw [_body, List.length_cons] at bound
  simp only [List.length_drop]
  omega

/-- Adds the sequence of a piece. -/
def appendPiece (selector : Selector) : Piece → Except ParseError Selector
  | .dangling position => .error (.danglingCombinator position)
  | .joined combinator text => do
    let sequence ← Sequence.parse text
    (selector.append sequence combinator).mapError ParseError.structural

/-- Reads a selector. -/
def parse (pattern : List Char) : Except ParseError Selector :=
  match cellsOf pattern with
  | [] => .error .emptyPattern
  | cells@(_ :: _) => (pieces true 0 cells).foldlM appendPiece empty

end NodeQuery.Selector
