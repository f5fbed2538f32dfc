import NodeQuery.Selector.Simple

/-!
# Sequences

A sequence is a list of simple selectors that apply to the same node. A universal, element or
path selector can only be its first item, and what follows a path directly is an attribute or
pseudo selector. Its text is the texts of its items one after the other; reading splits the
text into tokens, one for each item.
-/

namespace NodeQuery

open Text

/-- Simple selectors that apply to the same node. -/
structure Sequence where
  /-- The simple selectors in their order. -/
  items : List Simple
deriving DecidableEq, Repr, Inhabited

namespace Sequence

/-- The sequence without items. -/
def empty : Sequence := ⟨[]⟩

/-- Adds an item at the end, if it may stand there. -/
def append (sequence : Sequence) (item : Simple) : Except StructureError Sequence :=
  if item.kind.isLeading && !sequence.items.isEmpty then
    .error (.notFirstInSequence item.kind)
  else if (sequence.items.getLast?.any (·.kind == .path)) && !item.kind.followsPath then
    .error (.notAfterPath item.kind)
  else .ok ⟨sequence.items ++ [item]⟩

/-- The sequence of some items, added one by one. -/
def ofItems (items : List Simple) : Except StructureError Sequence :=
  items.foldlM append empty

/-- Removes the last item. -/
def pop (sequence : Sequence) : Option Simple × Sequence :=
  (sequence.items.getLast?, ⟨sequence.items.dropLast⟩)

/-- Removes the first item. -/
def shift (sequence : Sequence) : Option Simple × Sequence :=
  (sequence.items.head?, ⟨sequence.items.tail⟩)

/-- The item at an index. -/
def item? (sequence : Sequence) (index : Nat) : Option Simple := sequence.items[index]?

/-- The number of items. -/
def length (sequence : Sequence) : Nat := sequence.items.length

/-- Whether there are no items. -/
def isEmpty (sequence : Sequence) : Bool := sequence.items.isEmpty

/-- The name of the element selector that the sequence starts with. -/
def elementName? (sequence : Sequence) : Option String :=
  match sequence.items with
  | .element name :: _ => some name
  | _ => none

/-- Whether the sequence does not start with an element selector. -/
def isUniversal (sequence : Sequence) : Bool := sequence.elementName?.isNone

/-- Whether the sequence starts with the universal selector. -/
def isExplicitUniversal (sequence : Sequence) : Bool :=
  sequence.items.head?.any (·.kind == .universal)

/-- Makes a selector the first item, in the place of the one that only can be first, if there
is one; the item replaced is returned. -/
def replaceLeading (leading : Simple) (sequence : Sequence) : Option Simple × Sequence :=
  match sequence.items with
  | first :: rest =>
    if first.kind.isLeading then (some first, ⟨leading :: rest⟩)
    else (none, ⟨leading :: first :: rest⟩)
  | [] => (none, ⟨[leading]⟩)

/-- Makes the sequence start with an element selector. -/
def setElement (name : String) (sequence : Sequence) : Option Simple × Sequence :=
  sequence.replaceLeading (.element name)

/-- Makes the sequence start with the universal selector. -/
def setUniversal (sequence : Sequence) : Option Simple × Sequence :=
  sequence.replaceLeading .universal

/-- Equality up to numerical equality of floating point numbers. -/
def agrees (left right : Sequence) : Bool :=
  left.length == right.length &&
    (left.items.zip right.items).all (fun (one, other) => one.agrees other)

/-- The canonical text of a sequence. -/
def chars (sequence : Sequence) : List Char := sequence.items.flatMap Simple.chars

/-- The canonical text of a sequence. -/
def text (sequence : Sequence) : String := String.ofList sequence.chars

/-- How many cells after its first one a token takes. A path goes on until an attribute or
pseudo selector, an attribute selector until its bracket, any other until the next sign. -/
def tokenTail (first : Cell) (rest : List Cell) : Nat :=
  (match Simple.kindOf? first.char with
    | some .path => findTarget ['[', ':'] rest
    | some .attributeTest => first.reach
    | _ => findTarget Simple.signChars rest).getD rest.length

/-- The tokens of a text, the blanks before each left out. -/
def tokens (cells : List Cell) : List (List Char) :=
  match _start : afterBlanks cells with
  | [] => []
  | first :: rest =>
    let tail := tokenTail first rest
    (first.char :: cellChars (rest.take tail)) :: tokens (rest.drop tail)
termination_by cells.length
decreasing_by
  have bound := afterBlanks_length_le cells
  rw [_start, List.length_cons] at bound
  simp only [List.length_drop]
  omega

/-- Adds the simple selector of a token. -/
def appendToken (sequence : Sequence) (token : List Char) : Except ParseError Sequence := do
  let item ← Simple.parse token
  (sequence.append item).mapError ParseError.structural

/-- Reads a sequence. -/
def parse (pattern : List Char) : Except ParseError Sequence :=
  (tokens (cellsOf pattern)).foldlM appendToken empty

end Sequence

end NodeQuery
