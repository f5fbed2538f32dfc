import NodeQuery.Selector.Error
import NodeQuery.Text.Enclosure

/-!
# Path selectors

A path leads to nodes by segments, starting at the top or at a stored path that an id or a
role stands for. Its text is `/` and the items joined by `/`; a segment `*` is a wildcard. The
text after the leading `/` is the body, in which a first empty item is left out.

A plain text is escaped for its place: `valueSpecials` where any character that starts
another selector would end it, `segmentSpecials` where the path goes on until an attribute
or pseudo selector.
-/

namespace NodeQuery

open Text

/-- The characters with a meaning inside a name or a plain value. -/
def valueSpecials : List Char :=
  blanks ++ ['>', '+', '~', '*', '#', '$', '.', '/', '[', ']', ':', '(', ')', '"', '\'',
    '\x7b', '\x7d']

/-- The characters with a meaning inside a path segment; the star stays bare so that a
wildcard stays one. -/
def segmentSpecials : List Char :=
  blanks ++ ['>', '+', '~', '[', ':', '/', '"', '\'', '(', '\x7b']

/-- The selector that a path may start at: one that stands for a stored path. -/
inductive Root where
  /-- The path of the node with an identifier. -/
  | id (value : String)
  /-- The path that belongs to a role. -/
  | role (value : String)
deriving DecidableEq, Repr, Inhabited

namespace Root

/-- The kind of selector that a root is. -/
def kind : Root → Kind
  | id _ => .id
  | role _ => .role

/-- The value of a root. -/
def value : Root → String
  | id value => value
  | role value => value

/-- The canonical text of a root. -/
def chars : Root → List Char
  | id value => '#' :: escape valueSpecials value.toList
  | role value => '$' :: escape valueSpecials value.toList

/-- Reads a root by its sign; `none` means that the text does not start like one. -/
def parse? : List Char → Option (Except ParseError Root)
  | '#' :: body =>
    some (if body.isEmpty then .error (.missingValue .id)
      else .ok (id (String.ofList (unescape body))))
  | '$' :: body =>
    some (if body.isEmpty then .error (.missingValue .role)
      else .ok (role (String.ofList (unescape body))))
  | _ => none

end Root

/-- The segments that lead to nodes, from the top or from a stored path. -/
structure Path where
  /-- The stored path to start from. -/
  root : Option Root
  /-- The segments in their order. -/
  segments : List String
deriving DecidableEq, Repr, Inhabited

namespace Path

/-- The character between segments. -/
def separator : Char := '/'

/-- The segment that stands for any other. -/
def wildcard : String := "*"

/-- A path of segments only. -/
def ofSegments (segments : List String) : Path := ⟨none, segments⟩

/-- Whether a path has neither root nor segments. -/
def isEmpty (path : Path) : Bool := path.root.isNone && path.segments.isEmpty

/-- Whether a path has a wildcard among its segments. -/
def hasWildcard (path : Path) : Bool := path.segments.contains wildcard

/-- The segments, each after a separator; a path without segments is the separator alone. -/
def literal (path : Path) : String :=
  if path.segments.isEmpty then separator.toString
  else String.join (path.segments.map (separator.toString ++ ·))

/-- The escaped text of a segment. -/
def segmentChars (segment : String) : List Char := escape segmentSpecials segment.toList

/-- The backslash that keeps a first segment from being read as a root. -/
def rootGuard : List Char → List Char
  | [] => []
  | head :: _ => if head = '#' ∨ head = '$' then [escapeMark] else []

/-- The escaped texts of the segments, each after a separator. -/
def tailChars (segments : List String) : List Char :=
  segments.flatMap (fun segment => separator :: segmentChars segment)

/-- The canonical text of the part after the leading separator. -/
def body (path : Path) : List Char :=
  match path.root, path.segments with
  | some root, segments => root.chars ++ tailChars segments
  | none, [] => []
  | none, first :: rest => rootGuard first.toList ++ segmentChars first ++ tailChars rest

/-- The canonical text of a path selector. -/
def chars (path : Path) : List Char := separator :: path.body

/-- The pieces of a text between its unhidden separators. -/
def pieces (cells : List Cell) : List (List Char) :=
  match _place : findTarget [separator] cells with
  | none => [cellChars cells]
  | some length =>
    if _inside : length < cells.length then
      cellChars (cells.take length) :: pieces (cells.drop (length + 1))
    else [cellChars cells]
termination_by cells.length

/-- The path of some pieces, the first of which may be a root. -/
def ofPieces : List (List Char) → Except ParseError Path
  | [] => .ok ⟨none, []⟩
  | first :: rest =>
    let tail := rest.map (fun piece => String.ofList (unescape piece))
    match Root.parse? first with
    | some (.error error) => .error error
    | some (.ok root) => .ok ⟨some root, tail⟩
    | none => .ok ⟨none, String.ofList (unescape first) :: tail⟩

/-- Leaves out a first empty piece. -/
def dropEmptyFirst : List (List Char) → List (List Char)
  | [] :: rest => rest
  | pieces => pieces

/-- Reads the body of a path selector. -/
def parse (pattern : List Char) : Except ParseError Path :=
  ofPieces (dropEmptyFirst (pieces (cellsOf pattern)))

end Path

end NodeQuery
