import NodeQuery.Selector.Attribute
import NodeQuery.Selector.Pseudo
import NodeQuery.Text.Letter

/-!
# Simple selectors

A simple selector is one test on a node. Its first character tells its kind: a letter, digit
or underscore starts an element name, and each other kind has a sign of its own. An attribute
selector must also end in its bracket.
-/

namespace NodeQuery

open Text

/-- One test on a node. -/
inductive Simple where
  /-- Every node. -/
  | universal
  /-- The nodes of a type. -/
  | element (name : String)
  /-- The node with an identifier. -/
  | id (value : String)
  /-- The nodes carrying a role. -/
  | role (value : String)
  /-- The nodes carrying a class. -/
  | className (value : String)
  /-- The nodes stored under a path. -/
  | path (path : Path)
  /-- The nodes with an attribute, or with one compared to a condition. -/
  | attributeTest (test : Attribute)
  /-- A named change to the query. -/
  | pseudo (pseudo : Pseudo)
deriving DecidableEq, Repr, Inhabited

/-- The simple selector that a root is on its own. -/
def Root.toSimple : Root → Simple
  | .id value => .id value
  | .role value => .role value

namespace Simple

/-- The kind of a simple selector. -/
def kind : Simple → Kind
  | universal => .universal
  | element _ => .element
  | id _ => .id
  | role _ => .role
  | className _ => .className
  | path _ => .path
  | attributeTest _ => .attributeTest
  | pseudo _ => .pseudo

/-- The plain value of an element, id, role or class selector. -/
def value? : Simple → Option String
  | element name => some name
  | id value | role value | className value => some value
  | _ => none

/-- The root that an id or role selector can be. -/
def toRoot? : Simple → Option Root
  | id value => some (.id value)
  | role value => some (.role value)
  | _ => none

/-- Equality up to numerical equality of floating point numbers. -/
def agrees : Simple → Simple → Bool
  | universal, universal => true
  | element left, element right => left == right
  | id left, id right => left == right
  | role left, role right => left == right
  | className left, className right => left == right
  | path left, path right => left == right
  | attributeTest left, attributeTest right => left.agrees right
  | pseudo left, pseudo right => left == right
  | _, _ => false

/-- The canonical text of a simple selector. -/
def chars : Simple → List Char
  | universal => ['*']
  | element name => escape valueSpecials name.toList
  | id value => '#' :: escape valueSpecials value.toList
  | role value => '$' :: escape valueSpecials value.toList
  | className value => '.' :: escape valueSpecials value.toList
  | path value => value.chars
  | attributeTest value => value.chars
  | pseudo value => value.chars

/-- The canonical text of a simple selector. -/
def text (simple : Simple) : String := String.ofList simple.chars

/-- The signs that start a simple selector other than an element, with its kind. -/
def signs : List (Char × Kind) :=
  [('*', .universal), ('#', .id), ('$', .role), ('.', .className), ('/', .path),
    ('[', .attributeTest), (':', .pseudo)]

/-- The characters that start a simple selector inside a sequence. -/
def signChars : List Char := signs.map Prod.fst

/-- Recognizes the characters that start an element name. -/
def startsName (value : Char) : Bool := isAlphanumeric value || value == '_'

/-- The kind of simple selector that a character starts. -/
def kindOf? (value : Char) : Option Kind :=
  if startsName value then some .element else signs.lookup value

/-- Whether a text ends in an odd run of backslashes. -/
def endsInEscape (text : List Char) : Bool :=
  (text.reverse.takeWhile (· == escapeMark)).length % 2 == 1

/-- The part of a text before a final closing bracket that is not escaped. -/
def beforeBracket? (text : List Char) : Option (List Char) :=
  match text.reverse with
  | ']' :: inner => if endsInEscape inner.reverse then none else some inner.reverse
  | _ => none

/-- Reads the value after the sign of an id, role or class. -/
def parseValue (kind : Kind) (make : String → Simple) (body : List Char) :
    Except ParseError Simple :=
  if body.isEmpty then .error (.missingValue kind)
  else .ok (make (String.ofList (unescape body)))

/-- Reads a simple selector. -/
def parse (token : List Char) : Except ParseError Simple :=
  match token with
  | [] => .error (.unrecognizedSelector "")
  | sign :: body =>
    match kindOf? sign with
    | none => .error (.unrecognizedSelector (String.ofList token))
    | some .universal =>
      if body.isEmpty then .ok universal
      else .error (.unexpectedUniversalValue (String.ofList token))
    | some .element => .ok (element (String.ofList (unescape token)))
    | some .id => parseValue .id id body
    | some .role => parseValue .role role body
    | some .className => parseValue .className className body
    | some .path => (Path.parse body).map path
    | some .attributeTest =>
      match beforeBracket? body with
      | none => .error (.unterminatedAttribute (String.ofList token))
      | some inner => (Attribute.parse inner).map attributeTest
    | some .pseudo => (Pseudo.parse body).map pseudo

end Simple

/-- One item that a path is to be built of. -/
inductive Step where
  /-- A segment. -/
  | segment (text : String)
  /-- A selector that stands for a stored path. -/
  | selector (simple : Simple)
deriving Repr, Inhabited

namespace Path

/-- The segments of steps, of which none may be a selector. -/
def segmentsOfSteps : List Step → Except StructureError (List String)
  | [] => .ok []
  | .segment text :: rest => (segmentsOfSteps rest).map (text :: ·)
  | .selector _ :: _ => .error .misplacedPathRoot

/-- The path of some steps: only the first may be a selector, and it must be able to be a
root. -/
def ofSteps : List Step → Except StructureError Path
  | .selector simple :: rest =>
    match simple.toRoot? with
    | some root => (segmentsOfSteps rest).map (⟨some root, ·⟩)
    | none => .error (.invalidPathRoot simple.kind)
  | steps => (segmentsOfSteps steps).map ofSegments

end Path

end NodeQuery
