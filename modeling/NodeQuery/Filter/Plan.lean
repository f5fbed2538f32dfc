import NodeQuery.Build.Event
import NodeQuery.Filter.Change
import NodeQuery.Filter.Config
import NodeQuery.Filter.PathTable
import NodeQuery.Filter.Pattern
import NodeQuery.Selector.Tree
import NodeQuery.Text.Quoted

/-!
# Plans of simple selectors

A plan says for a simple selector which changes it makes to a filter document, that nothing
in a filter stands for it, or why its meaning cannot be expressed. It depends on the
selector, the field names and the resolver alone, and never on the document.

Main statement: a plan that is not handled leaves the document as it is.
-/

namespace NodeQuery.Filter

open NodeQuery Text

/-- Why the meaning of a simple selector cannot be expressed. -/
inductive Failure where
  /-- The condition has no text that an expression could be made of. -/
  | invalidCondition (operator : Operator) (condition : Value)
  /-- The value of a pseudo selector is no count. -/
  | invalidCount (name : String) (value : Option String)
deriving DecidableEq, Repr

/-- An optional text as messages show it. -/
def shownText : Option String → String
  | none => "None"
  | some value => "Some(" ++ String.ofList (quoted value.toList) ++ ")"

/-- The message of a failure. -/
def Failure.message : Failure → String
  | invalidCondition operator condition =>
    "operator " ++ String.ofList operator.symbol ++ " cannot match condition " ++
      String.ofList condition.chars
  | invalidCount name value => "pseudo class :" ++ name ++ " expects a count, got " ++ shownText value

/-- The changes that a simple selector makes, unless it is not supported or fails. A selector is
checked before anything is written for it, so a plan that refuses it has no changes. -/
inductive Plan where
  /-- These changes, in this order. -/
  | changes (changes : List Change)
  /-- Nothing stands for the selector in a filter. -/
  | unsupported
  /-- The meaning of the selector cannot be expressed. -/
  | failed (failure : Failure)

/-- One change to the field of a kind of selector, if it has a field. -/
def Plan.onField (field : Option String) (change : String → Change) : Plan :=
  match field with
  | some name => changes [change name]
  | none => unsupported

/-- The segments of a stored path: the texts between its separators that are not empty. -/
def storedSegments (path : String) : List String :=
  (wordsBy (· == Path.separator) path.toList).map String.ofList

/-- The term that no document satisfies. -/
def impossible : Json := .object [("$exists", .bool false), (inCommand, .array [])]

/-- The term for segments: a plain path, or an expression if there are wildcards. -/
def segmentsTerm (segments : List String) : Json :=
  if segments.contains Path.wildcard then
    .object [("$regex", .string (String.ofList (pathPattern (segments.map String.toList))))]
  else .string ("/" ++ "/".intercalate segments)

/-- The term for a path; one whose root has no stored path can match nothing. -/
def pathTerm (resolve : Resolver) (path : Path) : Json :=
  match path.root with
  | none => segmentsTerm path.segments
  | some root =>
    match resolve root with
    | none => impossible
    | some stored => segmentsTerm (storedSegments stored ++ path.segments)

/-- The text of a condition that an expression can be made of. -/
def conditionText (operator : Operator) (condition : Value) : Except Failure (List Char) :=
  match condition with
  | .text value => .ok value.toList
  | .bool _ | .int _ | .float _ => .ok condition.chars
  | .null | .list _ => .error (.invalidCondition operator condition)

/-- The change that puts an expression on a field. -/
def regexChange (field : String) (pattern : List Char) : Change :=
  .setCommand field "$regex" (.string (String.ofList pattern))

/-- The changes for a hand-written expression, whose leading flags are set apart. -/
def expressionChanges (field : String) (pattern : List Char) : List Change :=
  match splitFlags? pattern with
  | some (flags, rest) =>
    [regexChange field rest, .setCommand field "$options" (.string (String.ofList flags))]
  | none => [regexChange field pattern]

/-- The values that a membership test allows: the items of a list, the words of a text, or a
single value. -/
def allowedValues : Value → List Json
  | .list items => items.map Value.toJson
  | .text value => (words value.toList).map (Json.string ∘ String.ofList)
  | scalar => [scalar.toJson]

/-- The changes for an expression made of a condition's text. -/
def Plan.ofText (operator : Operator) (condition : Value) (plan : List Char → List Change) :
    Plan :=
  match conditionText operator condition with
  | .ok text => changes (plan text)
  | .error failure => failed failure

/-- The plan for a comparison. -/
def comparisonPlan (field : String) (operator : Operator) (condition : Value) : Plan :=
  let command (name : String) : Plan :=
    .changes [.setCommand field name condition.toJson]
  match operator with
  | .equals => .changes [.setTerm field condition.toJson]
  | .notEquals => command "$ne"
  | .greater => command "$gt"
  | .greaterOrEqual => command "$gte"
  | .less => command "$lt"
  | .lessOrEqual => command "$lte"
  | .inList => .changes [.setCommand field inCommand (.array (allowedValues condition))]
  | .contains =>
    .ofText operator condition fun text =>
      [regexChange field (['.', '*'] ++ literalPattern text ++ ['.', '*'])]
  | .startsWith =>
    .ofText operator condition fun text => [regexChange field ('^' :: literalPattern text)]
  | .endsWith =>
    .ofText operator condition fun text => [regexChange field (literalPattern text ++ ['$'])]
  | .regExp => .ofText operator condition (expressionChanges field)

/-- The plan for an attribute selector. -/
def attributePlan (test : Attribute) : Plan :=
  match test.operator with
  | none => .changes [.setCommand test.name "$exists" (.bool true)]
  | some operator => comparisonPlan test.name operator test.condition

/-- The number that a text stands for: digits after an optional plus sign, Unicode spaces
around them, of 64 bits. -/
def countOf? (text : List Char) : Option Nat :=
  let trimmed := trimSpaces text
  let digits :=
    match trimmed with
    | '+' :: rest => rest
    | _ => trimmed
  if digits.isEmpty || !digits.all Char.isDigit then none
  else
    let value := Number.naturalOfDigits digits
    if value < UInt64.size then some value else none

/-- The names of the pseudo selectors that skip documents. -/
def skipNames : List String := ["skip", "offset", "startingFrom"]

/-- The entry of the document that a pseudo selector with a count writes. -/
def countEntry? (name : String) : Option String :=
  if name = "limit" then some "limit" else if name ∈ skipNames then some "skip" else none

/-- The plan for a pseudo selector. -/
def pseudoPlan : Pseudo → Plan
  | .sort name order =>
    .changes [.setSort name (.int (match order with | .ascending => 1 | .descending => -1))]
  | .named name value =>
    match countEntry? name with
    | none => .unsupported
    | some entry =>
      match value.bind fun text => countOf? text.toList with
      | some count => .changes [.setEntry entry (.int count)]
      | none => .failed (.invalidCount name value)

/-- The plan for a simple selector. -/
def planOf (config : Config) (resolve : Resolver) : Simple → Plan
  | .universal => .changes []
  | .element name => .onField config.elementField (.setTerm · (.string name))
  | .id value => .changes [.setTerm config.idField (.string value)]
  | .role value => .onField config.roleField (.allow · (.string value))
  | .className value => .onField config.classField (.allow · (.string value))
  | .path path => .onField config.pathField (.setTerm · (pathTerm resolve path))
  | .attributeTest test => attributePlan test
  | .pseudo pseudo => pseudoPlan pseudo

/-- Performs a plan on a document; one that is unsupported or failed leaves it as it is. -/
def Plan.perform (plan : Plan) (document : Json) : Json × Response Failure :=
  match plan with
  | changes list => (performAll list document, .handled)
  | unsupported => (document, .unhandled)
  | failed failure => (document, .failed failure)

/-- A plan that is not handled leaves the document as it is. -/
theorem Plan.perform_fst_of_not_handled {plan : Plan} {document : Json}
    (ignored : (plan.perform document).2 ≠ .handled) :
    (plan.perform document).1 = document := by
  cases plan with
  | changes list => exact absurd rfl ignored
  | unsupported => rfl
  | failed failure => rfl

end NodeQuery.Filter
