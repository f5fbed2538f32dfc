import NodeQuery.Json.Basic
import NodeQuery.Selector.Basic

/-!
# Selectors as JSON values

The JSON form of a selector shows its structure: a list of sequences, each with the
combinator towards the next one, and for each simple selector its kind and value. Fields
stand in a fixed order, and what is absent is written as the absent value, except that the
last sequence has no combinator field and the universal selector no value field.

Whole numbers and floating point numbers stay different in this form.
-/

namespace NodeQuery

/-- A text as a JSON value, or the absent value. -/
def Json.ofText? (value : Option String) : Json := (value.map Json.string).getD .null

mutual

/-- The JSON form of a value. -/
def Value.toJson : Value → Json
  | .null => .null
  | .bool value => .bool value
  | .int value => .int value.toInt
  | .float value => if value.isFinite then .float value else .null
  | .text value => .string value
  | .list items => .array (Value.toJsonItems items)

/-- The JSON forms of some values. -/
def Value.toJsonItems : List Value → List Json
  | [] => []
  | item :: rest => item.toJson :: Value.toJsonItems rest

end

/-- The JSON form of an attribute selector's value. -/
def Attribute.toJson (test : Attribute) : Json :=
  .object
    [("name", .string test.name),
      ("operator", Json.ofText? (test.operator.map (String.ofList ·.symbol))),
      ("condition", test.condition.toJson)]

/-- The JSON form of a pseudo selector's value. -/
def Pseudo.toJson : Pseudo → Json
  | .named name value =>
    .object [("type", .string "class"), ("name", .string name), ("value", Json.ofText? value)]
  | .sort attributeName order =>
    .object
      [("type", .string "sort"), ("attribute", .string attributeName),
        ("order", .string order.name)]

/-- The JSON form of a selector with a plain value. -/
def Json.ofKind (kind : Kind) (value : Json) : Json :=
  .object [("kind", .string kind.name), ("value", value)]

/-- The JSON form of a path's root. -/
def Root.toJson (root : Root) : Json := Json.ofKind root.kind (.string root.value)

/-- The JSON form of a path selector's value: its root, if any, and its segments. -/
def Path.toJson (path : Path) : Json :=
  .array ((path.root.map Root.toJson).toList ++ path.segments.map Json.string)

/-- The JSON form of a simple selector. -/
def Simple.toJson (simple : Simple) : Json :=
  match simple with
  | .universal => .object [("kind", .string simple.kind.name)]
  | .element value | .id value | .role value | .className value =>
    Json.ofKind simple.kind (.string value)
  | .path value => Json.ofKind simple.kind value.toJson
  | .attributeTest value => Json.ofKind simple.kind value.toJson
  | .pseudo value => Json.ofKind simple.kind value.toJson

/-- The JSON form of a sequence. -/
def Sequence.toJson (sequence : Sequence) : Json := .array (sequence.items.map Simple.toJson)

/-- The JSON form of a sequence in its chain. -/
def Node.toJson (node : Node) : Json :=
  .object
    (("sequence", node.sequence.toJson) ::
      (node.combinator.map fun combinator =>
        ("combinator", Json.string combinator.name)).toList)

/-- The JSON form of a selector. -/
def Selector.toJson (selector : Selector) : Json := .array (selector.nodes.map Node.toJson)

end NodeQuery
