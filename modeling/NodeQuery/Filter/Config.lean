import NodeQuery.Json.Reader

/-!
# Field names of filters

A filter puts its terms on fields of the stored documents. The names of these fields can be
chosen; a kind of selector without a field is not supported. A choice is read from JSON
text: an object that names some of the fields, or an array of their names in a fixed order.
What is left out keeps its usual name.
-/

namespace NodeQuery.Filter

open NodeQuery

/-- The fields that the kinds of selector are matched with. -/
structure Config where
  /-- The field of an identifier. -/
  idField : String
  /-- The field that lists roles. -/
  roleField : Option String
  /-- The field that lists classes. -/
  classField : Option String
  /-- The field of a document's path. -/
  pathField : Option String
  /-- The field of an element's name. -/
  elementField : Option String
deriving DecidableEq, Repr

namespace Config

/-- The usual names; elements have no field. -/
def usual : Config := ⟨"_id", some "roles", some "classes", some "path", none⟩

/-- The names of the settings in their order. -/
def settingNames : List String :=
  ["id_field", "role_field", "class_field", "path_field", "element_field"]

/-- A field name or none. -/
def fieldOf? : Json → Option (Option String)
  | .string name => some (some name)
  | .null => some none
  | _ => none

/-- Changes one setting; only the identifier needs a field. -/
def set? (config : Config) (name : String) (value : Json) : Option Config := do
  let field ← fieldOf? value
  if name = "id_field" then field.map ({ config with idField := · })
  else if name = "role_field" then some { config with roleField := field }
  else if name = "class_field" then some { config with classField := field }
  else if name = "path_field" then some { config with pathField := field }
  else if name = "element_field" then some { config with elementField := field }
  else none

/-- Changes several settings, none of them twice. -/
def setAll? (config : Config) : List (String × Json) → Option Config
  | [] => some config
  | (name, value) :: rest =>
    if (Json.lookup name rest).isSome then none
    else (config.set? name value).bind (setAll? · rest)

/-- The settings that a JSON value holds. -/
def ofJson? : Json → Option Config
  | .object fields => usual.setAll? fields
  | .array values =>
    if settingNames.length < values.length then none
    else usual.setAll? (settingNames.zip values)
  | _ => none

/-- Reads settings from JSON text. -/
def read? (text : String) : Option Config := (Json.read? text).bind ofJson?

/-- The JSON form of settings. -/
def toJson (config : Config) : Json :=
  let optional (field : Option String) : Json := (field.map Json.string).getD .null
  .object
    [("id_field", .string config.idField), ("role_field", optional config.roleField),
      ("class_field", optional config.classField), ("path_field", optional config.pathField),
      ("element_field", optional config.elementField)]

end Config

end NodeQuery.Filter
