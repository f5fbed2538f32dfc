import NodeQuery.Json.Basic

/-!
# Changes to filter documents

A filter document is an object. Its entry `query` holds the terms, one for each field of the
stored documents: a plain value that the field must equal, or an object of commands such as
`$gte`. Its entries `sort`, `limit` and `skip` order and cut the result.

A change writes one slot of a document. Whatever stands where an object is needed and is
none is replaced by an empty object, with one exception: a plain term becomes the command
`$eq` when a command is written on its field.

Main statement: after any change the document is an object.
-/

namespace NodeQuery.Filter

open NodeQuery

/-- A write to one slot of a filter document. -/
inductive Change where
  /-- Makes a value the whole term of a field. -/
  | setTerm (field : String) (value : Json)
  /-- Writes a command of a field's term. -/
  | setCommand (field command : String) (value : Json)
  /-- Adds an item to the list of values that a field may have. -/
  | allow (field : String) (value : Json)
  /-- Orders the result by an attribute. -/
  | setSort (name : String) (direction : Json)
  /-- Writes an entry of the document itself. -/
  | setEntry (name : String) (value : Json)
deriving DecidableEq, Repr

/-- The name of the entry that holds the terms. -/
def queryEntry : String := "query"

/-- The name of the entry that holds the sort. -/
def sortEntry : String := "sort"

/-- The command that requires a value among others. -/
def inCommand : String := "$in"

/-- The command that requires equality. -/
def equalCommand : String := "$eq"

/-- The fields of an entry that is an object. -/
def entryFields (name : String) (document : Json) : List (String × Json) :=
  ((document.field? name).getD .null).fields

/-- The terms of a document. -/
def terms (document : Json) : List (String × Json) := entryFields queryEntry document

/-- The document with an entry that holds these fields. -/
def setEntryFields (name : String) (entries : List (String × Json)) (document : Json) : Json :=
  .object (Json.insert name (.object entries) document.fields)

/-- The document with these terms. -/
def setTerms (entries : List (String × Json)) (document : Json) : Json :=
  setEntryFields queryEntry entries document

/-- The commands of a term; a plain value is the command to equal it. -/
def commandsOf : Option Json → List (String × Json)
  | some (.object commands) => commands
  | none | some .null => []
  | some value => [(equalCommand, value)]

/-- The commands on a field. -/
def commands (field : String) (document : Json) : List (String × Json) :=
  commandsOf (Json.lookup field (terms document))

/-- The list of allowed values with one more; whatever else stood there is replaced. -/
def extendAllowed (value : Json) : Option Json → Json
  | some (.array items) => .array (items ++ [value])
  | _ => .array [value]

/-- The document with a command on a field. -/
def writeCommand (field command : String) (value : Json) (document : Json) : Json :=
  setTerms
    (Json.insert field (.object (Json.insert command value (commands field document)))
      (terms document))
    document

/-- Performs a change. -/
def Change.perform (change : Change) (document : Json) : Json :=
  match change with
  | setTerm field value => setTerms (Json.insert field value (terms document)) document
  | setCommand field command value => writeCommand field command value document
  | allow field value =>
    writeCommand field inCommand
      (extendAllowed value (Json.lookup inCommand (commands field document))) document
  | setSort name direction =>
    setEntryFields sortEntry (Json.insert name direction (entryFields sortEntry document)) document
  | setEntry name value => .object (Json.insert name value document.fields)

/-- Performs changes one after the other. -/
def performAll (changes : List Change) (document : Json) : Json :=
  changes.foldl (fun changed change => change.perform changed) document

/-- Makes a value a document with an object of terms, keeping what already is one. -/
def prepare (document : Json) : Json := setTerms (terms document) document

/-- After any change the document is an object. -/
theorem Change.isObject_perform (change : Change) (document : Json) :
    (change.perform document).isObject = true := by
  cases change <;> rfl

end NodeQuery.Filter
