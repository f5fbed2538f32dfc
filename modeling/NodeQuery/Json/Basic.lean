import NodeQuery.Number.Binary64

/-!
# JSON values

Numbers keep whether they were whole: an integer and a floating point number are different
values. The fields of an object are a list; a document keeps it ascending by name with each
name once, and `Json.insert` preserves that order.

Main statements: a field that was set is found, and setting one field changes no other.
-/

namespace NodeQuery

/-- A JSON value. -/
inductive Json where
  /-- The absent value. -/
  | null
  /-- A truth value. -/
  | bool (value : Bool)
  /-- A number without fraction and exponent. -/
  | int (value : Int)
  /-- Any other number. -/
  | float (value : Number.Binary64)
  /-- A text. -/
  | string (value : String)
  /-- A list of values. -/
  | array (items : List Json)
  /-- Named values. -/
  | object (fields : List (String × Json))
deriving Repr, Inhabited

namespace Json

mutual

/-- Whether two values are the same. -/
def same : Json → Json → Bool
  | null, null => true
  | bool left, bool right => left == right
  | int left, int right => left == right
  | float left, float right => left == right
  | string left, string right => left == right
  | array left, array right => sameItems left right
  | object left, object right => sameFields left right
  | _, _ => false

/-- Whether two lists hold the same values. -/
def sameItems : List Json → List Json → Bool
  | [], [] => true
  | left :: leftRest, right :: rightRest => same left right && sameItems leftRest rightRest
  | _, _ => false

/-- Whether two lists hold the same fields. -/
def sameFields : List (String × Json) → List (String × Json) → Bool
  | [], [] => true
  | (leftName, left) :: leftRest, (rightName, right) :: rightRest =>
    leftName == rightName && same left right && sameFields leftRest rightRest
  | _, _ => false

end

mutual

/-- The comparison of values decides their equality. -/
theorem same_iff : (left right : Json) → (same left right = true ↔ left = right)
  | null, right => by cases right <;> simp [same]
  | bool _, right => by cases right <;> simp [same]
  | int _, right => by cases right <;> simp [same]
  | float _, right => by cases right <;> simp [same]
  | string _, right => by cases right <;> simp [same]
  | array items, right => by cases right <;> simp [same, sameItems_iff items]
  | object fields, right => by cases right <;> simp [same, sameFields_iff fields]

/-- The comparison of lists of values decides their equality. -/
theorem sameItems_iff : (left right : List Json) → (sameItems left right = true ↔ left = right)
  | [], right => by cases right <;> simp [sameItems]
  | first :: rest, right => by
    cases right with
    | nil => simp [sameItems]
    | cons other others => simp [sameItems, same_iff first other, sameItems_iff rest others]

/-- The comparison of lists of fields decides their equality. -/
theorem sameFields_iff :
    (left right : List (String × Json)) → (sameFields left right = true ↔ left = right)
  | [], right => by cases right <;> simp [sameFields]
  | (name, first) :: rest, right => by
    cases right with
    | nil => simp [sameFields]
    | cons other others =>
      obtain ⟨otherName, other⟩ := other
      simp [sameFields, same_iff first other, sameFields_iff rest others]

end

/-- Values can be told apart. -/
instance : DecidableEq Json := fun left right => decidable_of_iff _ (same_iff left right)

/-- Looks up a name in a list of fields. -/
def lookup (name : String) : List (String × Json) → Option Json
  | [] => none
  | (key, value) :: rest => if key = name then some value else lookup name rest

/-- Writes a field into an ascending list: in the place of the field of that name, or where
the name belongs. -/
def insert (name : String) (value : Json) : List (String × Json) → List (String × Json)
  | [] => [(name, value)]
  | (key, old) :: rest =>
    if key = name then (name, value) :: rest
    else if name < key then (name, value) :: (key, old) :: rest
    else (key, old) :: insert name value rest

/-- A field that was written is found. -/
theorem lookup_insert_self (name : String) (value : Json) (fields : List (String × Json)) :
    lookup name (insert name value fields) = some value := by
  induction fields with
  | nil => simp [insert, lookup]
  | cons field rest hypothesis =>
    obtain ⟨key, old⟩ := field
    by_cases same : key = name
    · simp [insert, lookup, same]
    · by_cases before : name < key <;> simp [insert, lookup, same, before, hypothesis]

/-- Writing a field changes no other. -/
theorem lookup_insert_of_ne {name other : String} (distinct : other ≠ name) (value : Json)
    (fields : List (String × Json)) :
    lookup other (insert name value fields) = lookup other fields := by
  have swapped : name ≠ other := fun same => distinct same.symm
  induction fields with
  | nil => simp [insert, lookup, swapped]
  | cons field rest hypothesis =>
    obtain ⟨key, old⟩ := field
    by_cases same : key = name
    · subst same
      simp [insert, lookup, swapped]
    · by_cases before : name < key <;>
        simp [insert, lookup, same, before, swapped, hypothesis]

/-- The field of a name, for an object that has one. -/
def field? (document : Json) (name : String) : Option Json :=
  match document with
  | .object fields => lookup name fields
  | _ => none

/-- Whether this is an object. -/
def isObject : Json → Bool
  | .object _ => true
  | _ => false

/-- Whether this is an array. -/
def isArray : Json → Bool
  | .array _ => true
  | _ => false

/-- Whether this is the absent value. -/
def isNull : Json → Bool
  | .null => true
  | _ => false

/-- The fields of an object; any other value has none. -/
def fields : Json → List (String × Json)
  | .object fields => fields
  | _ => []

mutual

/-- The same value with the fields of every object ascending by name, the last of several
fields of one name being kept. -/
def sorted : Json → Json
  | .array items => .array (sortedItems items)
  | .object fields => .object (sortedFields fields [])
  | value => value

/-- Sorts within each item of an array. -/
def sortedItems : List Json → List Json
  | [] => []
  | item :: rest => sorted item :: sortedItems rest

/-- Sorts fields into those that were sorted before. -/
def sortedFields : List (String × Json) → List (String × Json) → List (String × Json)
  | [], done => done
  | (name, value) :: rest, done => sortedFields rest (insert name (sorted value) done)

end

end Json

end NodeQuery
