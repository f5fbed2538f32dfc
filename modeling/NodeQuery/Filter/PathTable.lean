import NodeQuery.Selector.Simple

/-!
# Stored paths of roots

A path may start at the stored path of a node. A resolver finds that path for a root, or
nothing. A path table is a resolver that looks the root up by its canonical text; a later
entry for a root takes the place of an earlier one.

Main statements: an entry that was written is found, and writing one changes no other.
-/

namespace NodeQuery.Filter

/-- Finds the stored path of a root. -/
def Resolver : Type := Root → Option String

/-- The stored paths of some roots. -/
structure PathTable where
  /-- The paths with the canonical texts of their roots. -/
  entries : List (String × String)
deriving DecidableEq, Repr

namespace PathTable

/-- The table without entries. -/
def empty : PathTable := ⟨[]⟩

/-- The number of roots with a path. -/
def length (table : PathTable) : Nat := table.entries.length

/-- Whether no root has a path. -/
def isEmpty (table : PathTable) : Bool := table.entries.isEmpty

/-- The path stored under a text. -/
def pathOf? (table : PathTable) (key : String) : Option String := table.entries.lookup key

/-- The stored path of a selector. -/
def resolve (table : PathTable) (root : Simple) : Option String := table.pathOf? root.text

/-- Writes an entry in the place of the one under the same text, or at the end. -/
def put (key path : String) : List (String × String) → List (String × String)
  | [] => [(key, path)]
  | (other, old) :: rest =>
    if key == other then (key, path) :: rest else (other, old) :: put key path rest

/-- Stores the path of a selector; the path that it replaces is returned. -/
def insert (table : PathTable) (root : Simple) (path : String) : Option String × PathTable :=
  (table.resolve root, ⟨put root.text path table.entries⟩)

/-- The table in which the path of a selector is stored as well. -/
def storing (table : PathTable) (root : Simple) (path : String) : PathTable :=
  (table.insert root path).2

/-- The resolver that looks roots up in a table. -/
def resolver (table : PathTable) : Resolver := fun root => table.resolve root.toSimple

/-- An entry that was written is found. -/
theorem lookup_put_self (key path : String) (entries : List (String × String)) :
    (put key path entries).lookup key = some path := by
  induction entries with
  | nil => simp [put]
  | cons entry rest hypothesis =>
    obtain ⟨other, old⟩ := entry
    by_cases same : key == other
    · simp [put, same]
    · simp [put, same, List.lookup_cons, hypothesis]

/-- Writing an entry changes no other. -/
theorem lookup_put_of_ne {key other : String} (distinct : other ≠ key) (path : String)
    (entries : List (String × String)) :
    (put key path entries).lookup other = entries.lookup other := by
  induction entries with
  | nil => simp [put, List.lookup_cons, beq_false_of_ne distinct]
  | cons entry rest hypothesis =>
    obtain ⟨name, old⟩ := entry
    by_cases same : key == name
    · have equal : key = name := eq_of_beq same
      subst equal
      simp [put, List.lookup_cons, beq_false_of_ne distinct]
    · simp [put, same, List.lookup_cons, hypothesis]

end PathTable

end NodeQuery.Filter
