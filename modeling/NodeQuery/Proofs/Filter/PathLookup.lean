import Mathlib.Data.Finset.Card
import NodeQuery.Filter.PathTable
import NodeQuery.Proofs.Selector.Distinction

/-!
# Path tables as maps of roots

A path table looks roots up by their canonical texts. Escaping keeps these apart, whatever
characters the values of the roots hold, so that the table is a map on the roots themselves: after
any calls it has the path that each root was given last, and as many entries as there are roots.

Main statements: `text_toSimple_injective`, `resolve_storing` and `performAll_map_roots`.
-/

namespace NodeQuery

/-- Roots are told by the texts that tables hold their paths under. -/
theorem Root.text_toSimple_injective :
    Function.Injective fun root : Root => root.toSimple.text := by
  intro root other same
  have written : ∀ either : Root, either.toSimple.chars = either.chars := by
    intro either
    cases either <;> rfl
  have chars := String.ofList_injective same
  rw [written, written] at chars
  exact Path.rootChars_injective chars

namespace Filter.PathTable

/-! ## One call -/

/-- The texts that paths are stored under. -/
def keys (table : PathTable) : List String := table.entries.map Prod.fst

/-- Writing an entry adds its text to those of the others, unless it is among them. -/
theorem perm_keys_put (key path : String) (entries : List (String × String)) :
    ((put key path entries).map Prod.fst).Perm ((entries.map Prod.fst).insert key) := by
  induction entries with
  | nil => exact .refl [key]
  | cons entry rest hypothesis =>
    obtain ⟨other, old⟩ := entry
    by_cases same : key = other
    · subst same
      simp [put]
    · have later : put key path ((other, old) :: rest) = (other, old) :: put key path rest := by
        simp [put, same]
      rw [later, List.map_cons, List.map_cons]
      refine (hypothesis.cons other).trans ?_
      by_cases present : key ∈ rest.map Prod.fst
      · rw [List.insert_of_mem present, List.insert_of_mem (List.mem_cons_of_mem _ present)]
      · have absent : key ∉ other :: rest.map Prod.fst :=
          List.not_mem_cons_of_ne_of_not_mem same present
        rw [List.insert_of_not_mem present, List.insert_of_not_mem absent]
        exact .swap key other _

/-- Storing the path of a root gives it this path and changes that of no other root. -/
theorem resolve_storing (table : PathTable) (root other : Root) (path : String) :
    (table.storing root.toSimple path).resolve other.toSimple =
      if root = other then some path else table.resolve other.toSimple := by
  by_cases same : root = other
  · rw [if_pos same, ← same]
    exact lookup_put_self _ _ _
  · have distinct : other.toSimple.text ≠ root.toSimple.text := fun equal =>
      same (Root.text_toSimple_injective equal).symm
    rw [if_neg same]
    exact lookup_put_of_ne distinct _ _

/-! ## Runs of calls -/

/-- A call that stores the path of a root. -/
inductive Call where
  /-- Stores it and gives back the path that it replaces. -/
  | insert (root : Root) (path : String)
  /-- Stores it and gives back the table. -/
  | storing (root : Root) (path : String)

/-- The root of a call. -/
def Call.root : Call → Root
  | insert root _ | storing root _ => root

/-- The path of a call. -/
def Call.path : Call → String
  | insert _ path | storing _ path => path

/-- The table after a call. -/
def perform (table : PathTable) : Call → PathTable
  | .insert root path => (table.insert root.toSimple path).2
  | .storing root path => table.storing root.toSimple path

/-- The table after some calls. -/
def performAll (table : PathTable) (calls : List Call) : PathTable := calls.foldl perform table

/-- The path of the last of some calls with a root. -/
def lastPath? (calls : List Call) (root : Root) : Option String :=
  (calls.reverse.find? (·.root = root)).map Call.path

/-- Both calls store alike. -/
theorem perform_eq_storing (table : PathTable) (call : Call) :
    table.perform call = table.storing call.root.toSimple call.path := by
  cases call <;> rfl

/-- The last call counts before all others. -/
theorem lastPath?_concat (calls : List Call) (call : Call) (root : Root) :
    lastPath? (calls ++ [call]) root =
      if call.root = root then some call.path else lastPath? calls root := by
  by_cases same : call.root = root <;> simp [lastPath?, same]

/-- A table maps the roots of some calls to the paths that these were given last. -/
structure MapsRoots (table : PathTable) (calls : List Call) : Prop where
  /-- Each root has the path of its last call. -/
  resolve : ∀ root : Root, table.resolve root.toSimple = lastPath? calls root
  /-- There is at most one entry under a text. -/
  nodup : table.keys.Nodup
  /-- The entries stand under the texts of the roots. -/
  mem_keys : ∀ key, key ∈ table.keys ↔ key ∈ calls.map (·.root.toSimple.text)

variable {table : PathTable} {calls : List Call}

/-- The empty table maps the roots of no calls. -/
theorem mapsRoots_empty : empty.MapsRoots [] := by
  constructor
  case resolve => exact fun root => rfl
  case nodup => exact List.nodup_nil
  case mem_keys => exact fun key => Iff.rfl

/-- A table that maps the roots of some calls maps that of one more after it. -/
theorem MapsRoots.perform (maps : table.MapsRoots calls) (call : Call) :
    (table.perform call).MapsRoots (calls ++ [call]) := by
  have written : (table.perform call).keys.Perm (table.keys.insert call.root.toSimple.text) := by
    rw [perform_eq_storing]
    exact perm_keys_put _ _ _
  constructor
  case resolve =>
    intro root
    rw [perform_eq_storing, resolve_storing, lastPath?_concat, maps.resolve]
  case nodup => exact written.nodup_iff.2 maps.nodup.insert
  case mem_keys =>
    intro key
    rw [written.mem_iff, List.mem_insert_iff, maps.mem_keys, List.map_append, List.mem_append,
      or_comm, List.map_singleton, List.mem_singleton]

/-- After some calls a table maps their roots. -/
theorem mapsRoots_performAll (calls : List Call) : (empty.performAll calls).MapsRoots calls := by
  induction calls using List.reverseRecOn with
  | nil => exact mapsRoots_empty
  | append_singleton front last hypothesis =>
    rw [performAll, List.foldl_concat]
    exact hypothesis.perform last

/-- A table has as many entries as there are roots that it maps. -/
theorem MapsRoots.length_eq (maps : table.MapsRoots calls) :
    table.length = (calls.map Call.root).toFinset.card := by
  have texts : table.keys.toFinset =
      (calls.map Call.root).toFinset.image (·.toSimple.text) := by
    ext key
    rw [List.mem_toFinset, maps.mem_keys]
    simp
  have count : table.length = table.keys.length := (List.length_map _).symm
  rw [count, ← List.toFinset_card_of_nodup maps.nodup, texts,
    Finset.card_image_of_injective _ Root.text_toSimple_injective]

/-- After any calls, a root is found under the path of its last call, or not at all if there was
none; the next call that stores the path of a root gives back the one that it replaces; and there is
an entry for each root, since no two of them share one. -/
theorem performAll_map_roots (calls : List Call) :
    let table := empty.performAll calls
    (∀ root : Root, table.resolve root.toSimple = lastPath? calls root) ∧
      (∀ root path, (table.insert root.toSimple path).1 = lastPath? calls root) ∧
      table.length = (calls.map Call.root).toFinset.card ∧
      ∀ root other : Root, root.toSimple.text = other.toSimple.text → root = other := by
  intro table
  have maps : table.MapsRoots calls := mapsRoots_performAll calls
  exact ⟨maps.resolve, fun root _ => maps.resolve root, maps.length_eq,
    fun _ _ same => Root.text_toSimple_injective same⟩

end Filter.PathTable

end NodeQuery
