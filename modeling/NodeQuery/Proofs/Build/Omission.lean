import NodeQuery.Proofs.Build.History

/-!
# Registries with attachments left out

One registry omits attachments of another one if it holds the other attachments of that one, in the
same order, and gave out identifiers as if the omitted attachments had never been made: each kept
identifier is the number of kept ones below it. What is attached to both registries or removed from
both keeps this relation, and so does an attachment that is made in the longer one alone and omitted.
Once the omitted attachments are removed, both dispatch every event to the same handlers.

Main statements: `Omits.register`, `Omits.register_omitted`, `Omits.detach` and
`Omits.handlersFor_detachEach`.
-/

namespace NodeQuery.Registry

variable {Query Failure : Type}

/-! ## Identifiers -/

/-- The number of identifiers below another one that are not omitted. -/
def keptBelow (omitted : List Nat) (id : Nat) : Nat :=
  (List.range id).countP fun other => decide (other ∉ omitted)

/-- Without omissions every identifier is kept. -/
theorem keptBelow_nil : keptBelow [] = id := by
  funext other
  simp [keptBelow]

/-- An identifier counts for those above it unless it is omitted. -/
theorem keptBelow_succ (omitted : List Nat) (id : Nat) :
    keptBelow omitted (id + 1) = keptBelow omitted id + if id ∈ omitted then 0 else 1 := by
  rw [keptBelow, List.range_succ, List.countP_append, List.countP_singleton, ← keptBelow]
  by_cases member : id ∈ omitted <;> simp [member]

/-- Higher identifiers have no fewer below them. -/
theorem keptBelow_mono (omitted : List Nat) {id other : Nat} (below : id ≤ other) :
    keptBelow omitted id ≤ keptBelow omitted other :=
  (List.range_sublist.2 below).countP_le

/-- Kept identifiers stay distinct. -/
theorem keptBelow_inj {omitted : List Nat} {id other : Nat} (kept : id ∉ omitted)
    (otherKept : other ∉ omitted) (same : keptBelow omitted id = keptBelow omitted other) :
    id = other := by
  have strict : ∀ {low high : Nat}, low ∉ omitted → low < high →
      keptBelow omitted low < keptBelow omitted high := by
    intro low high lowKept below
    have next := keptBelow_succ omitted low
    rw [if_neg lowKept] at next
    have above : keptBelow omitted (low + 1) ≤ keptBelow omitted high := keptBelow_mono omitted below
    omega
  rcases Nat.lt_trichotomy id other with below | equal | above
  · exact absurd same (Nat.ne_of_lt (strict kept below))
  · exact equal
  · exact absurd same.symm (Nat.ne_of_lt (strict otherKept above))

/-- Omissions further up do not change what stands below. -/
theorem keptBelow_append (omitted : List Nat) {later : List Nat} {id : Nat}
    (above : ∀ other ∈ later, id ≤ other) :
    keptBelow (omitted ++ later) id = keptBelow omitted id := by
  refine List.countP_congr fun other below => ?_
  have outside : other ∉ later := fun member =>
    absurd (above other member) (Nat.not_le.2 (List.mem_range.1 below))
  simp [outside]

/-- The attachment under the identifier that it has without the omitted ones. -/
def renumber (omitted : List Nat) (registration : Registration Query Failure) :
    Registration Query Failure :=
  { registration with id := keptBelow omitted registration.id }

/-! ## Places in the list -/

/-- An attachment is put in the same place whether others are left out before or afterwards. -/
theorem filter_insert_of_kept {keep : Registration Query Failure → Bool}
    {added : Registration Query Failure} (kept : keep added = true)
    {registrations : List (Registration Query Failure)}
    (ordered : registrations.Pairwise RunsBefore) :
    (insert added registrations).filter keep = insert added (registrations.filter keep) := by
  induction registrations with
  | nil => rw [insert, List.filter_cons_of_pos kept, List.filter_nil, insert]
  | cons first rest hypothesis =>
    obtain ⟨firstRuns, restOrdered⟩ := List.pairwise_cons.1 ordered
    have later := hypothesis restOrdered
    rw [insert]
    split
    · rename_i reached
      by_cases firstKept : keep first = true
      · rw [List.filter_cons_of_pos firstKept, List.filter_cons_of_pos firstKept, insert,
          if_pos reached, later]
      · rw [List.filter_cons_of_neg firstKept, List.filter_cons_of_neg firstKept, later]
    · rename_i passed
      have lower : ∀ other ∈ (first :: rest).filter keep, other.priority < added.priority := by
        intro other member
        rcases List.mem_cons.1 (List.mem_filter.1 member).1 with rfl | inside
        · exact Int.not_le.1 passed
        · exact Int.lt_of_le_of_lt (firstRuns other inside).priority_le (Int.not_le.1 passed)
      rw [List.filter_cons_of_pos kept, insert_of_lower lower]

/-- An attachment that is left out leaves no trace. -/
theorem filter_insert_of_omitted {keep : Registration Query Failure → Bool}
    {added : Registration Query Failure} (omitted : keep added = false)
    (registrations : List (Registration Query Failure)) :
    (insert added registrations).filter keep = registrations.filter keep := by
  have dropped : ¬ keep added = true := by simp [omitted]
  induction registrations with
  | nil => rw [insert, List.filter_cons_of_neg dropped]
  | cons first rest hypothesis =>
    rw [insert]
    split
    · rw [List.filter_cons, List.filter_cons, hypothesis]
    · rw [List.filter_cons_of_neg dropped]

/-- An attachment is put in the same place whether the others are renumbered before or
afterwards. -/
theorem map_renumber_insert (omitted : List Nat) (added : Registration Query Failure)
    (registrations : List (Registration Query Failure)) :
    (insert added registrations).map (renumber omitted) =
      insert (renumber omitted added) (registrations.map (renumber omitted)) := by
  induction registrations with
  | nil => rfl
  | cons first rest hypothesis =>
    rw [insert, List.map_cons, insert]
    change _ = if added.priority ≤ first.priority then _ else _
    split
    · rw [List.map_cons, hypothesis]
    · rfl

/-! ## Omission -/

/-- Removes attachments one after the other. -/
def detachEach (registry : Registry Query Failure) (ids : List Nat) : Registry Query Failure :=
  ids.foldl (fun shorter id => (shorter.detach id).2) registry

/-- Removing attachments one after the other keeps those of other identifiers. -/
theorem detachEach_eq (registry : Registry Query Failure) (ids : List Nat) :
    registry.detachEach ids =
      ⟨registry.registrations.filter fun registration => decide (registration.id ∉ ids),
        registry.nextId⟩ := by
  induction ids generalizing registry with
  | nil =>
    rw [List.filter_eq_self.2 (by simp)]
    rfl
  | cons id rest hypothesis =>
    have next : registry.detachEach (id :: rest) = (registry.detach id).2.detachEach rest := rfl
    rw [next, hypothesis, detach]
    simp only [List.filter_filter, mk.injEq, and_true]
    refine List.filter_congr fun registration _ => ?_
    by_cases first : registration.id = id <;> simp [first]

/-- The second registry is the first one as if the omitted attachments had never been made. -/
structure Omits (longer shorter : Registry Query Failure) (omitted : List Nat) : Prop where
  /-- The other attachments are there in their order. -/
  registrations : shorter.registrations =
    (longer.registrations.filter fun registration => decide (registration.id ∉ omitted)).map
      (renumber omitted)
  /-- The next identifier counts those that are kept. -/
  nextId : shorter.nextId = keptBelow omitted longer.nextId

/-- A registry omits nothing of itself. -/
theorem omits_nil (registry : Registry Query Failure) : registry.Omits registry [] := by
  have same : ∀ registration : Registration Query Failure,
      renumber [] registration = registration := fun registration => by
    rw [renumber, keptBelow_nil, id]
  refine ⟨?_, (congrFun keptBelow_nil _).symm⟩
  rw [List.filter_eq_self.2 (by simp), List.map_congr_left fun registration _ => same registration,
    List.map_id']

namespace Omits

variable {longer shorter : Registry Query Failure} {omitted : List Nat}

/-- A handler that is attached to both registries is kept in both. -/
theorem register (omits : longer.Omits shorter omitted)
    (ordered : longer.registrations.Pairwise RunsBefore) (kept : longer.nextId ∉ omitted)
    (kind : Option EventKind) (priority : Int) (handler : Handler Query Failure) :
    (longer.register kind priority handler).2.Omits (shorter.register kind priority handler).2
        omitted ∧
      (shorter.register kind priority handler).1 =
        keptBelow omitted (longer.register kind priority handler).1 := by
  refine ⟨⟨?_, ?_⟩, omits.nextId⟩
  · simp only [Registry.register]
    rw [filter_insert_of_kept (by simpa using kept) ordered, map_renumber_insert, omits.registrations,
      omits.nextId]
    rfl
  · simp only [Registry.register]
    rw [keptBelow_succ, if_neg kept, omits.nextId]

/-- A handler that is attached to the longer registry alone can be omitted. -/
theorem register_omitted (omits : longer.Omits shorter omitted)
    (older : ∀ registration ∈ longer.registrations, registration.id < longer.nextId)
    (kind : Option EventKind) (priority : Int) (handler : Handler Query Failure) :
    (longer.register kind priority handler).2.Omits shorter (omitted ++ [longer.nextId]) := by
  constructor
  · simp only [Registry.register]
    rw [filter_insert_of_omitted (by simp), omits.registrations]
    have kept : longer.registrations.filter
          (fun registration => decide (registration.id ∉ omitted ++ [longer.nextId])) =
        longer.registrations.filter fun registration => decide (registration.id ∉ omitted) := by
      refine List.filter_congr fun registration member => ?_
      have other := Nat.ne_of_lt (older registration member)
      simp [other]
    rw [kept]
    refine List.map_congr_left fun registration member => ?_
    have below := older registration (List.mem_filter.1 member).1
    rw [renumber, renumber, keptBelow_append omitted (by simpa using Nat.le_of_lt below)]
  · have same : keptBelow (omitted ++ [longer.nextId]) longer.nextId =
        keptBelow omitted longer.nextId := keptBelow_append omitted (by simp)
    simp only [Registry.register]
    rw [keptBelow_succ, same, if_pos (by simp), omits.nextId, Nat.add_zero]

/-- An attachment that is kept is removed from both registries. -/
theorem detach (omits : longer.Omits shorter omitted) {id : Nat} (kept : id ∉ omitted) :
    (longer.detach id).2.Omits (shorter.detach (keptBelow omitted id)).2 omitted := by
  refine ⟨?_, omits.nextId⟩
  simp only [Registry.detach]
  rw [omits.registrations, List.filter_map, List.filter_filter, List.filter_filter]
  refine congrArg _ (List.filter_congr fun registration _ => ?_)
  by_cases member : registration.id ∈ omitted
  · simp [member]
  · have same : keptBelow omitted registration.id = keptBelow omitted id ↔ registration.id = id :=
      ⟨keptBelow_inj member kept, fun equal => congrArg _ equal⟩
    simp [member, renumber, same, bne, Bool.beq_eq_decide_eq]

/-- Attachments that are kept are removed from both registries. -/
theorem detachEach (omits : longer.Omits shorter omitted) {ids : List Nat}
    (kept : ∀ id ∈ ids, id ∉ omitted) :
    (longer.detachEach ids).Omits (shorter.detachEach (ids.map (keptBelow omitted))) omitted := by
  induction ids generalizing longer shorter with
  | nil => exact omits
  | cons id rest hypothesis =>
    obtain ⟨first, later⟩ := List.forall_mem_cons.1 kept
    exact hypothesis (omits.detach first) later

/-- Once the omitted attachments are removed, both registries dispatch to the same handlers. -/
theorem handlersFor_detachEach (omits : longer.Omits shorter omitted) (kind : EventKind) :
    (longer.detachEach omitted).handlersFor kind = shorter.handlersFor kind := by
  rw [detachEach_eq, handlersFor, handlersFor, omits.registrations, List.filter_map, List.map_map]
  rfl

end Omits

end NodeQuery.Registry
