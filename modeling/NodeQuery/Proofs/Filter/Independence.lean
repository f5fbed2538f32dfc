import NodeQuery.Proofs.Filter.Equality
import NodeQuery.Proofs.Filter.Repetition

/-!
# Independent selectors

A simple selector writes to one slot of a filter document at most: the term of a field, a direction
of the sort, or one of the two counts. Each of its changes renews the value at one place of nested
objects and depends on nothing but the value that was there. Objects on the way to the place are
made where there are none, and this is all that changes for different slots share: it does not
matter which of them makes an object. So simple selectors with different slots may be applied in
any order.

Main statement: `Listener.compile_swap_iff`.
-/

namespace NodeQuery

namespace Json

/-- The value at a place of nested objects renewed, together with the objects around it. -/
def renewAt : List String → (Option Json → Json) → Option Json → Json
  | [], renew, old => renew old
  | name :: rest, renew, old =>
    .object (insert name (renewAt rest renew (lookup name (old.getD .null).fields))
      (old.getD .null).fields)

/-- Values at two places, neither of which is inside the other, can be renewed in any order. -/
theorem renewAt_comm {place other : List String} (outside : ¬place <+: other)
    (beyond : ¬other <+: place) (renew again : Option Json → Json) (old : Option Json) :
    renewAt place renew (some (renewAt other again old)) =
      renewAt other again (some (renewAt place renew old)) := by
  induction place generalizing other old with
  | nil => exact absurd (List.nil_prefix ..) outside
  | cons name rest hypothesis =>
    cases other with
    | nil => exact absurd (List.nil_prefix ..) beyond
    | cons second others =>
      have shown : ∀ entries, (object entries).fields = entries := fun _ => rfl
      by_cases same : name = second
      · -- the two values are in one object, which both writes renew
        subst same
        have inner := hypothesis (fun inside => outside (List.cons_prefix_cons.2 ⟨rfl, inside⟩))
          (fun inside => beyond (List.cons_prefix_cons.2 ⟨rfl, inside⟩))
          (lookup name (old.getD .null).fields)
        simp only [renewAt, Option.getD_some, shown, lookup_insert_self, insert_insert, inner]
      · have distinct : second ≠ name := fun equal => same equal.symm
        simp only [renewAt, Option.getD_some, shown, lookup_insert_of_ne same,
          lookup_insert_of_ne distinct, insert_comm same]

end Json

namespace Filter

open NodeQuery

/-! ## Places of changes -/

namespace Change

/-- The place that a change writes to. -/
def place : Change → List String
  | setTerm field _ => [queryEntry, field]
  | setCommand field _ _ => [queryEntry, field]
  | allow field _ => [queryEntry, field]
  | setSort name _ => [sortEntry, name]
  | setEntry name _ => [name]

/-- What a change makes of the value at its place. -/
def renew : Change → Option Json → Json
  | setTerm _ value, _ => value
  | setCommand _ command value, old => .object (Json.insert command value (commandsOf old))
  | allow _ value, old =>
    .object (Json.insert inCommand (extendAllowed value (Json.lookup inCommand (commandsOf old)))
      (commandsOf old))
  | setSort _ direction, _ => direction
  | setEntry _ value, _ => value

/-- A change renews the value at its place and nothing else. -/
theorem perform_eq_renewAt (change : Change) (document : Json) :
    change.perform document = Json.renewAt change.place change.renew (some document) := by
  have inside : ∀ name, entryFields name document =
      ((Json.lookup name document.fields).getD .null).fields := by
    intro name
    rw [entryFields, Json.field?_eq_lookup]
  cases change with
  | setTerm field value => rw [perform, setTerms, setEntryFields, terms, inside]; rfl
  | setCommand field command value =>
    rw [perform, writeCommand, setTerms, setEntryFields, commands, terms, inside]; rfl
  | allow field value =>
    rw [perform, writeCommand, setTerms, setEntryFields, commands, terms, inside]; rfl
  | setSort name direction => rw [perform, setEntryFields, inside]; rfl
  | setEntry name value => rfl

/-- Changes at places outside of each other can be performed in any order. -/
theorem perform_comm {first second : Change} (outside : ¬first.place <+: second.place)
    (beyond : ¬second.place <+: first.place) (document : Json) :
    first.perform (second.perform document) = second.perform (first.perform document) := by
  rw [perform_eq_renewAt, perform_eq_renewAt second, perform_eq_renewAt second,
    perform_eq_renewAt first]
  exact Json.renewAt_comm outside beyond _ _ _

end Change

/-- A change can be performed before or after others that can be swapped with it. -/
theorem perform_performAll_comm {change : Change} {others : List Change}
    (swaps : ∀ other ∈ others, ∀ document,
      change.perform (other.perform document) = other.perform (change.perform document))
    (document : Json) :
    change.perform (performAll others document) = performAll others (change.perform document) := by
  induction others generalizing document with
  | nil => rfl
  | cons other rest hypothesis =>
    obtain ⟨swap, later⟩ := List.forall_mem_cons.1 swaps
    calc change.perform (performAll (other :: rest) document)
        = change.perform (performAll rest (other.perform document)) := rfl
      _ = performAll rest (change.perform (other.perform document)) := hypothesis later _
      _ = performAll rest (other.perform (change.perform document)) := by rw [swap]
      _ = performAll (other :: rest) (change.perform document) := rfl

/-- Changes that can be swapped one by one can be swapped as a whole. -/
theorem performAll_comm {changes others : List Change}
    (swaps : ∀ change ∈ changes, ∀ other ∈ others, ∀ document,
      change.perform (other.perform document) = other.perform (change.perform document))
    (document : Json) :
    performAll changes (performAll others document) =
      performAll others (performAll changes document) := by
  induction changes generalizing document with
  | nil => rfl
  | cons change rest hypothesis =>
    obtain ⟨swap, later⟩ := List.forall_mem_cons.1 swaps
    calc performAll (change :: rest) (performAll others document)
        = performAll rest (change.perform (performAll others document)) := rfl
      _ = performAll rest (performAll others (change.perform document)) := by
          rw [perform_performAll_comm swap]
      _ = performAll others (performAll rest (change.perform document)) := hypothesis later _
      _ = performAll others (performAll (change :: rest) document) := rfl

/-! ## Slots of simple selectors -/

/-- The slots of a filter document. -/
inductive Slot where
  /-- The term of a field. -/
  | term (field : String)
  /-- The direction of an attribute in the sort. -/
  | direction (name : String)
  /-- The largest number of documents. -/
  | limit
  /-- The number of documents left out. -/
  | skip
deriving DecidableEq

/-- The place of a slot. -/
def Slot.place : Slot → List String
  | term field => [queryEntry, field]
  | direction name => [sortEntry, name]
  | limit => ["limit"]
  | skip => ["skip"]

/-- The slot that a simple selector writes to, if it writes anything. -/
def slotOf? (config : Config) : Simple → Option Slot
  | .universal => none
  | .element _ => config.elementField.map .term
  | .id _ => some (.term config.idField)
  | .role _ => config.roleField.map .term
  | .className _ => config.classField.map .term
  | .path _ => config.pathField.map .term
  | .attributeTest test => some (.term test.name)
  | .pseudo (.sort name _) => some (.direction name)
  | .pseudo (.named name _) =>
    if name = "limit" then some .limit else if name ∈ skipNames then some .skip else none

/-- A slot is not inside another one. -/
theorem Slot.not_prefix {slot other : Slot} (distinct : slot ≠ other) :
    ¬slot.place <+: other.place := by
  cases slot <;> cases other <;> simp_all [place, List.cons_prefix_cons, queryEntry, sortEntry]

/-- A count is written to its slot. -/
theorem slotOf?_of_counted {name entry : String} (counted : countEntry? name = some entry)
    (config : Config) (value : Option String) :
    ∃ slot, slotOf? config (.pseudo (.named name value)) = some slot ∧ slot.place = [entry] := by
  unfold countEntry? at counted
  rw [slotOf?]
  split at counted
  · rename_i limited
    cases counted
    exact ⟨.limit, if_pos limited, rfl⟩
  · rename_i unlimited
    split at counted
    · rename_i skipped
      cases counted
      exact ⟨.skip, by rw [if_neg unlimited, if_pos skipped], rfl⟩
    · cases counted

/-- The changes of an attribute test are made in the term of its field. -/
theorem AttributeChanges.place {test : Attribute} {changes : List Change}
    (made : AttributeChanges test changes) {change : Change} (member : change ∈ changes) :
    change.place = [queryEntry, test.name] := by
  cases made with
  | command operand _ _ =>
    obtain rfl := List.mem_singleton.1 member
    rfl
  | expression pattern flags _ =>
    rcases List.mem_cons.1 member with rfl | later
    · rfl
    · obtain rfl := List.mem_singleton.1 later
      rfl
  | term value _ =>
    obtain rfl := List.mem_singleton.1 member
    rfl
  | nothing _ => cases member

/-- Every change of a simple selector is made in its slot. -/
theorem exists_slot_of_mem_changesOf {config : Config} {resolve : Resolver} {simple : Simple}
    {change : Change} (member : change ∈ changesOf config resolve simple) :
    ∃ slot, slotOf? config simple = some slot ∧ change.place = slot.place := by
  cases simple with
  | universal => cases member
  | id value =>
    obtain rfl := List.mem_singleton.1 member
    exact ⟨_, rfl, rfl⟩
  | element value | role value | className value | path value =>
    obtain ⟨name, fielded, rfl⟩ := exists_name_of_mem_onField rfl member
    exact ⟨.term name, by rw [slotOf?, fielded]; rfl, rfl⟩
  | attributeTest test =>
    exact ⟨.term test.name, rfl, (attributeChanges_changesOf config resolve test).place member⟩
  | pseudo pseudo =>
    cases pseudo with
    | sort name order =>
      obtain rfl := List.mem_singleton.1 member
      exact ⟨.direction name, rfl, rfl⟩
    | named name value =>
      obtain ⟨entry, amount, counted, rfl⟩ := exists_entry_of_mem_changesOf member
      obtain ⟨slot, found, placed⟩ := slotOf?_of_counted counted config value
      exact ⟨slot, found, placed.symm⟩

/-- Simple selectors that write to different slots can be applied in any order. -/
theorem performAll_changesOf_comm (config : Config) (resolve : Resolver) {first second : Simple}
    (apart : ∀ slot, slotOf? config first = some slot → slotOf? config second ≠ some slot)
    (document : Json) :
    performAll (changesOf config resolve first)
        (performAll (changesOf config resolve second) document) =
      performAll (changesOf config resolve second)
        (performAll (changesOf config resolve first) document) := by
  refine performAll_comm (fun change member other others => ?_) document
  obtain ⟨slot, found, place⟩ := exists_slot_of_mem_changesOf member
  obtain ⟨otherSlot, otherFound, otherPlace⟩ := exists_slot_of_mem_changesOf others
  have distinct : slot ≠ otherSlot := by
    rintro rfl
    exact apart _ found otherFound
  refine Change.perform_comm ?_ ?_
  · rw [place, otherPlace]
    exact Slot.not_prefix distinct
  · rw [place, otherPlace]
    exact Slot.not_prefix distinct.symm

end Filter

/-! ## Swapping neighbours -/

/-- An edit of one sequence exchanges its part of the simple selectors that are applied. -/
theorem Selector.exists_applied_modify {selector : Selector} {index : Nat} {sequence : Sequence}
    (placed : selector.sequence? index = some sequence) :
    ∃ before after, ∀ edit : Sequence → Sequence,
      (selector.modify index edit).applied = before ++ ((edit sequence).items ++ after) := by
  obtain ⟨node, found, rfl⟩ := Option.map_eq_some_iff.1 placed
  obtain ⟨inside, rfl⟩ := List.getElem?_eq_some_iff.1 found
  refine ⟨((selector.nodes.drop (index + 1)).map (·.sequence)).reverse.flatMap (·.items),
    ((selector.nodes.take index).map (·.sequence)).reverse.flatMap (·.items), fun edit => ?_⟩
  rw [applied, sequences, modify, List.modify_eq_take_cons_drop inside]
  simp only [List.map_append, List.map_cons, List.reverse_append, List.reverse_cons,
    List.append_assoc, List.flatMap_append, List.singleton_append, List.flatMap_cons]

/-- A sequence that is replaced by itself is left as it is. -/
theorem Selector.modify_id (selector : Selector) (index : Nat) :
    selector.modify index id = selector :=
  congrArg Selector.mk (List.modify_id index selector.nodes)

namespace Filter

open NodeQuery

/-- Two neighbours in a sequence that write to different slots of a filter document can be swapped:
with one listener, from any initial value, a document is built from the one selector if and only if
the same document is built from the other. -/
theorem Listener.compile_swap_iff (listener : Listener) {selector : Selector}
    (reachable : selector.Reachable) {index : Nat} {front back : List Simple}
    {first second : Simple}
    (placed : selector.sequence? index = some ⟨front ++ first :: second :: back⟩)
    (apart : ∀ slot, slotOf? listener.config first = some slot →
      slotOf? listener.config second ≠ some slot)
    (initial document : Json) :
    listener.compile selector initial = .ok document ↔
      listener.compile (selector.modify index fun _ => ⟨front ++ second :: first :: back⟩)
        initial = .ok document := by
  obtain ⟨before, after, exchanged⟩ := Selector.exists_applied_modify placed
  have original := exchanged id
  rw [Selector.modify_id] at original
  have swapped := exchanged fun _ => ⟨front ++ second :: first :: back⟩
  -- a selector that is not handled fails in both orders, as the same ones are applied
  have sameItems : (before ++ ((front ++ first :: second :: back) ++ after)).Perm
      (before ++ ((front ++ second :: first :: back) ++ after)) :=
    ((((List.Perm.swap second first back).append_left front).append_right after).append_left before)
  have sameResult : ∀ start,
      performAll ((before ++ ((front ++ first :: second :: back) ++ after)).flatMap
          (changesOf listener.config listener.resolve)) start =
        performAll ((before ++ ((front ++ second :: first :: back) ++ after)).flatMap
          (changesOf listener.config listener.resolve)) start := by
    intro start
    simp only [List.flatMap_append, List.flatMap_cons, performAll_append,
      performAll_changesOf_comm listener.config listener.resolve apart]
  rw [listener.compile_eq_ok_iff reachable, listener.compile_eq_ok_iff (reachable.modify index _),
    original, swapped]
  simp only [id, sameItems.mem_iff, sameResult]

/-- A class and an attribute of another field give one document in both orders, also where the
initial value is no object. -/
theorem Listener.compile_swap_taggedNews :
    let listener := Listener.new .usual (fun _ => none) 0
    let age : Simple := .attributeTest (.compare "age" .greater (.int 3))
    let limit : Simple := .pseudo (.named "limit" (some "5"))
    let selector : Selector := .ofChain ⟨⟨[.id "x"]⟩, [(.child, ⟨[.className "news", age, limit]⟩)]⟩
    let swapped := selector.modify 1 fun _ => ⟨[age, .className "news", limit]⟩
    let document : Json := .object [("limit", .int 5), ("query", .object [("_id", .string "x"),
      ("age", .object [("$gt", .int 3)]), ("classes", .object [("$in", .array [.string "news"])])])]
    listener.compile selector .null = .ok document ∧
      listener.compile swapped .null = .ok document := by
  intro listener age limit selector swapped document
  have reachable : selector.Reachable := Selector.reachable_ofChain _
  have built : listener.compile selector .null = .ok document := by
    refine (listener.compile_eq_ok_iff reachable .null document).2 ⟨?_, by decide +kernel⟩
    exact List.forall_mem_cons.2 ⟨⟨_, rfl⟩, List.forall_mem_cons.2 ⟨⟨_, rfl⟩,
      List.forall_mem_cons.2 ⟨⟨_, rfl⟩, List.forall_mem_singleton.2 ⟨_, rfl⟩⟩⟩⟩
  have placed : selector.sequence? 1 = some ⟨[] ++ .className "news" :: age :: [limit]⟩ := rfl
  exact ⟨built,
    (listener.compile_swap_iff reachable placed (by decide) .null document).1 built⟩

end Filter

end NodeQuery
