import NodeQuery.Proofs.Filter.Independence
import NodeQuery.Proofs.Filter.Translation

/-!
# What a build leaves alone

A filter that was built before can be the initial value of another build. The new build writes the
slots of its simple selectors and makes an object of terms; what stands at any other place stays. So
entries of the document that are none of a filter are kept, the counts are kept unless a selector
sets them, and so are the directions of attributes that are not sorted by and the terms of fields
that no selector constrains.

Main statement: `Listener.compile_frame`.
-/

namespace NodeQuery

namespace Json

/-- The value at a place of nested objects. -/
def at? : List String → Json → Option Json
  | [], value => some value
  | name :: rest, value => (value.field? name).bind (at? rest)

/-- Inside the absent value there is nothing. -/
theorem at?_getD_null {place : List String} (inner : place ≠ []) (value : Option Json) :
    at? place (value.getD .null) = value.bind (at? place) := by
  cases value with
  | some value => rfl
  | none =>
    cases place with
    | nil => exact absurd rfl inner
    | cons name rest => rfl

/-- Renewing a value leaves the values at places that are neither inside it nor around it. -/
theorem at?_renewAt {place other : List String} (outside : ¬place <+: other)
    (beyond : ¬other <+: place) (renew : Option Json → Json) (old : Option Json) :
    at? other (renewAt place renew old) = at? other (old.getD .null) := by
  induction place generalizing other old with
  | nil => exact absurd (List.nil_prefix ..) outside
  | cons name rest hypothesis =>
    cases other with
    | nil => exact absurd (List.nil_prefix ..) beyond
    | cons second others =>
      rw [renewAt, at?, at?, field?_eq_lookup (old.getD .null), field?]
      by_cases same : second = name
      · subst same
        -- both places lead on into one object, and neither of them ends there
        have inner : others ≠ [] := by
          rintro rfl
          exact beyond (List.cons_prefix_cons.2 ⟨rfl, List.nil_prefix ..⟩)
        have kept := hypothesis (fun inside => outside (List.cons_prefix_cons.2 ⟨rfl, inside⟩))
          (fun inside => beyond (List.cons_prefix_cons.2 ⟨rfl, inside⟩))
          (lookup second (old.getD .null).fields)
        rw [lookup_insert_self, Option.bind_some, kept, at?_getD_null inner]
      · rw [lookup_insert_of_ne same]

end Json

namespace Filter

open NodeQuery

/-! ## Changes -/

/-- The preparation leaves all values but the object of terms. -/
theorem at?_prepare {place : List String} (other : ¬place <+: [queryEntry]) (document : Json) :
    (prepare document).at? place = document.at? place := by
  cases place with
  | nil => exact absurd (List.nil_prefix ..) other
  | cons name rest =>
    rw [Json.at?, Json.at?, field?_prepare]
    by_cases same : name = queryEntry
    · subst same
      cases rest with
      | nil => exact absurd (List.prefix_refl _) other
      | cons field others =>
        rw [if_pos rfl, Option.bind_some, Json.at?, Json.field?, terms, entryFields,
          ← Json.field?_eq_lookup]
        exact Json.at?_getD_null (List.cons_ne_nil field others) _
    · rw [if_neg same]

/-- Changes leave the values at places that are neither inside nor around theirs. -/
theorem at?_performAll {changes : List Change} {place : List String}
    (apart : ∀ change ∈ changes, ¬change.place <+: place ∧ ¬place <+: change.place)
    (document : Json) :
    (performAll changes document).at? place = document.at? place := by
  induction changes generalizing document with
  | nil => rfl
  | cons change rest hypothesis =>
    obtain ⟨⟨outside, beyond⟩, later⟩ := List.forall_mem_cons.1 apart
    calc (performAll (change :: rest) document).at? place
        = (performAll rest (change.perform document)).at? place := rfl
      _ = (change.perform document).at? place := hypothesis later _
      _ = document.at? place := by
          rw [Change.perform_eq_renewAt]
          exact Json.at?_renewAt outside beyond _ _

/-! ## Slots -/

/-- The field that a kind of selector is matched with. -/
def Config.fieldOfKind? (config : Config) : Kind → Option String
  | .element => config.elementField
  | .id => some config.idField
  | .role => config.roleField
  | .className => config.classField
  | .path => config.pathField
  | _ => none

/-- The simple selectors that write to a slot. -/
inductive Fills (config : Config) : Simple → Slot → Prop where
  /-- A test of an attribute writes to the term of that name. -/
  | test (test : Attribute) : Fills config (.attributeTest test) (.term test.name)
  /-- A selector of a kind with a field writes to the term of the field. -/
  | kind {simple : Simple} {field : String} :
    config.fieldOfKind? simple.kind = some field → Fills config simple (.term field)
  /-- A sort writes to the direction of its attribute. -/
  | sort (name : String) (order : SortOrder) :
    Fills config (.pseudo (.sort name order)) (.direction name)
  /-- A limit writes to the limit. -/
  | limit (value : Option String) : Fills config (.pseudo (.named "limit" value)) .limit
  /-- A pseudo selector that skips documents writes to their number. -/
  | skip {name : String} (value : Option String) :
    name ∈ skipNames → Fills config (.pseudo (.named name value)) .skip

/-- No slot is inside or around an entry of another name. -/
theorem Slot.apart_of_not_mem {name : String}
    (unknown : name ∉ [queryEntry, sortEntry, "limit", "skip"]) (slot : Slot) :
    ¬slot.place <+: [name] ∧ ¬[name] <+: slot.place := by
  simp only [List.mem_cons, List.not_mem_nil, or_false, not_or] at unknown
  obtain ⟨noQuery, noSort, noLimit, noSkip⟩ := unknown
  cases slot with
  | term field => simp [place, List.cons_prefix_cons, noQuery]
  | direction attributeName => simp [place, List.cons_prefix_cons, noSort]
  | limit => simp [place, List.cons_prefix_cons, noLimit, Ne.symm noLimit]
  | skip => simp [place, List.cons_prefix_cons, noSkip, Ne.symm noSkip]

/-- No other selectors have slots. -/
theorem fills_of_slotOf? {config : Config} {simple : Simple} {slot : Slot}
    (found : slotOf? config simple = some slot) : Fills config simple slot := by
  cases simple with
  | universal => cases found
  | id value =>
    cases found
    exact .kind rfl
  | element value | role value | className value | path value =>
    obtain ⟨field, fielded, rfl⟩ := Option.map_eq_some_iff.1 found
    exact .kind fielded
  | attributeTest test =>
    cases found
    exact .test test
  | pseudo pseudo =>
    cases pseudo with
    | sort name order =>
      cases found
      exact .sort name order
    | named name value =>
      rw [slotOf?] at found
      split at found
      · rename_i limited
        subst limited
        cases found
        exact .limit value
      · split at found
        · rename_i skips
          cases found
          exact .skip value skips
        · cases found

/-! ## Builds -/

namespace Listener

variable (listener : Listener) {selector : Selector} (reachable : selector.Reachable)
  {initial document : Json} (built : listener.compile selector initial = .ok document)

include reachable built

/-- A build leaves the values at places that are neither inside nor around the slots of its simple
selectors. -/
theorem at?_compile {place : List String} (other : ¬place <+: [queryEntry])
    (apart : ∀ simple ∈ selector.applied, ∀ slot, slotOf? listener.config simple = some slot →
      ¬slot.place <+: place ∧ ¬place <+: slot.place) :
    document.at? place = initial.at? place := by
  obtain ⟨_, rfl⟩ := (listener.compile_eq_ok_iff reachable initial document).1 built
  rw [at?_performAll, at?_prepare other]
  intro change member
  obtain ⟨simple, applied, made⟩ := List.mem_flatMap.1 member
  obtain ⟨slot, found, placed⟩ := exists_slot_of_mem_changesOf made
  rw [placed]
  exact apart simple applied slot found

/-- A build leaves the slots that none of its simple selectors has. -/
theorem at?_compile_slot (slot : Slot)
    (unwritten : ∀ simple ∈ selector.applied, slotOf? listener.config simple ≠ some slot) :
    document.at? slot.place = initial.at? slot.place := by
  refine listener.at?_compile reachable built ?_ ?_
  · cases slot <;> simp [Slot.place, List.cons_prefix_cons, queryEntry, sortEntry]
  · intro simple applied written found
    have distinct : written ≠ slot := by
      rintro rfl
      exact unwritten simple applied found
    exact ⟨Slot.not_prefix distinct, Slot.not_prefix distinct.symm⟩

/-- A build with one listener, from any initial value, leaves all entries but the terms, the sort
and the two counts. It leaves each count unless the selector has a pseudo selector for it, the
direction of every attribute that the selector does not sort by, and the term of every field that is
neither an attribute of the selector nor the field of one of its kinds. -/
theorem compile_frame :
    (∀ name, name ∉ [queryEntry, sortEntry, "limit", "skip"] →
        document.at? [name] = initial.at? [name]) ∧
      ((∀ value, .pseudo (.named "limit" value) ∉ selector.applied) →
        document.at? ["limit"] = initial.at? ["limit"]) ∧
      ((∀ name ∈ skipNames, ∀ value, .pseudo (.named name value) ∉ selector.applied) →
        document.at? ["skip"] = initial.at? ["skip"]) ∧
      (∀ name, (∀ order, .pseudo (.sort name order) ∉ selector.applied) →
        document.at? [sortEntry, name] = initial.at? [sortEntry, name]) ∧
      ∀ field, (∀ test, .attributeTest test ∈ selector.applied → test.name ≠ field) →
        (∀ simple ∈ selector.applied,
          listener.config.fieldOfKind? simple.kind ≠ some field) →
        document.at? [queryEntry, field] = initial.at? [queryEntry, field] := by
  refine ⟨fun name unknown => ?_, fun unlimited => ?_, fun unskipped => ?_,
    fun name unsorted => ?_, fun field untested unmatched => ?_⟩
  · apply listener.at?_compile reachable built
    · have noQuery : name ≠ queryEntry := fun same => unknown (same ▸ List.mem_cons_self)
      simpa [List.cons_prefix_cons] using noQuery
    · exact fun simple applied slot found => slot.apart_of_not_mem unknown
  · apply listener.at?_compile_slot reachable built .limit
    intro simple applied found
    cases fills_of_slotOf? found with
    | limit value => exact unlimited value applied
  · apply listener.at?_compile_slot reachable built .skip
    intro simple applied found
    cases fills_of_slotOf? found with
    | skip value skips => exact unskipped _ skips value applied
  · apply listener.at?_compile_slot reachable built (.direction name)
    intro simple applied found
    cases fills_of_slotOf? found with
    | sort name order => exact unsorted order applied
  · apply listener.at?_compile_slot reachable built (.term field)
    intro simple applied found
    cases fills_of_slotOf? found with
    | test test => exact untested test applied rfl
    | kind matched => exact unmatched simple applied matched

end Listener

/-- A filter for a node and a range of ages is built on. -/
theorem Listener.compile_frame_olderFilter :
    let listener := Listener.new .usual (fun _ => none) 0
    let younger : Simple := .attributeTest (.compare "age" .less (.int 9))
    let selector : Selector :=
      .ofChain ⟨⟨[.className "news", younger, .pseudo (.named "skip" (some "2"))]⟩, []⟩
    let node : String × Json := ("_id", .string "x")
    let sort : String × Json := ("sort", .object [("name", .int 1)])
    let older : Json := .object [("limit", .int 5), ("note", .bool true),
      ("query", .object [node, ("age", .object [("$gt", .int 3)])]), sort]
    let document : Json := .object [("limit", .int 5), ("note", .bool true),
      ("query", .object [node, ("age", .object [("$gt", .int 3), ("$lt", .int 9)]),
        ("classes", .object [("$in", .array [.string "news"])])]), ("skip", .int 2), sort]
    selector.Reachable ∧ listener.compile selector older = .ok document ∧
      document.at? ["note"] = older.at? ["note"] ∧ document.at? ["limit"] = older.at? ["limit"] ∧
      document.at? [sortEntry, "name"] = older.at? [sortEntry, "name"] ∧
      document.at? [queryEntry, "_id"] = older.at? [queryEntry, "_id"] := by
  intro listener younger selector node sort older document
  have reachable : selector.Reachable := Selector.reachable_ofChain _
  have built : listener.compile selector older = .ok document := by
    refine (listener.compile_eq_ok_iff reachable older document).2 ⟨?_, by decide +kernel⟩
    exact List.forall_mem_cons.2 ⟨⟨_, rfl⟩, List.forall_mem_cons.2 ⟨⟨_, rfl⟩,
      List.forall_mem_singleton.2 ⟨_, rfl⟩⟩⟩
  have applied : selector.applied =
      [.className "news", younger, .pseudo (.named "skip" (some "2"))] := rfl
  obtain ⟨entries, limit, _, directions, terms⟩ := listener.compile_frame reachable built
  rw [applied] at limit directions terms
  refine ⟨reachable, built, entries _ (by decide), limit ?_, directions _ ?_, terms _ ?_ ?_⟩
  · intro value
    simp [younger]
  · intro order
    simp [younger]
  · intro test member
    obtain rfl : test = .compare "age" .less (.int 9) := by simpa [younger] using member
    decide
  · decide

end Filter

end NodeQuery
