import NodeQuery.Proofs.Filter.Form

/-!
# Equalities that later commands keep

A field that must equal a value holds the value itself. The first command that is written on the
field later turns the value into the command `$eq`, and all commands are written beside it: the
comparisons and presence tests of the field, and the roles and classes that are matched with it.
Whether there is a value to keep is read off the stored value, so a null value is taken for a
field that was never set, and the equality is lost.

Main statement: `Listener.equality_compile_iff`.
-/

namespace NodeQuery

/-- Two fields can be written in the order of their names or against it. -/
theorem Json.insert_comm_of_lt {name other : String} (before : name < other) (value second : Json)
    (fields : List (String × Json)) :
    insert name value (insert other second fields) =
      insert other second (insert name value fields) := by
  have distinct : name ≠ other := fun same => String.lt_irrefl _ (same ▸ before)
  have behind : ¬other < name := String.lt_asymm before
  induction fields with
  | nil => simp [insert, before, distinct, distinct.symm, behind]
  | cons first rest hypothesis =>
    obtain ⟨key, old⟩ := first
    by_cases atName : key = name
    · subst atName
      simp [insert, distinct, behind]
    · by_cases atOther : key = other
      · subst atOther
        simp [insert, distinct, atName, before, behind]
      · by_cases smaller : name < key
        · by_cases both : other < key <;>
            simp [insert, distinct, atName, atOther, before, behind, smaller, both, distinct.symm]
        · have later : ¬other < key := fun beyond => smaller (String.lt_trans before beyond)
          simp [insert, atName, atOther, smaller, later, hypothesis]

/-- Fields of different names can be written in any order. -/
theorem Json.insert_comm {name other : String} (distinct : name ≠ other) (value second : Json)
    (fields : List (String × Json)) :
    insert name value (insert other second fields) =
      insert other second (insert name value fields) := by
  by_cases before : name < other
  · exact insert_comm_of_lt before value second fields
  · have after : other < name := by
      refine Decidable.byContradiction fun unordered => distinct ?_
      exact String.le_antisymm (String.not_lt.1 unordered) (String.not_lt.1 before)
    exact (insert_comm_of_lt after second value fields).symm

/-- The JSON form of a value is null for the absent value and for numbers that are not finite. -/
theorem Value.toJson_eq_null_iff (value : Value) :
    value.toJson = .null ↔
      value = .null ∨ ∃ number, value = .float number ∧ number.isFinite = false := by
  cases value with
  | float number => cases finite : number.isFinite <;> simp [Value.toJson, finite]
  | _ => simp [Value.toJson]

namespace Filter

open NodeQuery

/-! ## Changes -/

namespace Change

/-- Whether a change writes a command beside the others on a field. -/
def extendsTerm (field : String) : Change → Bool
  | setCommand name _ _ => name == field
  | allow name _ => name == field
  | _ => false

/-- The commands on a field with the one that a change writes there. -/
def extend (field : String) (commands : List (String × Json)) : Change → List (String × Json)
  | setCommand name command value =>
    if name = field then Json.insert command value commands else commands
  | allow name value =>
    if name = field then
      Json.insert inCommand (extendAllowed value (Json.lookup inCommand commands)) commands
    else commands
  | _ => commands

/-- Whether a change leaves the command for equality alone. -/
def sparesEquality : Change → Bool
  | setCommand _ command _ => command != equalCommand
  | _ => true

variable {change : Change} {field : String}

/-- A change that does not extend a field's term writes no command there. -/
theorem extend_of_not_extendsTerm (apart : change.extendsTerm field = false)
    (commands : List (String × Json)) : change.extend field commands = commands := by
  cases change with
  | setCommand name command value => exact if_neg (by simpa [extendsTerm] using apart)
  | allow name value => exact if_neg (by simpa [extendsTerm] using apart)
  | _ => rfl

/-- A change that does not replace the term of a field extends it, or leaves it as it is. -/
theorem lookup_terms_perform (spares : change.sparesTerms = true)
    (kept : change.replacesTerm field = false) (document : Json) :
    Json.lookup field (terms (change.perform document)) =
      if change.extendsTerm field then some (.object (change.extend field (commands field document)))
      else Json.lookup field (terms document) := by
  have write : ∀ name command value, Json.lookup field
      (terms (writeCommand name command value document)) =
        if name == field then some (.object (Json.insert command value (commands name document)))
        else Json.lookup field (terms document) := by
    intro name command value
    rw [writeCommand, terms_setTerms]
    cases same : name == field with
    | true =>
      obtain rfl := beq_iff_eq.1 same
      rw [Json.lookup_insert_self, if_pos rfl]
    | false =>
      rw [Json.lookup_insert_of_ne (Ne.symm (beq_eq_false_iff_ne.1 same)), if_neg Bool.false_ne_true]
  cases change with
  | setTerm name value =>
    have distinct : field ≠ name := by
      rintro rfl
      simp [replacesTerm] at kept
    rw [perform, terms_setTerms, Json.lookup_insert_of_ne distinct]
    rfl
  | setCommand name command value =>
    rw [perform, write]
    by_cases same : name = field <;> simp [extendsTerm, extend, same]
  | allow name value =>
    rw [perform, write]
    by_cases same : name = field <;> simp [extendsTerm, extend, same]
  | setSort name direction =>
    rw [perform, setEntryFields, terms_insert (show sortEntry ≠ queryEntry by decide)]
    rfl
  | setEntry name value =>
    rw [perform, terms_insert (by simpa [sparesTerms] using spares)]
    rfl

/-- The commands on a field after a change that does not replace its term. -/
theorem commands_perform (spares : change.sparesTerms = true)
    (kept : change.replacesTerm field = false) (document : Json) :
    commands field (change.perform document) = change.extend field (commands field document) := by
  rw [commands, lookup_terms_perform spares kept]
  cases apart : change.extendsTerm field with
  | true => rfl
  | false => rw [extend_of_not_extendsTerm apart]; rfl

/-- Commands are written beside a kept equality as they are without it. -/
theorem extend_insert_equality (apart : change.sparesEquality = true) (value : Json)
    (commands : List (String × Json)) :
    change.extend field (Json.insert equalCommand value commands) =
      Json.insert equalCommand value (change.extend field commands) := by
  cases change with
  | setCommand name command operand =>
    have distinct : command ≠ equalCommand := by simpa [sparesEquality] using apart
    simp only [extend]
    split
    · exact Json.insert_comm distinct _ _ _
    · rfl
  | allow name operand =>
    have distinct : inCommand ≠ equalCommand := by decide
    simp only [extend]
    split
    · rw [Json.lookup_insert_of_ne distinct, Json.insert_comm distinct]
    · rfl
  | _ => rfl

/-- A change that leaves the command for equality alone keeps its operand. -/
theorem lookup_equality_extend (apart : change.sparesEquality = true)
    (commands : List (String × Json)) :
    Json.lookup equalCommand (change.extend field commands) =
      Json.lookup equalCommand commands := by
  cases change with
  | setCommand name command operand =>
    have distinct : command ≠ equalCommand := by simpa [sparesEquality] using apart
    simp only [extend]
    split
    · exact Json.lookup_insert_of_ne (Ne.symm distinct) _ _
    · rfl
  | allow name operand =>
    simp only [extend]
    split
    · exact Json.lookup_insert_of_ne (by decide) _ _
    · rfl
  | _ => rfl

end Change

/-- The commands that changes write on a field, one after the other. -/
def extendAll (field : String) (changes : List Change) (commands : List (String × Json)) :
    List (String × Json) :=
  changes.foldl (fun extended change => change.extend field extended) commands

variable {field : String} {changes : List Change}

/-- Changes that do not extend a field's term write no command there. -/
theorem extendAll_of_not_extendsTerm (apart : changes.any (·.extendsTerm field) = false)
    (commands : List (String × Json)) : extendAll field changes commands = commands := by
  induction changes with
  | nil => rfl
  | cons change rest hypothesis =>
    rw [List.any_cons, Bool.or_eq_false_iff] at apart
    rw [extendAll, List.foldl_cons, Change.extend_of_not_extendsTerm apart.1]
    exact hypothesis apart.2

/-- Changes that do not replace the term of a field write their commands beside those that are
there; if none of them extends the term, it stays as it is. -/
theorem lookup_terms_performAll (spare : ∀ change ∈ changes, change.sparesTerms = true)
    (kept : ∀ change ∈ changes, change.replacesTerm field = false) (document : Json) :
    Json.lookup field (terms (performAll changes document)) =
      if changes.any (·.extendsTerm field) then
        some (.object (extendAll field changes (commands field document)))
      else Json.lookup field (terms document) := by
  induction changes generalizing document with
  | nil => rfl
  | cons change rest hypothesis =>
    have spares := spare change List.mem_cons_self
    have keeps := kept change List.mem_cons_self
    have later := hypothesis (fun next member => spare next (List.mem_cons_of_mem change member))
      (fun next member => kept next (List.mem_cons_of_mem change member))
      (change.perform document)
    rw [Change.commands_perform spares keeps, Change.lookup_terms_perform spares keeps] at later
    rw [performAll, List.foldl_cons, List.any_cons, extendAll, List.foldl_cons]
    refine later.trans ?_
    cases apart : change.extendsTerm field with
    | false =>
      rw [Bool.false_or, if_neg Bool.false_ne_true]
      rfl
    | true =>
      rw [Bool.true_or, if_pos rfl, if_pos rfl]
      split
      · rfl
      · rename_i still
        have unextended : rest.any (·.extendsTerm field) = false := Bool.eq_false_iff.2 still
        rw [← extendAll, extendAll_of_not_extendsTerm unextended]

/-- Changes write their commands beside a kept equality as they do without it. -/
theorem extendAll_insert_equality (apart : ∀ change ∈ changes, change.sparesEquality = true)
    (value : Json) (commands : List (String × Json)) :
    extendAll field changes (Json.insert equalCommand value commands) =
      Json.insert equalCommand value (extendAll field changes commands) := by
  induction changes generalizing commands with
  | nil => rfl
  | cons change rest hypothesis =>
    obtain ⟨first, others⟩ := List.forall_mem_cons.1 apart
    rw [extendAll, List.foldl_cons, Change.extend_insert_equality first]
    exact hypothesis others _

/-- Changes that leave the command for equality alone write no such command. -/
theorem lookup_equality_extendAll (apart : ∀ change ∈ changes, change.sparesEquality = true)
    (commands : List (String × Json)) :
    Json.lookup equalCommand (extendAll field changes commands) =
      Json.lookup equalCommand commands := by
  induction changes generalizing commands with
  | nil => rfl
  | cons change rest hypothesis =>
    obtain ⟨first, others⟩ := List.forall_mem_cons.1 apart
    rw [extendAll, List.foldl_cons]
    exact (hypothesis others _).trans (Change.lookup_equality_extend first commands)

/-! ## Simple selectors -/

/-- Whether a simple selector writes a command beside the others on a field: a comparison, a
presence test, a role or a class does. -/
def extendsTerm (config : Config) (field : String) : Simple → Bool
  | .role _ => config.roleField == some field
  | .className _ => config.classField == some field
  | .attributeTest test => test.operator != some .equals && test.name == field
  | _ => false

/-- The commands that simple selectors write on a field where there are none. -/
def writtenCommands (config : Config) (resolve : Resolver) (field : String)
    (simples : List Simple) : List (String × Json) :=
  extendAll field (simples.flatMap (changesOf config resolve)) []

/-- An attribute test that is handled extends the term of its field if it is no equality. -/
theorem any_extendsTerm_attributeTest {config : Config} {resolve : Resolver} {test : Attribute}
    (handled : ∃ changes, planOf config resolve (.attributeTest test) = .changes changes)
    (extending : extendsTerm config field (.attributeTest test) = true) :
    (changesOf config resolve (.attributeTest test)).any (·.extendsTerm field) = true := by
  obtain ⟨name, operator, condition⟩ := test
  obtain ⟨unequal, rfl⟩ : operator ≠ some .equals ∧ name = field := by
    simpa [extendsTerm] using extending
  -- a comparison by a text is handled only if the condition has a text
  have ofText : ∀ {operator changes},
      planOf config resolve (.attributeTest ⟨name, some operator, condition⟩) =
          .ofText operator condition changes →
        (∃ changes, planOf config resolve (.attributeTest ⟨name, some operator, condition⟩) =
          .changes changes) →
        (∀ text, (changes text).any (·.extendsTerm name) = true) →
          (changesOf config resolve (.attributeTest ⟨name, some operator, condition⟩)).any
            (·.extendsTerm name) = true := by
    rintro operator changes plan ⟨made, handled⟩ extended
    rw [plan, Plan.ofText] at handled
    rw [changesOf, plan, Plan.ofText]
    cases readable : conditionText operator condition with
    | ok text => exact extended text
    | error failure =>
      rw [readable] at handled
      cases handled
  have written : ∀ {command value rest},
      (Change.setCommand name command value :: rest).any (·.extendsTerm name) = true := by
    simp [Change.extendsTerm]
  cases operator with
  | none => exact written
  | some operator =>
    cases operator with
    | equals => exact absurd rfl unequal
    | notEquals | greater | greaterOrEqual | less | lessOrEqual | inList => exact written
    | contains | startsWith | endsWith => exact ofText rfl handled fun text => written
    | regExp =>
      refine ofText rfl handled fun text => ?_
      rw [expressionChanges]
      split <;> exact written

/-- A simple selector that is handled makes a change to a field's term if it extends the term. -/
theorem any_extendsTerm_changesOf {config : Config} {resolve : Resolver} {simple : Simple}
    (handled : ∃ changes, planOf config resolve simple = .changes changes)
    (extending : extendsTerm config field simple = true) :
    (changesOf config resolve simple).any (·.extendsTerm field) = true := by
  cases simple with
  | role value | className value =>
    have matched := beq_iff_eq.1 extending
    simp [changesOf, planOf, matched, Plan.onField, Change.extendsTerm]
  | attributeTest test => exact any_extendsTerm_attributeTest handled extending
  | universal | element | id | path | pseudo => cases extending

/-- Simple selectors leave the command for equality alone. -/
theorem Change.IsMade.sparesEquality {change : Change} (made : change.IsMade) :
    change.sparesEquality = true := by
  cases made with
  | term name value => rfl
  | command name value other => exact bne_iff_ne.2 other
  | allowed name value => rfl
  | beside apart => cases apart <;> rfl

/-! ## Runs -/

section

variable {config : Config} {resolve : Resolver} {simples : List Simple}

/-- Selectors of which one extends the term of a field and none replaces it write their commands
beside those that are there. -/
theorem lookup_terms_flatMap_changesOf
    (handled : ∀ simple ∈ simples, ∃ changes, planOf config resolve simple = .changes changes)
    (extended : ∃ simple ∈ simples, extendsTerm config field simple = true)
    (kept : ∀ simple ∈ simples, replacesTerm config field simple = false) (document : Json) :
    Json.lookup field
        (terms (performAll (simples.flatMap (changesOf config resolve)) document)) =
      some (.object (extendAll field (simples.flatMap (changesOf config resolve))
        (commands field document))) := by
  have spare : ∀ change ∈ simples.flatMap (changesOf config resolve),
      change.sparesTerms = true := fun change member => (isMade_of_mem_flatMap member).sparesTerms
  have keep : ∀ change ∈ simples.flatMap (changesOf config resolve),
      change.replacesTerm field = false := by
    have unreplaced := any_replacesTerm_flatMap config resolve field simples
    rw [List.any_eq_false.2 fun simple inside => Bool.eq_false_iff.1 (kept simple inside)]
      at unreplaced
    exact fun change member => Bool.eq_false_iff.2 (List.any_eq_false.1 unreplaced change member)
  have extending : (simples.flatMap (changesOf config resolve)).any (·.extendsTerm field) =
      true := by
    obtain ⟨simple, inside, does⟩ := extended
    rw [List.any_flatMap]
    exact List.any_eq_true.2
      ⟨simple, inside, any_extendsTerm_changesOf (handled simple inside) does⟩
  rw [lookup_terms_performAll spare keep, if_pos extending]

/-- The commands of simple selectors leave the command for equality alone. -/
theorem sparesEquality_flatMap_changesOf (config : Config) (resolve : Resolver)
    (simples : List Simple) :
    ∀ change ∈ simples.flatMap (changesOf config resolve), change.sparesEquality = true := by
  exact fun change member => (isMade_of_mem_flatMap member).sparesEquality

/-- The commands that simple selectors write do not require equality. -/
theorem lookup_equality_writtenCommands (config : Config) (resolve : Resolver) (field : String)
    (simples : List Simple) :
    Json.lookup equalCommand (writtenCommands config resolve field simples) = none :=
  lookup_equality_extendAll (sparesEquality_flatMap_changesOf config resolve simples) []

/-- The commands on a field that must equal a value: none for a null value. -/
theorem commands_of_equality (field : String) (value : Value) (document : Json) :
    commands field ((Change.setTerm field value.toJson).perform document) =
      if value.toJson = .null then [] else Json.insert equalCommand value.toJson [] := by
  rw [commands, Change.perform, terms_setTerms, Json.lookup_insert_self]
  have plain := isObject_toJson value
  generalize value.toJson = term at plain
  cases term with
  | object fields => cases plain
  | _ => rfl

end

/-! ## Built documents -/

/-- A field that must equal a value and has other commands later keeps the value as a command
beside exactly these, if and only if the value is neither null nor a number that is not
finite. -/
theorem Listener.equality_compile_iff (listener : Listener) {selector : Selector}
    (reachable : selector.Reachable) {initial document : Json}
    (built : listener.compile selector initial = .ok document) {front back : List Simple}
    {field : String} {value : Value}
    (order : selector.applied = front ++ .attributeTest ⟨field, some .equals, value⟩ :: back)
    (extended : ∃ later ∈ back, extendsTerm listener.config field later = true)
    (kept : ∀ later ∈ back, replacesTerm listener.config field later = false) :
    Json.lookup field (terms document) = some (.object (Json.insert equalCommand value.toJson
        (writtenCommands listener.config listener.resolve field back))) ↔
      value ≠ .null ∧ ∀ number, value = .float number → number.isFinite = true := by
  obtain ⟨handled, result⟩ := (listener.compile_eq_ok_iff reachable initial document).1 built
  rw [order] at handled result
  rw [List.flatMap_append, List.flatMap_cons, performAll_append, performAll_append] at result
  have later := lookup_terms_flatMap_changesOf
    (fun simple member => handled simple (List.mem_append_right _ (List.mem_cons_of_mem _ member)))
    extended kept ((Change.setTerm field value.toJson).perform
      (performAll (front.flatMap (changesOf listener.config listener.resolve)) (prepare initial)))
  have final : Json.lookup field (terms document) = some (.object (extendAll field
      (back.flatMap (changesOf listener.config listener.resolve))
        (if value.toJson = .null then [] else Json.insert equalCommand value.toJson []))) := by
    rw [result, ← commands_of_equality field value]
    exact later
  have nonNull : value.toJson ≠ .null ↔
      value ≠ .null ∧ ∀ number, value = .float number → number.isFinite = true := by
    simp [value.toJson_eq_null_iff]
  rw [final, ← nonNull]
  by_cases null : value.toJson = .null
  · have unset := lookup_equality_writtenCommands listener.config listener.resolve field back
    rw [if_pos null, ← writtenCommands]
    refine iff_of_false (fun same => ?_) (fun present => present null)
    have equal : writtenCommands listener.config listener.resolve field back =
        Json.insert equalCommand value.toJson
          (writtenCommands listener.config listener.resolve field back) := by
      simpa using same
    rw [equal, Json.lookup_insert_self] at unset
    cases unset
  · rw [if_neg null, extendAll_insert_equality
      (sparesEquality_flatMap_changesOf listener.config listener.resolve back)]
    exact iff_of_true rfl null

/-- A comparison and a role of the same field, with one of another field between them. -/
theorem Listener.equality_compile_sharedField :
    let listener := Listener.new { Config.usual with roleField := some "a" } (fun _ => none) 0
    let selector : Selector := .ofChain ⟨⟨[.attributeTest ⟨"a", some .equals, .int 2⟩,
      .attributeTest ⟨"a", some .greater, .int 1⟩, .attributeTest ⟨"b", some .less, .int 9⟩,
      .role "news"]⟩, []⟩
    let document : Json := .object [("query", .object [
      ("a", .object [("$eq", .int 2), ("$gt", .int 1), ("$in", .array [.string "news"])]),
      ("b", .object [("$lt", .int 9)])])]
    listener.compile selector .null = .ok document ∧
      Json.lookup "a" (terms document) = some (.object (Json.insert equalCommand (.int 2)
        [("$gt", .int 1), ("$in", .array [.string "news"])])) := by
  intro listener selector document
  have reachable : selector.Reachable := Selector.reachable_ofChain _
  have built : listener.compile selector .null = .ok document := by
    refine (listener.compile_eq_ok_iff reachable .null document).2 ⟨?_, by decide +kernel⟩
    exact List.forall_mem_cons.2 ⟨⟨_, rfl⟩, List.forall_mem_cons.2 ⟨⟨_, rfl⟩,
      List.forall_mem_cons.2 ⟨⟨_, rfl⟩, List.forall_mem_singleton.2 ⟨_, rfl⟩⟩⟩⟩
  have order : selector.applied = [] ++ .attributeTest ⟨"a", some .equals, .int 2⟩ ::
      [.attributeTest ⟨"a", some .greater, .int 1⟩, .attributeTest ⟨"b", some .less, .int 9⟩,
        .role "news"] := rfl
  exact ⟨built, (listener.equality_compile_iff reachable built order
    ⟨_, List.mem_cons_self, rfl⟩ (by decide)).2 ⟨nofun, nofun⟩⟩

/-- A null value is lost when a comparison is written on its field. -/
theorem Listener.not_equality_compile_null :
    let listener := Listener.new .usual (fun _ => none) 0
    let comparison : Simple := .attributeTest ⟨"a", some .greater, .int 1⟩
    let selector : Selector :=
      .ofChain ⟨⟨[.attributeTest ⟨"a", some .equals, .null⟩, comparison]⟩, []⟩
    let document : Json := .object [("query", .object [("a", .object [("$gt", .int 1)])])]
    selector.Reachable ∧ listener.compile selector .null = .ok document ∧
      selector.applied = [] ++ .attributeTest ⟨"a", some .equals, .null⟩ :: [comparison] ∧
      extendsTerm listener.config "a" comparison = true ∧
      replacesTerm listener.config "a" comparison = false ∧
      Json.lookup "a" (terms document) = some (.object [("$gt", .int 1)]) ∧
      commandAt "a" equalCommand document = none := by
  intro listener comparison selector document
  have reachable : selector.Reachable := Selector.reachable_ofChain _
  have built : listener.compile selector .null = .ok document := by
    refine (listener.compile_eq_ok_iff reachable .null document).2 ⟨?_, by decide +kernel⟩
    exact List.forall_mem_cons.2 ⟨⟨_, rfl⟩, List.forall_mem_singleton.2 ⟨_, rfl⟩⟩
  exact ⟨reachable, built, rfl, rfl, rfl, rfl, rfl⟩

end Filter

end NodeQuery
