import NodeQuery.Proofs.Filter.Fold

/-!
# Commands that later selectors keep

An attribute test other than an equality stores a command on its field. The selectors that are
applied after it may extend the term of that field, which keeps the command, or replace it: an
equality, an identifier, an element or a path makes its own value the whole term. So a stored
command that no later selector writes again is in the final document if and only if no later
selector replaces the term.

Main statement: `Listener.commandAt_compile_iff`.
-/

namespace NodeQuery

/-- The field of a name is found among the fields. -/
theorem Json.field?_eq_lookup (document : Json) (name : String) :
    document.field? name = Json.lookup name document.fields := by
  cases document <;> rfl

namespace Filter

open NodeQuery

/-! ## Commands in documents -/

/-- The operand of a command on a field, if the document has the command. -/
def commandAt (field command : String) (document : Json) : Option Json :=
  (document.field? queryEntry).bind fun query =>
    (query.field? field).bind fun term => term.field? command

/-- The command stands among the terms. -/
theorem commandAt_eq (field command : String) (document : Json) :
    commandAt field command document =
      (Json.lookup field (terms document)).bind fun term => term.field? command := by
  rw [commandAt, terms, entryFields]
  cases document.field? queryEntry with
  | none => rfl
  | some query =>
    rw [Option.bind_some, Json.field?_eq_lookup]
    rfl

/-- The terms that were set. -/
theorem terms_setTerms (entries : List (String × Json)) (document : Json) :
    terms (setTerms entries document) = entries := by
  rw [terms, entryFields, setTerms, setEntryFields, Json.field?, Json.lookup_insert_self]
  rfl

/-- The terms of a document do not depend on its other entries. -/
theorem terms_insert {name : String} (other : name ≠ queryEntry) (value : Json)
    (document : Json) :
    terms (.object (Json.insert name value document.fields)) = terms document := by
  rw [terms, entryFields, Json.field?, Json.lookup_insert_of_ne (Ne.symm other),
    ← Json.field?_eq_lookup]
  rfl

/-- The commands of a term are those of its object; a plain value has only the command to equal
it. -/
theorem lookup_commandsOf {command : String} (other : command ≠ equalCommand)
    (term : Option Json) :
    Json.lookup command (commandsOf term) = term.bind fun value => value.field? command := by
  have plain : ∀ value, Json.lookup command [(equalCommand, value)] = none := by
    intro value
    rw [Json.lookup, if_neg (Ne.symm other)]
    rfl
  cases term with
  | none => rfl
  | some value =>
    cases value with
    | null => rfl
    | object commands => rfl
    | bool value => exact plain _
    | int value => exact plain _
    | float value => exact plain _
    | string value => exact plain _
    | array items => exact plain _

/-- A command that is written on a field is found there; the other commands stay. -/
theorem commandAt_writeCommand {command : String} (other : command ≠ equalCommand)
    (field name written : String) (value document : Json) :
    commandAt field command (writeCommand name written value document) =
      if name = field ∧ written = command then some value
      else commandAt field command document := by
  rw [commandAt_eq, commandAt_eq, writeCommand, terms_setTerms]
  by_cases sameField : name = field
  · subst sameField
    rw [Json.lookup_insert_self, Option.bind_some, Json.field?]
    by_cases sameCommand : written = command
    · subst sameCommand
      rw [Json.lookup_insert_self, if_pos ⟨rfl, rfl⟩]
    · rw [Json.lookup_insert_of_ne (Ne.symm sameCommand), if_neg fun both => sameCommand both.2]
      exact lookup_commandsOf other _
  · rw [Json.lookup_insert_of_ne (Ne.symm sameField), if_neg fun both => sameField both.1]

/-! ## Changes -/

namespace Change

/-- Whether a change makes a value the whole term of a field. -/
def replacesTerm (field : String) : Change → Bool
  | setTerm name _ => name == field
  | _ => false

/-- Whether a change writes a command on a field. -/
def writesCommand (field command : String) : Change → Bool
  | setTerm name term => name == field && (term.field? command).isSome
  | setCommand name written _ => name == field && written == command
  | allow name _ => name == field && inCommand == command
  | _ => false

/-- Whether a change leaves the terms where they are. -/
def sparesTerms : Change → Bool
  | setEntry name _ => name != queryEntry
  | _ => true

/-- A command is kept by a change that neither writes it nor replaces its term. -/
theorem commandAt_perform_of_kept {field command : String} (other : command ≠ equalCommand)
    {change : Change} (spares : change.sparesTerms = true)
    (kept : change.replacesTerm field = false)
    (unwritten : change.writesCommand field command = false) (document : Json) :
    commandAt field command (change.perform document) = commandAt field command document := by
  cases change with
  | setTerm name value =>
    have distinct : field ≠ name := by
      rintro rfl
      simp [replacesTerm] at kept
    rw [perform, commandAt_eq, commandAt_eq, terms_setTerms, Json.lookup_insert_of_ne distinct]
  | setCommand name written value =>
    rw [perform, commandAt_writeCommand other]
    refine if_neg ?_
    simpa [writesCommand] using unwritten
  | allow name value =>
    rw [perform, commandAt_writeCommand other]
    refine if_neg ?_
    simpa [writesCommand] using unwritten
  | setSort name direction =>
    rw [perform, setEntryFields, commandAt_eq, commandAt_eq,
      terms_insert (show sortEntry ≠ queryEntry by decide)]
  | setEntry name value =>
    have distinct : name ≠ queryEntry := by simpa [sparesTerms] using spares
    rw [perform, commandAt_eq, commandAt_eq, terms_insert distinct]

/-- A command is lost by a change that replaces its term without writing it. -/
theorem commandAt_perform_of_replaced {field command : String} {change : Change}
    (replaced : change.replacesTerm field = true)
    (unwritten : change.writesCommand field command = false) (document : Json) :
    commandAt field command (change.perform document) = none := by
  cases change with
  | setTerm name value =>
    obtain rfl : name = field := by simpa [replacesTerm] using replaced
    have absent : value.field? command = none := by simpa [writesCommand] using unwritten
    rw [perform, commandAt_eq, terms_setTerms, Json.lookup_insert_self, Option.bind_some, absent]
  | setCommand name written value => cases replaced
  | allow name value => cases replaced
  | setSort name direction => cases replaced
  | setEntry name value => cases replaced

end Change

/-- Changes that do not write a command lose it if and only if one of them replaces its term. -/
theorem commandAt_performAll {field command : String} (other : command ≠ equalCommand)
    {changes : List Change} (spare : ∀ change ∈ changes, change.sparesTerms = true)
    (unwritten : ∀ change ∈ changes, change.writesCommand field command = false)
    (document : Json) :
    commandAt field command (performAll changes document) =
      if changes.any (·.replacesTerm field) then none
      else commandAt field command document := by
  induction changes generalizing document with
  | nil => rfl
  | cons change rest hypothesis =>
    have later := hypothesis (fun next member => spare next (List.mem_cons_of_mem change member))
      (fun next member => unwritten next (List.mem_cons_of_mem change member))
      (change.perform document)
    have silent := unwritten change List.mem_cons_self
    rw [performAll, List.foldl_cons]
    refine later.trans ?_
    rw [List.any_cons]
    cases replaced : change.replacesTerm field with
    | true =>
      rw [Change.commandAt_perform_of_replaced replaced silent, ite_self]
      rfl
    | false =>
      have spares := spare change List.mem_cons_self
      rw [Change.commandAt_perform_of_kept other spares replaced silent]
      rfl

/-! ## Simple selectors -/

/-- Whether a simple selector makes a value the whole term of a field. -/
def replacesTerm (config : Config) (field : String) : Simple → Bool
  | .element _ => config.elementField == some field
  | .id _ => config.idField == field
  | .path _ => config.pathField == some field
  | .attributeTest test => test.operator == some .equals && test.name == field
  | _ => false

/-- Whether a simple selector writes a command on a field. -/
def writesCommand (config : Config) (resolve : Resolver) (field command : String)
    (simple : Simple) : Bool :=
  (changesOf config resolve simple).any (·.writesCommand field command)

/-- The changes that write beside the terms. -/
inductive Change.IsBeside : Change → Prop where
  /-- The result is ordered. -/
  | sort (name : String) (direction : Json) : IsBeside (.setSort name direction)
  /-- An entry other than that of the terms is written. -/
  | entry {name : String} (value : Json) : name ≠ queryEntry → IsBeside (.setEntry name value)

/-- The changes that simple selectors make. -/
inductive Change.IsMade : Change → Prop where
  /-- A value becomes the whole term of a field. -/
  | term (name : String) (value : Json) : IsMade (.setTerm name value)
  /-- A command other than that for equality is written. -/
  | command (name : String) {command : String} (value : Json) : command ≠ equalCommand →
    IsMade (.setCommand name command value)
  /-- A value is allowed. -/
  | allowed (name : String) (value : Json) : IsMade (.allow name value)
  /-- The terms are not written. -/
  | beside {change : Change} : change.IsBeside → IsMade change

/-- Simple selectors leave the terms where they are. -/
theorem Change.IsMade.sparesTerms {change : Change} (made : change.IsMade) :
    change.sparesTerms = true := by
  cases made with
  | term name value => rfl
  | command name value other => rfl
  | allowed name value => rfl
  | beside apart =>
    cases apart with
    | sort name direction => rfl
    | entry value other => exact bne_iff_ne.2 other

/-- The changes that an attribute test can make. -/
inductive AttributeChanges (test : Attribute) : List Change → Prop where
  /-- One command is written on its field. -/
  | command {command : String} (operand : Json) :
    command ≠ equalCommand → test.operator ≠ some .equals →
      AttributeChanges test [.setCommand test.name command operand]
  /-- An expression is written, and its flags apart from it. -/
  | expression (pattern flags : Json) :
    test.operator ≠ some .equals →
      AttributeChanges test
        [.setCommand test.name "$regex" pattern, .setCommand test.name "$options" flags]
  /-- The condition becomes the whole term. -/
  | term (value : Json) :
    test.operator = some .equals → AttributeChanges test [.setTerm test.name value]
  /-- The condition has no text for an expression. -/
  | nothing : test.operator ≠ some .equals → AttributeChanges test []

/-- The changes for a condition's text; a condition without text makes none. -/
theorem attributeChanges_ofText {config : Config} {resolve : Resolver} {test : Attribute}
    {operator : Operator} {condition : Value} {changes : List Char → List Change}
    (plan : planOf config resolve (.attributeTest test) = .ofText operator condition changes)
    (unequal : test.operator ≠ some .equals)
    (made : ∀ text, AttributeChanges test (changes text)) :
    AttributeChanges test (changesOf config resolve (.attributeTest test)) := by
  rw [changesOf, plan, Plan.ofText]
  cases conditionText operator condition with
  | ok text => exact made text
  | error failure => exact .nothing unequal

/-- Every attribute test makes such changes. -/
theorem attributeChanges_changesOf (config : Config) (resolve : Resolver) (test : Attribute) :
    AttributeChanges test (changesOf config resolve (.attributeTest test)) := by
  obtain ⟨name, operator, condition⟩ := test
  cases operator with
  | none => exact .command (.bool true) (by decide) nofun
  | some operator =>
    cases operator with
    | equals => exact .term condition.toJson rfl
    | notEquals | greater | greaterOrEqual | less | lessOrEqual =>
      exact .command condition.toJson (by decide) nofun
    | inList => exact .command (.array (allowedValues condition)) (by decide) nofun
    | contains | startsWith | endsWith =>
      exact attributeChanges_ofText rfl nofun fun text => .command _ (by decide) nofun
    | regExp =>
      refine attributeChanges_ofText rfl nofun fun pattern => ?_
      rw [expressionChanges]
      split
      · exact .expression _ _ nofun
      · exact .command _ (by decide) nofun

namespace AttributeChanges

variable {test : Attribute} {changes : List Change}

/-- They are made by simple selectors. -/
theorem isMade (made : AttributeChanges test changes) {change : Change}
    (member : change ∈ changes) : change.IsMade := by
  cases made with
  | command operand other _ =>
    obtain rfl := List.mem_singleton.1 member
    exact .command _ operand other
  | expression pattern flags _ =>
    rcases List.mem_cons.1 member with rfl | later
    · exact .command _ pattern (by decide)
    · obtain rfl := List.mem_singleton.1 later
      exact .command _ flags (by decide)
  | term value _ =>
    obtain rfl := List.mem_singleton.1 member
    exact .term _ value
  | nothing _ => cases member

/-- Only those of an equality replace a term. -/
theorem any_replacesTerm (made : AttributeChanges test changes) (field : String) :
    changes.any (·.replacesTerm field) =
      (test.operator == some .equals && test.name == field) := by
  cases made with
  | command operand _ unequal => simp [Change.replacesTerm, unequal]
  | expression pattern flags unequal => simp [Change.replacesTerm, unequal]
  | term value equal => simp [Change.replacesTerm, equal]
  | nothing unequal => simp [unequal]

/-- A command among them is in the document afterwards. -/
theorem commandAt_of_mem (made : AttributeChanges test changes) {field command : String}
    {operand : Json} (stored : Change.setCommand field command operand ∈ changes)
    (document : Json) :
    command ≠ equalCommand ∧
      commandAt field command (performAll changes document) = some operand := by
  cases made with
  | command value other _ =>
    cases List.mem_singleton.1 stored
    refine ⟨other, ?_⟩
    rw [performAll, List.foldl_cons, List.foldl_nil, Change.perform,
      commandAt_writeCommand other, if_pos ⟨rfl, rfl⟩]
  | expression pattern flags _ =>
    have first : "$regex" ≠ equalCommand := by decide
    have second : "$options" ≠ equalCommand := by decide
    simp only [performAll, List.foldl_cons, List.foldl_nil, Change.perform]
    rcases List.mem_cons.1 stored with same | later
    · cases same
      refine ⟨first, ?_⟩
      rw [commandAt_writeCommand first, if_neg (fun both => absurd both.2 (by decide)),
        commandAt_writeCommand first, if_pos ⟨rfl, rfl⟩]
    · cases List.mem_singleton.1 later
      refine ⟨second, ?_⟩
      rw [commandAt_writeCommand second, if_pos ⟨rfl, rfl⟩]
  | term value _ => cases List.mem_singleton.1 stored
  | nothing _ => cases stored

end AttributeChanges

/-- A count is written to one of two entries. -/
theorem mem_of_counted {name entry : String} (counted : countEntry? name = some entry) :
    entry ∈ ["limit", "skip"] := by
  unfold countEntry? at counted
  split at counted
  · cases counted
    decide
  · split at counted
    · cases counted
      decide
    · cases counted

/-- The entry that a count writes is not the one of the terms. -/
theorem ne_queryEntry_of_counted {name entry : String} (counted : countEntry? name = some entry) :
    entry ≠ queryEntry := by
  rintro rfl
  exact absurd (mem_of_counted counted) (by decide)

/-- A pseudo selector other than a sort writes its count, if it has one. -/
theorem exists_entry_of_mem_changesOf {config : Config} {resolve : Resolver} {name : String}
    {value : Option String} {change : Change}
    (member : change ∈ changesOf config resolve (.pseudo (.named name value))) :
    ∃ entry amount, countEntry? name = some entry ∧ change = .setEntry entry amount := by
  rw [changesOf, planOf, pseudoPlan] at member
  cases counted : countEntry? name with
  | none =>
    rw [counted] at member
    cases member
  | some entry =>
    rw [counted] at member
    cases read : value.bind fun text => countOf? text.toList with
    | none =>
      rw [read] at member
      cases member
    | some amount =>
      rw [read] at member
      exact ⟨entry, _, rfl, List.mem_singleton.1 member⟩

/-- A pseudo selector writes beside the terms. -/
theorem isBeside_of_mem_changesOf {config : Config} {resolve : Resolver} {pseudo : Pseudo}
    {change : Change} (member : change ∈ changesOf config resolve (.pseudo pseudo)) :
    change.IsBeside := by
  cases pseudo with
  | sort name order =>
    obtain rfl := List.mem_singleton.1 member
    exact .sort name _
  | named name value =>
    obtain ⟨entry, amount, counted, rfl⟩ := exists_entry_of_mem_changesOf member
    exact .entry amount (ne_queryEntry_of_counted counted)

/-- The change of a kind of selector with a field of its own is the one to that field. -/
theorem exists_name_of_mem_onField {config : Config} {resolve : Resolver} {simple : Simple}
    {own : Option String} {write : String → Change}
    (plan : planOf config resolve simple = .onField own write) {change : Change}
    (member : change ∈ changesOf config resolve simple) :
    ∃ name, own = some name ∧ change = write name := by
  rw [changesOf, plan] at member
  cases own with
  | none => cases member
  | some name => exact ⟨name, rfl, List.mem_singleton.1 member⟩

/-- Every change of a simple selector is such a one. -/
theorem isMade_of_mem_changesOf {config : Config} {resolve : Resolver} {simple : Simple}
    {change : Change} (member : change ∈ changesOf config resolve simple) : change.IsMade := by
  cases simple with
  | universal => cases member
  | element value =>
    obtain ⟨name, _, rfl⟩ := exists_name_of_mem_onField rfl member
    exact .term name _
  | id value =>
    obtain rfl := List.mem_singleton.1 member
    exact .term _ _
  | role value | className value =>
    obtain ⟨name, _, rfl⟩ := exists_name_of_mem_onField rfl member
    exact .allowed name _
  | path path =>
    obtain ⟨name, _, rfl⟩ := exists_name_of_mem_onField rfl member
    exact .term name _
  | attributeTest test =>
    exact (attributeChanges_changesOf config resolve test).isMade member
  | pseudo pseudo => exact .beside (isBeside_of_mem_changesOf member)

/-- The changes of simple selectors that are applied one after the other. -/
theorem isMade_of_mem_flatMap {config : Config} {resolve : Resolver} {simples : List Simple}
    {change : Change} (member : change ∈ simples.flatMap (changesOf config resolve)) :
    change.IsMade := by
  obtain ⟨simple, _, made⟩ := List.mem_flatMap.1 member
  exact isMade_of_mem_changesOf made

/-- A pseudo selector writes no command. -/
theorem writesCommand_pseudo (config : Config) (resolve : Resolver) (field command : String)
    (pseudo : Pseudo) : writesCommand config resolve field command (.pseudo pseudo) = false := by
  refine List.any_eq_false.2 fun change member => ?_
  cases isBeside_of_mem_changesOf member with
  | sort name direction => exact Bool.false_ne_true
  | entry value other => exact Bool.false_ne_true

/-- The changes of a simple selector replace a term if the selector is one that does. -/
theorem any_replacesTerm_changesOf (config : Config) (resolve : Resolver) (field : String)
    (simple : Simple) :
    (changesOf config resolve simple).any (·.replacesTerm field) =
      replacesTerm config field simple := by
  cases simple with
  | universal => rfl
  | element name =>
    rw [changesOf, planOf, replacesTerm]
    cases config.elementField <;> simp [Plan.onField, Change.replacesTerm]
  | id value => simp [changesOf, planOf, replacesTerm, Change.replacesTerm]
  | role value =>
    rw [changesOf, planOf]
    cases config.roleField <;> rfl
  | className value =>
    rw [changesOf, planOf]
    cases config.classField <;> rfl
  | path path =>
    rw [changesOf, planOf, replacesTerm]
    cases config.pathField <;> simp [Plan.onField, Change.replacesTerm]
  | attributeTest test =>
    exact (attributeChanges_changesOf config resolve test).any_replacesTerm field
  | pseudo pseudo =>
    refine List.any_eq_false.2 fun change member => ?_
    cases isBeside_of_mem_changesOf member with
    | sort name direction => exact Bool.false_ne_true
    | entry value other => exact Bool.false_ne_true

/-- The changes of simple selectors replace a term if one of the selectors does. -/
theorem any_replacesTerm_flatMap (config : Config) (resolve : Resolver) (field : String)
    (simples : List Simple) :
    (simples.flatMap (changesOf config resolve)).any (·.replacesTerm field) =
      simples.any (replacesTerm config field) := by
  rw [List.any_flatMap]
  exact congrArg simples.any (funext (any_replacesTerm_changesOf config resolve field))

/-- Selectors that do not write a command lose it if and only if one of them replaces its term. -/
theorem commandAt_performAll_changesOf {config : Config} {resolve : Resolver}
    {field command : String} (other : command ≠ equalCommand) {simples : List Simple}
    (unwritten : ∀ simple ∈ simples, writesCommand config resolve field command simple = false)
    (document : Json) :
    commandAt field command (performAll (simples.flatMap (changesOf config resolve)) document) =
      if simples.any (replacesTerm config field) then none
      else commandAt field command document := by
  have silent : ∀ change ∈ simples.flatMap (changesOf config resolve),
      change.writesCommand field command = false := by
    intro change member
    obtain ⟨simple, inside, made⟩ := List.mem_flatMap.1 member
    exact Bool.eq_false_iff.2 (List.any_eq_false.1 (unwritten simple inside) change made)
  have spare : ∀ change ∈ simples.flatMap (changesOf config resolve),
      change.sparesTerms = true := fun change member => (isMade_of_mem_flatMap member).sparesTerms
  rw [commandAt_performAll other spare silent, any_replacesTerm_flatMap]

/-! ## Commands in built documents -/

/-- A command that an attribute test stored and that no selector applied later writes again is in
the document that is built if and only if none of these replaces the term of its field: no
equality test of the field, and no identifier, element or path that is matched with it. -/
theorem Listener.commandAt_compile_iff (listener : Listener) {selector : Selector}
    (reachable : selector.Reachable) {initial document : Json}
    (built : listener.compile selector initial = .ok document) {front back : List Simple}
    {test : Attribute} (order : selector.applied = front ++ .attributeTest test :: back)
    {field command : String} {operand : Json}
    (stored : Change.setCommand field command operand ∈
      changesOf listener.config listener.resolve (.attributeTest test))
    (unwritten : ∀ later ∈ back,
      writesCommand listener.config listener.resolve field command later = false) :
    commandAt field command document = some operand ↔
      ∀ later ∈ back, replacesTerm listener.config field later = false := by
  have result := ((listener.compile_eq_ok_iff reachable initial document).1 built).2
  rw [order, List.flatMap_append, List.flatMap_cons, performAll_append, performAll_append] at result
  have changes := attributeChanges_changesOf listener.config listener.resolve test
  obtain ⟨other, written⟩ := changes.commandAt_of_mem stored
    (performAll (front.flatMap (changesOf listener.config listener.resolve)) (prepare initial))
  rw [result, commandAt_performAll_changesOf other unwritten, written]
  constructor
  · intro held later member
    cases replaced : back.any (replacesTerm listener.config field) with
    | true =>
      rw [replaced] at held
      cases held
    | false => exact Bool.eq_false_iff.2 (List.any_eq_false.1 replaced later member)
  · intro kept
    have none : back.any (replacesTerm listener.config field) = false :=
      List.any_eq_false.2 fun later member => Bool.eq_false_iff.1 (kept later member)
    rw [none]
    rfl

/-- A comparison is kept after an equality of its field. -/
theorem Listener.commandAt_compile_equalityBefore :
    let listener := Listener.new .usual (fun _ => none) 0
    let selector : Selector := .ofChain ⟨⟨[.attributeTest ⟨"a", some .equals, .int 2⟩,
      .attributeTest ⟨"a", some .greater, .int 1⟩]⟩, []⟩
    let document : Json :=
      .object [("query", .object [("a", .object [("$eq", .int 2), ("$gt", .int 1)])])]
    listener.compile selector .null = .ok document ∧
      commandAt "a" "$gt" document = some (.int 1) := by
  intro listener selector document
  have reachable : selector.Reachable := Selector.reachable_ofChain _
  have built : listener.compile selector .null = .ok document := by
    refine (listener.compile_eq_ok_iff reachable .null document).2 ⟨?_, by decide +kernel⟩
    exact List.forall_mem_cons.2 ⟨⟨_, rfl⟩, List.forall_mem_singleton.2 ⟨_, rfl⟩⟩
  have order : selector.applied = [.attributeTest ⟨"a", some .equals, .int 2⟩] ++
      .attributeTest ⟨"a", some .greater, .int 1⟩ :: [] := rfl
  have stored : Change.setCommand "a" "$gt" (.int 1) ∈ changesOf listener.config listener.resolve
      (.attributeTest ⟨"a", some .greater, .int 1⟩) := List.mem_singleton_self _
  exact ⟨built, (listener.commandAt_compile_iff reachable built order stored
    (List.forall_mem_nil _)).2 (List.forall_mem_nil _)⟩

/-- A comparison is lost before an equality of its field, although nothing writes its command
again. -/
theorem Listener.not_commandAt_compile_equalityAfter :
    let listener := Listener.new .usual (fun _ => none) 0
    let selector : Selector := .ofChain ⟨⟨[.attributeTest ⟨"a", some .greater, .int 1⟩,
      .attributeTest ⟨"a", some .equals, .int 2⟩]⟩, []⟩
    let document : Json := .object [("query", .object [("a", .int 2)])]
    selector.Reachable ∧ listener.compile selector .null = .ok document ∧
      selector.applied = [] ++ .attributeTest ⟨"a", some .greater, .int 1⟩ ::
        [.attributeTest ⟨"a", some .equals, .int 2⟩] ∧
      Change.setCommand "a" "$gt" (.int 1) ∈ changesOf listener.config listener.resolve
        (.attributeTest ⟨"a", some .greater, .int 1⟩) ∧
      writesCommand listener.config listener.resolve "a" "$gt"
        (.attributeTest ⟨"a", some .equals, .int 2⟩) = false ∧
      commandAt "a" "$gt" document = none := by
  intro listener selector document
  have reachable : selector.Reachable := Selector.reachable_ofChain _
  have built : listener.compile selector .null = .ok document := by
    refine (listener.compile_eq_ok_iff reachable .null document).2 ⟨?_, by decide +kernel⟩
    exact List.forall_mem_cons.2 ⟨⟨_, rfl⟩, List.forall_mem_singleton.2 ⟨_, rfl⟩⟩
  exact ⟨reachable, built, rfl, List.mem_singleton_self _, rfl, rfl⟩

end Filter

end NodeQuery
