import NodeQuery.Proofs.Filter.Survival

/-!
# The form of filter documents

A filter document is told apart by the kinds of its values alone: a term that is an object holds
commands, and any other term is a value to be equal to. This works only if every write leaves
the document in that form, whatever was written on the same field before. A replacing write
makes a whole term of its own. An extending write keeps the commands that are there, and makes
the command `$eq` of a plain value that is not null. The flags of an expression are written right
after the expression, so they never stand alone.

Main statement: `Listener.isFilter_of_compile`.
-/

namespace NodeQuery

namespace Json

/-- A written field is there, and the others were there before. -/
theorem eq_or_mem_of_mem_insert {name : String} {value : Json} {fields : List (String × Json)}
    {field : String × Json} (member : field ∈ insert name value fields) :
    field = (name, value) ∨ field ∈ fields := by
  induction fields with
  | nil => exact Or.inl (List.mem_singleton.1 member)
  | cons first rest hypothesis =>
    obtain ⟨key, old⟩ := first
    rw [insert] at member
    split at member
    · rcases List.mem_cons.1 member with new | later
      · exact Or.inl new
      · exact Or.inr (List.mem_cons_of_mem _ later)
    · split at member
      · exact List.mem_cons.1 member
      · rcases List.mem_cons.1 member with same | later
        · exact Or.inr (List.mem_cons.2 (Or.inl same))
        · exact (hypothesis later).imp_right (List.mem_cons_of_mem _)

/-- A field that is found is there. -/
theorem mem_of_lookup {name : String} {fields : List (String × Json)} {value : Json}
    (found : lookup name fields = some value) : (name, value) ∈ fields := by
  induction fields with
  | nil => cases found
  | cons first rest hypothesis =>
    obtain ⟨key, old⟩ := first
    rw [lookup] at found
    split at found
    · rename_i same
      cases found
      rw [same]
      exact List.mem_cons_self
    · exact List.mem_cons_of_mem _ (hypothesis found)

/-- Writing a field keeps every name. -/
theorem isSome_lookup_insert {name : String} {fields : List (String × Json)}
    (found : (lookup name fields).isSome = true) (other : String) (value : Json) :
    (lookup name (insert other value fields)).isSome = true := by
  by_cases same : name = other
  · rw [same, lookup_insert_self]
    rfl
  · rw [lookup_insert_of_ne same]
    exact found

end Json

namespace Filter

open NodeQuery

/-! ## Documents in form -/

/-- The command that matches an expression. -/
def patternCommand : String := "$regex"

/-- The command that holds the flags of an expression. -/
def flagsCommand : String := "$options"

/-- The operands that commands can have. -/
inductive Operand : String → Json → Prop where
  /-- A value to be equal to is neither absent nor an object. -/
  | equal {value : Json} : value.isNull = false → value.isObject = false →
    Operand equalCommand value
  /-- Any value can be compared with. -/
  | compared {command : String} (value : Json) :
    command ∈ ["$ne", "$gt", "$gte", "$lt", "$lte"] → Operand command value
  /-- The allowed values are a list. -/
  | allowed (values : List Json) : Operand inCommand (.array values)
  /-- A field exists or does not. -/
  | present (flag : Bool) : Operand "$exists" (.bool flag)
  /-- An expression is a text. -/
  | pattern (text : String) : Operand patternCommand (.string text)
  /-- The flags of an expression are a text. -/
  | flags (text : String) : Operand flagsCommand (.string text)

/-- Commands of one field: each has an operand that it can have, and there are no flags without
an expression. -/
structure Commands (commands : List (String × Json)) : Prop where
  /-- Each command has its operand. -/
  operands : ∀ command ∈ commands, Operand command.1 command.2
  /-- Flags belong to an expression. -/
  flagged : (Json.lookup flagsCommand commands).isSome = true →
    (Json.lookup patternCommand commands).isSome = true

/-- A term is a value to be equal to, or an object of commands that is not empty. -/
inductive Term : Json → Prop where
  /-- Any value that is no object. -/
  | plain {value : Json} : value.isObject = false → Term value
  /-- Some commands. -/
  | commands {commands : List (String × Json)} : commands ≠ [] → Commands commands →
    Term (.object commands)

/-- The entries that a document can have. -/
inductive Entry : String → Json → Prop where
  /-- The terms, one for each field. -/
  | terms {terms : List (String × Json)} : (∀ term ∈ terms, Term term.2) →
    Entry queryEntry (.object terms)
  /-- The directions of a sort. -/
  | sort {directions : List (String × Json)} :
    (∀ direction ∈ directions, direction.2 = .int 1 ∨ direction.2 = .int (-1)) →
      Entry sortEntry (.object directions)
  /-- A number of documents, of 64 bits. -/
  | count {name : String} {amount : Nat} : name ∈ ["limit", "skip"] → amount < UInt64.size →
    Entry name (.int amount)

/-- The values that are filter documents. -/
inductive IsFilter : Json → Prop where
  /-- An object of such entries. -/
  | document {entries : List (String × Json)} : (∀ entry ∈ entries, Entry entry.1 entry.2) →
    IsFilter (.object entries)

/-- The entry of the terms holds terms. -/
theorem Entry.term_of_query {value : Json} (entry : Entry queryEntry value) :
    ∀ term ∈ value.fields, Term term.2 := by
  generalize named : queryEntry = name at entry
  cases entry with
  | terms all => exact all
  | sort _ => exact absurd named (by decide)
  | count counted _ =>
    subst named
    exact absurd counted (by decide)

/-- The entry of the sort holds directions. -/
theorem Entry.direction_of_sort {value : Json} (entry : Entry sortEntry value) :
    ∀ direction ∈ value.fields, direction.2 = .int 1 ∨ direction.2 = .int (-1) := by
  generalize named : sortEntry = name at entry
  cases entry with
  | terms _ => exact absurd named (by decide)
  | sort all => exact all
  | count counted _ =>
    subst named
    exact absurd counted (by decide)

namespace IsFilter

variable {document : Json}

/-- The entries of a filter document are in form. -/
theorem entry (form : IsFilter document) : ∀ entry ∈ document.fields, Entry entry.1 entry.2 := by
  cases form with
  | document entries => exact entries

/-- What is found in an entry is there in form. -/
theorem exists_entry (form : IsFilter document) {name : String} {field : String × Json}
    (member : field ∈ entryFields name document) :
    ∃ value, Entry name value ∧ field ∈ value.fields := by
  rw [entryFields] at member
  cases found : document.field? name with
  | none =>
    rw [found] at member
    cases member
  | some value =>
    rw [found] at member
    rw [Json.field?_eq_lookup] at found
    exact ⟨value, form.entry _ (Json.mem_of_lookup found), member⟩

/-- The terms of a filter document are in form. -/
theorem term (form : IsFilter document) : ∀ term ∈ terms document, Term term.2 := by
  intro term member
  obtain ⟨value, entry, inside⟩ := form.exists_entry member
  exact entry.term_of_query term inside

/-- The directions of a filter document are in form. -/
theorem direction (form : IsFilter document) :
    ∀ direction ∈ entryFields sortEntry document,
      direction.2 = .int 1 ∨ direction.2 = .int (-1) := by
  intro direction member
  obtain ⟨value, entry, inside⟩ := form.exists_entry member
  exact entry.direction_of_sort direction inside

/-- Writing an entry in form keeps the form. -/
theorem insert (form : IsFilter document) {name : String} {value : Json}
    (entry : Entry name value) : IsFilter (.object (Json.insert name value document.fields)) := by
  refine .document fun other member => ?_
  rcases Json.eq_or_mem_of_mem_insert member with rfl | earlier
  · exact entry
  · exact form.entry other earlier

/-- Writing a term in form keeps the form. -/
theorem insert_term (form : IsFilter document) (field : String) {value : Json}
    (term : Term value) : IsFilter (setTerms (Json.insert field value (terms document)) document) := by
  refine form.insert (.terms fun other member => ?_)
  rcases Json.eq_or_mem_of_mem_insert member with rfl | earlier
  · exact term
  · exact form.term other earlier

/-- The commands on a field are in form, also those that are made of a plain term. -/
theorem commands (form : IsFilter document) (field : String) :
    Commands (Filter.commands field document) := by
  have nothing : Commands [] := ⟨List.forall_mem_nil _, nofun⟩
  have single : ∀ {value : Json}, value.isNull = false → value.isObject = false →
      Commands [(equalCommand, value)] := fun present plain =>
    ⟨List.forall_mem_singleton.2 (.equal present plain), nofun⟩
  rw [Filter.commands]
  cases found : Json.lookup field (terms document) with
  | none => exact nothing
  | some value =>
    have term := form.term _ (Json.mem_of_lookup found)
    cases value with
    | null => exact nothing
    | object commands =>
      cases term with
      | plain shown => cases shown
      | commands _ all => exact all
    | bool value => exact single rfl rfl
    | int value => exact single rfl rfl
    | float value => exact single rfl rfl
    | string value => exact single rfl rfl
    | array values => exact single rfl rfl

/-- Writing a command keeps the form, if its operand is one that it can have and flags are only
written beside an expression. -/
theorem writeCommand (form : IsFilter document) (field : String) {command : String}
    {operand : Json} (fits : Operand command operand)
    (flagged : command = flagsCommand →
      (Json.lookup patternCommand (Filter.commands field document)).isSome = true) :
    IsFilter (Filter.writeCommand field command operand document) := by
  have written : (Json.lookup command
      (Json.insert command operand (Filter.commands field document))).isSome = true := by
    rw [Json.lookup_insert_self]
    rfl
  have old := form.commands field
  refine form.insert_term field (.commands ?_ ⟨fun other member => ?_, fun found => ?_⟩)
  · intro empty
    rw [empty] at written
    cases written
  · rcases Json.eq_or_mem_of_mem_insert member with rfl | earlier
    · exact fits
    · exact old.operands other earlier
  · refine Json.isSome_lookup_insert ?_ command operand
    by_cases same : command = flagsCommand
    · exact flagged same
    · rw [Json.lookup_insert_of_ne (Ne.symm same)] at found
      exact old.flagged found

end IsFilter

/-! ## Changes -/

/-- The changes that keep every filter document in form. -/
inductive Change.Fits : Change → Prop where
  /-- A term in form. -/
  | setTerm (field : String) {value : Json} : Term value → Fits (.setTerm field value)
  /-- A command other than flags, with an operand that it can have. -/
  | setCommand (field : String) {command : String} {operand : Json} :
    Operand command operand → command ≠ flagsCommand → Fits (.setCommand field command operand)
  /-- One more allowed value. -/
  | allow (field : String) (value : Json) : Fits (.allow field value)
  /-- A direction of the sort. -/
  | setSort (name : String) {direction : Json} :
    direction = .int 1 ∨ direction = .int (-1) → Fits (.setSort name direction)
  /-- An entry in form. -/
  | setEntry {name : String} {value : Json} : Entry name value → Fits (.setEntry name value)

/-- A list of allowed values stays a list. -/
theorem operand_extendAllowed (value : Json) (before : Option Json) :
    Operand inCommand (extendAllowed value before) := by
  unfold extendAllowed
  split <;> exact .allowed _

/-- Such a change keeps the form. -/
theorem IsFilter.perform {document : Json} (form : IsFilter document) {change : Change}
    (fits : change.Fits) : IsFilter (change.perform document) := by
  cases fits with
  | setTerm field term => exact form.insert_term field term
  | setCommand field operand plain =>
    exact form.writeCommand field operand fun same => absurd same plain
  | allow field value =>
    exact form.writeCommand field (operand_extendAllowed value _) fun same => absurd same (by decide)
  | setSort name holds =>
    refine form.insert (.sort fun other member => ?_)
    rcases Json.eq_or_mem_of_mem_insert member with rfl | earlier
    · exact holds
    · exact form.direction other earlier
  | setEntry entry => exact form.insert entry

/-! ## Simple selectors -/

/-- The JSON form of a condition is no object. -/
theorem isObject_toJson (condition : Value) : condition.toJson.isObject = false := by
  cases condition with
  | float value =>
    rw [Value.toJson]
    split <;> rfl
  | _ => rfl

/-- The term of a path is in form. -/
theorem term_pathTerm (resolve : Resolver) (path : Path) : Term (pathTerm resolve path) := by
  have single : ∀ {command : String} {operand : Json}, Operand command operand →
      command ≠ flagsCommand → Term (.object [(command, operand)]) := by
    intro command operand fits plain
    refine .commands (List.cons_ne_nil _ _) ⟨List.forall_mem_singleton.2 fits, fun found => ?_⟩
    rw [Json.lookup, if_neg plain] at found
    cases found
  have resolved : ∀ segments, Term (segmentsTerm segments) := by
    intro segments
    unfold segmentsTerm
    split
    · exact single (.pattern _) (by decide)
    · exact .plain rfl
  unfold pathTerm
  split
  · exact resolved _
  · split
    · refine .commands (List.cons_ne_nil _ _) ⟨?_, fun found => absurd found (by decide)⟩
      exact List.forall_mem_cons.2 ⟨.present false, List.forall_mem_singleton.2 (.allowed [])⟩
    · exact resolved _

/-- A count is a number of 64 bits. -/
theorem countOf?_lt {text : List Char} {amount : Nat} (counted : countOf? text = some amount) :
    amount < UInt64.size := by
  simp only [countOf?, Option.ite_none_left_eq_some, Option.ite_none_right_eq_some,
    Option.some.injEq] at counted
  obtain ⟨_, bounded, rfl⟩ := counted
  exact bounded

/-- A comparison by a text keeps the form if its changes do for every text. -/
theorem isFilter_ofText {config : Config} {resolve : Resolver} {test : Attribute}
    {operator : Operator} {condition : Value} {changes : List Char → List Change}
    (plan : planOf config resolve (.attributeTest test) = .ofText operator condition changes)
    {document : Json} (form : IsFilter document)
    (kept : ∀ text, IsFilter (performAll (changes text) document)) :
    IsFilter (performAll (changesOf config resolve (.attributeTest test)) document) := by
  rw [changesOf, plan, Plan.ofText]
  cases conditionText operator condition with
  | ok text => exact kept text
  | error failure => exact form

/-- An expression keeps the form, with its flags behind it. -/
theorem isFilter_expressionChanges {document : Json} (form : IsFilter document) (field : String)
    (pattern : List Char) :
    IsFilter (performAll (expressionChanges field pattern) document) := by
  have expression : ∀ text, IsFilter ((regexChange field text).perform document) := fun text =>
    form.perform (.setCommand field (.pattern _) (by decide))
  unfold expressionChanges
  split
  · rename_i flags rest _
    refine (expression rest).writeCommand field (.flags _) fun _ => ?_
    rw [regexChange, Change.perform, commands, writeCommand, terms_setTerms,
      Json.lookup_insert_self, commandsOf]
    change (Json.lookup patternCommand (Json.insert patternCommand _ _)).isSome = true
    rw [Json.lookup_insert_self]
    rfl
  · exact expression pattern

/-- An attribute test keeps the form. -/
theorem isFilter_attributeTest (config : Config) (resolve : Resolver) (test : Attribute)
    {document : Json} (form : IsFilter document) :
    IsFilter (performAll (changesOf config resolve (.attributeTest test)) document) := by
  obtain ⟨name, operator, condition⟩ := test
  have comparison : ∀ {command : String}, command ∈ ["$ne", "$gt", "$gte", "$lt", "$lte"] →
      command ≠ flagsCommand →
        IsFilter ((Change.setCommand name command condition.toJson).perform document) :=
    fun compares plain => form.perform (.setCommand name (.compared _ compares) plain)
  cases operator with
  | none => exact form.perform (.setCommand name (.present true) (by decide))
  | some operator =>
    cases operator with
    | equals => exact form.perform (.setTerm name (.plain (isObject_toJson condition)))
    | notEquals | greater | greaterOrEqual | less | lessOrEqual =>
      exact comparison (by decide) (by decide)
    | inList => exact form.perform (.setCommand name (.allowed _) (by decide))
    | contains | startsWith | endsWith =>
      refine isFilter_ofText rfl form fun text => ?_
      exact form.perform (.setCommand name (.pattern _) (by decide))
    | regExp => exact isFilter_ofText rfl form (isFilter_expressionChanges form name)

/-- A pseudo selector keeps the form. -/
theorem isFilter_pseudo (config : Config) (resolve : Resolver) (pseudo : Pseudo)
    {document : Json} (form : IsFilter document) :
    IsFilter (performAll (changesOf config resolve (.pseudo pseudo)) document) := by
  rw [changesOf, planOf]
  cases pseudo with
  | sort name order =>
    refine form.perform (.setSort name ?_)
    cases order with
    | ascending => exact Or.inl rfl
    | descending => exact Or.inr rfl
  | named name value =>
    rw [pseudoPlan]
    cases counted : countEntry? name with
    | none => exact form
    | some entry =>
      have limits := mem_of_counted counted
      cases read : value.bind fun text => countOf? text.toList with
      | none => exact form
      | some amount =>
        obtain ⟨text, _, number⟩ := Option.bind_eq_some_iff.1 read
        exact form.perform (.setEntry (.count limits (countOf?_lt number)))

/-- Every simple selector keeps the form, with every choice of fields and every resolver. -/
theorem IsFilter.apply {document : Json} (form : IsFilter document) (config : Config)
    (resolve : Resolver) (simple : Simple) :
    IsFilter (performAll (changesOf config resolve simple) document) := by
  -- one change to the field of a kind of selector, or none where the kind has no field
  have onField : ∀ {field : Option String} {write : String → Change},
      planOf config resolve simple = .onField field write → (∀ name, (write name).Fits) →
        IsFilter (performAll (changesOf config resolve simple) document) := by
    intro field write plan fits
    rw [changesOf, plan]
    cases field with
    | none => exact form
    | some name => exact form.perform (fits name)
  cases simple with
  | universal => exact form
  | element name => exact onField rfl fun field => .setTerm field (.plain rfl)
  | id value => exact form.perform (.setTerm config.idField (.plain rfl))
  | role value => exact onField rfl fun field => .allow field _
  | className value => exact onField rfl fun field => .allow field _
  | path path => exact onField rfl fun field => .setTerm field (term_pathTerm resolve path)
  | attributeTest test => exact isFilter_attributeTest config resolve test form
  | pseudo pseudo => exact isFilter_pseudo config resolve pseudo form

/-- Simple selectors that are applied one after the other keep the form. -/
theorem IsFilter.applyAll {document : Json} (form : IsFilter document) (config : Config)
    (resolve : Resolver) (simples : List Simple) :
    IsFilter (performAll (simples.flatMap (changesOf config resolve)) document) := by
  induction simples generalizing document with
  | nil => exact form
  | cons simple rest hypothesis =>
    rw [List.flatMap_cons, performAll_append]
    exact hypothesis (form.apply config resolve simple)

/-! ## Built documents -/

/-- The document that is prepared of the absent value has no terms. -/
theorem isFilter_prepare_null : IsFilter (prepare .null) :=
  .document (List.forall_mem_singleton.2 (.terms (List.forall_mem_nil _)))

/-- Whatever is built of the absent value is a filter document. -/
theorem Listener.isFilter_of_compile (listener : Listener) {selector : Selector}
    (reachable : selector.Reachable) {document : Json}
    (built : listener.compile selector .null = .ok document) : IsFilter document := by
  obtain ⟨_, rfl⟩ := (listener.compile_eq_ok_iff reachable .null document).1 built
  exact isFilter_prepare_null.applyAll listener.config listener.resolve selector.applied

/-- An expression with flags and an allowed role join an equality of the same field. -/
theorem Listener.isFilter_of_compile_sharedField :
    let listener := Listener.new { Config.usual with roleField := some "a" } (fun _ => none) 0
    let selector : Selector := .ofChain ⟨⟨[.attributeTest ⟨"a", some .equals, .int 2⟩,
      .attributeTest ⟨"a", some .regExp, .text "(?i)x"⟩, .role "news",
      .pseudo (.sort "a" .descending), .pseudo (.named "limit" (some "3"))]⟩, []⟩
    let document : Json := .object [("limit", .int 3),
      ("query", .object [("a", .object [("$eq", .int 2), ("$in", .array [.string "news"]),
        ("$options", .string "i"), ("$regex", .string "x")])]),
      ("sort", .object [("a", .int (-1))])]
    listener.compile selector .null = .ok document ∧ IsFilter document := by
  intro listener selector document
  have reachable : selector.Reachable := Selector.reachable_ofChain _
  have built : listener.compile selector .null = .ok document := by
    refine (listener.compile_eq_ok_iff reachable .null document).2 ⟨?_, by decide +kernel⟩
    exact List.forall_mem_cons.2 ⟨⟨_, rfl⟩, List.forall_mem_cons.2 ⟨⟨_, rfl⟩,
      List.forall_mem_cons.2 ⟨⟨_, rfl⟩, List.forall_mem_cons.2 ⟨⟨_, rfl⟩,
        List.forall_mem_singleton.2 ⟨_, rfl⟩⟩⟩⟩⟩
  exact ⟨built, listener.isFilter_of_compile reachable built⟩

end Filter

end NodeQuery
