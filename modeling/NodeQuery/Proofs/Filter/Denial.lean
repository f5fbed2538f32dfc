import Mathlib.Data.List.Induction
import NodeQuery.Proofs.Filter.Survival

/-!
# Fields without allowed values

A path whose root has no stored path makes an impossible term: it allows its field no value at
all. The term stands in the slot of an ordinary field, and the selectors applied later may write
there too. An identifier, an element, an equality or another path with the same field replaces
the term, and a role, a class or a membership test writes the list of allowed values. So the
field is left without allowed values if and only if the last of all these selectors leaves it
so.

Main statement: `Listener.allowsNothing_compile_iff`.
-/

namespace NodeQuery.Filter

open NodeQuery

/-- The list that allows no value. -/
def noValue : Json := .array []

/-! ## Changes -/

namespace Change

/-- Whether a change decides which values a field may have: it replaces the term of the field or
writes the list of allowed values. -/
def decidesAllowed (field : String) (change : Change) : Bool :=
  change.replacesTerm field || change.writesCommand field inCommand

/-- Whether a change leaves a field without allowed values. -/
def allowsNothing (field : String) : Change → Bool
  | setTerm name term => name == field && term.field? inCommand == some noValue
  | setCommand name written value => name == field && written == inCommand && value == noValue
  | _ => false

/-- A list of allowed values with one more allows something. -/
theorem extendAllowed_ne_noValue (value : Json) (term : Option Json) :
    extendAllowed value term ≠ noValue := by
  unfold extendAllowed noValue
  split <;> simp

/-- After a change that decides the allowed values of a field there are none if and only if the
change leaves none; any other change keeps what was decided before. -/
theorem commandAt_perform_eq_noValue_iff {change : Change} (spares : change.sparesTerms = true)
    (field : String) (document : Json) :
    commandAt field inCommand (change.perform document) = some noValue ↔
      if change.decidesAllowed field then change.allowsNothing field = true
      else commandAt field inCommand document = some noValue := by
  have other : inCommand ≠ equalCommand := by decide
  by_cases decides : change.decidesAllowed field = true
  · rw [if_pos decides]
    rw [decidesAllowed, Bool.or_eq_true] at decides
    cases change with
    | setTerm name term =>
      have same : name = field := by
        rcases decides with replaced | written
        · simpa [replacesTerm] using replaced
        · simp only [writesCommand, Bool.and_eq_true] at written
          exact beq_iff_eq.1 written.1
      subst same
      rw [perform, commandAt_eq, terms_setTerms, Json.lookup_insert_self, Option.bind_some]
      simp [allowsNothing]
    | setCommand name written value =>
      have both : name = field ∧ written = inCommand := by
        simpa [replacesTerm, writesCommand] using decides
      rw [perform, commandAt_writeCommand other, if_pos both]
      simp [allowsNothing, both]
    | allow name value =>
      have same : name = field := by
        simpa [replacesTerm, writesCommand] using decides
      rw [perform, commandAt_writeCommand other, if_pos ⟨same, rfl⟩]
      simp [allowsNothing, extendAllowed_ne_noValue]
    | setSort name direction => simp [replacesTerm, writesCommand] at decides
    | setEntry name value => simp [replacesTerm, writesCommand] at decides
  · rw [if_neg decides]
    rw [decidesAllowed, Bool.or_eq_true, not_or, Bool.not_eq_true, Bool.not_eq_true] at decides
    rw [commandAt_perform_of_kept other spares decides.1 decides.2]

end Change

/-! ## Simple selectors -/

/-- Whether a simple selector decides which values a field may have: it replaces the term of the
field or writes the list of allowed values. -/
def decidesAllowed (config : Config) (resolve : Resolver) (field : String) (simple : Simple) :
    Bool :=
  replacesTerm config field simple || writesCommand config resolve field inCommand simple

/-- Whether a simple selector leaves a field without allowed values: a path whose root has no
stored path, or a membership test of nothing. -/
def allowsNothing (config : Config) (resolve : Resolver) (field : String) : Simple → Bool
  | .path path =>
    config.pathField == some field && path.root.any fun root => (resolve root).isNone
  | .attributeTest test =>
    test.name == field && test.operator == some .inList && (allowedValues test.condition).isEmpty
  | _ => false

/-- The JSON form of a condition has no commands. -/
theorem field?_toJson (condition : Value) (command : String) :
    condition.toJson.field? command = none := by
  cases condition with
  | float value =>
    rw [Value.toJson]
    split <;> rfl
  | _ => rfl

/-- The term of a path lists no allowed values unless its root has no stored path; then it lists
none. -/
theorem field?_pathTerm_eq_noValue_iff (resolve : Resolver) (path : Path) :
    (pathTerm resolve path).field? inCommand = some noValue ↔
      (path.root.any fun root => (resolve root).isNone) = true := by
  have resolved : ∀ segments, (segmentsTerm segments).field? inCommand ≠ some noValue := by
    intro segments
    unfold segmentsTerm
    split
    · simp [Json.field?, Json.lookup, inCommand]
    · simp [Json.field?]
  unfold pathTerm
  cases path.root with
  | none => simp [resolved]
  | some root =>
    cases found : resolve root with
    | none => simp [found, impossible, Json.field?, Json.lookup, inCommand, noValue]
    | some stored => simp [found, resolved]

/-- An attribute test that decides the allowed values of a field makes one change: its own
condition, or the values that it lists. -/
theorem changesOf_attributeTest_of_decides {config : Config} {resolve : Resolver}
    {field : String} {test : Attribute}
    (decides : decidesAllowed config resolve field (.attributeTest test) = true) :
    test.name = field ∧
      (test.operator = some .equals ∧ changesOf config resolve (.attributeTest test) =
          [.setTerm field test.condition.toJson] ∨
        test.operator = some .inList ∧ changesOf config resolve (.attributeTest test) =
          [.setCommand field inCommand (.array (allowedValues test.condition))]) := by
  obtain ⟨name, operator, condition⟩ := test
  -- a comparison by a text writes no list, whatever the text is
  have ofText : ∀ (written : Operator) (changes : List Char → List Change),
      (∀ text, (changes text).any (·.writesCommand field inCommand) = false) →
        planOf config resolve (.attributeTest ⟨name, operator, condition⟩) =
            .ofText written condition changes →
          writesCommand config resolve field inCommand
            (.attributeTest ⟨name, operator, condition⟩) = false := by
    intro written changes silent plan
    rw [writesCommand, changesOf, plan, Plan.ofText]
    cases conditionText written condition with
    | ok text => exact silent text
    | error failure => rfl
  rw [decidesAllowed, Bool.or_eq_true] at decides
  cases operator with
  | none =>
    simp [replacesTerm, writesCommand, changesOf, planOf, attributePlan, Change.writesCommand,
      inCommand] at decides
  | some operator =>
    cases operator with
    | equals =>
      have same : name = field := by
        rcases decides with replaced | written
        · simpa [replacesTerm] using replaced
        · simp [writesCommand, changesOf, planOf, attributePlan, comparisonPlan,
            Change.writesCommand, field?_toJson] at written
      exact ⟨same, .inl ⟨rfl, by rw [← same]; rfl⟩⟩
    | inList =>
      have same : name = field := by
        simpa [replacesTerm, writesCommand, changesOf, planOf, attributePlan, comparisonPlan,
          Change.writesCommand] using decides
      exact ⟨same, .inr ⟨rfl, by rw [← same]; rfl⟩⟩
    | notEquals | greater | greaterOrEqual | less | lessOrEqual =>
      simp [replacesTerm, writesCommand, changesOf, planOf, attributePlan, comparisonPlan,
        Change.writesCommand, inCommand] at decides
    | contains | startsWith | endsWith =>
      rw [ofText _ _ (fun text => by simp [regexChange, Change.writesCommand, inCommand]) rfl]
        at decides
      simp [replacesTerm] at decides
    | regExp =>
      rw [ofText _ _ (fun text => by
        unfold expressionChanges
        split <;> simp [regexChange, Change.writesCommand, inCommand]) rfl] at decides
      simp [replacesTerm] at decides

/-- A selector with a field of its own decides allowed values by the change to that field. -/
theorem exists_changesOf_of_onField {config : Config} {resolve : Resolver} {field : String}
    {simple : Simple} {own : Option String} {write : String → Change}
    (plan : planOf config resolve simple = .onField own write)
    (decides : decidesAllowed config resolve field simple = true) :
    ∃ name, own = some name ∧ changesOf config resolve simple = [write name] := by
  rw [decidesAllowed, ← any_replacesTerm_changesOf config resolve, writesCommand] at decides
  cases own with
  | none => simp [changesOf, plan, Plan.onField] at decides
  | some name => exact ⟨name, rfl, by rw [changesOf, plan]; rfl⟩

/-- A pseudo selector decides no allowed values. -/
theorem decidesAllowed_pseudo (config : Config) (resolve : Resolver) (field : String)
    (pseudo : Pseudo) : decidesAllowed config resolve field (.pseudo pseudo) = false := by
  rw [decidesAllowed, writesCommand_pseudo]
  rfl

/-- A simple selector that decides the allowed values of a field does so by one change, which
leaves none if and only if the selector does. -/
theorem exists_changesOf_of_decides {config : Config} {resolve : Resolver} {field : String}
    {simple : Simple} (decides : decidesAllowed config resolve field simple = true) :
    ∃ change : Change, changesOf config resolve simple = [change] ∧
      change.decidesAllowed field = true ∧
      (change.allowsNothing field = true ↔ allowsNothing config resolve field simple = true) := by
  have made : ∀ change : Change, changesOf config resolve simple = [change] →
      change.decidesAllowed field = true := by
    intro change only
    have all := any_replacesTerm_changesOf config resolve field simple
    rw [decidesAllowed, writesCommand, ← all, only, List.any_cons, List.any_cons, List.any_nil,
      List.any_nil, Bool.or_false, Bool.or_false] at decides
    exact decides
  cases simple with
  | universal => simp [decidesAllowed, replacesTerm, writesCommand, changesOf, planOf] at decides
  | element name =>
    obtain ⟨own, _, only⟩ := exists_changesOf_of_onField rfl decides
    exact ⟨_, only, made _ only, by simp [Change.allowsNothing, allowsNothing, Json.field?]⟩
  | id value =>
    exact ⟨_, rfl, made _ rfl, by simp [Change.allowsNothing, allowsNothing, Json.field?]⟩
  | role value | className value =>
    obtain ⟨own, _, only⟩ := exists_changesOf_of_onField rfl decides
    exact ⟨_, only, made _ only, by simp [Change.allowsNothing, allowsNothing]⟩
  | path path =>
    obtain ⟨own, matched, only⟩ := exists_changesOf_of_onField rfl decides
    refine ⟨_, only, made _ only, ?_⟩
    rw [Change.allowsNothing, allowsNothing, matched, Bool.and_eq_true, Bool.and_eq_true,
      beq_iff_eq, beq_iff_eq, beq_iff_eq, field?_pathTerm_eq_noValue_iff, Option.some.injEq]
  | attributeTest test =>
    obtain ⟨same, ⟨operator, only⟩ | ⟨operator, only⟩⟩ :=
      changesOf_attributeTest_of_decides decides
    · exact ⟨_, only, made _ only, by
        simp [Change.allowsNothing, allowsNothing, field?_toJson, operator]⟩
    · exact ⟨_, only, made _ only, by
        simp [Change.allowsNothing, allowsNothing, operator, same, noValue]⟩
  | pseudo pseudo =>
    rw [decidesAllowed_pseudo] at decides
    cases decides

/-- After a simple selector that decides the allowed values of a field there are none if and only
if the selector leaves none; any other one keeps what was decided before. -/
theorem commandAt_changesOf_eq_noValue_iff (config : Config) (resolve : Resolver)
    (field : String) (simple : Simple) (document : Json) :
    commandAt field inCommand (performAll (changesOf config resolve simple) document) =
        some noValue ↔
      if decidesAllowed config resolve field simple then
        allowsNothing config resolve field simple = true
      else commandAt field inCommand document = some noValue := by
  by_cases decides : decidesAllowed config resolve field simple = true
  · obtain ⟨change, only, changeDecides, same⟩ := exists_changesOf_of_decides decides
    have spares : change.sparesTerms = true :=
      (isMade_of_mem_changesOf (only ▸ List.mem_singleton_self change)).sparesTerms
    have performed := Change.commandAt_perform_eq_noValue_iff spares field document
    rw [if_pos changeDecides, same] at performed
    rw [if_pos decides, only]
    exact performed
  · rw [if_neg decides]
    rw [decidesAllowed, Bool.or_eq_true, not_or, Bool.not_eq_true, Bool.not_eq_true] at decides
    have kept : commandAt field inCommand
        (performAll ([simple].flatMap (changesOf config resolve)) document) =
          if [simple].any (replacesTerm config field) then none
          else commandAt field inCommand document :=
      commandAt_performAll_changesOf (by decide) (by simpa using decides.2) document
    rw [List.flatMap_singleton] at kept
    rw [kept]
    simp [decides.1]

/-- Selectors that are applied one after the other leave a field without allowed values if and
only if the last of those that decide them does; if none decides, it is as before. -/
theorem commandAt_performAll_eq_noValue_iff (config : Config) (resolve : Resolver)
    (field : String) (simples : List Simple) (document : Json) :
    commandAt field inCommand
        (performAll (simples.flatMap (changesOf config resolve)) document) = some noValue ↔
      match (simples.filter (decidesAllowed config resolve field)).getLast? with
      | some last => allowsNothing config resolve field last = true
      | none => commandAt field inCommand document = some noValue := by
  -- the last selector is the one that writes last
  induction simples using List.reverseRecOn with
  | nil => rfl
  | append_singleton front last hypothesis =>
    rw [List.flatMap_append, List.flatMap_singleton, performAll_append,
      commandAt_changesOf_eq_noValue_iff, List.filter_append]
    cases decides : decidesAllowed config resolve field last with
    | true => simp [decides]
    | false => simpa [decides] using hypothesis

/-! ## Built documents -/

/-- A filter whose selector has a path with an unresolved root allows the field of paths no value
if and only if no selector that is applied later takes this back: the last of those that decide
the allowed values of the field leaves none either, or there is none of them. -/
theorem Listener.allowsNothing_compile_iff (listener : Listener) {selector : Selector}
    (reachable : selector.Reachable) {initial document : Json}
    (built : listener.compile selector initial = .ok document) {field : String}
    (matched : listener.config.pathField = some field) {front back : List Simple} {path : Path}
    (order : selector.applied = front ++ .path path :: back) {root : Root}
    (rooted : path.root = some root) (unresolved : listener.resolve root = none) :
    commandAt field inCommand document = some noValue ↔
      ∀ last, (back.filter (decidesAllowed listener.config listener.resolve field)).getLast? =
          some last →
        allowsNothing listener.config listener.resolve field last = true := by
  have result := ((listener.compile_eq_ok_iff reachable initial document).1 built).2
  rw [order, List.flatMap_append, List.flatMap_cons, performAll_append, performAll_append] at result
  have denied : commandAt field inCommand
      (performAll (changesOf listener.config listener.resolve (.path path))
        (performAll (front.flatMap (changesOf listener.config listener.resolve))
          (prepare initial))) = some noValue := by
    rw [commandAt_changesOf_eq_noValue_iff]
    simp [decidesAllowed, replacesTerm, allowsNothing, matched, rooted, unresolved]
  rw [result, commandAt_performAll_eq_noValue_iff]
  cases final : (back.filter
      (decidesAllowed listener.config listener.resolve field)).getLast? with
  | none => simp [denied]
  | some last => simp

/-- Two unresolved paths deny the field twice: the plain path between them is taken back. -/
theorem Listener.allowsNothing_compile_unresolvedOutermost :
    let listener := Listener.new .usual (fun _ => none) 0
    let selector : Selector := .ofChain ⟨⟨[.path ⟨some (.id "y"), []⟩]⟩,
      [(.child, ⟨[.path ⟨none, ["a"]⟩]⟩), (.descendant, ⟨[.path ⟨some (.id "x"), []⟩]⟩)]⟩
    let document : Json := .object [("query", .object [("path", impossible)])]
    listener.compile selector .null = .ok document ∧
      commandAt "path" inCommand document = some noValue := by
  intro listener selector document
  have reachable : selector.Reachable := Selector.reachable_ofChain _
  have order : selector.applied = [] ++ .path ⟨some (.id "x"), []⟩ ::
      [.path ⟨none, ["a"]⟩, .path ⟨some (.id "y"), []⟩] := rfl
  have built : listener.compile selector .null = .ok document := by
    refine (listener.compile_eq_ok_iff reachable .null document).2 ⟨?_, by decide +kernel⟩
    exact List.forall_mem_cons.2 ⟨⟨_, rfl⟩, List.forall_mem_cons.2 ⟨⟨_, rfl⟩,
      List.forall_mem_singleton.2 ⟨_, rfl⟩⟩⟩
  refine ⟨built, (listener.allowsNothing_compile_iff reachable built rfl order rfl rfl).2 ?_⟩
  intro last final
  cases final
  rfl

/-- A plain path that is applied after an unresolved one allows its own value. -/
theorem Listener.not_allowsNothing_compile_resolvedOutermost :
    let listener := Listener.new .usual (fun _ => none) 0
    let selector : Selector := .ofChain ⟨⟨[.path ⟨none, ["a"]⟩]⟩,
      [(.descendant, ⟨[.path ⟨some (.id "x"), []⟩]⟩)]⟩
    let document : Json := .object [("query", .object [("path", .string "/a")])]
    selector.Reachable ∧ listener.compile selector .null = .ok document ∧
      listener.config.pathField = some "path" ∧
      selector.applied = [] ++ .path ⟨some (.id "x"), []⟩ :: [.path ⟨none, ["a"]⟩] ∧
      listener.resolve (.id "x") = none ∧ commandAt "path" inCommand document = none := by
  intro listener selector document
  have reachable : selector.Reachable := Selector.reachable_ofChain _
  have built : listener.compile selector .null = .ok document := by
    refine (listener.compile_eq_ok_iff reachable .null document).2 ⟨?_, by decide +kernel⟩
    exact List.forall_mem_cons.2 ⟨⟨_, rfl⟩, List.forall_mem_singleton.2 ⟨_, rfl⟩⟩
  exact ⟨reachable, built, rfl, rfl, rfl, rfl⟩

end NodeQuery.Filter
