import Mathlib.Data.List.Induction
import NodeQuery.Proofs.Filter.Denial
import NodeQuery.Proofs.Filter.Form

/-!
# Expressions and their flags

An expression is put on a field by four operators and by a path with wildcards. The flags at the
start of a hand-written expression are a command of their own. The other operators write the
expression alone, so flags that an earlier selector has left on the field stay beside it. A path
makes a whole term, without the flags of others.

So the expression of a field is always the one that was written last. Its flags are those that it
was written with, unless it has none and the flags of an earlier expression are left over.

Main statement: `Listener.expression_compile`.
-/

namespace NodeQuery.Filter

open NodeQuery

/-- A regular expression and the flags that are set apart from it. -/
structure Expression where
  /-- The text without the flags. -/
  pattern : List Char
  /-- The letters of the flags, if there are any. -/
  flags : Option (List Char)

/-- A hand-written expression, whose leading flags are set apart. -/
def Expression.ofWritten (text : List Char) : Expression :=
  match splitFlags? text with
  | some (flags, pattern) => ⟨pattern, some flags⟩
  | none => ⟨text, none⟩

/-- The changes that write an expression on a field. -/
def Expression.changes (field : String) (expression : Expression) : List Change :=
  regexChange field expression.pattern :: (expression.flags.map fun flags =>
    Change.setCommand field flagsCommand (.string (String.ofList flags))).toList

/-- The expression that an operator makes of a text. -/
def operatorExpression? (text : List Char) : Operator → Option Expression
  | .contains => some ⟨['.', '*'] ++ literalPattern text ++ ['.', '*'], none⟩
  | .startsWith => some ⟨'^' :: literalPattern text, none⟩
  | .endsWith => some ⟨literalPattern text ++ ['$'], none⟩
  | .regExp => some (.ofWritten text)
  | _ => none

/-- The expression of an attribute test. -/
def testExpression? (test : Attribute) : Option Expression :=
  match test.operator with
  | none => none
  | some operator =>
    match conditionText operator test.condition with
    | .ok text => operatorExpression? text operator
    | .error _ => none

/-- The segments of a path with those of its root, if the root has a stored path. -/
def segmentsOf? (resolve : Resolver) (path : Path) : Option (List String) :=
  match path.root with
  | none => some path.segments
  | some root => (resolve root).map fun stored => storedSegments stored ++ path.segments

/-- The expression of a path with wildcards. -/
def pathExpression? (resolve : Resolver) (path : Path) : Option Expression :=
  (segmentsOf? resolve path).bind fun segments =>
    if segments.contains Path.wildcard then
      some ⟨pathPattern (segments.map String.toList), none⟩
    else none

/-- The expression that a simple selector puts on a field. -/
def expressionOf? (config : Config) (resolve : Resolver) (field : String) :
    Simple → Option Expression
  | .attributeTest test => if test.name = field then testExpression? test else none
  | .path path => if config.pathField = some field then pathExpression? resolve path else none
  | _ => none

/-! ## Attribute tests -/

/-- A hand-written expression is written with its flags. -/
theorem expressionChanges_eq (field : String) (text : List Char) :
    expressionChanges field text = (Expression.ofWritten text).changes field := by
  unfold expressionChanges Expression.ofWritten
  cases splitFlags? text <;> rfl

/-- A test with an expression writes it on its field. -/
theorem changesOf_of_testExpression {test : Attribute} {expression : Expression}
    (made : testExpression? test = some expression) (config : Config) (resolve : Resolver) :
    changesOf config resolve (.attributeTest test) = expression.changes test.name := by
  obtain ⟨name, operator, condition⟩ := test
  cases operator with
  | none => cases made
  | some operator =>
    cases readable : conditionText operator condition with
    | error failure => simp [testExpression?, readable] at made
    | ok text =>
      have expressed : operatorExpression? text operator = some expression := by
        simpa [testExpression?, readable] using made
      cases operator with
      | contains | startsWith | endsWith =>
        cases expressed
        simp [changesOf, planOf, attributePlan, comparisonPlan, Plan.ofText, readable,
          Expression.changes]
      | regExp =>
        cases expressed
        simp [changesOf, planOf, attributePlan, comparisonPlan, Plan.ofText, readable,
          expressionChanges_eq]
      | equals | notEquals | greater | greaterOrEqual | less | lessOrEqual | inList =>
        cases expressed

/-- A test without an expression writes neither an expression nor flags. -/
theorem writesCommand_of_testExpression_eq_none {test : Attribute}
    (unmade : testExpression? test = none) (config : Config) (resolve : Resolver)
    (field : String) {command : String} (either : command ∈ [patternCommand, flagsCommand]) :
    writesCommand config resolve field command (.attributeTest test) = false := by
  obtain ⟨name, operator, condition⟩ := test
  have failed : ∀ {operator changes},
      planOf config resolve (.attributeTest ⟨name, some operator, condition⟩) =
          .ofText operator condition changes →
        (∀ text, operatorExpression? text operator ≠ none) →
          testExpression? ⟨name, some operator, condition⟩ = none →
            writesCommand config resolve field command
              (.attributeTest ⟨name, some operator, condition⟩) = false := by
    intro operator changes plan expressed unmade
    rw [writesCommand, changesOf, plan, Plan.ofText]
    cases readable : conditionText operator condition with
    | error failure => rfl
    | ok text =>
      simp only [testExpression?, readable] at unmade
      exact absurd unmade (expressed text)
  -- any other command is written without an expression and without flags
  have apart : ∀ {other : String} {value : Json}, other ∉ [patternCommand, flagsCommand] →
      [Change.setCommand name other value].any (·.writesCommand field command) = false := by
    intro other value outside
    have distinct : other ≠ command := fun same => outside (same ▸ either)
    simp [Change.writesCommand, distinct]
  cases operator with
  | none => exact apart (by decide)
  | some operator =>
    cases operator with
    | contains | startsWith | endsWith | regExp =>
      exact failed rfl (fun _ => Option.some_ne_none _) unmade
    | equals =>
      have term : [Change.setTerm name condition.toJson].any (·.writesCommand field command) =
          false := by simp [Change.writesCommand, field?_toJson]
      exact term
    | notEquals | greater | greaterOrEqual | less | lessOrEqual | inList =>
      exact apart (by decide)

/-! ## Paths -/

/-- The term of a path is that of its segments. -/
theorem pathTerm_eq (resolve : Resolver) (path : Path) :
    pathTerm resolve path = ((segmentsOf? resolve path).map segmentsTerm).getD impossible := by
  unfold pathTerm segmentsOf?
  cases path.root with
  | none => rfl
  | some root => cases found : resolve root <;> simp only [found] <;> rfl

/-- The term of a path with an expression holds the expression alone. -/
theorem pathTerm_of_pathExpression {resolve : Resolver} {path : Path} {expression : Expression}
    (made : pathExpression? resolve path = some expression) :
    expression.flags = none ∧ pathTerm resolve path =
      .object [(patternCommand, .string (String.ofList expression.pattern))] := by
  obtain ⟨segments, resolved, wild⟩ := Option.bind_eq_some_iff.1 made
  obtain ⟨present, rfl⟩ : segments.contains Path.wildcard = true ∧
      ⟨pathPattern (segments.map String.toList), none⟩ = expression := by simpa using wild
  refine ⟨rfl, ?_⟩
  rw [pathTerm_eq, resolved, Option.map_some, Option.getD_some, segmentsTerm, if_pos present]
  rfl

/-- The term of a path without an expression holds neither an expression nor flags. -/
theorem field?_pathTerm_of_pathExpression_eq_none {resolve : Resolver} {path : Path}
    (unmade : pathExpression? resolve path = none) {command : String}
    (either : command ∈ [patternCommand, flagsCommand]) :
    (pathTerm resolve path).field? command = none := by
  rw [pathTerm_eq]
  cases resolved : segmentsOf? resolve path with
  | none =>
    simp only [patternCommand, flagsCommand, List.mem_cons, List.not_mem_nil, or_false] at either
    rcases either with rfl | rfl <;> decide
  | some segments =>
    have tame : ¬segments.contains Path.wildcard = true := by
      simpa [pathExpression?, resolved] using unmade
    rw [Option.map_some, Option.getD_some, segmentsTerm, if_neg tame]
    rfl

/-! ## Simple selectors -/

variable {config : Config} {resolve : Resolver} {field : String} {simple : Simple}

/-- How a simple selector puts an expression on a field: beside the other commands, or as the
whole term. -/
inductive Puts (config : Config) (field : String) (expression : Expression) (simple : Simple) :
    List Change → Prop where
  /-- The expression is written, and then its flags. -/
  | beside : replacesTerm config field simple = false →
    Puts config field expression simple (expression.changes field)
  /-- The expression becomes the term of the field. -/
  | whole : replacesTerm config field simple = true → expression.flags = none →
    Puts config field expression simple [.setTerm field
      (.object [(patternCommand, .string (String.ofList expression.pattern))])]

/-- A simple selector with an expression puts it on the field. -/
theorem puts_changesOf {expression : Expression}
    (made : expressionOf? config resolve field simple = some expression) :
    Puts config field expression simple (changesOf config resolve simple) := by
  cases simple with
  | attributeTest test =>
    obtain ⟨rfl, written⟩ : test.name = field ∧ testExpression? test = some expression := by
      simpa [expressionOf?] using made
    rw [changesOf_of_testExpression written]
    have unequal : test.operator ≠ some .equals := by
      intro equal
      simp only [testExpression?, equal] at written
      split at written <;> cases written
    exact .beside (by simp [replacesTerm, unequal])
  | path path =>
    obtain ⟨matched, wild⟩ : config.pathField = some field ∧
        pathExpression? resolve path = some expression := by
      simpa [expressionOf?] using made
    obtain ⟨bare, term⟩ := pathTerm_of_pathExpression wild
    have only : changesOf config resolve (.path path) =
        [.setTerm field (pathTerm resolve path)] := by
      rw [changesOf, planOf, matched]
      rfl
    rw [only, term]
    exact .whole (by simp [replacesTerm, matched]) bare
  | universal | element | id | role | className | pseudo => cases made

/-- An attribute test writes no command on other fields. -/
theorem writesCommand_attributeTest_of_ne {test : Attribute} (other : test.name ≠ field)
    (config : Config) (resolve : Resolver) (command : String) :
    writesCommand config resolve field command (.attributeTest test) = false := by
  have made := attributeChanges_changesOf config resolve test
  rw [writesCommand]
  generalize changesOf config resolve (.attributeTest test) = changes at made
  cases made <;> simp [Change.writesCommand, other]

/-- A simple selector without an expression writes neither an expression nor flags on the
field. -/
theorem writesCommand_of_expressionOf_eq_none
    (unmade : expressionOf? config resolve field simple = none) {command : String}
    (either : command ∈ [patternCommand, flagsCommand]) :
    writesCommand config resolve field command simple = false := by
  have distinct : inCommand ≠ command := by
    rintro rfl
    revert either
    decide
  -- one change to the field of a kind of selector, or none where the kind has no field
  have onField : ∀ {own : Option String} {write : String → Change},
      planOf config resolve simple = .onField own write →
        (∀ name, own = some name → (write name).writesCommand field command = false) →
          writesCommand config resolve field command simple = false := by
    intro own write plan silent
    refine List.any_eq_false.2 fun change member => ?_
    obtain ⟨name, matched, rfl⟩ := exists_name_of_mem_onField plan member
    exact Bool.eq_false_iff.1 (silent name matched)
  cases simple with
  | universal => rfl
  | element name => exact onField rfl fun own _ => by simp [Change.writesCommand, Json.field?]
  | id value =>
    simp [writesCommand, changesOf, planOf, Change.writesCommand, Json.field?]
  | role value | className value =>
    exact onField rfl fun own _ => by simp [Change.writesCommand, distinct]
  | path path =>
    refine onField rfl fun own matched => ?_
    rw [Change.writesCommand, Bool.and_eq_false_iff, or_iff_not_imp_left, Bool.not_eq_false,
      beq_iff_eq]
    rintro rfl
    have tame : pathExpression? resolve path = none := by
      simpa [expressionOf?, matched] using unmade
    rw [field?_pathTerm_of_pathExpression_eq_none tame either]
    rfl
  | attributeTest test =>
    by_cases same : test.name = field
    · refine writesCommand_of_testExpression_eq_none ?_ config resolve field either
      simpa [expressionOf?, same] using unmade
    · exact writesCommand_attributeTest_of_ne same config resolve command
  | pseudo pseudo => exact writesCommand_pseudo config resolve field command pseudo

/-! ## Documents -/

/-- The flags of an expression as an operand. -/
def Expression.flagsOperand? (expression : Expression) : Option Json :=
  expression.flags.map fun flags => .string (String.ofList flags)

/-- The commands on a field after an expression was written there. -/
theorem Expression.commandAt_performAll_changes (expression : Expression) (field : String)
    (document : Json) :
    commandAt field patternCommand (performAll (expression.changes field) document) =
        some (.string (String.ofList expression.pattern)) ∧
      commandAt field flagsCommand (performAll (expression.changes field) document) =
        expression.flagsOperand?.or (commandAt field flagsCommand document) := by
  have pattern : patternCommand ≠ equalCommand := by decide
  have flags : flagsCommand ≠ equalCommand := by decide
  have distinct : flagsCommand ≠ patternCommand := by decide
  obtain ⟨text, flags?⟩ := expression
  have first : ∀ command ≠ equalCommand, commandAt field command
      ((regexChange field text).perform document) = if patternCommand = command then
        some (.string (String.ofList text)) else commandAt field command document := by
    intro command other
    rw [regexChange, Change.perform, commandAt_writeCommand other]
    exact if_congr (and_iff_right rfl) rfl rfl
  cases flags? with
  | none =>
    refine ⟨(first _ pattern).trans (if_pos rfl), ?_⟩
    exact (first _ flags).trans (if_neg (Ne.symm distinct))
  | some letters =>
    constructor
    · refine (commandAt_writeCommand pattern _ _ _ _ _).trans ?_
      rw [if_neg (fun both => distinct both.2)]
      exact (first _ pattern).trans (if_pos rfl)
    · exact (commandAt_writeCommand flags _ _ _ _ _).trans (if_pos ⟨rfl, rfl⟩)

/-- The expression on a field after a simple selector that puts one there. -/
theorem commandAt_pattern_changesOf {expression : Expression}
    (made : expressionOf? config resolve field simple = some expression) (document : Json) :
    commandAt field patternCommand (performAll (changesOf config resolve simple) document) =
      some (.string (String.ofList expression.pattern)) := by
  have puts := puts_changesOf made
  generalize changesOf config resolve simple = changes at puts
  cases puts with
  | beside kept => exact (expression.commandAt_performAll_changes field document).1
  | whole replaced bare =>
    rw [performAll, List.foldl_cons, List.foldl_nil, Change.perform, commandAt_eq, terms_setTerms,
      Json.lookup_insert_self]
    rfl

/-- The flags on a field after a simple selector that puts an expression there: its own, or those
that were there before if it does not replace the term. -/
theorem commandAt_flags_changesOf {expression : Expression}
    (made : expressionOf? config resolve field simple = some expression) (document : Json) :
    commandAt field flagsCommand (performAll (changesOf config resolve simple) document) =
      expression.flagsOperand?.or (if replacesTerm config field simple then none
        else commandAt field flagsCommand document) := by
  have puts := puts_changesOf made
  generalize changesOf config resolve simple = changes at puts
  cases puts with
  | beside kept =>
    rw [kept, if_neg Bool.false_ne_true]
    exact (expression.commandAt_performAll_changes field document).2
  | whole replaced bare =>
    rw [replaced, if_pos rfl, performAll, List.foldl_cons, List.foldl_nil, Change.perform,
      commandAt_eq, terms_setTerms, Json.lookup_insert_self, Expression.flagsOperand?, bare]
    rfl

/-- A selector without an expression keeps the expression and the flags of a field, unless it
replaces the term. -/
theorem commandAt_changesOf_of_expressionOf_eq_none
    (unmade : expressionOf? config resolve field simple = none) {command : String}
    (either : command ∈ [patternCommand, flagsCommand]) (document : Json) :
    commandAt field command (performAll (changesOf config resolve simple) document) =
      if replacesTerm config field simple then none else commandAt field command document := by
  have other : command ≠ equalCommand := by
    rintro rfl
    revert either
    decide
  have silent := writesCommand_of_expressionOf_eq_none unmade either
  have kept := commandAt_performAll_changesOf other (List.forall_mem_singleton.2 silent) document
  rwa [List.flatMap_singleton, List.any_cons, List.any_nil, Bool.or_false] at kept

/-! ## Runs -/

/-- An expression on a field stems from the last of the selectors that put one there; none of
those behind it replaces the term. -/
theorem exists_last_expression {simples : List Simple} {document : Json}
    (present : (commandAt field patternCommand
      (performAll (simples.flatMap (changesOf config resolve)) document)).isSome = true)
    (absent : commandAt field patternCommand document = none) :
    ∃ front writer back expression, simples = front ++ writer :: back ∧
      expressionOf? config resolve field writer = some expression ∧
      (∀ later ∈ back, expressionOf? config resolve field later = none ∧
        replacesTerm config field later = false) := by
  induction simples using List.reverseRecOn with
  | nil => simp [performAll, absent] at present
  | append_singleton simples last hypothesis =>
    rw [List.flatMap_append, List.flatMap_singleton, performAll_append] at present
    cases made : expressionOf? config resolve field last with
    | some expression =>
      exact ⟨simples, last, [], expression, rfl, made, List.forall_mem_nil _⟩
    | none =>
      rw [commandAt_changesOf_of_expressionOf_eq_none made List.mem_cons_self] at present
      cases replaced : replacesTerm config field last with
      | true => simp [replaced] at present
      | false =>
        rw [replaced, if_neg Bool.false_ne_true] at present
        obtain ⟨front, writer, back, expression, rfl, written, silent⟩ := hypothesis present
        refine ⟨front, writer, back ++ [last], expression, by simp, written, ?_⟩
        exact List.forall_mem_append.2 ⟨silent, List.forall_mem_singleton.2 ⟨made, replaced⟩⟩

/-- Whether simple selectors leave flags on a field: one of them puts an expression with flags
there, and none behind it replaces the term. -/
def LeavesFlags (config : Config) (resolve : Resolver) (field : String) (simples : List Simple) :
    Prop :=
  ∃ before flagged after expression, simples = before ++ flagged :: after ∧
    expressionOf? config resolve field flagged = some expression ∧
    expression.flags.isSome = true ∧ ∀ later ∈ after, replacesTerm config field later = false

/-- One more selector leaves flags of its own, or those that were left if it does not replace the
term. -/
theorem leavesFlags_append_singleton_iff {simples : List Simple} {last : Simple} :
    LeavesFlags config resolve field (simples ++ [last]) ↔
      (∃ expression, expressionOf? config resolve field last = some expression ∧
        expression.flags.isSome = true) ∨
      replacesTerm config field last = false ∧ LeavesFlags config resolve field simples := by
  constructor
  · rintro ⟨before, flagged, after, expression, order, made, present, kept⟩
    rcases after.eq_nil_or_concat with rfl | ⟨middle, final, rfl⟩
    · obtain rfl : last = flagged := List.singleton_inj.1 (List.append_inj' order rfl).2
      exact .inl ⟨expression, made, present⟩
    · rw [List.concat_eq_append, ← List.cons_append, ← List.append_assoc] at order
      obtain ⟨rfl, same⟩ := List.append_inj' order rfl
      obtain rfl : last = final := List.singleton_inj.1 same
      rw [List.concat_eq_append, List.forall_mem_append, List.forall_mem_singleton] at kept
      exact .inr ⟨kept.2, before, flagged, middle, expression, rfl, made, present, kept.1⟩
  · rintro (⟨expression, made, present⟩ |
      ⟨spared, before, flagged, after, expression, rfl, made, present, kept⟩)
    · exact ⟨simples, last, [], expression, rfl, made, present, List.forall_mem_nil _⟩
    · refine ⟨before, flagged, after ++ [last], expression, by simp, made, present, ?_⟩
      exact List.forall_mem_append.2 ⟨kept, List.forall_mem_singleton.2 spared⟩

/-- Selectors that are applied to a document without flags on a field leave some there if and
only if an expression among them does. -/
theorem isSome_commandAt_flags_iff (config : Config) (resolve : Resolver) (simples : List Simple)
    {document : Json} (absent : commandAt field flagsCommand document = none) :
    (commandAt field flagsCommand
        (performAll (simples.flatMap (changesOf config resolve)) document)).isSome = true ↔
      LeavesFlags config resolve field simples := by
  induction simples using List.reverseRecOn with
  | nil =>
    have lacking : (commandAt field flagsCommand document).isSome = false := by
      rw [absent]
      rfl
    simpa [performAll, LeavesFlags] using lacking
  | append_singleton simples last hypothesis =>
    rw [List.flatMap_append, List.flatMap_singleton, performAll_append,
      leavesFlags_append_singleton_iff, ← hypothesis]
    cases made : expressionOf? config resolve field last with
    | none =>
      rw [commandAt_changesOf_of_expressionOf_eq_none made (by simp)]
      cases replacesTerm config field last <;> simp
    | some expression =>
      rw [commandAt_flags_changesOf made]
      obtain ⟨pattern, flags⟩ := expression
      cases flags <;> cases replacesTerm config field last <;> simp [Expression.flagsOperand?]

/-! ## Built documents -/

/-- Nothing stands on a field before anything is applied. -/
theorem commandAt_prepare_null (field command : String) :
    commandAt field command (prepare .null) = none := rfl

/-- The expression of a field in a filter document is the one that was put there last. Its flags
are those that it was put there with if and only if it has some, or makes a whole term, or no
flags are left from the selectors before. -/
theorem Listener.expression_compile (listener : Listener) {selector : Selector}
    (reachable : selector.Reachable) {document : Json}
    (built : listener.compile selector .null = .ok document) {field : String}
    (present : (commandAt field patternCommand document).isSome = true) :
    ∃ front writer back expression,
      selector.applied = front ++ writer :: back ∧
      expressionOf? listener.config listener.resolve field writer = some expression ∧
      (∀ later ∈ back, expressionOf? listener.config listener.resolve field later = none) ∧
      commandAt field patternCommand document =
        some (.string (String.ofList expression.pattern)) ∧
      (commandAt field flagsCommand document = expression.flagsOperand? ↔
        expression.flags.isSome = true ∨ replacesTerm listener.config field writer = true ∨
          ¬LeavesFlags listener.config listener.resolve field front) := by
  have result := ((listener.compile_eq_ok_iff reachable .null document).1 built).2
  have absent := commandAt_prepare_null field
  rw [result] at present
  obtain ⟨front, writer, back, expression, order, made, silent⟩ :=
    exists_last_expression present (absent patternCommand)
  have leftOver := isSome_commandAt_flags_iff listener.config listener.resolve front
    (absent flagsCommand)
  rw [order, List.flatMap_append, List.flatMap_cons, performAll_append, performAll_append] at result
  generalize performAll (front.flatMap (changesOf listener.config listener.resolve))
    (prepare .null) = before at leftOver result
  -- the selectors behind the writer change neither command
  have kept : ∀ command ∈ [patternCommand, flagsCommand], commandAt field command document =
      commandAt field command
        (performAll (changesOf listener.config listener.resolve writer) before) := by
    intro command either
    have other : command ≠ equalCommand := by
      rintro rfl
      revert either
      decide
    have unwritten := fun later member =>
      writesCommand_of_expressionOf_eq_none (silent later member).1 either
    have unreplaced : back.any (replacesTerm listener.config field) = false :=
      List.any_eq_false.2 fun later member => Bool.eq_false_iff.1 (silent later member).2
    rw [result, commandAt_performAll_changesOf other unwritten, unreplaced]
    rfl
  refine ⟨front, writer, back, expression, order, made, fun later member =>
    (silent later member).1, ?_, ?_⟩
  · rw [kept _ List.mem_cons_self, commandAt_pattern_changesOf made]
  · rw [kept _ (by simp), commandAt_flags_changesOf made, ← leftOver]
    obtain ⟨pattern, flags⟩ := expression
    cases flags <;> cases replacesTerm listener.config field writer <;>
      simp [Expression.flagsOperand?]

/-- The expression that was put there last has flags of its own. -/
theorem Listener.expression_compile_flagsLast :
    let listener := Listener.new .usual (fun _ => none) 0
    let selector : Selector := .ofChain ⟨⟨[.attributeTest ⟨"a", some .startsWith, .text "y"⟩,
      .attributeTest ⟨"a", some .regExp, .text "(?i)x"⟩]⟩, []⟩
    let document : Json :=
      .object [("query", .object [("a", .object [("$options", .string "i"),
        ("$regex", .string "x")])])]
    listener.compile selector .null = .ok document ∧
      ∃ front writer back expression,
        selector.applied = front ++ writer :: back ∧
        expressionOf? listener.config listener.resolve "a" writer = some expression ∧
        (∀ later ∈ back, expressionOf? listener.config listener.resolve "a" later = none) ∧
        commandAt "a" patternCommand document =
          some (.string (String.ofList expression.pattern)) ∧
        (commandAt "a" flagsCommand document = expression.flagsOperand? ↔
          expression.flags.isSome = true ∨ replacesTerm listener.config "a" writer = true ∨
            ¬LeavesFlags listener.config listener.resolve "a" front) := by
  intro listener selector document
  have reachable : selector.Reachable := Selector.reachable_ofChain _
  have built : listener.compile selector .null = .ok document := by
    refine (listener.compile_eq_ok_iff reachable .null document).2 ⟨?_, by decide +kernel⟩
    exact List.forall_mem_cons.2 ⟨⟨_, rfl⟩, List.forall_mem_singleton.2 ⟨_, rfl⟩⟩
  exact ⟨built, listener.expression_compile reachable built rfl⟩

/-- The start of a text that is required after an expression with flags is matched with these
flags. -/
theorem Listener.not_expression_compile_flagsFirst :
    let listener := Listener.new .usual (fun _ => none) 0
    let written : Simple := .attributeTest ⟨"a", some .regExp, .text "(?i)x"⟩
    let last : Simple := .attributeTest ⟨"a", some .startsWith, .text "y"⟩
    let selector : Selector := .ofChain ⟨⟨[written, last]⟩, []⟩
    let document : Json :=
      .object [("query", .object [("a", .object [("$options", .string "i"),
        ("$regex", .string "^y")])])]
    selector.Reachable ∧ listener.compile selector .null = .ok document ∧
      selector.applied = [written] ++ last :: [] ∧
      expressionOf? listener.config listener.resolve "a" last = some ⟨['^', 'y'], none⟩ ∧
      commandAt "a" patternCommand document = some (.string "^y") ∧
      commandAt "a" flagsCommand document = some (.string "i") := by
  intro listener written last selector document
  have reachable : selector.Reachable := Selector.reachable_ofChain _
  have built : listener.compile selector .null = .ok document := by
    refine (listener.compile_eq_ok_iff reachable .null document).2 ⟨?_, by decide +kernel⟩
    exact List.forall_mem_cons.2 ⟨⟨_, rfl⟩, List.forall_mem_singleton.2 ⟨_, rfl⟩⟩
  exact ⟨reachable, built, rfl, rfl, rfl, rfl⟩

end NodeQuery.Filter
