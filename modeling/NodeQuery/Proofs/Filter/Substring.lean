import NodeQuery.Proofs.Filter.Expression
import NodeQuery.Proofs.Text.Matching

/-!
# Substring tests

Three operators test for a text in front, at the end or anywhere in an attribute. A filter has no
such tests, so the text is put into an expression: escaped, with an anchor before or behind it, or
with any characters around it. Whatever the text is made of, the expression is read as exactly
this text at this place. A condition without a text makes no expression.

Main statement: `found_substring_iff`.
-/

namespace NodeQuery.Filter

open NodeQuery Regex

/-! ## Expressions with a text in them -/

/-- An expression with an anchor in front of a text. -/
theorem read?_startsWith (text : List Char) :
    read? ('^' :: literalPattern text) = some (.start :: literal text) := by
  have signs := signs?_literalPattern_append text []
  have parts := parts?_textSigns_append text (show repeatsFirst [] = false from rfl)
  simp only [List.append_nil] at signs parts
  rw [read?, signs?, signs]
  · simp [signOf?, signs?, parts?, parts]
  · intro value rest same
    cases same
  · intro value rest same
    cases same

/-- An expression with an anchor behind a text. -/
theorem read?_endsWith (text : List Char) :
    read? (literalPattern text ++ ['$']) = some (literal text ++ [.stop]) := by
  have anchor : signs? ['$'] = some [.stop] := rfl
  have parts := parts?_textSigns_append text (show repeatsFirst [.stop] = false from rfl)
  rw [read?, signs?_literalPattern_append, anchor, Option.map_some, Option.bind_some, parts]
  rfl

/-- An expression with any characters around a text. -/
theorem read?_contains (text : List Char) :
    read? (['.', '*'] ++ literalPattern text ++ ['.', '*']) =
      some (.many .inLine :: (literal text ++ [.many .inLine])) := by
  have behind : signs? ['.', '*'] = some [.test .inLine, .anyNumber] := rfl
  have parts := parts?_textSigns_append text
    (show repeatsFirst [.test .inLine, .anyNumber] = false from rfl)
  have front : ∀ rest, signs? ('.' :: '*' :: rest) =
      (signs? rest).map ([.test .inLine, .anyNumber] ++ ·) := by
    intro rest
    cases read : signs? rest <;> simp [signs?, signOf?, read]
  rw [List.append_assoc, List.cons_append, List.cons_append, List.nil_append, read?, front,
    signs?_literalPattern_append, behind]
  simp only [Option.map_some, Option.bind_some, List.cons_append, List.nil_append, parts?, parts]

/-- A text with an anchor in front is found where it comes first. -/
theorem found_startsWith_iff (text subject : List Char) :
    found (.start :: literal text) subject = true ↔ text <+: subject := by
  have fitting := fits_literal_append text [] true subject
  rw [List.append_nil] at fitting
  rw [found_start, fitting]
  constructor
  · rintro ⟨back, rfl, -⟩
    exact List.prefix_append text back
  · rintro ⟨back, rfl⟩
    exact ⟨back, rfl, rfl⟩

/-- Within a line, a text with an anchor behind it is found where it comes last. -/
theorem found_endsWith_iff {subject : List Char} (line : '\n' ∉ subject) (text : List Char) :
    found (literal text ++ [.stop]) subject = true ↔ text <:+ subject := by
  rw [found_iff]
  constructor
  · rintro ⟨front, rest, rfl, fitting⟩
    obtain ⟨back, rfl, ended⟩ := (fits_literal_append _ _ _ _).1 fitting
    have inside : '\n' ∉ back := fun member =>
      line (List.mem_append_right _ (List.mem_append_right _ member))
    rw [(fits_stop inside _).1 ended, List.append_nil]
    exact List.suffix_append front text
  · rintro ⟨front, rfl⟩
    refine ⟨front, text, rfl, (fits_literal_append _ _ _ _).2 ⟨[], (List.append_nil _).symm, ?_⟩⟩
    exact (fits_stop List.not_mem_nil _).2 rfl

/-- A text with any characters around it is found where it occurs. -/
theorem found_contains_iff (text subject : List Char) :
    found (.many .inLine :: (literal text ++ [.many .inLine])) subject = true ↔
      text <:+: subject := by
  rw [found_iff]
  constructor
  · -- what the search steps over and what the first repetition takes both come in front of the text
    rintro ⟨front, rest, rfl, fitting⟩
    rw [fits, followsMany_iff] at fitting
    obtain ⟨skipped, back, rfl, -, fitting⟩ := fitting
    obtain ⟨behind, rfl, -⟩ := (fits_literal_append _ _ _ _).1 fitting
    exact ⟨front ++ skipped, behind, by simp only [List.append_assoc]⟩
  · rintro ⟨front, behind, rfl⟩
    refine ⟨front, text ++ behind, List.append_assoc _ _ _, ?_⟩
    rw [fits, followsMany_iff]
    refine ⟨[], text ++ behind, rfl, List.forall_mem_nil _, ?_⟩
    refine (fits_literal_append _ _ _ _).2 ⟨behind, rfl, ?_⟩
    rw [fits, followsMany_iff]
    exact ⟨[], behind, rfl, List.forall_mem_nil _, rfl⟩

/-! ## Substring operators -/

/-- The operators that look for a text. -/
def substringOperators : List Operator := [.startsWith, .endsWith, .contains]

/-- Where an operator looks for a text in a subject. -/
inductive Occurs (text subject : List Char) : Operator → Prop where
  /-- In front. -/
  | first : text <+: subject → Occurs text subject .startsWith
  /-- At the end. -/
  | last : text <:+ subject → Occurs text subject .endsWith
  /-- Anywhere. -/
  | inside : text <:+: subject → Occurs text subject .contains

/-- The text that a condition stands for, if it is a single value. -/
def textForm? : Value → Option (List Char)
  | .text value => some value.toList
  | .null => none
  | .list _ => none
  | single => some single.chars

/-- A condition with a text gives it to the expression. -/
theorem conditionText_of_textForm {condition : Value} {text : List Char}
    (form : textForm? condition = some text) (operator : Operator) :
    conditionText operator condition = .ok text := by
  cases condition <;> cases form <;> rfl

/-- A substring operator makes an expression that finds the text at its place. -/
theorem exists_operatorExpression {operator : Operator} (chosen : operator ∈ substringOperators)
    (text : List Char) :
    ∃ pattern parts, operatorExpression? text operator = some ⟨pattern, none⟩ ∧
      read? pattern = some parts ∧ ∀ subject : List Char, '\n' ∉ subject →
        (found parts subject = true ↔ Occurs text subject operator) := by
  simp only [substringOperators, List.mem_cons, List.not_mem_nil, or_false] at chosen
  rcases chosen with rfl | rfl | rfl
  · refine ⟨_, _, rfl, read?_startsWith text, fun subject _ => ?_⟩
    rw [found_startsWith_iff]
    exact ⟨Occurs.first, fun | .first occurs => occurs⟩
  · refine ⟨_, _, rfl, read?_endsWith text, fun subject line => ?_⟩
    rw [found_endsWith_iff line]
    exact ⟨Occurs.last, fun | .last occurs => occurs⟩
  · refine ⟨_, _, rfl, read?_contains text, fun subject _ => ?_⟩
    rw [found_contains_iff]
    exact ⟨Occurs.inside, fun | .inside occurs => occurs⟩

/-- A test with an expression is handled by writing it. -/
theorem planOf_of_testExpression {test : Attribute} {expression : Expression}
    (made : testExpression? test = some expression) (config : Config) (resolve : Resolver) :
    planOf config resolve (.attributeTest test) = .changes (expression.changes test.name) := by
  have changes := changesOf_of_testExpression made config resolve
  rw [changesOf] at changes
  cases plan : planOf config resolve (.attributeTest test) with
  | changes list =>
    rw [plan] at changes
    rw [← changes]
  | unsupported =>
    rw [plan] at changes
    cases changes
  | failed failure =>
    rw [plan] at changes
    cases changes

/-- The expression that a substring operator stores for a condition with a text is found in a line
if and only if the text comes first in it, comes last or occurs, as the operator says. Without a
text, for an absent condition and for a list, the operator fails and leaves the document. -/
theorem found_substring_iff (config : Config) (resolve : Resolver) {test : Attribute}
    {operator : Operator} (compared : test.operator = some operator)
    (chosen : operator ∈ substringOperators) (document : Json) :
    let outcome := (planOf config resolve (.attributeTest test)).perform document
    (∀ text, textForm? test.condition = some text →
      outcome.2 = .handled ∧ ∃ pattern parts,
        commandAt test.name patternCommand outcome.1 = some (.string pattern) ∧
          read? pattern.toList = some parts ∧ ∀ subject : String, '\n' ∉ subject.toList →
            (found parts subject.toList = true ↔ Occurs text subject.toList operator)) ∧
      (test.condition.isNull = true ∨ test.condition.isList = true →
        outcome = (document, .failed (.invalidCondition operator test.condition))) := by
  intro outcome
  constructor
  · intro text form
    obtain ⟨pattern, parts, made, read, finds⟩ := exists_operatorExpression chosen text
    have expression : testExpression? test = some ⟨pattern, none⟩ := by
      rw [testExpression?, compared]
      simp only [conditionText_of_textForm form, made]
    have performed : outcome = (writeCommand test.name patternCommand
        (.string (String.ofList pattern)) document, .handled) := by
      simp only [outcome, planOf_of_testExpression expression]
      rfl
    rw [performed]
    refine ⟨rfl, String.ofList pattern, parts, ?_, ?_, fun subject line => finds _ line⟩
    · rw [commandAt_writeCommand (by decide : patternCommand ≠ equalCommand), if_pos ⟨rfl, rfl⟩]
    · rw [String.toList_ofList, read]
  · intro unreadable
    obtain ⟨name, _, condition⟩ := test
    cases compared
    have failed : conditionText operator condition =
        .error (.invalidCondition operator condition) := by
      cases condition <;> simp_all [Value.isNull, Value.isList, conditionText]
    simp only [substringOperators, List.mem_cons, List.not_mem_nil, or_false] at chosen
    rcases chosen with rfl | rfl | rfl <;>
      simp [outcome, planOf, attributePlan, comparisonPlan, Plan.ofText, failed, Plan.perform]

/-- A dollar sign in a text does not end the subject, and a plus sign repeats nothing. -/
theorem found_substring_dollar :
    let test := Attribute.compare "price" .endsWith (.text "1+$")
    ∃ pattern parts,
      commandAt "price" patternCommand
          ((planOf .usual (fun _ => none) (.attributeTest test)).perform (.object [])).1 =
        some (.string pattern) ∧
      read? pattern.toList = some parts ∧ found parts "a 1+$".toList = true ∧
        found parts "a 11".toList = false := by
  intro test
  have compared : test.operator = some .endsWith := rfl
  have both := found_substring_iff .usual (fun _ => none) compared (by decide) (.object [])
  obtain ⟨-, pattern, parts, stored, read, finds⟩ := both.1 _ rfl
  refine ⟨pattern, parts, stored, read, ?_, ?_⟩
  · exact (finds "a 1+$" (by decide)).2 (.last ⟨['a', ' '], by decide⟩)
  · rw [← Bool.not_eq_true, finds "a 11" (by decide)]
    exact fun | .last ending => absurd ending (by decide)

end NodeQuery.Filter
