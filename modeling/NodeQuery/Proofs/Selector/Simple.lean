import NodeQuery.Proofs.Outcome
import NodeQuery.Proofs.Selector.Attribute
import NodeQuery.Proofs.Selector.Pseudo
import NodeQuery.Selector.Simple

/-!
# Canonical texts of simple selectors

The text of a simple selector starts with the sign of its kind and hides from a search for
signs or combinators what comes after. A simple selector that a reading can yield is read back
from its text exactly if it is restorable: its plain value is not empty, and its path, attribute
or pseudo selector is restorable itself.

Main statements: `parse_chars` and `restorable_of_parse_chars`.
-/

namespace NodeQuery

open Text

/-! ## Agreement -/

/-- A finite number agrees with itself. -/
theorem Number.Binary64.agrees_self {value : Number.Binary64} (finite : value.isFinite = true) :
    value.agrees value = true := by
  cases value with
  | nan => cases finite
  | infinity negative => cases finite
  | finite negative rank =>
    rw [agrees, beq_self_eq_true rank, beq_self_eq_true negative]
    rfl

/-- A single condition agrees with itself. -/
theorem Value.agrees_self_of_isScalar {value : Value} (scalar : value.isScalar = true) :
    value.agrees value = true := by
  cases value with
  | null => rfl
  | bool value => exact beq_self_eq_true value
  | int value => exact beq_self_eq_true value
  | float value => exact Number.Binary64.agrees_self scalar
  | text value => exact beq_self_eq_true value
  | list items => cases scalar

/-- A list of single conditions agrees with itself. -/
theorem Value.agrees_self_of_list {items : List Value}
    (scalars : ∀ item ∈ items, item.isScalar = true) :
    (list items).agrees (list items) = true := by
  rw [agrees, equalBy]
  induction items with
  | nil => rfl
  | cons item rest hypothesis =>
    have first : item.agrees item = true :=
      agrees_self_of_isScalar (scalars item (List.mem_cons_self ..))
    have later := hypothesis fun other member => scalars other (List.mem_cons_of_mem _ member)
    rw [agrees] at first
    rw [equalItemsBy, first, later]
    rfl

/-- An attribute whose condition fits its operator agrees with itself. -/
theorem Attribute.agrees_self {test : Attribute} (shaped : test.isShaped = true) :
    test.agrees test = true := by
  have condition : test.condition.agrees test.condition = true := by
    rw [isShaped] at shaped
    cases compares : test.operator with
    | none =>
      simp only [compares] at shaped
      cases absent : test.condition <;> simp_all [Value.isNull, Value.agrees, Value.equalBy]
    | some operator =>
      simp only [compares] at shaped
      rcases Operator.accepts_cases shaped with ⟨_, items, condition, scalars⟩ | ⟨_, scalar⟩
      · rw [condition]
        exact Value.agrees_self_of_list scalars
      · exact Value.agrees_self_of_isScalar scalar
  simp [agrees, condition]

namespace Simple

/-- Whether a simple selector is one that a reading can yield: an element name starts like one,
a condition fits its operator, a pseudo selector has a name and a value of the right form. -/
def isShaped : Simple → Bool
  | element name => name.toList.head?.any startsName
  | attributeTest test => test.isShaped
  | pseudo change => change.isShaped
  | _ => true

/-- Whether nothing of a simple selector is lost when its text is read: its plain value is not
empty, its path starts with something, and the ends of its name or value are visible. -/
def isRestorable : Simple → Bool
  | id value | role value | className value => value != ""
  | path value => value.isRestorable
  | attributeTest test => test.isRestorable
  | pseudo change => change.isRestorable
  | universal | element _ => true

/-- A simple selector that a reading can yield agrees with itself. -/
theorem agrees_self {item : Simple} (shaped : item.isShaped = true) :
    item.agrees item = true := by
  cases item with
  | attributeTest test => exact Attribute.agrees_self shaped
  | universal => rfl
  | _ => simp [agrees]

/-! ## Brackets -/

/-- Whether the character behind a text is escaped. -/
def leavesEscape (escaped : Bool) : List Char → Bool
  | [] => escaped
  | head :: rest => leavesEscape (Mark.escapesNext ⟨head, escaped⟩) rest

/-- The marks of a text behind another one. -/
theorem marksFrom_append (escaped : Bool) (front back : List Char) :
    marksFrom escaped (front ++ back) =
      marksFrom escaped front ++ marksFrom (leavesEscape escaped front) back := by
  induction front generalizing escaped with
  | nil => rfl
  | cons head rest hypothesis =>
    rw [List.cons_append, marksFrom, hypothesis]
    rfl

/-- A text escapes the character behind it exactly if it ends in an odd run of backslashes. -/
theorem leavesEscape_eq_endsInEscape (text : List Char) :
    leavesEscape false text = endsInEscape text := by
  have step : ∀ (front : List Char) (last : Char) (escaped : Bool),
      leavesEscape escaped (front ++ [last]) =
        Mark.escapesNext ⟨last, leavesEscape escaped front⟩ := by
    intro front last
    induction front with
    | nil => intro escaped; rfl
    | cons head rest hypothesis => intro escaped; exact hypothesis _
  rw [← List.reverse_reverse text]
  induction text.reverse with
  | nil => rfl
  | cons last front hypothesis =>
    rw [List.reverse_cons, step, hypothesis, endsInEscape, endsInEscape, List.reverse_append,
      List.reverse_singleton, List.singleton_append, List.takeWhile_cons, Mark.escapesNext]
    by_cases backslash : last = escapeMark
    · rw [backslash, beq_self_eq_true, if_pos rfl, List.length_cons, Bool.true_and]
      generalize ((front.reverse.reverse).takeWhile (· == escapeMark)).length = count
      rcases Nat.mod_two_eq_zero_or_one count with even | odd
      · have next : (count + 1) % 2 = 1 := by omega
        rw [even, next]
        rfl
      · have next : (count + 1) % 2 = 0 := by omega
        rw [odd, next]
        rfl
    · rw [beq_false_of_ne backslash]
      rfl

/-- A settled text does not end in an escape. -/
theorem endsInEscape_of_settled {text : List Char} (settled : Settled text) :
    endsInEscape text = false := by
  have marked := settled [' ']
  rw [marks, marksFrom_append, leavesEscape_eq_endsInEscape] at marked
  have last := List.append_cancel_left marked
  exact (Mark.mk.inj (List.cons.inj last).1).2

/-- The part before the bracket behind a settled text. -/
theorem beforeBracket?_of_settled {text : List Char} (settled : Settled text) :
    beforeBracket? (text ++ [']']) = some text := by
  rw [beforeBracket?, List.reverse_append, List.reverse_singleton, List.singleton_append]
  simp only [List.reverse_reverse, endsInEscape_of_settled settled, Bool.false_eq_true, if_false]

/-! ## Reading back -/

/-- The sign of a kind that has one. -/
theorem kindOf?_sign {sign : Char} {kind : Kind} (member : (sign, kind) ∈ signs) :
    kindOf? sign = some kind := by
  have all : ∀ pair ∈ signs, kindOf? pair.1 = some pair.2 := by decide
  exact all (sign, kind) member

/-- No two signs start the same kind of simple selector. -/
theorem eq_of_kindOf? {sign known : Char} {kind : Kind} (told : kindOf? sign = some kind)
    (member : (known, kind) ∈ signs) : sign = known := by
  have others : ∀ pair ∈ signs, pair.2 ≠ .element := forall_mem_of_all (by decide)
  have apart : ∀ one ∈ signs, ∀ other ∈ signs, one.2 = other.2 → one.1 = other.1 := by decide
  unfold kindOf? at told
  split at told
  · cases told
    exact absurd rfl (others _ member)
  · obtain ⟨front, back, split, _⟩ := List.lookup_eq_some_iff.1 told
    have inside : (sign, kind) ∈ signs := by
      rw [split]
      exact List.mem_append_right front List.mem_cons_self
    exact apart _ inside _ member rfl

/-- A character that starts a name starts an element selector. -/
theorem kindOf?_of_startsName {head : Char} (starts : startsName head = true) :
    kindOf? head = some .element := if_pos starts

/-- No character with a meaning of its own starts a name. -/
theorem not_mem_valueSpecials_of_startsName {head : Char} (starts : startsName head = true) :
    head ≠ escapeMark ∧ head ∉ valueSpecials := by
  have none : ∀ special ∈ escapeMark :: valueSpecials, startsName special = false :=
    forall_mem_of_all (by decide)
  constructor
  · rintro rfl
    rw [none escapeMark (List.mem_cons_self ..)] at starts
    cases starts
  · intro special
    rw [none head (List.mem_cons_of_mem _ special)] at starts
    cases starts

/-- An element name that starts like one is written as its first character and the others,
escaped. -/
theorem exists_elementChars {name : String} (shaped : (element name).isShaped = true) :
    ∃ head rest, name.toList = head :: rest ∧ startsName head = true ∧
      (element name).chars = head :: escape valueSpecials rest := by
  cases text : name.toList with
  | nil => simp [isShaped, text] at shaped
  | cons head rest =>
    have starts : startsName head = true := by simpa [isShaped, text] using shaped
    obtain ⟨plain, bare⟩ := not_mem_valueSpecials_of_startsName starts
    refine ⟨head, rest, rfl, starts, ?_⟩
    rw [chars, text, escape_cons, escapedChar_plain (not_or.2 ⟨plain, bare⟩)]
    rfl

/-- A plain value is read back exactly if it is not empty. -/
theorem parseValue_escape (kind : Kind) (make : String → Simple) (value : String) :
    parseValue kind make (escape valueSpecials value.toList) =
      if value = "" then .error (.missingValue kind) else .ok (make value) := by
  rw [parseValue, unescape_escape, String.ofList_toList]
  by_cases empty : value = ""
  · rw [if_pos ((isEmpty_escape_iff valueSpecials value).2 empty), if_pos empty]
  · rw [if_neg (mt (isEmpty_escape_iff valueSpecials value).1 empty), if_neg empty]

/-- What is read from the text of a simple selector by the reader of its kind. -/
def reread : Simple → Except ParseError Simple
  | universal => .ok universal
  | element name => .ok (element name)
  | id value => if value = "" then .error (.missingValue .id) else .ok (id value)
  | role value => if value = "" then .error (.missingValue .role) else .ok (role value)
  | className value =>
    if value = "" then .error (.missingValue .className) else .ok (className value)
  | path value => (Path.parse value.body).map path
  | attributeTest test => (Attribute.parse test.body).map attributeTest
  | pseudo change => (Pseudo.parse change.body).map pseudo

/-- The text of a simple selector that a reading can yield is read by the reader of its kind. -/
theorem parse_chars_eq {item : Simple} (shaped : item.isShaped = true) :
    parse item.chars = item.reread := by
  cases item with
  | universal =>
    have kind : kindOf? '*' = some .universal := kindOf?_sign (by decide)
    simp only [chars, parse, kind, List.isEmpty_nil, if_true, reread]
  | element name =>
    obtain ⟨head, rest, _, starts, split⟩ := exists_elementChars shaped
    have whole : unescape (head :: escape valueSpecials rest) = name.toList := by
      rw [← split, chars, unescape_escape]
    simp only [split, parse, kindOf?_of_startsName starts, whole, String.ofList_toList, reread]
  | id value =>
    have kind : kindOf? '#' = some .id := kindOf?_sign (by decide)
    simp only [chars, parse, kind, parseValue_escape, reread]
  | role value =>
    have kind : kindOf? '$' = some .role := kindOf?_sign (by decide)
    simp only [chars, parse, kind, parseValue_escape, reread]
  | className value =>
    have kind : kindOf? '.' = some .className := kindOf?_sign (by decide)
    simp only [chars, parse, kind, parseValue_escape, reread]
  | path value =>
    have kind : kindOf? Path.separator = some .path := kindOf?_sign (by decide)
    simp only [chars, Path.chars, parse, kind, reread]
  | attributeTest test =>
    have kind : kindOf? '[' = some .attributeTest := kindOf?_sign (by decide)
    simp only [chars, Attribute.chars, parse, kind,
      beforeBracket?_of_settled (Attribute.settled_body shaped), reread]
  | pseudo change =>
    have kind : kindOf? ':' = some .pseudo := kindOf?_sign (by decide)
    simp only [chars, Pseudo.chars, parse, kind, reread]

/-- A restorable simple selector that a reading can yield is read back. -/
theorem parse_chars {item : Simple} (shaped : item.isShaped = true)
    (restorable : item.isRestorable = true) : parse item.chars = .ok item := by
  rw [parse_chars_eq shaped]
  cases item with
  | universal | element name => rfl
  | id value | role value | className value => exact if_neg (bne_iff_ne.1 restorable)
  | path value => simp only [reread, Path.parse_body restorable, Except.map]
  | attributeTest test => simp only [reread, Attribute.parse_body shaped restorable, Except.map]
  | pseudo change => simp only [reread, Pseudo.parse_body shaped restorable, Except.map]

/-- A simple selector that is not restorable is refused or read as one that does not agree with
it. -/
theorem restorable_of_parse_chars {item other : Simple} (shaped : item.isShaped = true)
    (read : parse item.chars = .ok other) (agree : other.agrees item = true) :
    item.isRestorable = true := by
  rw [parse_chars_eq shaped] at read
  cases item with
  | universal | element name => rfl
  | id value | role value | className value =>
    refine bne_iff_ne.2 fun empty => ?_
    rw [reread, if_pos empty] at read
    cases read
  | path value =>
    rw [reread] at read
    obtain ⟨part, partRead, rfl⟩ := map_eq_ok_iff.1 read
    simp only [agrees, beq_iff_eq] at agree
    subst agree
    exact Path.restorable_of_parse_body partRead
  | attributeTest test =>
    rw [reread] at read
    obtain ⟨part, partRead, rfl⟩ := map_eq_ok_iff.1 read
    have same : part.name = test.name := by
      simp only [agrees, Attribute.agrees, Bool.and_eq_true, beq_iff_eq] at agree
      exact agree.1.1
    exact Attribute.restorable_of_parse_body shaped partRead same
  | pseudo change =>
    rw [reread] at read
    obtain ⟨part, partRead, rfl⟩ := map_eq_ok_iff.1 read
    simp only [agrees, beq_iff_eq] at agree
    subst agree
    exact Pseudo.restorable_of_parse_body shaped partRead

end Simple

end NodeQuery
