import NodeQuery.Proofs.Selector.Condition

/-!
# Canonical texts of attribute selectors

The body of an attribute selector hides what it holds from the search for its bracket. Its
name is escaped for everything but blanks, so that the blanks at its ends are lost when the
body is trimmed: of the attributes whose condition fits their operator, exactly those whose
name is written and has visible ends are read back.

Main statements: `parse_body_of_kept`, `parse_body` and `restorable_of_parse_body`.
-/

namespace NodeQuery.Attribute

open Text

/-- Whether the condition is of the form that the operator takes; a presence test has none. -/
def isShaped (test : Attribute) : Bool :=
  match test.operator with
  | some operator => operator.accepts test.condition
  | none => test.condition.isNull

/-- Whether the name is not empty and neither starts nor ends with a blank. -/
def isRestorable (test : Attribute) : Bool :=
  test.name != "" && hasVisibleEnds test.name.toList

/-- The text of the operator and its condition. -/
def tail (test : Attribute) : List Char :=
  match test.operator with
  | some operator => operator.symbol ++ test.condition.chars
  | none => []

/-- The body is the escaped name and the text of the operator and its condition. -/
theorem body_eq (test : Attribute) :
    test.body = escape nameSpecials test.name.toList ++ test.tail := rfl

/-- No blank has a meaning inside an attribute name. -/
theorem isBlank_nameSpecials : ∀ special ∈ nameSpecials, isBlank special = false :=
  forall_mem_of_all (by decide)

/-! ## The text of a condition after its operator -/

/-- What holds of every operator's text and of the text of every fitting condition and can be
joined holds of the text of a test's operator and condition. -/
theorem tail_induction {holds : List Char → Prop} (nil : holds [])
    (symbol : ∀ operator : Operator, holds operator.symbol)
    (single : ∀ value : Value, value.isScalar = true → holds value.chars)
    (list : ∀ items : List Value, (∀ item ∈ items, item.isScalar = true) →
      holds (Value.charsOfItems items))
    (append : ∀ {front back : List Char}, holds front → holds back → holds (front ++ back))
    {test : Attribute} (shaped : test.isShaped = true) : holds test.tail := by
  rw [isShaped] at shaped
  rw [tail]
  cases compares : test.operator with
  | none => exact nil
  | some operator =>
    simp only [compares] at shaped
    refine append (symbol operator) ?_
    rcases Operator.accepts_cases shaped with ⟨_, items, condition, scalars⟩ | ⟨_, scalar⟩
    · rw [condition, Value.chars]
      exact list items scalars
    · exact single test.condition scalar

/-- Nothing in an operator and its condition escapes what follows them. -/
theorem settled_tail {test : Attribute} (shaped : test.isShaped = true) : Settled test.tail := by
  refine tail_induction settled_nil (fun operator => settled_of_plain ?_)
    (fun _ => Value.settled_chars) (fun _ => Value.settled_charsOfItems) Settled.append shaped
  cases operator <;> exact forall_mem_of_all (by decide)

/-- An operator and its condition hide what they hold from the search for a bracket. -/
theorem skipped_tail {test : Attribute} (shaped : test.isShaped = true) :
    Skipped [']'] test.tail := by
  refine tail_induction (skipped_nil _) (fun operator => skipped_of_plain ?_)
    (fun _ => Value.skipped_chars) (fun _ => Value.skipped_charsOfItems) Skipped.append shaped
  cases operator <;> exact forall_mem_of_all (by decide)

/-- An operator and its condition do not end in an unescaped blank. -/
theorem firm_tail {test : Attribute} (shaped : test.isShaped = true) {operator : Operator}
    (compares : test.operator = some operator) : Firm test.tail := by
  have symbolSettled : Settled operator.symbol := by
    refine settled_of_plain ?_
    cases operator <;> exact forall_mem_of_all (by decide)
  have symbolFirm : Firm operator.symbol := by
    refine firm_of_visible ?_
    cases operator <;> exact forall_mem_of_all (by decide)
  rw [isShaped] at shaped
  simp only [compares] at shaped
  rw [tail]
  simp only [compares]
  rcases Operator.accepts_cases shaped with ⟨_, items, condition, scalars⟩ | ⟨_, scalar⟩
  · rw [condition, Value.chars]
    cases items with
    | nil => rwa [Value.charsOfItems, List.append_nil]
    | cons item rest =>
      obtain ⟨written, firm⟩ := Value.firm_charsOfItems scalars (List.cons_ne_nil item rest)
      exact Firm.append symbolSettled written firm
  · obtain ⟨head, rest, split, _⟩ := Value.exists_head_chars scalar
    exact Firm.append symbolSettled (by simp [split]) (Value.firm_chars scalar)

/-- Nothing in a body escapes what follows it. -/
theorem settled_body {test : Attribute} (shaped : test.isShaped = true) : Settled test.body := by
  rw [body_eq]
  exact (settled_escape _ _).append (settled_tail shaped)

/-- A body hides what it holds from the search for a bracket. -/
theorem skipped_body {test : Attribute} (shaped : test.isShaped = true) :
    Skipped [']'] test.body := by
  rw [body_eq]
  exact (skipped_escape (forall_mem_of_all (by decide)) (by decide) _).append (skipped_tail shaped)

/-- An operator's text starts with a character that starts operators. -/
theorem exists_head_symbol (operator : Operator) :
    ∃ head rest, operator.symbol = head :: rest ∧ head ∈ Operator.leads ∧
      isBlank head = false ∧ head ≠ escapeMark := by
  cases operator <;> exact ⟨_, _, rfl, by decide, by decide, by decide⟩

/-! ## Reading a body -/

/-- What trimming the body leaves of the name: without an operator the end of the name is the
end of the body. -/
def keptName (test : Attribute) : List Char :=
  match test.operator with
  | some _ => test.name.toList.dropWhile isBlank
  | none => trimBlanks test.name.toList

/-- The body that is searched. -/
theorem cellsOf_body {test : Attribute} (shaped : test.isShaped = true) :
    cellsOf test.body = link (marks (escape nameSpecials test.keptName ++ test.tail)) := by
  rw [cellsOf, body_eq]
  cases compares : test.operator with
  | none =>
    have nothing : test.tail = [] := by simp [tail, compares]
    have kept : test.keptName = trimBlanks test.name.toList := by simp [keptName, compares]
    rw [nothing, kept, List.append_nil, List.append_nil,
      trimMarks_marks_escape isBlank_nameSpecials]
  | some operator =>
    obtain ⟨head, rest, split, _, visible, _⟩ := exists_head_symbol operator
    have start : test.tail = head :: (rest ++ test.condition.chars) := by
      simp [tail, compares, split]
    have kept : test.keptName = test.name.toList.dropWhile isBlank := by simp [keptName, compares]
    rw [kept, trimMarks_marks_escape_append isBlank_nameSpecials _ (by simp [start])
      (by simpa [start] using visible) (firm_tail shaped compares)]

/-- The name that is read starts with the first character of the body, unless that is a
backslash. -/
theorem exists_name_of_parse {pattern : List Char} {other : Attribute} {cell : Cell}
    {rest : List Cell} (read : parse pattern = .ok other)
    (cells : cellsOf pattern = cell :: rest) (visible : isBlank cell.char = false)
    (plain : cell.char ≠ escapeMark) : ∃ others, other.name.toList = cell.char :: others := by
  have starts : ∀ cells : List Cell, ∃ others,
      unescape (trimmedChars (cell :: cells)) = cell.char :: others := by
    intro cells
    have stays : cell.toMark.isLooseBlank = false := by simp [Mark.isLooseBlank, visible]
    rw [trimmedChars, List.map_cons, trimMarks, dropTrailing_cons, if_neg (by simp [stays]),
      List.dropWhile_cons_of_neg (by simp [visible]), Text.chars, List.map_cons,
      unescape_cons plain]
    exact ⟨_, rfl⟩
  simp only [parse, cells] at read
  split at read
  · obtain rfl := Except.ok.inj read
    simpa [present] using starts rest
  · rename_i length _
    split at read
    · cases read
    · rename_i operator _
      cases condition : readCondition operator
        (rest.drop (length + (operatorSymbol (rest.drop length)).length)) with
      | error error =>
        rw [condition] at read
        cases read
      | ok value =>
        rw [condition] at read
        obtain rfl := Except.ok.inj read
        simpa [compare] using starts (rest.take length)

/-- The symbol of an operator is read from the start of its text. -/
theorem operatorSymbol_chars {operator : Operator} {condition : Value}
    (accepted : operator.accepts condition = true) :
    operatorSymbol (link (marks (operator.symbol ++ condition.chars))) = operator.symbol := by
  have next : ∀ head : Char, head ≠ escapeMark → condition.chars.head? ≠ some '=' →
      operatorSymbol (link (marks (head :: condition.chars))) = [head] := by
    intro head plain other
    rw [marks_cons plain, link_cons]
    cases follows : condition.chars with
    | nil => rfl
    | cons first rest =>
      obtain ⟨cell, cells, start, char⟩ := exists_link_marks first rest
      rw [start, operatorSymbol, char, if_neg]
      rintro rfl
      exact other (by rw [follows]; rfl)
  have pair : ∀ head : Char, head ≠ escapeMark →
      operatorSymbol (link (marks (head :: '=' :: condition.chars))) = [head, '='] := by
    intro head plain
    rw [marks_cons plain, marks_cons (by decide), link_cons, link_cons, operatorSymbol,
      if_pos rfl]
  have single : operator ≠ .inList → condition.chars.head? ≠ some '=' := by
    intro other
    rcases Operator.accepts_cases accepted with ⟨same, _⟩ | ⟨_, scalar⟩
    · exact absurd same other
    · obtain ⟨head, rest, split, _, unequal⟩ := Value.exists_head_chars scalar
      rw [split]
      simpa using unequal
  cases operator with
  | equals => exact next '=' (by decide) (single (by decide))
  | greater => exact next '>' (by decide) (single (by decide))
  | less => exact next '<' (by decide) (single (by decide))
  | _ => exact pair _ (by decide)

/-- The cells of a body: those of its name, in which no operator is found, and those after it. -/
theorem exists_cellsOf_body {test : Attribute} (shaped : test.isShaped = true)
    (named : test.keptName ≠ []) :
    ∃ cell cells length, cellsOf test.body = cell :: cells ∧
      unescape (trimmedChars (cell :: cells.take length)) = trimBlanks test.keptName ∧
      cells.drop length = link (marks test.tail) ∧
      findTarget Operator.leads cells =
        (findTarget Operator.leads (link (marks test.tail))).map (· + length) := by
  have guarded : ∀ value ∈ Operator.leads ++ openers, value ∈ nameSpecials :=
    forall_mem_of_all (by decide)
  have settled := settled_escape nameSpecials test.keptName
  have name := unescape_trimmedChars_escape isBlank_nameSpecials test.keptName
  have written := escape_ne_nil nameSpecials named
  obtain ⟨length, size⟩ : ∃ length, (escape nameSpecials test.keptName).length = length + 1 :=
    Nat.exists_eq_add_one_of_ne_zero fun zero => written (List.length_eq_zero_iff.1 zero)
  have front := trimmedChars_take_link_marks settled test.tail
  have back := drop_link_marks settled test.tail
  obtain ⟨head, others, kept⟩ := List.exists_cons_of_ne_nil named
  obtain ⟨cell, cells, start, search⟩ :=
    exists_link_escape guarded (by decide) head others test.tail
  rw [← kept] at start search
  rw [start, size] at front back
  rw [size, Nat.add_sub_cancel] at search
  refine ⟨cell, cells, length, (cellsOf_body shaped).trans start, ?_, ?_, search⟩
  · rw [← List.take_succ_cons, front, name]
  · rw [← List.drop_succ_cons, back]

/-- The body of a presence test is read as the test of its name less the blanks at its ends. -/
theorem parse_body_of_present {test : Attribute} (shaped : test.isShaped = true)
    (named : test.keptName ≠ []) (presence : test.operator = none) :
    parse test.body = .ok { test with name := String.ofList (trimBlanks test.keptName) } := by
  obtain ⟨cell, cells, length, start, name, back, search⟩ := exists_cellsOf_body shaped named
  have nothing : test.tail = [] := by simp [tail, presence]
  have absent : test.condition = .null := by
    cases condition : test.condition <;> simp_all [isShaped, Value.isNull]
  rw [nothing] at back search
  have all : cells.length ≤ length := List.drop_eq_nil_iff.1 back
  rw [List.take_of_length_le all] at name
  simp only [parse, start, search, show findTarget Operator.leads (link (marks [])) = none from rfl,
    Option.map_none, name]
  rw [present, ← absent, ← presence]

/-- The body of a comparison is read as one of its name less the blanks at its ends. -/
theorem parse_body_of_compares {test : Attribute} (shaped : test.isShaped = true)
    (named : test.keptName ≠ []) {operator : Operator} (compares : test.operator = some operator) :
    parse test.body = .ok { test with name := String.ofList (trimBlanks test.keptName) } := by
  obtain ⟨cell, cells, length, start, name, back, search⟩ := exists_cellsOf_body shaped named
  have written : test.tail = operator.symbol ++ test.condition.chars := by simp [tail, compares]
  have accepted : operator.accepts test.condition = true := by
    simpa [isShaped, compares] using shaped
  have place : findTarget Operator.leads (link (marks test.tail)) = some 0 := by
    obtain ⟨lead, rest, split, member, _, plain⟩ := exists_head_symbol operator
    rw [written, split]
    exact (skipped_nil Operator.leads).findTarget_eq_some plain member
      (rest ++ test.condition.chars)
  have symbolSettled : Settled operator.symbol := by
    refine settled_of_plain ?_
    cases operator <;> exact forall_mem_of_all (by decide)
  have condition := drop_link_marks symbolSettled test.condition.chars
  rw [place, Option.map_some, Nat.zero_add] at search
  rw [written] at back
  simp only [parse, start, search, name, back, operatorSymbol_chars accepted,
    Operator.ofSymbol?_symbol]
  rw [← List.drop_drop, back, condition, readCondition_chars accepted, Except.map, compare,
    ← compares]

/-- The attribute selector less the blanks at the ends of its name. -/
def trimmed (test : Attribute) : Attribute :=
  { test with name := String.ofList (trimBlanks test.name.toList) }

/-- What trimming the body leaves of the name is trimmed to the same. -/
theorem trimBlanks_keptName (test : Attribute) :
    trimBlanks test.keptName = trimBlanks test.name.toList := by
  rw [keptName]
  cases test.operator with
  | some operator => exact trimBlanks_dropWhile _
  | none => exact trimBlanks_of_hasVisibleEnds (hasVisibleEnds_trimBlanks _)

/-- Where trimming leaves a name, the body is read as the attribute selector less the blanks at the
ends of its name. -/
theorem parse_body_of_kept {test : Attribute} (shaped : test.isShaped = true)
    (named : test.keptName ≠ []) : parse test.body = .ok test.trimmed := by
  rw [trimmed, ← trimBlanks_keptName]
  rcases compares : test.operator with _ | operator
  · exact compares ▸ parse_body_of_present shaped named compares
  · exact compares ▸ parse_body_of_compares shaped named compares

/-- An attribute selector whose name has visible ends is not changed by trimming it. -/
theorem trimmed_of_hasVisibleEnds {test : Attribute}
    (visible : hasVisibleEnds test.name.toList = true) : test.trimmed = test := by
  rw [trimmed, trimBlanks_of_hasVisibleEnds visible, String.ofList_toList]

/-- A name with visible ends is not changed by trimming the body. -/
theorem keptName_of_hasVisibleEnds {test : Attribute}
    (visible : hasVisibleEnds test.name.toList = true) : test.keptName = test.name.toList := by
  rw [keptName]
  cases test.operator with
  | none => exact trimBlanks_of_hasVisibleEnds visible
  | some operator =>
    obtain ⟨starts, _⟩ := Bool.and_eq_true _ _ ▸ visible
    cases name : test.name.toList with
    | nil => rfl
    | cons head rest =>
      rw [name] at starts
      exact List.dropWhile_cons_of_neg (by simpa using starts)

/-- An attribute selector whose condition fits its operator and whose name is written and has
visible ends is read back. -/
theorem parse_body {test : Attribute} (shaped : test.isShaped = true)
    (restorable : test.isRestorable = true) : parse test.body = .ok test := by
  obtain ⟨written, visible⟩ := Bool.and_eq_true _ _ ▸ restorable
  have kept := keptName_of_hasVisibleEnds visible
  have named : test.keptName ≠ [] := by
    rw [kept]
    exact fun empty => absurd (String.toList_eq_nil_iff.1 empty) (bne_iff_ne.1 written)
  rw [parse_body_of_kept shaped named, trimmed_of_hasVisibleEnds visible]

/-- Trimming the body of a test that is read back under its name leaves a name. -/
theorem keptName_ne_nil_of_parse_body {test other : Attribute} (shaped : test.isShaped = true)
    (read : parse test.body = .ok other) (same : other.name = test.name) :
    test.keptName ≠ [] := by
  intro kept
  have cells := cellsOf_body shaped
  rw [kept, escape, List.nil_append] at cells
  cases compares : test.operator with
  | none =>
    have nothing : test.tail = [] := by simp [tail, compares]
    rw [nothing] at cells
    rw [parse, cells] at read
    cases read
  | some operator =>
    -- the operator is read as the start of a name, which a name of blanks does not have
    obtain ⟨lead, rest, split, _, visible, plain⟩ := exists_head_symbol operator
    have written : test.tail = lead :: (rest ++ test.condition.chars) := by
      simp [tail, compares, split]
    rw [written, marks_cons plain, link_cons] at cells
    obtain ⟨others, name⟩ := exists_name_of_parse read cells visible plain
    rw [keptName, compares, ← same, name] at kept
    simp only at kept
    rw [List.dropWhile_cons_of_neg (by simp [visible])] at kept
    cases kept

/-- An attribute selector is not read back under its name unless that is written and has visible
ends. -/
theorem restorable_of_parse_body {test other : Attribute} (shaped : test.isShaped = true)
    (read : parse test.body = .ok other) (same : other.name = test.name) :
    test.isRestorable = true := by
  have named := keptName_ne_nil_of_parse_body shaped read same
  rw [parse_body_of_kept shaped named] at read
  obtain rfl := Except.ok.inj read
  have name : trimBlanks test.name.toList = test.name.toList := by
    rw [trimmed] at same
    rw [← String.toList_inj, String.toList_ofList] at same
    exact same
  have visible : hasVisibleEnds test.name.toList = true := by
    rw [← name]
    exact hasVisibleEnds_trimBlanks _
  have written : test.name ≠ "" := by
    intro empty
    rw [keptName_of_hasVisibleEnds visible, empty] at named
    exact named rfl
  rw [isRestorable, visible, bne_iff_ne.2 written]
  rfl

end NodeQuery.Attribute
