import NodeQuery.Proofs.Selector.Literal
import NodeQuery.Selector.Attribute

/-!
# Canonical texts of conditions

The canonical text of a condition hides from every search what it holds: a quoted text by its
quotes, a literal because its characters mean nothing. Neither starts like the second
character of an operator, nor with a blank, and neither ends in one. From such a text the
operator that it was written for reads the condition back.

Main statement: `readCondition_chars`.
-/

namespace NodeQuery

open Text

namespace Value

/-! ## Single conditions -/

/-- Whether a value can be the condition of a comparison: no list, and no floating point number
that is infinite or none. -/
def isScalar : Value → Bool
  | list _ => false
  | float value => value.isFinite
  | _ => true

/-- A single condition is a literal or a text. -/
theorem isLiteral_or_text {value : Value} (scalar : value.isScalar = true) :
    value.isLiteral = true ∨ ∃ content, value = text content := by
  cases value with
  | list items => simp [isScalar] at scalar
  | text content => exact Or.inr ⟨content, rfl⟩
  | float value => exact Or.inl scalar
  | null | bool value | int value => exact Or.inl rfl

/-- A literal is not written as nothing. -/
theorem chars_ne_nil_of_isLiteral {value : Value} (literal : value.isLiteral = true) :
    value.chars ≠ [] := by
  intro nothing
  have readBack := ofLiteral_chars literal
  rw [nothing, show ofLiteral [] = text "" from rfl] at readBack
  rw [← readBack] at literal
  simp [isLiteral] at literal

/-- A single condition starts with a character that is neither a blank nor the second character
of an operator; only a text starts with a quote. -/
theorem exists_head_chars {value : Value} (scalar : value.isScalar = true) :
    ∃ head rest, value.chars = head :: rest ∧ isBlank head = false ∧ head ≠ '=' := by
  rcases isLiteral_or_text scalar with literal | ⟨content, rfl⟩
  · obtain ⟨head, rest, split⟩ := List.exists_cons_of_ne_nil (chars_ne_nil_of_isLiteral literal)
    have literalHead := isLiteralChar_of_mem_chars literal head (by simp [split])
    refine ⟨head, rest, split, isBlank_of_isLiteralChar literalHead, ?_⟩
    rintro rfl
    exact absurd literalHead (by decide)
  · exact ⟨'"', _, rfl, by decide, by decide⟩

/-- A single condition does not start with a blank. -/
theorem isBlank_head_chars {value : Value} (scalar : value.isScalar = true) :
    ∀ first ∈ value.chars.head?, isBlank first = false := by
  obtain ⟨head, rest, split, visible, _⟩ := exists_head_chars scalar
  intro first starts
  rw [split] at starts
  rwa [← Option.some.inj starts]

/-- Nothing in a single condition escapes what follows it. -/
theorem settled_chars {value : Value} (scalar : value.isScalar = true) : Settled value.chars := by
  rcases isLiteral_or_text scalar with literal | ⟨content, rfl⟩
  · exact settled_of_plain fun char member =>
      ne_escapeMark_of_isLiteralChar (isLiteralChar_of_mem_chars literal char member)
  · rw [chars]
    exact (settled_char (by decide)).append ((settled_escape _ _).append (settled_char (by decide)))

/-- A single condition hides what it holds from the search for a bracket. -/
theorem skipped_chars {value : Value} (scalar : value.isScalar = true) :
    Skipped [']'] value.chars := by
  rcases isLiteral_or_text scalar with literal | ⟨content, rfl⟩
  · refine skipped_of_plain fun char member => ?_
    have literalChar := isLiteralChar_of_mem_chars literal char member
    refine ⟨ne_escapeMark_of_isLiteralChar literalChar,
      not_mem_openers_of_isLiteralChar literalChar, fun bracket => ?_⟩
    rw [List.mem_singleton.1 bracket] at literalChar
    exact absurd literalChar (by decide)
  · rw [chars]
    exact skipped_quoted rfl rfl (by decide) (by decide) content.toList

/-- A single condition does not end in an unescaped blank. -/
theorem firm_chars {value : Value} (scalar : value.isScalar = true) : Firm value.chars := by
  rcases isLiteral_or_text scalar with literal | ⟨content, rfl⟩
  · exact firm_of_visible fun char member =>
      isBlank_of_isLiteralChar (isLiteralChar_of_mem_chars literal char member)
  · rw [chars]
    exact Firm.append (settled_char (by decide)) (by simp)
      (Firm.append (settled_escape _ _) (by simp) (firm_char (by decide)))

/-! ## Lists -/

/-- The text of the items after the first one. -/
def separated : List Value → List Char
  | [] => []
  | items => ' ' :: charsOfItems items

/-- The first item and the text of the others. -/
theorem charsOfItems_cons (item : Value) (rest : List Value) :
    charsOfItems (item :: rest) = item.chars ++ separated rest := by
  cases rest <;> simp [charsOfItems, separated]

/-- What holds of the texts of all items and of a space and can be joined holds of the text of a
list. -/
theorem charsOfItems_induction {holds : List Char → Prop} (nil : holds [])
    (space : holds [' '])
    (append : ∀ {front back : List Char}, holds front → holds back → holds (front ++ back))
    {items : List Value} (all : ∀ item ∈ items, holds item.chars) : holds (charsOfItems items) := by
  induction items with
  | nil => exact nil
  | cons item rest hypothesis =>
    have later := hypothesis fun other member => all other (List.mem_cons_of_mem _ member)
    rw [charsOfItems_cons]
    refine append (all item (List.mem_cons_self ..)) ?_
    cases rest with
    | nil => exact nil
    | cons next others => exact append space later

/-- Nothing in a list escapes what follows it. -/
theorem settled_charsOfItems {items : List Value} (scalars : ∀ item ∈ items, item.isScalar = true) :
    Settled (charsOfItems items) :=
  charsOfItems_induction settled_nil (settled_char (by decide)) Settled.append
    fun item member => settled_chars (scalars item member)

/-- A list hides what it holds from the search for a bracket. -/
theorem skipped_charsOfItems {items : List Value} (scalars : ∀ item ∈ items, item.isScalar = true) :
    Skipped [']'] (charsOfItems items) :=
  charsOfItems_induction (skipped_nil _) (skipped_char (by decide) (by decide) (by decide))
    Skipped.append fun item member => skipped_chars (scalars item member)

/-- A list with items does not end in an unescaped blank. -/
theorem firm_charsOfItems {items : List Value} (scalars : ∀ item ∈ items, item.isScalar = true)
    (nonempty : items ≠ []) : charsOfItems items ≠ [] ∧ Firm (charsOfItems items) := by
  induction items with
  | nil => exact absurd rfl nonempty
  | cons item rest hypothesis =>
    have scalar := scalars item (List.mem_cons_self ..)
    obtain ⟨head, others, split, _⟩ := exists_head_chars scalar
    rw [charsOfItems_cons]
    cases rest with
    | nil =>
      rw [separated, List.append_nil]
      exact ⟨by simp [split], firm_chars scalar⟩
    | cons next later =>
      obtain ⟨written, firm⟩ :=
        hypothesis (fun other member => scalars other (List.mem_cons_of_mem _ member)) (by simp)
      have space : Settled [' '] := settled_char (by decide)
      refine ⟨by simp [split], Firm.append (settled_chars scalar) (by simp [separated]) ?_⟩
      exact Firm.append space written firm

end Value

namespace Attribute

open Value

/-! ## Reading back -/

/-- A quoted text is read back. -/
theorem readQuoted_chars (content : String) (rest : List Char) :
    ∃ opener others, link (marks ((text content).chars ++ rest)) = opener :: others ∧
      opener.char = '"' ∧ readQuoted opener others = .ok (text content, link (marks rest)) := by
  have joined : (text content).chars ++ rest =
      '"' :: (escape ['"'] content.toList ++ '"' :: rest) := by
    simp [Value.chars]
  rw [joined, marks_cons (by decide), link_cons]
  refine ⟨_, _, rfl, rfl, ?_⟩
  have place := findPlain_escape (show '"' ≠ escapeMark by decide) content.toList rest
  have behind : (link (marks (escape ['"'] content.toList ++ '"' :: rest))).drop
      ((escape ['"'] content.toList).length + 1) = link (marks rest) := by
    have settled : Settled (escape ['"'] content.toList ++ ['"']) :=
      (settled_escape _ _).append (settled_char (by decide))
    have dropped := drop_link_marks settled rest
    rwa [List.length_append, List.append_assoc] at dropped
  simp only [readQuoted]
  rw [place]
  simp only [cellChars_take_link_marks, unescape_escape, String.ofList_toList, behind]

/-- A single condition is read back. -/
theorem readScalar_chars {value : Value} (scalar : value.isScalar = true) :
    readScalar (link (marks value.chars)) = .ok value := by
  rcases isLiteral_or_text scalar with literal | ⟨content, rfl⟩
  · obtain ⟨head, rest, split, visible, _⟩ := exists_head_chars scalar
    have literalHead := isLiteralChar_of_mem_chars literal head (by simp [split])
    have trimmed : trimmedChars (link (marks value.chars)) = value.chars := by
      rw [trimmedChars, link_marks,
        trimMarks_marks_of_firm (isBlank_head_chars scalar) (firm_chars scalar), chars_marks]
    obtain ⟨cell, cells, start, char⟩ := exists_link_marks head rest
    rw [split] at trimmed ⊢
    rw [start] at trimmed ⊢
    rw [readScalar, char, isQuote_of_isLiteralChar literalHead, if_neg (by decide), trimmed,
      ← split, ofLiteral_chars literal]
  · obtain ⟨opener, others, cells, quote, read⟩ := readQuoted_chars content []
    rw [List.append_nil] at cells
    rw [cells, readScalar, quote, if_pos (by decide), read]
    rfl

/-- One round of reading a list, without the proofs that it ends. -/
theorem readItems_eq (cells : List Cell) :
    readItems cells =
      match afterBlanks cells with
      | [] => .ok []
      | cell :: rest =>
        if isQuote cell.char then
          (readQuoted cell rest).bind fun split => (readItems split.2).map (split.1 :: ·)
        else
          (readItems (rest.drop ((findPlain ' ' rest).getD rest.length))).map
            (ofLiteral (cell.char :: cellChars (rest.take ((findPlain ' ' rest).getD rest.length)))
              :: ·) := by
  rw [readItems]
  split
  · rename_i start
    rw [start]
  · rename_i cell rest start
    rw [start]
    simp only
    split
    · split
      · rename_i error split
        rw [split]
        rfl
      · rename_i item remaining split
        rw [split]
        rfl
    · rfl

/-- The search for a space goes on behind a text without spaces and backslashes. -/
theorem findPlain_append {target : Char} {text : List Char}
    (plain : ∀ value ∈ text, value ≠ escapeMark ∧ value ≠ target) (rest : List Char) :
    findPlain target (link (marks (text ++ rest))) =
      (findPlain target (link (marks rest))).map (· + text.length) := by
  induction text with
  | nil => simp
  | cons head others hypothesis =>
    obtain ⟨unescaped, other⟩ := plain head (List.mem_cons_self ..)
    have behind := hypothesis fun value member => plain value (List.mem_cons_of_mem _ member)
    rw [findPlain] at behind
    rw [List.cons_append, marks_cons unescaped, link_cons, findPlain, List.findIdx?_cons]
    simp only [beq_iff_eq, other, Bool.not_false, Bool.and_true, if_false, behind, Option.map_map,
      List.length_cons]
    rfl

/-- A literal ends before the space that follows it. -/
theorem findPlain_separated {text : List Char}
    (plain : ∀ value ∈ text, value ≠ escapeMark ∧ value ≠ ' ') (items : List Value) :
    (findPlain ' ' (link (marks (text ++ separated items)))).getD
      (link (marks (text ++ separated items))).length = text.length := by
  rw [findPlain_append plain, link_length, marks_length, List.length_append]
  cases items with
  | nil => simp [separated, marks, marksFrom, link, findPlain]
  | cons item rest =>
    rw [separated.eq_2 _ (by simp), marks_cons (by decide), link_cons, findPlain,
      List.findIdx?_cons]
    simp

/-- One item is read, and what follows it remains. -/
theorem readItems_item {item : Value} (scalar : item.isScalar = true) (items : List Value) :
    readItems (link (marks (item.chars ++ separated items))) =
      (readItems (link (marks (separated items)))).map (item :: ·) := by
  rcases isLiteral_or_text scalar with literal | ⟨content, rfl⟩
  · obtain ⟨head, rest, split, visible, _⟩ := exists_head_chars scalar
    have literalChar : ∀ char ∈ head :: rest, isLiteralChar char = true :=
      split ▸ isLiteralChar_of_mem_chars literal
    have literalHead := literalChar head (List.mem_cons_self ..)
    have restPlain : ∀ value ∈ rest, value ≠ escapeMark ∧ value ≠ ' ' := by
      intro value member
      have literalValue := literalChar value (List.mem_cons_of_mem _ member)
      refine ⟨ne_escapeMark_of_isLiteralChar literalValue, ?_⟩
      rintro rfl
      exact absurd literalValue (by decide)
    have settled : Settled rest := settled_of_plain fun value member => (restPlain value member).1
    have starts : ∀ first ∈ (head :: (rest ++ separated items)).head?, isBlank first = false := by
      simpa using visible
    rw [split, List.cons_append, readItems_eq, afterBlanks_of_visible starts,
      marks_cons (ne_escapeMark_of_isLiteralChar literalHead), link_cons]
    simp only [isQuote_of_isLiteralChar literalHead, findPlain_separated restPlain items,
      cellChars_take_link_marks, drop_link_marks settled, Bool.false_eq_true, if_false]
    rw [← split, ofLiteral_chars literal]
  · obtain ⟨opener, others, cells, quote, read⟩ := readQuoted_chars content (separated items)
    have start : afterBlanks (opener :: others) = opener :: others := by
      rw [afterBlanks, List.dropWhile_cons_of_neg (by rw [quote]; decide)]
    rw [cells, readItems_eq, start]
    simp only [quote, read]
    rfl

/-- The spaces before an item do not matter. -/
theorem readItems_separated (items : List Value) :
    readItems (link (marks (separated items))) = readItems (link (marks (charsOfItems items))) := by
  cases items with
  | nil => rfl
  | cons item rest =>
    rw [readItems_eq, readItems_eq, separated.eq_2 _ (by simp), afterBlanks_of_blank (by decide)]

/-- The items of a list are read back. -/
theorem readItems_chars {items : List Value} (scalars : ∀ item ∈ items, item.isScalar = true) :
    readItems (link (marks (charsOfItems items))) = .ok items := by
  induction items with
  | nil =>
    rw [readItems_eq]
    rfl
  | cons item rest hypothesis =>
    have others := hypothesis fun other member => scalars other (List.mem_cons_of_mem _ member)
    rw [charsOfItems_cons, readItems_item (scalars item (List.mem_cons_self ..)),
      readItems_separated, others]
    rfl

end Attribute

/-! ## Conditions of operators -/

/-- Whether a condition is of the form that an operator takes: a list of single conditions for
membership, a single condition for any other operator. -/
def Operator.accepts : Operator → Value → Bool
  | .inList, .list items => items.all Value.isScalar
  | .inList, _ => false
  | _, condition => condition.isScalar

namespace Operator

/-- Membership takes a list of single conditions, any other operator a single condition. -/
theorem accepts_cases {operator : Operator} {condition : Value}
    (accepted : operator.accepts condition = true) :
    (operator = .inList ∧
        ∃ items, condition = .list items ∧ ∀ item ∈ items, item.isScalar = true) ∨
      (operator ≠ .inList ∧ condition.isScalar = true) := by
  by_cases membership : operator = .inList
  · subst membership
    cases condition with
    | list items => exact Or.inl ⟨rfl, items, rfl, List.all_eq_true.1 accepted⟩
    | null | bool value | int value | float value | text value => simp [accepts] at accepted
  · refine Or.inr ⟨membership, ?_⟩
    cases operator with
    | inList => exact absurd rfl membership
    | _ => exact accepted

end Operator

namespace Attribute

/-- The condition of an operator is read back. -/
theorem readCondition_chars {operator : Operator} {condition : Value}
    (accepted : operator.accepts condition = true) :
    readCondition operator (link (marks condition.chars)) = .ok condition := by
  rcases Operator.accepts_cases accepted with ⟨rfl, items, rfl, scalars⟩ | ⟨single, scalar⟩
  · rw [readCondition, if_pos rfl, Value.chars, readItems_chars scalars]
    rfl
  · rw [readCondition, if_neg single, afterBlanks_of_visible (Value.isBlank_head_chars scalar),
      readScalar_chars scalar]

end Attribute

end NodeQuery
