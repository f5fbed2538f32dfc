import NodeQuery.Proofs.Selector.Sequence

/-!
# What a reading yields

Whatever text is read, the conditions fit their operators, no floating point number is infinite
or none, names and values of pseudo selectors have their form, and element names start like one.
These are the shapes that the canonical texts are made for.

Main statements: `Simple.isShaped_of_parse` and `Sequence.shaped_of_parse`.
-/

namespace NodeQuery

open Text

namespace Value

/-- A numeral is a single condition. -/
theorem isScalar_of_ofNumeral? {numeral : Number.Numeral} {value : Value}
    (typed : ofNumeral? numeral = some value) : value.isScalar = true := by
  rw [ofNumeral?, Option.or_eq_some_iff] at typed
  rcases typed with whole | ⟨_, rounded⟩
  · rw [ofWholeNumeral?] at whole
    split at whole
    · cases whole
      rfl
    · cases whole
  · split at rounded
    · rename_i finite
      cases rounded
      exact finite
    · cases rounded

/-- A literal is a single condition. -/
theorem isScalar_ofLiteral (raw : List Char) : (ofLiteral raw).isScalar = true := by
  simp only [ofLiteral]
  split
  · rfl
  split
  · rfl
  split
  · rfl
  cases typed : (Number.Numeral.read? raw).bind ofNumeral? with
  | none => rfl
  | some value =>
    obtain ⟨numeral, _, found⟩ := Option.bind_eq_some_iff.1 typed
    exact isScalar_of_ofNumeral? found

end Value

namespace Attribute

/-- What stands between quotes is a single condition. -/
theorem isScalar_of_readQuoted {opener : Cell} {rest remaining : List Cell} {value : Value}
    (read : readQuoted opener rest = .ok (value, remaining)) : value.isScalar = true := by
  rw [readQuoted] at read
  split at read
  · cases read
    rfl
  · cases read

/-- What is read as a single condition is one. -/
theorem isScalar_of_readScalar {cells : List Cell} {value : Value}
    (read : readScalar cells = .ok value) : value.isScalar = true := by
  unfold readScalar at read
  split at read
  · cases read
    rfl
  · split at read
    · obtain ⟨⟨quoted, remaining⟩, readQuoted, rfl⟩ := map_eq_ok_iff.1 read
      exact isScalar_of_readQuoted readQuoted
    · cases read
      exact Value.isScalar_ofLiteral _

/-- What is read as a list holds single conditions. -/
theorem isScalar_of_readItems {cells : List Cell} {items : List Value}
    (read : readItems cells = .ok items) : ∀ item ∈ items, item.isScalar = true := by
  -- each round leaves fewer cells than it was given
  induction size : cells.length using Nat.strongRecOn generalizing cells items with
  | ind size hypothesis =>
    subst size
    have bound := afterBlanks_length_le cells
    rw [readItems_eq] at read
    split at read
    · cases read
      simp
    · rename_i cell rest start
      rw [start, List.length_cons] at bound
      split at read
      · obtain ⟨⟨item, remaining⟩, first, later⟩ := bind_eq_ok_iff.1 read
        obtain ⟨others, readOthers, rfl⟩ := map_eq_ok_iff.1 later
        have shorter : remaining.length ≤ rest.length := readQuoted_length first
        have fewer : remaining.length < cells.length := by omega
        exact List.forall_mem_cons.2
          ⟨isScalar_of_readQuoted first, hypothesis _ fewer readOthers rfl⟩
      · obtain ⟨others, readOthers, rfl⟩ := map_eq_ok_iff.1 read
        have fewer : (rest.drop ((findPlain ' ' rest).getD rest.length)).length < cells.length := by
          rw [List.length_drop]
          omega
        exact List.forall_mem_cons.2
          ⟨Value.isScalar_ofLiteral _, hypothesis _ fewer readOthers rfl⟩

/-- What is read as the condition of an operator fits it. -/
theorem accepts_of_readCondition {operator : Operator} {cells : List Cell} {condition : Value}
    (read : readCondition operator cells = .ok condition) :
    operator.accepts condition = true := by
  rw [readCondition] at read
  split at read
  · rename_i membership
    obtain ⟨items, readItems, rfl⟩ := map_eq_ok_iff.1 read
    rw [membership]
    exact List.all_eq_true.2 (isScalar_of_readItems readItems)
  · rename_i other
    have scalar := isScalar_of_readScalar read
    cases operator with
    | inList => exact absurd rfl other
    | _ => exact scalar

/-- An attribute selector that is read has a condition that fits its operator. -/
theorem isShaped_of_parse {pattern : List Char} {test : Attribute}
    (read : parse pattern = .ok test) : test.isShaped = true := by
  rw [parse] at read
  split at read
  · cases read
  · split at read
    · cases read
      rfl
    · simp only at read
      split at read
      · cases read
      · obtain ⟨condition, readCondition, rfl⟩ := map_eq_ok_iff.1 read
        exact accepts_of_readCondition readCondition

end Attribute

namespace Pseudo

/-- A text without double quotes at its ends keeps them off. -/
theorem trimQuotes_trimQuotes (text : List Char) :
    trimQuotes (trimQuotes text) = trimQuotes text := by
  obtain ⟨run, split, _⟩ := dropTrailing_append_run (· == '"') (text.dropWhile (· == '"'))
  have start : (trimQuotes text).dropWhile (· == '"') = trimQuotes text := by
    cases kept : trimQuotes text with
    | nil => rfl
    | cons head rest =>
      have first := List.head?_dropWhile_not (· == '"') text
      rw [split, show dropTrailing (· == '"') (text.dropWhile (· == '"')) = head :: rest from kept]
        at first
      exact List.dropWhile_cons_of_neg (by simpa using first)
  have stop : dropTrailing (· == '"') (trimQuotes text) = trimQuotes text :=
    dropTrailing_of_getLast? (getLast?_dropTrailing _ _)
  rw [trimQuotes, start, stop]

/-- What is left between double quotes was there before. -/
theorem mem_of_mem_trimQuotes {text : List Char} {value : Char} (member : value ∈ trimQuotes text) :
    value ∈ text := by
  obtain ⟨run, split, _⟩ := dropTrailing_append_run (· == '"') (text.dropWhile (· == '"'))
  have inside : value ∈ text.dropWhile (· == '"') := by
    rw [split]
    exact List.mem_append_left run member
  exact (List.dropWhile_sublist _).mem inside

/-- The attribute of a sort that is read is a word that keeps no double quote at its ends. -/
theorem isShaped_sort_of_takeWhile {text : List Char} {order : SortOrder}
    (written : (trimQuotes (text.takeWhile (!isSpace ·))).isEmpty = false) :
    (sort (String.ofList (trimQuotes (text.takeWhile (!isSpace ·)))) order).isShaped = true := by
  have spaceless : (trimQuotes (text.takeWhile (!isSpace ·))).all (!isSpace ·) = true :=
    List.all_eq_true.2 fun value member =>
      List.all_eq_true.1 List.all_takeWhile value (mem_of_mem_trimQuotes member)
  have nonempty : String.ofList (trimQuotes (text.takeWhile (!isSpace ·))) ≠ "" := by
    intro empty
    have nothing := congrArg String.toList empty
    rw [String.toList_ofList] at nothing
    rw [nothing] at written
    cases written
  simp only [isShaped, String.toList_ofList, trimQuotes_trimQuotes, spaceless,
    bne_iff_ne.2 nonempty, beq_self_eq_true, Bool.and_self]

/-- A sort that is read has its form. -/
theorem isShaped_of_parseSort {value : Option (List Char)} {pattern : List Char} {change : Pseudo}
    (read : parseSort value pattern = .ok change) : change.isShaped = true := by
  cases value with
  | none => cases read
  | some text =>
    simp only [parseSort] at read
    split at read
    · cases read
    · rename_i written
      have nonempty := Bool.eq_false_iff.2 written
      split at read
      · cases read
        exact isShaped_sort_of_takeWhile nonempty
      · split at read
        · cases read
          exact isShaped_sort_of_takeWhile nonempty
        · cases read

/-- The pseudo selector of a name and a value has its form. -/
theorem isShaped_of_ofParts {name : List Char} {value : Option (List Char)} {pattern : List Char}
    {change : Pseudo} (named : name.isEmpty = false)
    (read : ofParts name value pattern = .ok change) : change.isShaped = true := by
  rw [ofParts] at read
  split at read
  · exact isShaped_of_parseSort read
  · rename_i other
    cases read
    have written : String.ofList name ≠ "" := by
      intro empty
      rw [← String.toList_ofList (l := name), empty] at named
      cases named
    have unreserved : String.ofList name ≠ sortName := by
      intro reserved
      exact other (by rw [← reserved, String.toList_ofList])
    have filled : (value.map String.ofList).filter (· ≠ "") ≠ some "" := by
      intro empty
      have kept := Option.filter_eq_some_iff.1 empty
      exact absurd kept.2 (by decide)
    simp only [ofName, isShaped, bne_iff_ne.2 written, bne_iff_ne.2 unreserved,
      bne_iff_ne.2 filled, Bool.and_self]

/-- A pseudo selector that is read has its form. -/
theorem isShaped_of_parse {pattern : List Char} {change : Pseudo}
    (read : parse pattern = .ok change) : change.isShaped = true := by
  simp only [parse] at read
  split at read
  · cases read
  · rename_i named
    have nonempty := Bool.eq_false_iff.2 named
    split at read
    · exact isShaped_of_ofParts nonempty read
    · obtain ⟨value, _, parts⟩ := bind_eq_ok_iff.1 read
      exact isShaped_of_ofParts nonempty parts

end Pseudo

namespace Simple

/-- Only the characters that start a name are taken for an element. -/
theorem startsName_of_kindOf? {sign : Char} (found : kindOf? sign = some .element) :
    startsName sign = true := by
  rw [kindOf?] at found
  split at found
  · assumption
  · have signed : ∀ pair ∈ signs, pair.2 ≠ .element := by decide
    obtain ⟨front, back, split, _⟩ := List.lookup_eq_some_iff.1 found
    exact absurd rfl (signed (sign, .element) (by simp [split]))

/-- A simple selector that is read is one of the shapes that the canonical texts are made for. -/
theorem isShaped_of_parse {token : List Char} {item : Simple} (read : parse token = .ok item) :
    item.isShaped = true := by
  unfold parse at read
  split at read
  · cases read
  · rename_i sign body
    cases kind : kindOf? sign with
    | none =>
      rw [kind] at read
      cases read
    | some found =>
      rw [kind] at read
      cases found with
      | universal =>
        simp only at read
        split at read <;> cases read
        rfl
      | element =>
        cases read
        have starts := startsName_of_kindOf? kind
        have plain := (not_mem_valueSpecials_of_startsName starts).1
        simp [isShaped, unescape_cons plain, starts]
      | id | role | className =>
        simp only [parseValue] at read
        split at read <;> cases read
        rfl
      | path =>
        obtain ⟨path, _, rfl⟩ := map_eq_ok_iff.1 read
        rfl
      | attributeTest =>
        simp only at read
        split at read
        · cases read
        · obtain ⟨test, readTest, rfl⟩ := map_eq_ok_iff.1 read
          exact Attribute.isShaped_of_parse readTest
      | pseudo =>
        obtain ⟨change, readChange, rfl⟩ := map_eq_ok_iff.1 read
        exact Pseudo.isShaped_of_parse readChange

end Simple

namespace Sequence

/-- A text that does not start with a blank has a token. -/
theorem tokens_ne_nil {head : Char} {rest : List Char} (visible : isBlank head = false) :
    tokens (cellsOf (head :: rest)) ≠ [] := by
  obtain ⟨mark, marks, kept, char⟩ :
      ∃ mark others, trimMarks (marks (head :: rest)) = mark :: others ∧ mark.char = head := by
    have stays : Mark.isLooseBlank ⟨head, false⟩ = false := by simp [Mark.isLooseBlank, visible]
    rw [marks, marksFrom, trimMarks, dropTrailing_cons, if_neg (by simp [stays]),
      List.dropWhile_cons_of_neg (by simp [visible])]
    exact ⟨_, _, rfl, rfl⟩
  rw [cellsOf, kept, link_cons, tokens_eq, afterBlanks,
    List.dropWhile_cons_of_neg (by simp [char, visible])]
  simp

/-- A sequence with items that is read is one of the shapes that the canonical texts are made
for. -/
theorem shaped_of_parse_of_ne_nil {pattern : List Char} {sequence : Sequence}
    (nonempty : sequence.items ≠ []) (read : parse pattern = .ok sequence) : sequence.Shaped := by
  obtain ⟨items, readItems, built⟩ := (foldlM_appendToken_iff _ empty sequence).1 read
  obtain ⟨rfl, _⟩ := (ofItems_eq_ok_iff items sequence).1 built
  refine ⟨nonempty, built, fun item member => ?_⟩
  have inside : (.ok item : Except ParseError Simple) ∈ items.map .ok := List.mem_map_of_mem member
  rw [← readItems] at inside
  obtain ⟨token, _, readToken⟩ := List.mem_map.1 inside
  exact Simple.isShaped_of_parse readToken

/-- A sequence that is read from a text that does not start with a blank is one of the shapes
that the canonical texts are made for. -/
theorem shaped_of_parse {head : Char} {rest : List Char} {sequence : Sequence}
    (visible : isBlank head = false) (read : parse (head :: rest) = .ok sequence) :
    sequence.Shaped := by
  refine shaped_of_parse_of_ne_nil (fun none => ?_) read
  obtain ⟨items, readItems, built⟩ := (foldlM_appendToken_iff _ empty sequence).1 read
  obtain ⟨rfl, _⟩ := (ofItems_eq_ok_iff items sequence).1 built
  obtain rfl : items = [] := none
  exact tokens_ne_nil visible (List.map_eq_nil_iff.1 readItems)

end Sequence

end NodeQuery
