import NodeQuery.Proofs.Selector.WellFormed

/-!
# Equality and canonical texts

Equality of selectors is meant to be equality of their canonical texts. It misses that by two slips.
The path of one empty segment is written like the empty path, since a first segment that is empty
leaves nothing between the leading separator and the next one. And the two zeros are equal as
numbers, but the sign of a zero is written.

Nothing else is lost or added: the texts of two selectors that are read are the same if and only if
the selectors are once such paths are collapsed, and the selectors agree if and only if they are the
same once zeros have lost their signs. So the two notions coincide on a pair of selectors exactly if
these are the same or differ in more than either slip.

Main statement: `Selector.agrees_iff_text_eq_iff`.
-/

namespace NodeQuery

open Text

/-- Lists are the same if two images of them are, as soon as the two tell a member. -/
theorem eq_of_map_eq_of_map_eq {Item Image Other : Type} {image : Item → Image}
    {otherImage : Item → Other}
    (told : ∀ item other, image item = image other → otherImage item = otherImage other →
      item = other) {items others : List Item} (same : items.map image = others.map image)
    (otherSame : items.map otherImage = others.map otherImage) : items = others := by
  have pairs := congrArg₂ List.zip same otherSame
  rw [List.zip_map', List.zip_map'] at pairs
  have both : ∀ item ∈ items, ∀ other ∈ others,
      (image item, otherImage item) = (image other, otherImage other) → id item = id other := by
    intro item _ other _ equal
    obtain ⟨first, second⟩ := Prod.mk.inj equal
    exact told item other first second
  have members := map_eq_of_map_eq both pairs
  rwa [List.map_id, List.map_id] at members

namespace Text

/-- Escaped texts are told apart. -/
theorem escape_injective (specials : List Char) : Function.Injective (escape specials) :=
  Function.LeftInverse.injective (unescape_escape specials)

/-- A text is split in one way only into a part that a search steps over and what starts with a
target. -/
theorem Skipped.append_inj {targets front otherFront back otherBack : List Char}
    (skipped : Skipped targets front) (otherSkipped : Skipped targets otherFront)
    (unsought : escapeMark ∉ targets) (stops : ∀ first ∈ back.head?, first ∈ targets)
    (otherStops : ∀ first ∈ otherBack.head?, first ∈ targets)
    (same : front ++ back = otherFront ++ otherBack) : front = otherFront ∧ back = otherBack := by
  have place := skipped.findTarget_getD unsought stops
  rw [same, otherSkipped.findTarget_getD unsought otherStops] at place
  exact List.append_inj same place.symm

end Text

/-! ## Paths -/

namespace Path

/-- The path itself, or the empty path in the place of that of one empty segment. -/
def collapse (path : Path) : Path := if path = ofSegments [""] then ofSegments [] else path

/-- A path of one empty segment is written like the empty path. -/
theorem body_collapse (path : Path) : path.collapse.body = path.body := by
  rw [collapse]
  split
  · rename_i same
    rw [same]
    rfl
  · rfl

/-- Roots are told by their text. -/
theorem rootChars_injective : Function.Injective Root.chars := by
  intro root other same
  have values := escape_injective valueSpecials
  cases root with
  | id value =>
    cases other with
    | id otherValue => rw [String.toList_inj.1 (values (List.cons.inj same).2)]
    | role otherValue => cases (List.cons.inj same).1
  | role value =>
    cases other with
    | id otherValue => cases (List.cons.inj same).1
    | role otherValue => rw [String.toList_inj.1 (values (List.cons.inj same).2)]

/-- Segments are told by their text. -/
theorem segmentChars_injective : Function.Injective segmentChars := fun _ _ same =>
  String.toList_inj.1 (escape_injective segmentSpecials same)

/-- A root is not written like a first segment. -/
theorem rootChars_ne_guardedChars (root : Root) (first : String) :
    root.chars ≠ guardedChars first := by
  intro same
  have read := parse?_rootChars root
  rw [same, parse?_guardedChars] at read
  cases read

/-- Paths with the same text are the same once collapsed. -/
theorem collapse_eq_of_body_eq {path other : Path} (same : path.body = other.body) :
    path.collapse = other.collapse := by
  have parts := pieces_body path
  rw [same, pieces_body other] at parts
  obtain ⟨starts, rests⟩ := List.cons.inj parts
  have later := segmentChars_injective.list_map rests
  obtain ⟨root, segments⟩ := path
  obtain ⟨otherRoot, otherSegments⟩ := other
  cases root with
  | some root =>
    cases otherRoot with
    | none => exact absurd starts.symm (rootChars_ne_guardedChars root _)
    | some otherRoot =>
      have tails : otherSegments = segments := later
      rw [rootChars_injective starts, tails]
  | none =>
    cases otherRoot with
    | some otherRoot => exact absurd starts (rootChars_ne_guardedChars otherRoot _)
    | none =>
      have firsts : otherSegments.headD "" = segments.headD "" := by
        have read := congrArg (fun text => String.ofList (unescape text)) starts
        simpa only [bodyStart, unescape_guardedChars] using read
      have tails : otherSegments.tail = segments.tail := later
      cases segments with
      | nil =>
        cases otherSegments with
        | nil => rfl
        | cons other rest =>
          simp only [List.headD_cons, List.headD_nil, List.tail_cons, List.tail_nil] at firsts tails
          rw [firsts, tails]
          rfl
      | cons first rest =>
        cases otherSegments with
        | nil =>
          simp only [List.headD_cons, List.headD_nil, List.tail_cons, List.tail_nil] at firsts tails
          rw [← firsts, ← tails]
          rfl
        | cons other otherRest =>
          simp only [List.headD_cons, List.tail_cons] at firsts tails
          rw [firsts, tails]

end Path

/-! ## Attribute and pseudo selectors -/

namespace Attribute

/-- The text of an operator and its condition starts with a character that starts operators. -/
theorem head_tail (test : Attribute) : ∀ first ∈ test.tail.head?, first ∈ Operator.leads := by
  intro first starts
  obtain ⟨name, operator, condition⟩ := test
  cases operator with
  | none => cases starts
  | some operator =>
    obtain ⟨head, rest, split, lead, _⟩ := exists_head_symbol operator
    have written : tail ⟨name, some operator, condition⟩ = head :: (rest ++ condition.chars) := by
      simp [tail, split]
    rw [written] at starts
    obtain rfl : head = first := by simpa using starts
    exact lead

/-- An operator and a fitting condition are told by their text. -/
theorem eq_of_symbol_append_eq {operator other : Operator} {condition otherCondition : Value}
    (accepted : operator.accepts condition = true)
    (otherAccepted : other.accepts otherCondition = true)
    (same : operator.symbol ++ condition.chars = other.symbol ++ otherCondition.chars) :
    operator = other ∧ condition = otherCondition := by
  have symbols := operatorSymbol_chars accepted
  rw [same, operatorSymbol_chars otherAccepted] at symbols
  rw [symbols] at same
  have found := Operator.ofSymbol?_symbol other
  rw [symbols, Operator.ofSymbol?_symbol operator] at found
  obtain rfl := Option.some.inj found
  have read := readCondition_chars accepted
  rw [List.append_cancel_left same, readCondition_chars otherAccepted] at read
  exact ⟨rfl, (Except.ok.inj read).symm⟩

/-- Attribute selectors are told by their text. -/
theorem eq_of_body_eq {test other : Attribute} (shaped : test.isShaped = true)
    (otherShaped : other.isShaped = true) (same : test.body = other.body) : test = other := by
  have skipped : ∀ name, Skipped Operator.leads (escape nameSpecials name) :=
    skipped_escape (forall_mem_of_all (by decide)) (by decide)
  rw [body_eq, body_eq] at same
  obtain ⟨names, tails⟩ := (skipped _).append_inj (skipped _) (by decide) test.head_tail
    other.head_tail same
  have form := wellFormed_of_isShaped shaped
  have otherForm := wellFormed_of_isShaped otherShaped
  obtain ⟨name, operator, condition⟩ := test
  obtain ⟨otherName, otherOperator, otherCondition⟩ := other
  obtain rfl : name = otherName := String.toList_inj.1 (escape_injective nameSpecials names)
  -- an operator is never written as nothing
  have written : ∀ (operator : Operator) (rest : List Char), operator.symbol ++ rest ≠ [] := by
    intro operator rest
    cases operator <;> simp [Operator.symbol]
  cases operator with
  | none =>
    cases otherOperator with
    | none =>
      obtain rfl : condition = .null := form.presence rfl
      obtain rfl : otherCondition = .null := otherForm.presence rfl
      rfl
    | some otherOperator => exact absurd tails.symm (written otherOperator _)
  | some operator =>
    cases otherOperator with
    | none => exact absurd tails (written operator _)
    | some otherOperator =>
      obtain ⟨rfl, rfl⟩ := eq_of_symbol_append_eq shaped otherShaped tails
      rfl

end Attribute

namespace Pseudo

/-- Values are told by their text between parentheses. -/
theorem valueChars_injective : Function.Injective valueChars := by
  intro value other same
  cases value with
  | none =>
    cases other with
    | none => rfl
    | some other => cases same
  | some value =>
    cases other with
    | none => cases same
    | some other =>
      have contents := List.append_cancel_right (List.cons.inj same).2
      rw [String.toList_inj.1 (escape_injective specials contents)]

/-- Pseudo selectors are told by their text. -/
theorem eq_of_body_eq {change other : Pseudo} (shaped : change.isShaped = true)
    (otherShaped : other.isShaped = true) (same : change.body = other.body) : change = other := by
  have skipped : ∀ name, Skipped ['('] (escape valueSpecials name) :=
    skipped_escape (forall_mem_of_all (by decide)) (by decide)
  have opened : ∀ value, ∀ first ∈ (valueChars value).head?, first ∈ ['('] := by
    intro value first starts
    cases value with
    | none => cases starts
    | some value =>
      obtain rfl : '(' = first := by simpa [valueChars] using starts
      exact List.mem_singleton_self '('
  rw [body_eq, body_eq] at same
  obtain ⟨front, texts⟩ := (skipped _).append_inj (skipped _) (by decide) (opened _) (opened _) same
  have names : change.name = other.name :=
    String.toList_inj.1 (escape_injective valueSpecials front)
  have values : change.value? = other.value? := valueChars_injective texts
  cases change with
  | named name value =>
    cases other with
    | named otherName otherValue =>
      obtain rfl : name = otherName := names
      obtain rfl : value = otherValue := values
      rfl
    | sort otherName order => exact absurd names (wellFormed_of_isShaped shaped).2.1
  | sort attributeName order =>
    cases other with
    | named otherName value => exact absurd names.symm (wellFormed_of_isShaped otherShaped).2.1
    | sort otherName otherOrder =>
      have written := congrArg String.toList (Option.some.inj values)
      rw [toList_sortValue, toList_sortValue] at written
      have read := parseSort_sort shaped []
      rw [written, parseSort_sort otherShaped []] at read
      exact (Except.ok.inj read).symm

end Pseudo

/-! ## Simple selectors and sequences -/

namespace Simple

/-- The simple selector itself, or with its path collapsed. -/
def collapse : Simple → Simple
  | path value => path value.collapse
  | item => item

/-- Collapsing a path does not change what is written. -/
theorem chars_collapse (item : Simple) : item.collapse.chars = item.chars := by
  cases item with
  | path value => exact congrArg (List.cons Path.separator) value.body_collapse
  | _ => rfl

/-- Items of which the texts start alike are of one kind. -/
theorem kind_eq_of_chars_eq {item other : Simple} (shaped : item.isShaped = true)
    (otherShaped : other.isShaped = true) (same : item.chars = other.chars) :
    item.kind = other.kind := by
  obtain ⟨head, rest, split, kind, _⟩ := exists_head_chars shaped
  obtain ⟨otherHead, otherRest, otherSplit, otherKind, _⟩ := exists_head_chars otherShaped
  rw [split, otherSplit] at same
  rw [(List.cons.inj same).1, otherKind] at kind
  exact (Option.some.inj kind).symm

/-- Items that a reading can yield are written alike if and only if they are the same once
collapsed. -/
theorem chars_eq_iff {item other : Simple} (shaped : item.isShaped = true)
    (otherShaped : other.isShaped = true) :
    item.chars = other.chars ↔ item.collapse = other.collapse := by
  have values : ∀ {value otherValue : String},
      escape valueSpecials value.toList = escape valueSpecials otherValue.toList →
        value = otherValue := fun same =>
    String.toList_inj.1 (escape_injective valueSpecials same)
  constructor
  · intro same
    have kinds := kind_eq_of_chars_eq shaped otherShaped same
    cases item with
    | universal =>
      cases other <;> cases kinds
      rfl
    | element value =>
      cases other <;> cases kinds
      rw [values same]
    | id value | role value | className value =>
      cases other <;> cases kinds
      rw [values (List.cons.inj same).2]
    | path value =>
      cases other <;> cases kinds
      exact congrArg path (Path.collapse_eq_of_body_eq (List.cons.inj same).2)
    | attributeTest test =>
      cases other <;> cases kinds
      have bodies := List.append_cancel_right (List.cons.inj same).2
      rw [Attribute.eq_of_body_eq shaped otherShaped bodies]
    | pseudo change =>
      cases other <;> cases kinds
      rw [Pseudo.eq_of_body_eq shaped otherShaped (List.cons.inj same).2]
  · intro same
    rw [← chars_collapse item, same, chars_collapse]

/-- An item that a reading can yield is finite. -/
theorem isFinite_of_isShaped {item : Simple} (shaped : item.isShaped = true) :
    item.isFinite = true := by
  cases item with
  | attributeTest test => exact (Attribute.wellFormed_of_isShaped shaped).finite
  | _ => rfl

/-- Items that are the same once zeros have lost their signs and once collapsed are the same. -/
theorem eq_of_unsignedZeros_of_collapse {item other : Simple}
    (unsigned : item.unsignedZeros = other.unsignedZeros)
    (collapsed : item.collapse = other.collapse) : item = other := by
  cases item with
  | path value => cases other <;> first | exact unsigned | cases unsigned
  | _ => cases other <;> first | exact collapsed | cases collapsed

end Simple

namespace Sequence

/-- Collapsing paths does not change what is written. -/
theorem chars_collapse (sequence : Sequence) :
    (sequence.mapItems Simple.collapse).chars = sequence.chars := by
  rw [chars, mapItems, List.flatMap_map]
  exact congrArg (List.flatMap · sequence.items) (funext Simple.chars_collapse)

/-- Sequences that a reading can yield are written alike if and only if they are the same once
collapsed. -/
theorem chars_eq_iff {sequence other : Sequence} (shaped : sequence.Shaped)
    (otherShaped : other.Shaped) :
    sequence.chars = other.chars ↔
      sequence.mapItems Simple.collapse = other.mapItems Simple.collapse := by
  constructor
  · intro same
    have texts := tokens_chars shaped.ordered shaped.items
    rw [show sequence.items.flatMap Simple.chars = other.items.flatMap Simple.chars from same,
      tokens_chars otherShaped.ordered otherShaped.items] at texts
    refine congrArg mk (map_eq_of_map_eq (fun item member otherItem otherMember equal => ?_)
      texts.symm)
    exact (Simple.chars_eq_iff (shaped.items item member)
      (otherShaped.items otherItem otherMember)).1 equal
  · intro same
    rw [← chars_collapse sequence, same, chars_collapse]

end Sequence

/-! ## Selectors -/

namespace Selector

/-- The selector with each of its paths collapsed. -/
def collapse (selector : Selector) : Selector := selector.mapItems Simple.collapse

/-- The text of a chain is cut into the texts of its sequences. -/
theorem pieces_chars_ofChain {chain : Chain}
    (shaped : ∀ sequence ∈ chain.sequences, sequence.Shaped) :
    pieces true 0 (link (marks (ofChain chain).chars)) =
      .joined none chain.first.chars :: chain.rest.map pieceOf := by
  rw [chars_ofChain, pieces_first_spacedChars shaped (standing_symbolGaps chain.rest),
    cut_symbolGaps]

/-- Collapsing paths does not change what is written. -/
theorem chars_collapse (selector : Selector) : selector.collapse.chars = selector.chars := by
  have each : ∀ node : Node, (Node.mapItems Simple.collapse node).sequence.chars =
      node.sequence.chars := fun node => node.sequence.chars_collapse
  rw [chars, collapse, mapItems, List.flatMap_map]
  simp only [each]
  rfl

/-- Chains that a reading can yield are written alike if and only if they are the same once
collapsed. -/
theorem chars_eq_iff {chain other : Chain} (shaped : ∀ sequence ∈ chain.sequences, sequence.Shaped)
    (otherShaped : ∀ sequence ∈ other.sequences, sequence.Shaped) :
    (ofChain chain).chars = (ofChain other).chars ↔
      (ofChain chain).collapse = (ofChain other).collapse := by
  obtain ⟨firstShaped, restShaped⟩ := List.forall_mem_cons.1 shaped
  obtain ⟨otherFirstShaped, otherRestShaped⟩ := List.forall_mem_cons.1 otherShaped
  rw [List.forall_mem_map] at restShaped otherRestShaped
  constructor
  · intro same
    have cut := pieces_chars_ofChain shaped
    rw [same, pieces_chars_ofChain otherShaped] at cut
    obtain ⟨start, later⟩ := List.cons.inj cut
    have first := (Sequence.chars_eq_iff firstShaped otherFirstShaped).1
      (Piece.joined.inj start).2.symm
    have rest : chain.rest.map (fun pair => (pair.1, pair.2.mapItems Simple.collapse)) =
        other.rest.map fun pair => (pair.1, pair.2.mapItems Simple.collapse) := by
      refine map_eq_of_map_eq (fun pair member otherPair otherMember equal => ?_) later.symm
      obtain ⟨joining, texts⟩ := Piece.joined.inj equal
      have sequences := (Sequence.chars_eq_iff (restShaped pair member)
        (otherRestShaped otherPair otherMember)).1 texts
      rw [Option.some.inj joining, sequences]
    rw [collapse, collapse, mapItems_ofChain, mapItems_ofChain, Chain.mapItems, Chain.mapItems,
      first, rest]
  · intro same
    rw [← chars_collapse (ofChain chain), same, chars_collapse]

/-- A selector that is read is finite. -/
theorem isFinite_of_parse {pattern : List Char} {selector : Selector}
    (read : parse pattern = .ok selector) : selector.isFinite = true := by
  obtain ⟨chain, rfl, shaped⟩ := shaped_of_parse read
  rw [isFinite, sequences_ofChain, List.all_eq_true]
  intro sequence member
  rw [Sequence.isFinite, List.all_eq_true]
  intro item inside
  exact Simple.isFinite_of_isShaped ((shaped sequence member).items item inside)

/-- Selectors that are the same once zeros have lost their signs and once paths are collapsed are
the same. -/
theorem eq_of_unsignedZeros_of_collapse {one other : Selector}
    (unsigned : one.unsignedZeros = other.unsignedZeros)
    (collapsed : one.collapse = other.collapse) : one = other := by
  have sequences : ∀ {sequence other : Sequence},
      sequence.mapItems Simple.unsignedZeros = other.mapItems Simple.unsignedZeros →
      sequence.mapItems Simple.collapse = other.mapItems Simple.collapse → sequence = other := by
    intro sequence other unsigned collapsed
    exact congrArg Sequence.mk (eq_of_map_eq_of_map_eq
      (fun _ _ => Simple.eq_of_unsignedZeros_of_collapse) (Sequence.mk.inj unsigned)
      (Sequence.mk.inj collapsed))
  have nodes : ∀ node other : Node,
      Node.mapItems Simple.unsignedZeros node = Node.mapItems Simple.unsignedZeros other →
      Node.mapItems Simple.collapse node = Node.mapItems Simple.collapse other → node = other := by
    rintro ⟨sequence, parent, child, combinator⟩ ⟨otherSequence, _, _, _⟩ unsigned collapsed
    obtain ⟨unsignedSequences, rfl, rfl, rfl⟩ := Node.mk.inj unsigned
    obtain ⟨collapsedSequences, _⟩ := Node.mk.inj collapsed
    obtain rfl : sequence = otherSequence := sequences unsignedSequences collapsedSequences
    rfl
  exact congrArg mk (eq_of_map_eq_of_map_eq nodes (mk.inj unsigned) (mk.inj collapsed))

/-- Take two selectors that are read. Their texts are the same if and only if they are the same
once paths are collapsed, they agree if and only if they are the same once zeros have lost their
signs, and so agreement is equality of texts exactly if the two are the same or differ in more than
collapsed paths and in more than signs of zeros. -/
theorem agrees_iff_text_eq_iff {pattern otherPattern : List Char} {one other : Selector}
    (read : parse pattern = .ok one) (otherRead : parse otherPattern = .ok other) :
    (one.text = other.text ↔ one.collapse = other.collapse) ∧
      (one.agrees other = true ↔ one.unsignedZeros = other.unsignedZeros) ∧
      ((one.agrees other = true ↔ one.text = other.text) ↔
        one = other ∨
          one.collapse ≠ other.collapse ∧ one.unsignedZeros ≠ other.unsignedZeros) := by
  have texts : one.text = other.text ↔ one.collapse = other.collapse := by
    obtain ⟨chain, rfl, shaped⟩ := shaped_of_parse read
    obtain ⟨otherChain, rfl, otherShaped⟩ := shaped_of_parse otherRead
    rw [text, text, String.ofList_inj]
    exact chars_eq_iff shaped otherShaped
  have numbers := agrees_iff_unsignedZeros_eq (isFinite_of_parse read) other
  refine ⟨texts, numbers, ?_⟩
  rw [texts, numbers]
  constructor
  · intro coincide
    by_cases unsigned : one.unsignedZeros = other.unsignedZeros
    · exact Or.inl (eq_of_unsignedZeros_of_collapse unsigned (coincide.1 unsigned))
    · exact Or.inr ⟨mt coincide.2 unsigned, unsigned⟩
  · rintro (rfl | ⟨collapsed, unsigned⟩)
    · exact Iff.intro (fun _ => rfl) fun _ => rfl
    · exact iff_of_false unsigned collapsed

/-- The same comparison, once with quotes and once without. -/
theorem agrees_iff_text_eq_iff_quoted :
    ∃ one other, parse "[a=b]".toList = .ok one ∧ parse "[a='b']".toList = .ok other ∧
      (one.agrees other = true ↔ one.text = other.text) := by
  have read : parse "[a=b]".toList =
      .ok (ofChain ⟨⟨[.attributeTest ⟨"a", some .equals, .text "b"⟩]⟩, []⟩) := by cbv
  have otherRead : parse "[a='b']".toList =
      .ok (ofChain ⟨⟨[.attributeTest ⟨"a", some .equals, .text "b"⟩]⟩, []⟩) := by cbv
  exact ⟨_, _, read, otherRead, (agrees_iff_text_eq_iff read otherRead).2.2.2 (Or.inl rfl)⟩

/-- The path of one empty segment differs from the empty path and is written like it; the two zeros
agree and are not written alike. -/
theorem not_agrees_iff_text_eq :
    (∃ one other, parse "//".toList = .ok one ∧ parse "/".toList = .ok other ∧
      one.text = other.text ∧ one.agrees other = false) ∧
    ∃ one other, parse "[a=0.0]".toList = .ok one ∧ parse "[a=-0.0]".toList = .ok other ∧
      one.agrees other = true ∧ one.text ≠ other.text := by
  constructor
  · exact ⟨ofChain ⟨⟨[.path ⟨none, [""]⟩]⟩, []⟩, ofChain ⟨⟨[.path ⟨none, []⟩]⟩, []⟩, by cbv, by cbv,
      by decide, by decide⟩
  · exact ⟨ofChain ⟨⟨[.attributeTest ⟨"a", some .equals, .float (.zero false)⟩]⟩, []⟩,
      ofChain ⟨⟨[.attributeTest ⟨"a", some .equals, .float (.zero true)⟩]⟩, []⟩, by cbv, by cbv,
      by decide, by decide⟩

end Selector

end NodeQuery
