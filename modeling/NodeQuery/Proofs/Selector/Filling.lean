import NodeQuery.Proofs.Selector.Emptiness

/-!
# Patterns without empty values

A backslash escapes whatever is behind it. So a lone backslash is written for a value at the end
of a pattern only, and it is the last simple selector that lacks its value then. All others have
theirs.

Main statement: `Selector.parse_fills`.
-/

namespace NodeQuery

open Text

/-! ## Sequences -/

/-- What is read from a pattern lacks no value or name, but for a last item that is read from a
token with a lone backslash, which ends the pattern. -/
def FillsBeforeEnd (pattern : List Char) (items : List Simple) : Prop :=
  ∀ front item back, items = front ++ item :: back →
    (item.isFilled = false ↔ back = [] ∧ ∃ before token, pattern = before ++ token ∧
      Simple.Bare token ∧ Simple.parse token = .ok item)

namespace Sequence

/-- The items that are read stand for the tokens. -/
theorem exists_token_of_parse {pattern : List Char} {sequence : Sequence}
    (read : parse pattern = .ok sequence) {front back : List Simple} {item : Simple}
    (order : sequence.items = front ++ item :: back) :
    ∃ before token after, tokens (cellsOf pattern) = before ++ token :: after ∧
      Simple.parse token = .ok item ∧ (after = [] → back = []) := by
  rw [parse, foldlM_appendToken_iff] at read
  obtain ⟨items, parsed, added⟩ := read
  obtain ⟨rfl, _⟩ := (ofItems_eq_ok_iff items sequence).1 added
  obtain rfl : items = front ++ item :: back := order
  rw [List.map_append, List.map_cons] at parsed
  obtain ⟨before, behind, split, _, rest⟩ := List.map_eq_append_iff.1 parsed
  obtain ⟨token, after, rfl, readToken, others⟩ := List.map_eq_cons_iff.1 rest
  refine ⟨before, token, after, split, readToken, ?_⟩
  rintro rfl
  exact List.map_eq_nil_iff.1 others.symm

/-- Only the last item of a sequence can lack a value or name. -/
theorem fillsBeforeEnd_of_parse {pattern : List Char} {sequence : Sequence}
    (read : parse pattern = .ok sequence) : FillsBeforeEnd pattern sequence.items := by
  intro front item back order
  constructor
  · intro lacking
    obtain ⟨before, token, after, split, readToken, last⟩ := exists_token_of_parse read order
    have bare := (Simple.isFilled_eq_false_iff readToken).1 lacking
    have ends := Simple.endsInEscape_append_bare [] bare
    obtain ⟨final, start, whole⟩ := token_at_end (marked_trimMarks pattern) split ends
    obtain ⟨leading, around⟩ := bare.exists_before whole
    exact ⟨last final, leading, token, around, bare, readToken⟩
  · rintro ⟨_, _, token, _, bare, readToken⟩
    exact (Simple.isFilled_eq_false_iff readToken).2 bare

end Sequence

/-! ## Selectors -/

namespace Selector

/-- A piece that is added is read as one more sequence. -/
theorem exists_sequence_of_appendPiece {before after : Selector} (reachable : before.Reachable)
    {piece : Piece} (added : appendPiece before piece = .ok after) :
    ∃ combinator text sequence, piece = .joined combinator text ∧
      Sequence.parse text = .ok sequence ∧ after.sequences = before.sequences ++ [sequence] := by
  cases piece with
  | dangling position => cases added
  | joined combinator text =>
    rcases reachable.empty_or_ofChain with rfl | ⟨chain, rfl⟩
    · obtain ⟨_, sequence, read, rfl⟩ := (appendPiece_empty_iff _ _ _).1 added
      exact ⟨_, _, sequence, rfl, read, sequences_ofChain _⟩
    · cases combinator with
      | none =>
        rw [appendPiece, bind_eq_ok_iff] at added
        obtain ⟨sequence, _, refused⟩ := added
        rw [append_ofChain] at refused
        cases refused
      | some combinator =>
        obtain ⟨sequence, read, rfl⟩ := (appendPiece_joined_iff _ _ _ _).1 added
        refine ⟨_, _, sequence, rfl, read, ?_⟩
        simp [sequences_ofChain, Chain.sequences]

/-- The sequences that are read stand for the pieces. -/
theorem exists_sequences_of_foldlM {texts : List Piece} {before after : Selector}
    (reachable : before.Reachable) (read : texts.foldlM appendPiece before = .ok after) :
    ∃ added, after.sequences = before.sequences ++ added ∧
      List.Forall₂ (fun piece sequence => ∃ combinator text, piece = .joined combinator text ∧
        Sequence.parse text = .ok sequence) texts added := by
  induction texts generalizing before with
  | nil =>
    cases read
    exact ⟨[], (List.append_nil _).symm, .nil⟩
  | cons piece rest hypothesis =>
    rw [List.foldlM_cons, bind_eq_ok_iff] at read
    obtain ⟨next, first, later⟩ := read
    obtain ⟨combinator, text, sequence, same, readText, longer⟩ :=
      exists_sequence_of_appendPiece reachable first
    have single : [piece].foldlM appendPiece before = .ok next := by
      rw [List.foldlM_cons, first]
      rfl
    obtain ⟨added, whole, each⟩ :=
      hypothesis (reachable_of_foldlM_appendPiece reachable single) later
    refine ⟨sequence :: added, ?_, .cons ⟨combinator, text, same, readText⟩ each⟩
    rw [whole, longer, List.append_assoc]
    rfl

/-- The sequences of a pattern stand for its pieces. -/
theorem forall₂_pieces_of_parse {pattern : List Char} {selector : Selector}
    (read : parse pattern = .ok selector) :
    List.Forall₂ (fun piece sequence => ∃ combinator text, piece = .joined combinator text ∧
      Sequence.parse text = .ok sequence) (pieces true 0 (cellsOf pattern)) selector.sequences := by
  rw [parse] at read
  split at read
  · cases read
  · rename_i cells
    rw [← cells] at read
    obtain ⟨added, whole, each⟩ := exists_sequences_of_foldlM .empty read
    rw [whole]
    exact each

/-- An item of the parts of a list is an item of one of them. -/
theorem exists_part_of_flatMap {Part Item : Type} {items : Part → List Item} {parts : List Part}
    {front back : List Item} {item : Item} (order : parts.flatMap items = front ++ item :: back) :
    ∃ before part after start rest, parts = before ++ part :: after ∧
      items part = start ++ item :: rest ∧ back = rest ++ after.flatMap items := by
  induction parts generalizing front with
  | nil => simp at order
  | cons first others hypothesis =>
    rw [List.flatMap_cons] at order
    rcases List.append_eq_append_iff.1 order with ⟨between, _, split⟩ | ⟨between, split, behind⟩
    · obtain ⟨before, part, after, start, rest, rfl, found⟩ := hypothesis split
      exact ⟨first :: before, part, after, start, rest, rfl, found⟩
    · cases between with
      | nil =>
        have later : others.flatMap items = [] ++ item :: back := behind.symm
        obtain ⟨before, part, after, start, rest, rfl, found⟩ := hypothesis later
        exact ⟨first :: before, part, after, start, rest, rfl, found⟩
      | cons head tail =>
        obtain ⟨rfl, same⟩ := List.cons.inj behind
        exact ⟨[], first, others, front, tail, rfl, split, same⟩

/-- The piece of a sequence, and that it is the last one only if the sequence is. -/
theorem exists_piece_of_parse {pattern : List Char} {selector : Selector}
    (read : parse pattern = .ok selector) {front back : List Sequence} {sequence : Sequence}
    (order : selector.sequences = front ++ sequence :: back) :
    ∃ before combinator text after,
      pieces true 0 (cellsOf pattern) = before ++ .joined combinator text :: after ∧
        Sequence.parse text = .ok sequence ∧ (after = [] → back = []) := by
  have each := forall₂_pieces_of_parse read
  rw [order] at each
  have parts := List.take_append_drop front.length (pieces true 0 (cellsOf pattern))
  obtain ⟨piece, after, ⟨combinator, text, rfl, readText⟩, others, split⟩ :=
    List.forall₂_cons_right_iff.1 (List.forall₂_drop_append _ _ _ each)
  rw [split] at parts
  refine ⟨_, combinator, text, after, parts.symm, readText, ?_⟩
  rintro rfl
  cases others
  rfl

/-- Only the last item of a selector can lack a value or name. -/
theorem fillsBeforeEnd_of_parse {pattern : List Char} {selector : Selector}
    (read : parse pattern = .ok selector) :
    FillsBeforeEnd pattern (selector.sequences.flatMap (·.items)) := by
  intro front item back order
  constructor
  · intro lacking
    obtain ⟨before, sequence, after, start, rest, sequences, items, rfl⟩ :=
      exists_part_of_flatMap order
    obtain ⟨_, combinator, text, later, split, readText, last⟩ :=
      exists_piece_of_parse read sequences
    obtain ⟨ended, inside, token, rfl, bare, readToken⟩ :=
      (Sequence.fillsBeforeEnd_of_parse readText start item rest items).1 lacking
    have ends := Simple.endsInEscape_append_bare inside bare
    obtain ⟨joining, body, lead, marked, _⟩ :=
      readLead_first_link (marked_trimMarks pattern) (isBlank_head_trimMarks pattern)
    obtain ⟨final, between, whole⟩ := piece_at_end lead marked split ends
    obtain rfl := last final
    have suffix := (readLead_suffix true (link (trimMarks (marks pattern)))).map (·.char)
    rw [lead] at suffix
    obtain ⟨skipped, trimmed⟩ := suffix
    rw [← cellChars, ← cellChars, cellChars_link, cellChars_link, whole, ← List.append_assoc,
      ← List.append_assoc] at trimmed
    obtain ⟨leading, around⟩ := bare.exists_before trimmed.symm
    refine ⟨?_, leading, token, around, bare, readToken⟩
    rw [ended]
    rfl
  · rintro ⟨_, _, token, _, bare, readToken⟩
    exact (Simple.isFilled_eq_false_iff readToken).2 bare

/-! ## What reading yields and rejects -/

/-- Reading a text yields an empty value or name only for a lone backslash. -/
structure LacksOnlyBare (text : List Char) : Prop where
  /-- A simple selector lacks its value or name if and only if its token is bare. -/
  simple : ∀ item, Simple.parse text = .ok item → (item.isFilled = false ↔ Simple.Bare text)
  /-- The root of a path lacks its value if and only if its body is bare. -/
  path : ∀ path, Path.parse text = .ok path →
    ((Simple.path path).isFilled = false ↔ Path.Bare text)
  /-- An attribute lacks its name if and only if its body is bare. -/
  test : ∀ test, Attribute.parse text = .ok test →
    ((Simple.attributeTest test).isFilled = false ↔ Attribute.Bare text)
  /-- In a sequence only the last item can lack its value, at the end of the pattern. -/
  sequence : ∀ sequence, Sequence.parse text = .ok sequence → FillsBeforeEnd text sequence.items
  /-- In a selector only the last item can lack its value, at the end of the pattern. -/
  selector : ∀ selector, parse text = .ok selector →
    FillsBeforeEnd text (selector.sequences.flatMap (·.items))

/-- A text that stands for an empty value or name otherwise is rejected. -/
structure RejectsEmpty (text : List Char) : Prop where
  /-- As the value of an identifier, role or class. -/
  value : ∀ sign kind, (sign, kind) ∈ [('#', Kind.id), ('$', Kind.role), ('.', Kind.className)] →
    unescape text = [] →
      (Simple.parse (sign :: text) = .error (.missingValue kind) ↔ text ≠ [escapeMark])
  /-- As the body of a path with a root. -/
  root : ∀ sign kind value rest, (sign, kind) ∈ [('#', Kind.id), ('$', Kind.role)] →
    Path.dropEmptyFirst (Path.pieces (cellsOf text)) = (sign :: value) :: rest →
      unescape value = [] →
        (Path.parse text = .error (.missingValue kind) ↔ value ≠ [escapeMark])
  /-- As the body of an attribute selector. -/
  name : unescape (cellChars (cellsOf text)) = [] →
    (Attribute.parse text = .error (.emptyAttributeName (String.ofList text)) ↔
      cellChars (cellsOf text) ≠ [escapeMark])
  /-- Between brackets, where it is no lone backslash. -/
  bracketed : ∀ inner, Simple.beforeBracket? text = some inner →
    unescape (cellChars (cellsOf inner)) = [] →
      Simple.parse ('[' :: text) = .error (.emptyAttributeName (String.ofList inner))
  /-- A path selector is rejected with its body. -/
  path : ∀ failure, Path.parse text = .error failure →
    Simple.parse ('/' :: text) = .error failure
  /-- A sequence is rejected with the first of its items that is. -/
  sequence : ∀ before token after sequence failure,
    Sequence.tokens (cellsOf text) = before ++ token :: after →
      before.foldlM Sequence.appendToken .empty = .ok sequence →
        Simple.parse token = .error failure → Sequence.parse text = .error failure
  /-- A selector is rejected with the first of its sequences that is. -/
  selector : ∀ before combinator part after selector failure,
    pieces true 0 (cellsOf text) = before ++ .joined combinator part :: after →
      before.foldlM appendPiece empty = .ok selector →
        Sequence.parse part = .error failure → parse text = .error failure

/-- Between brackets there is no lone backslash for a name. -/
theorem parse_bracketed_of_unnamed {body inner : List Char}
    (found : Simple.beforeBracket? body = some inner)
    (empty : unescape (cellChars (cellsOf inner)) = []) :
    Simple.parse ('[' :: body) = .error (.emptyAttributeName (String.ofList inner)) := by
  have written : cellChars (cellsOf inner) ≠ [escapeMark] := by
    intro alone
    have ends := Simple.endsInEscape_of_attributeBare ((Attribute.bare_iff inner).2 alone)
    rw [Simple.endsInEscape_of_beforeBracket? found] at ends
    cases ends
  have told : Simple.kindOf? '[' = some .attributeTest := Simple.kindOf?_sign (by decide)
  have refused := (Attribute.parse_eq_emptyAttributeName_iff empty).2 written
  simp only [Simple.parse, told, found, refused]
  rfl

/-- A path selector is rejected with its body. -/
theorem parse_path_of_body {body : List Char} {failure : ParseError}
    (refused : Path.parse body = .error failure) :
    Simple.parse ('/' :: body) = .error failure := by
  have told : Simple.kindOf? '/' = some .path := Simple.kindOf?_sign (by decide)
  simp only [Simple.parse, told, refused]
  rfl

/-- A sequence is rejected with the first of its items that is. -/
theorem parse_sequence_of_token {pattern token : List Char} {before after : List (List Char)}
    {sequence : Sequence} {failure : ParseError}
    (split : Sequence.tokens (cellsOf pattern) = before ++ token :: after)
    (added : before.foldlM Sequence.appendToken .empty = .ok sequence)
    (refused : Simple.parse token = .error failure) :
    Sequence.parse pattern = .error failure := by
  rw [Sequence.parse, split, List.foldlM_append, added]
  change (token :: after).foldlM Sequence.appendToken sequence = _
  rw [List.foldlM_cons, Sequence.appendToken, refused]
  rfl

/-- A selector is rejected with the first of its sequences that is. -/
theorem parse_of_piece {pattern text : List Char} {before after : List Piece}
    {combinator : Option Combinator} {selector : Selector} {failure : ParseError}
    (split : pieces true 0 (cellsOf pattern) = before ++ .joined combinator text :: after)
    (added : before.foldlM appendPiece empty = .ok selector)
    (refused : Sequence.parse text = .error failure) : parse pattern = .error failure := by
  have rounds : (pieces true 0 (cellsOf pattern)).foldlM appendPiece empty = .error failure := by
    rw [split, List.foldlM_append, added]
    change (.joined combinator text :: after).foldlM appendPiece selector = _
    rw [List.foldlM_cons, appendPiece, refused]
    rfl
  rw [parse]
  cases cells : cellsOf pattern with
  | nil =>
    -- without any text there is one piece, a combinator that nothing follows
    rw [cells, pieces_eq] at split
    have member : Piece.joined combinator text ∈ [Piece.dangling 0] := by
      rw [show [Piece.dangling 0] = before ++ .joined combinator text :: after from split]
      simp
    simp at member
  | cons cell others =>
    rw [cells] at rounds
    exact rounds

/-- Whatever reads a text, as a pattern or as a part of one, yields an empty value or name only for
a lone backslash at the end, and rejects any other text that stands for an empty one. -/
theorem parse_fills (text : List Char) : LacksOnlyBare text ∧ RejectsEmpty text where
  left :=
    { simple := fun _ => Simple.isFilled_eq_false_iff
      path := fun _ => Path.isFilled_eq_false_iff
      test := fun _ => Attribute.isFilled_eq_false_iff
      sequence := fun _ => Sequence.fillsBeforeEnd_of_parse
      selector := fun _ => fillsBeforeEnd_of_parse }
  right :=
    { value := fun _ _ => Simple.parse_eq_missingValue_iff
      root := fun _ _ _ _ => Path.parse_eq_missingValue_iff
      name := Attribute.parse_eq_emptyAttributeName_iff
      bracketed := fun _ => parse_bracketed_of_unnamed
      path := fun _ => parse_path_of_body
      sequence := fun _ _ _ _ _ => parse_sequence_of_token
      selector := fun _ _ _ _ _ _ => parse_of_piece }

/-- A lone backslash is read as an empty value or name wherever one is read. -/
theorem not_parse_fills_loneBackslash :
    parse ['#', '\\'] = .ok (ofChain ⟨⟨[.id ""]⟩, []⟩) ∧
      Sequence.parse ['.', '\\'] = .ok ⟨[.className ""]⟩ ∧
      Simple.parse ['$', '\\'] = .ok (.role "") ∧
      Path.parse ['#', '\\'] = .ok ⟨some (.id ""), []⟩ ∧
      Attribute.parse ['\\'] = .ok (.present "") := by
  refine ⟨?_, ?_, ?_, ?_, ?_⟩ <;> cbv

end Selector

end NodeQuery
