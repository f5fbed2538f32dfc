import NodeQuery.Proofs.Selector.WellFormed
import NodeQuery.Proofs.Text.Slicing

/-!
# Why a reading fails

A reading fails because there is nothing to read, because a simple selector is not written well,
because a sequence or its combinator is out of place, or because a combinator has no sequence
behind it. Of the rules of structure a text can break only two: an item that must come first may
stand behind another one, and a combinator may stand before the first sequence. The others are kept
by the way a text is cut. The token of a path ends where an item starts that may follow a path, each
piece but the first starts at a combinator, and what starts a path is known by its sign.

Main statement: `Selector.parse_failures`.
-/

namespace NodeQuery

open Text

/-! ## Errors of simple selectors -/

/-- Whether an error is about the text of one simple selector. -/
def ParseError.isLocal : ParseError → Bool
  | emptyPattern | danglingCombinator _ | structural _ => false
  | _ => true

/-- A step that fails at most because of the text of one simple selector. -/
def FailsLocally {Value : Type} (step : Except ParseError Value) : Prop :=
  ∀ error, step = .error error → error.isLocal = true

namespace FailsLocally

variable {Value Result : Type}

/-- A step that succeeds does not fail. -/
theorem ok (value : Value) : FailsLocally (.ok value) := nofun

/-- A step that fails with a local error does so. -/
theorem error {error : ParseError} (isLocal : error.isLocal = true) :
    FailsLocally (.error error : Except ParseError Value) := by
  intro found same
  cases same
  exact isLocal

/-- A step whose value is changed fails as the step does. -/
theorem map {step : Except ParseError Value} (fails : FailsLocally step)
    (make : Value → Result) : FailsLocally (step.map make) :=
  fun error failed => fails error (map_eq_error_iff.1 failed)

/-- One step after another fails as either of them does. -/
theorem bind {step : Except ParseError Value} {next : Value → Except ParseError Result}
    (first : FailsLocally step) (later : ∀ value, step = .ok value → FailsLocally (next value)) :
    FailsLocally (step >>= next) := by
  intro error failed
  rcases bind_eq_error_iff.1 failed with failed | ⟨value, succeeded, failed⟩
  · exact first error failed
  · exact later value succeeded error failed

end FailsLocally

namespace Attribute

/-- A quoted text may lack its end. -/
theorem failsLocally_readQuoted (opener : Cell) (rest : List Cell) :
    FailsLocally (readQuoted opener rest) := by
  unfold readQuoted
  split
  · exact .ok _
  · exact .error rfl

/-- The items of a list may lack the end of a quoted text. -/
theorem failsLocally_readItems (cells : List Cell) : FailsLocally (readItems cells) := by
  -- each round leaves fewer cells than it was given
  induction size : cells.length using Nat.strongRecOn generalizing cells with
  | ind size hypothesis =>
    subst size
    have bound := afterBlanks_length_le cells
    rw [readItems_eq]
    split
    · exact .ok _
    · rename_i cell rest start
      rw [start, List.length_cons] at bound
      split
      · refine (failsLocally_readQuoted cell rest).bind fun ⟨item, remaining⟩ quoted => ?_
        have shorter : remaining.length ≤ rest.length := readQuoted_length quoted
        exact (hypothesis _ (by omega) remaining rfl).map _
      · refine (hypothesis _ ?_ _ rfl).map _
        rw [List.length_drop]
        omega

/-- A condition may lack the end of a quoted text. -/
theorem failsLocally_readCondition (operator : Operator) (cells : List Cell) :
    FailsLocally (readCondition operator cells) := by
  unfold readCondition
  split
  · exact (failsLocally_readItems cells).map _
  · unfold readScalar
    split
    · exact .ok _
    · split
      · exact (failsLocally_readQuoted _ _).map _
      · exact .ok _

/-- The body of an attribute selector may lack a name or an operator, or have a bad condition. -/
theorem failsLocally_parse (pattern : List Char) : FailsLocally (parse pattern) := by
  unfold parse
  split
  · exact .error rfl
  · split
    · exact .ok _
    · dsimp only
      split
      · exact .error rfl
      · exact (failsLocally_readCondition _ _).map _

end Attribute

namespace Pseudo

/-- The value of a sort may lack a name, or have a bad order. -/
theorem failsLocally_parseSort (value : Option (List Char)) (pattern : List Char) :
    FailsLocally (parseSort value pattern) := by
  unfold parseSort
  split
  · exact .error rfl
  · dsimp only
    split
    · exact .error rfl
    · split
      · exact .ok _
      · split
        · exact .ok _
        · exact .error rfl

/-- The parts of a pseudo selector fail at most as the value of a sort. -/
theorem failsLocally_ofParts (name : List Char) (value : Option (List Char))
    (pattern : List Char) : FailsLocally (ofParts name value pattern) := by
  unfold ofParts
  split
  · exact failsLocally_parseSort value pattern
  · exact .ok _

/-- The body of a pseudo selector may lack a name or a parenthesis, or have a bad value. -/
theorem failsLocally_parse (pattern : List Char) : FailsLocally (parse pattern) := by
  unfold parse
  dsimp only
  split
  · exact .error rfl
  · split
    · exact failsLocally_ofParts _ _ _
    · refine FailsLocally.bind ?_ fun value _ => failsLocally_ofParts _ value pattern
      unfold readValue
      split
      · exact .error rfl
      · exact .ok _

end Pseudo

namespace Path

/-- Pieces are read as the items of a path, unless the value of its root is missing. -/
theorem stepsOf_cases (texts : List (List Char)) :
    (∃ path : Path, stepsOf texts = .ok path.steps) ∨
      ∃ kind, stepsOf texts = .error (.missingValue kind) := by
  cases texts with
  | nil => exact Or.inl ⟨⟨none, []⟩, rfl⟩
  | cons first rest =>
    have later : (rest.map fun piece => Step.segment (String.ofList (unescape piece))) =
        (rest.map fun piece => String.ofList (unescape piece)).map Step.segment := by
      rw [List.map_map]
      rfl
    rw [stepsOf, later]
    split
    · rename_i signed
      obtain ⟨sign, body, rfl, signs⟩ := exists_sign_of_head? signed
      obtain ⟨root, _, ⟨_, parsed⟩ | ⟨_, failed⟩⟩ := parse?_of_head signs body
      · rw [parsed]
        exact Or.inl ⟨⟨some root, _⟩, rfl⟩
      · rw [failed]
        exact Or.inr ⟨root.kind, rfl⟩
    · exact Or.inl ⟨⟨none, String.ofList (unescape first) :: _⟩, rfl⟩

/-- Items that are read from pieces make up a path: none of the rules for building one is broken. -/
theorem exists_ofSteps_of_stepsOf {texts : List (List Char)} {items : List Step}
    (read : stepsOf texts = .ok items) : ∃ path, ofSteps items = .ok path := by
  rcases stepsOf_cases texts with ⟨path, found⟩ | ⟨kind, failed⟩
  · rw [found] at read
    cases read
    exact ⟨path, ofSteps_steps path⟩
  · rw [failed] at read
    cases read

/-- The body of a path may lack the value of a root. -/
theorem failsLocally_parse (pattern : List Char) : FailsLocally (parse pattern) := by
  rw [parse, ofPieces_eq]
  refine FailsLocally.bind ?_ fun items read => ?_
  · rcases stepsOf_cases (dropEmptyFirst (pieces (cellsOf pattern))) with
      ⟨path, found⟩ | ⟨kind, failed⟩
    · rw [found]
      exact .ok _
    · rw [failed]
      exact .error rfl
  · obtain ⟨path, built⟩ := exists_ofSteps_of_stepsOf read
    rw [built]
    exact .ok path

end Path

/-- An id, role or class may lack its value. -/
theorem Simple.failsLocally_parseValue (kind : Kind) (make : String → Simple) (body : List Char) :
    FailsLocally (parseValue kind make body) := by
  unfold parseValue
  split
  · exact .error rfl
  · exact .ok _

/-- A simple selector fails because of its own text. -/
theorem Simple.failsLocally_parse (token : List Char) : FailsLocally (parse token) := by
  unfold parse
  split
  · exact .error rfl
  · split
    · exact .error rfl
    · split
      · exact .ok _
      · exact .error rfl
    · exact .ok _
    · exact failsLocally_parseValue _ _ _
    · exact failsLocally_parseValue _ _ _
    · exact failsLocally_parseValue _ _ _
    · exact (Path.failsLocally_parse _).map _
    · split
      · exact .error rfl
      · exact (Attribute.failsLocally_parse _).map _
    · exact (Pseudo.failsLocally_parse _).map _

/-! ## Errors of sequences -/

namespace Sequence

/-- The errors of a sequence. -/
inductive FailsWith : ParseError → Prop where
  /-- An item is not written well. -/
  | item {error : ParseError} (isLocal : error.isLocal = true) : FailsWith error
  /-- An item that must come first stands behind another one. -/
  | misplaced (kind : Kind) : FailsWith (.structural (.notFirstInSequence kind))

/-- A sequence that some cells can go on: behind a path there is nothing but blanks, or an item of
a kind that may follow a path. -/
def Continues (cells : List Cell) (sequence : Sequence) : Prop :=
  ∀ last ∈ sequence.items.getLast?, last.kind = .path →
    ∀ cell ∈ (afterBlanks cells).head?, cell.char = '[' ∨ cell.char = ':'

/-- Behind the token of a path there is nothing, or the sign of an item that may follow it. -/
theorem head_drop_tokenTail {first : Cell} (path : Simple.kindOf? first.char = some .path)
    (rest : List Cell) :
    ∀ cell ∈ (afterBlanks (rest.drop (tokenTail first rest))).head?,
      cell.char = '[' ∨ cell.char = ':' := by
  rw [tokenTail, path]
  dsimp only
  cases found : findTarget ['[', ':'] rest with
  | none =>
    rw [Option.getD_none, List.drop_length]
    intro cell first
    cases first
  | some count =>
    obtain ⟨_, stop, others, split, target⟩ := exists_of_findTarget found
    have sign : stop.char = '[' ∨ stop.char = ':' := by
      simpa [Cell.isTarget] using (Bool.and_eq_true_iff.1 target).1
    have visible : isBlank stop.char = false := by
      rcases sign with same | same <;> rw [same] <;> decide
    rw [Option.getD_some, split, afterBlanks, List.dropWhile_cons_of_neg (by simp [visible])]
    intro cell first
    cases first
    exact sign

/-- An item that is read where the sequence goes on is added, unless it must come first. -/
theorem append_of_continues {sequence : Sequence} {cells rest : List Cell} {first : Cell}
    (continues : Continues cells sequence) (start : afterBlanks cells = first :: rest)
    {item : Simple} (kind : Simple.kindOf? first.char = some item.kind) :
    sequence.append item = .error (.notFirstInSequence item.kind) ∨
      sequence.append item = .ok ⟨sequence.items ++ [item]⟩ := by
  rw [append]
  split
  · exact Or.inl rfl
  · rw [if_neg]
    · exact Or.inr rfl
    · intro refused
      obtain ⟨behind, barred⟩ := Bool.and_eq_true_iff.1 refused
      obtain ⟨last, found, path⟩ := (Option.any_eq_true _ _).1 behind
      have bracket : Simple.kindOf? '[' = some .attributeTest := Simple.kindOf?_sign (by decide)
      have colon : Simple.kindOf? ':' = some .pseudo := Simple.kindOf?_sign (by decide)
      have sign := continues last found (beq_iff_eq.1 path) first (by rw [start]; rfl)
      rcases sign with same | same
      · rw [same, bracket] at kind
        rw [← Option.some.inj kind] at barred
        cases barred
      · rw [same, colon] at kind
        rw [← Option.some.inj kind] at barred
        cases barred

/-- From where a sequence goes on, tokens fail in one of its ways. -/
theorem failsWith_of_foldlM {cells : List Cell} {before : Sequence}
    (continues : Continues cells before) {error : ParseError}
    (failed : (tokens cells).foldlM appendToken before = .error error) : FailsWith error := by
  -- each round leaves fewer cells than it was given
  induction size : cells.length using Nat.strongRecOn generalizing cells before with
  | ind size hypothesis =>
    subst size
    have bound := afterBlanks_length_le cells
    rw [tokens_eq] at failed
    cases start : afterBlanks cells with
    | nil =>
      rw [start] at failed
      cases failed
    | cons first rest =>
      rw [start, List.length_cons] at bound
      rw [start] at failed
      dsimp only at failed
      rw [List.foldlM_cons, bind_eq_error_iff, appendToken, bind_eq_error_iff] at failed
      rcases failed with (unread | ⟨item, read, refused⟩) | ⟨next, added, later⟩
      · exact .item (Simple.failsLocally_parse _ error unread)
      · obtain ⟨cause, broken, rfl⟩ := mapError_eq_error_iff.1 refused
        rcases append_of_continues continues start (Simple.kindOf?_of_parse read) with
          misplaced | fits
        · rw [misplaced] at broken
          cases broken
          exact .misplaced item.kind
        · rw [fits] at broken
          cases broken
      · obtain ⟨item, read, appended⟩ := (appendToken_eq_ok_iff before _ next).1 added
        have kind := Simple.kindOf?_of_parse read
        rcases append_of_continues continues start kind with misplaced | fits
        · rw [misplaced] at appended
          cases appended
        · rw [fits] at appended
          cases appended
          refine hypothesis _ ?_ ?_ later rfl
          · rw [List.length_drop]
            omega
          · intro last found path
            rw [List.getLast?_concat] at found
            cases found
            rw [path] at kind
            exact head_drop_tokenTail kind rest

/-- A sequence fails in one of its ways. -/
theorem failsWith_of_parse {pattern : List Char} {error : ParseError}
    (failed : parse pattern = .error error) : FailsWith error := by
  have start : Continues (cellsOf pattern) empty := nofun
  exact failsWith_of_foldlM start failed

end Sequence

/-! ## Errors of selectors -/

namespace Selector

/-- The errors of a selector whose text has these marks once it is trimmed. -/
inductive FailsWith (values : List Mark) : ParseError → Prop where
  /-- There is nothing to read. -/
  | empty (blank : values = []) : FailsWith values .emptyPattern
  /-- A sequence is not written well. -/
  | sequence {error : ParseError} (fails : Sequence.FailsWith error) : FailsWith values error
  /-- A combinator stands before the first sequence. -/
  | joined {first : Mark} (starts : first ∈ values.head?) (explicit : first.char ∈ ['>', '+', '~']) :
    FailsWith values (.structural .combinatorOnFirstSequence)
  /-- No sequence stands behind a combinator. -/
  | dangling {position : Nat} (symbol : StartsAtSymbol (values.drop position))
    (marked : Marked false (values.drop position)) :
    FailsWith values (.danglingCombinator position)

/-- A piece behind the first one fails as its sequence does. -/
theorem failsWith_of_appendPiece {chain : Chain} {combinator : Combinator} {text : List Char}
    {error : ParseError}
    (failed : appendPiece (ofChain chain) (.joined (some combinator) text) = .error error) :
    Sequence.FailsWith error := by
  rw [appendPiece, bind_eq_error_iff] at failed
  rcases failed with unread | ⟨sequence, _, refused⟩
  · exact Sequence.failsWith_of_parse unread
  · rw [append_ofChain] at refused
    cases refused

/-- From a combinator character on, the pieces of a text fail in one of its ways. -/
theorem failsWith_of_foldlM {values rest : List Mark} {position : Nat}
    (place : values.drop position = rest) (marked : Marked false rest)
    (symbol : StartsAtSymbol rest) {chain : Chain} {error : ParseError}
    (failed : (pieces false position (link rest)).foldlM appendPiece (ofChain chain) =
      .error error) : FailsWith values error := by
  -- what a round leaves is shorter than what it was given
  induction size : rest.length using Nat.strongRecOn generalizing rest position chain with
  | ind size hypothesis =>
    subst size
    obtain ⟨combinator, gap, body, lead, split, _, bodyMarked⟩ := readLead_link marked symbol
    rcases pieces_cases lead bodyMarked position with
      dangling | ⟨part, later, filled, _, parted, ⟨_, single⟩ | ⟨behind, laterMarked, rounds⟩⟩
    · rw [dangling] at failed
      cases failed
      exact .dangling (place ▸ symbol) (place ▸ marked)
    · rw [single, List.foldlM_cons, bind_eq_error_iff] at failed
      rcases failed with failed | ⟨next, _, none⟩
      · exact .sequence (failsWith_of_appendPiece failed)
      · cases none
    · rw [rounds, List.foldlM_cons, bind_eq_error_iff] at failed
      rcases failed with failed | ⟨next, added, failed⟩
      · exact .sequence (failsWith_of_appendPiece failed)
      · obtain ⟨sequence, _, rfl⟩ := (appendPiece_joined_iff _ _ _ _).1 added
        have suffix : rest.drop (rest.length - later.length) = later := by
          rw [split, parted, ← List.append_assoc, List.length_append, Nat.add_sub_cancel_right,
            List.drop_left]
        refine hypothesis _ ?_ ?_ laterMarked behind failed rfl
        · rw [split, parted]
          exact length_lt_of_filled filled
        · rw [← List.drop_drop, place, suffix]

/-- Before a text that starts with no blank and no combinator nothing is read. -/
theorem readLead_first_other {first : Mark} (visible : isBlank first.char = false)
    (other : first.char ∉ Combinator.symbols) (rest : List Mark) :
    readLead true (link (first :: rest)) = (none, link (first :: rest)) := by
  rw [readLead_first_visible visible, link_cons, readExplicit, ofChar?_eq_none other]

/-- Where a text starts with no blank and no combinator there is a sequence. -/
theorem pieces_first_ne_dangling {first : Mark} (visible : isBlank first.char = false)
    (other : first.char ∉ Combinator.symbols) (rest : List Mark) (position : Nat) :
    pieces true position (link (first :: rest)) ≠ [.dangling position] := by
  rw [pieces_eq, readLead_first_other visible other, link_cons]
  dsimp only
  split
  · intro same
    cases same
  · rename_i found
    have start : findTarget Combinator.symbols (link (first :: rest)) = some 0 := found
    obtain ⟨mark, others, split, symbol, _⟩ := exists_mark_of_findTarget start
    cases split
    exact absurd symbol other
  · intro same
    cases same

/-- The first piece fails as its sequence does, or because of the combinator before it. -/
theorem failsWith_of_appendPiece_empty {values : List Mark} {combinator : Option Combinator}
    (starts : combinator ≠ none → ∃ first ∈ values.head?, first.char ∈ ['>', '+', '~'])
    {text : List Char} {error : ParseError}
    (failed : appendPiece empty (.joined combinator text) = .error error) :
    FailsWith values error := by
  rw [appendPiece, bind_eq_error_iff] at failed
  rcases failed with unread | ⟨sequence, _, refused⟩
  · exact .sequence (Sequence.failsWith_of_parse unread)
  · rw [append_empty] at refused
    cases combinator with
    | none => cases refused
    | some combinator =>
      cases refused
      obtain ⟨first, found, explicit⟩ := starts (Option.some_ne_none combinator)
      exact .joined found explicit

/-- The pieces of a text that does not start with a blank fail in one of its ways. -/
theorem failsWith_of_pieces {first : Mark} {rest : List Mark}
    (marked : Marked false (first :: rest)) (visible : isBlank first.char = false)
    {error : ParseError}
    (failed : (pieces true 0 (link (first :: rest))).foldlM appendPiece empty = .error error) :
    FailsWith (first :: rest) error := by
  obtain ⟨combinator, body, lead, bodyMarked, whole⟩ :=
    readLead_first_link marked (by rintro _ ⟨⟩; exact visible)
  have starts : combinator ≠ none →
      ∃ mark ∈ (first :: rest).head?, mark.char ∈ ['>', '+', '~'] := by
    intro joined
    refine ⟨first, rfl, ?_⟩
    by_contra plain
    have other : first.char ∉ Combinator.symbols := by
      intro symbol
      rcases List.mem_cons.1 symbol with space | explicit
      · rw [space] at visible
        exact absurd visible (by decide)
      · exact plain explicit
    rw [readLead_first_other visible other] at lead
    exact joined (Prod.mk.inj lead).1.symm
  rcases pieces_cases lead bodyMarked 0 with
    dangling | ⟨part, later, _, _, parted, ⟨_, single⟩ | ⟨behind, laterMarked, rounds⟩⟩
  · have symbol : first.char ∈ Combinator.symbols := by
      by_contra other
      exact pieces_first_ne_dangling visible other rest 0 dangling
    rw [dangling] at failed
    cases failed
    exact .dangling ⟨first, rest, rfl, symbol⟩ marked
  · rw [single, List.foldlM_cons, bind_eq_error_iff] at failed
    rcases failed with failed | ⟨next, _, none⟩
    · exact failsWith_of_appendPiece_empty starts failed
    · cases none
  · rw [rounds, List.foldlM_cons, bind_eq_error_iff] at failed
    rcases failed with failed | ⟨next, added, failed⟩
    · exact failsWith_of_appendPiece_empty starts failed
    · obtain ⟨none, sequence, _, rfl⟩ := (appendPiece_empty_iff _ _ _).1 added
      refine failsWith_of_foldlM ?_ laterMarked behind failed
      rw [← whole none, parted, List.length_append, Nat.add_sub_cancel_right, Nat.zero_add,
        List.drop_left]

/-- A pattern fails in one of the ways of its trimmed text. -/
theorem failsWith_of_parse {pattern : List Char} {error : ParseError}
    (failed : parse pattern = .error error) : FailsWith (trimMarks (marks pattern)) error := by
  have marked := marked_trimMarks pattern
  have visible := isBlank_head_trimMarks pattern
  rw [parse, cellsOf] at failed
  cases trimmed : trimMarks (marks pattern) with
  | nil =>
    rw [trimmed] at failed
    cases failed
    exact .empty rfl
  | cons first rest =>
    rw [trimmed] at failed marked visible
    exact failsWith_of_pieces marked (visible first rfl) failed

/-- A pattern is empty exactly if all of it is blank. -/
theorem parse_eq_emptyPattern_iff (pattern : List Char) :
    parse pattern = .error .emptyPattern ↔ ∀ value ∈ pattern, isBlank value = true := by
  constructor
  · intro failed
    cases failsWith_of_parse failed with
    | empty blank =>
      obtain ⟨leading, trailing, whole, front, back⟩ := exists_blanks_around pattern
      rw [cellsOf, blank] at whole
      rw [whole]
      exact List.forall_mem_append.2 ⟨front, back⟩
    | sequence fails => cases fails with
      | item isLocal => cases isLocal
  · intro blank
    have nothing : cellsOf ([] ++ pattern) = cellsOf [] :=
      cellsOf_append_blanks settled_nil blank
    rw [List.nil_append] at nothing
    rw [parse, nothing]
    rfl

/-- A text breaks a rule of structure only by an item that must come first, or by a combinator at its
start. -/
theorem structural_of_parse {pattern : List Char} {cause : StructureError}
    (failed : parse pattern = .error (.structural cause)) :
    (∃ kind, cause = .notFirstInSequence kind) ∨
      cause = .combinatorOnFirstSequence ∧
        ∃ sign ∈ (Scan.ofText pattern).char? 0, sign ∈ ['>', '+', '~'] := by
  cases failsWith_of_parse failed with
  | sequence fails => cases fails with
    | item isLocal => cases isLocal
    | misplaced kind => exact Or.inl ⟨kind, rfl⟩
  | @joined first starts explicit =>
    refine Or.inr ⟨rfl, first.char, ?_, explicit⟩
    rw [List.head?_eq_getElem?] at starts
    rw [Scan.ofText, cellsOf, Scan.char?_link, Option.mem_def.1 starts]
    rfl

/-- Where what is left of a trimmed text starts at a combinator, a scan shows it there, unescaped. -/
theorem scan_of_startsAtSymbol {pattern : List Char} {position : Nat}
    (symbol : StartsAtSymbol ((trimMarks (marks pattern)).drop position))
    (marked : Marked false ((trimMarks (marks pattern)).drop position)) :
    position < (Scan.ofText pattern).length ∧ (Scan.ofText pattern).isEscaped position = false ∧
      ∃ sign ∈ (Scan.ofText pattern).char? position, sign ∈ Combinator.symbols := by
  obtain ⟨mark, rest, split, member⟩ := symbol
  rw [split] at marked
  have found : (trimMarks (marks pattern))[position]? = some mark := by
    rw [← List.head?_drop, split]
    rfl
  refine ⟨?_, ?_, mark.char, ?_, member⟩
  · rw [Scan.length, Scan.ofText, cellsOf, link_length]
    exact (List.getElem?_eq_some_iff.1 found).1
  · rw [Scan.ofText, cellsOf, Scan.isEscaped_link, found]
    exact (marked_cons_iff.1 marked).1
  · rw [Scan.ofText, cellsOf, Scan.char?_link, found]
    rfl

/-- No pattern fails for lack of a combinator, for what stands behind a path, or for what a path
starts at: the last rules are checked, but what the pieces of a path are read as never breaks them.
A pattern fails for the combinator of its first sequence only if it starts with an explicit one once
it is trimmed, and as an empty one exactly if all of it is blank. A combinator that is reported to
have no sequence behind it stands unescaped in the trimmed pattern. -/
theorem parse_failures (pattern : List Char) :
    (∀ kind, parse pattern ≠ .error (.structural (.notAfterPath kind))) ∧
    parse pattern ≠ .error (.structural .missingCombinator) ∧
    (∀ kind, parse pattern ≠ .error (.structural (.invalidPathRoot kind))) ∧
    parse pattern ≠ .error (.structural .misplacedPathRoot) ∧
    (∀ texts, Path.ofPieces texts =
        (Path.stepsOf texts >>= fun items => (Path.ofSteps items).mapError .structural) ∧
      ∀ items, Path.stepsOf texts = .ok items → ∃ path, Path.ofSteps items = .ok path) ∧
    (parse pattern = .error (.structural .combinatorOnFirstSequence) →
      ∃ sign ∈ (Scan.ofText pattern).char? 0, sign ∈ ['>', '+', '~']) ∧
    (parse pattern = .error .emptyPattern ↔ ∀ value ∈ pattern, isBlank value = true) ∧
    ∀ position, parse pattern = .error (.danglingCombinator position) →
      position < (Scan.ofText pattern).length ∧
        (Scan.ofText pattern).isEscaped position = false ∧
        ∃ sign ∈ (Scan.ofText pattern).char? position, sign ∈ Combinator.symbols := by
  refine ⟨fun kind failed => ?_, fun failed => ?_, fun kind failed => ?_, fun failed => ?_,
    fun texts => ⟨Path.ofPieces_eq texts, fun items => Path.exists_ofSteps_of_stepsOf⟩,
    fun failed => ?_, parse_eq_emptyPattern_iff pattern, fun position failed => ?_⟩
  · rcases structural_of_parse failed with ⟨_, ⟨⟩⟩ | ⟨⟨⟩, _⟩
  · rcases structural_of_parse failed with ⟨_, ⟨⟩⟩ | ⟨⟨⟩, _⟩
  · rcases structural_of_parse failed with ⟨_, ⟨⟩⟩ | ⟨⟨⟩, _⟩
  · rcases structural_of_parse failed with ⟨_, ⟨⟩⟩ | ⟨⟨⟩, _⟩
  · rcases structural_of_parse failed with ⟨_, ⟨⟩⟩ | ⟨_, starts⟩
    exact starts
  · cases failsWith_of_parse failed with
    | sequence fails => cases fails with
      | item isLocal => cases isLocal
    | dangling symbol marked => exact scan_of_startsAtSymbol symbol marked

/-- Two explicit combinators are reported where the blanks before them start. -/
theorem parse_failures_twoChildren :
    parse "page > > tag".toList = .error (.danglingCombinator 4) ∧
      4 < (Scan.ofText "page > > tag".toList).length ∧
      (Scan.ofText "page > > tag".toList).isEscaped 4 = false ∧
      ∃ sign ∈ (Scan.ofText "page > > tag".toList).char? 4, sign ∈ Combinator.symbols := by
  have failed : parse "page > > tag".toList = .error (.danglingCombinator 4) := by cbv
  exact ⟨failed, (parse_failures "page > > tag".toList).2.2.2.2.2.2.2 4 failed⟩

end Selector

end NodeQuery
