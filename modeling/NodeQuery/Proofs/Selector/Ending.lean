import NodeQuery.Proofs.Selector.Splitting

/-!
# Texts that end in an escape

A backslash escapes whatever is behind it, so a text that ends in an escape is cut off nowhere but
at the end of the whole: a blank behind it is not trimmed, a target behind it is not found, and a
token or the text of a sequence that ends so is the last one.

Main statements: `Sequence.token_at_end` and `Selector.piece_at_end`.
-/

namespace NodeQuery

open Text

/-- Only nothing and a lone backslash stand for nothing. -/
theorem Text.unescape_eq_nil_iff (text : List Char) :
    unescape text = [] ↔ text = [] ∨ text = [escapeMark] := by
  cases text with
  | nil => simp [unescape]
  | cons head rest =>
    cases rest with
    | nil => simp [unescape]
    | cons next rest => by_cases mark : head = escapeMark <;> simp [unescape, mark]

/-- A backslash behind another character escapes what follows. -/
theorem Simple.endsInEscape_append_mark {front : List Char}
    (plain : ∀ last ∈ front.getLast?, last ≠ escapeMark) :
    endsInEscape (front ++ [escapeMark]) = true := by
  rcases front.eq_nil_or_concat with rfl | ⟨before, last, rfl⟩
  · rfl
  · have other : last ≠ escapeMark := plain last (by simp)
    simp [endsInEscape, other]

/-- A value that is a lone backslash escapes what follows. -/
theorem Simple.endsInEscape_append_pair (front : List Char) {sign : Char}
    (starts : sign ∈ ['#', '$', '.']) : endsInEscape (front ++ [sign, escapeMark]) = true := by
  have plain : sign ≠ escapeMark := by
    rintro rfl
    revert starts
    decide
  have ends : endsInEscape ((front ++ [sign]) ++ [escapeMark]) = true :=
    endsInEscape_append_mark (by simpa using plain)
  rwa [List.append_assoc] at ends

namespace Text

/-- What follows a text is marked as escaped exactly if the text ends in an escape. -/
theorem Marked.behind {front back : List Mark} (whole : Marked false (front ++ back)) :
    Marked (Simple.endsInEscape (chars front)) back := by
  have first := whole.left
  rw [Marked, chars_append, Simple.marksFrom_append, show marksFrom false (chars front) = front from
    first, Simple.leavesEscape_eq_endsInEscape] at whole
  exact List.append_cancel_left whole

/-- Nothing that keeps its marks follows a text that ends in an escape. -/
theorem Marked.eq_nil_of_endsInEscape {front back : List Mark}
    (whole : Marked false (front ++ back)) (behind : Marked false back)
    (ends : Simple.endsInEscape (chars front) = true) : back = [] := by
  have marked : Marked true back := ends ▸ whole.behind
  cases back with
  | nil => rfl
  | cons mark rest =>
    have escaped := (marked_cons_iff.1 marked).1
    rw [(marked_cons_iff.1 behind).1] at escaped
    cases escaped

/-- What stands before a target does not end in an escape. -/
theorem Marked.endsInEscape_take_of_found {values : List Mark} (marked : Marked false values)
    {targets : List Char} {count : Nat} (found : findTarget targets (link values) = some count) :
    Simple.endsInEscape (chars (values.take count)) = false := by
  obtain ⟨behind, mark, rest, split, _⟩ := marked_drop_of_found marked found
  refine Bool.eq_false_iff.2 fun ends => ?_
  rw [← List.take_append_drop count values] at marked
  have nothing := marked.eq_nil_of_endsInEscape behind ends
  rw [split] at nothing
  cases nothing

/-- A text that ends in an escape once it is trimmed has lost nothing at its end. -/
theorem exists_blanks_before {text : List Char}
    (ends : Simple.endsInEscape (chars (trimMarks (marks text))) = true) :
    ∃ leading, text = leading ++ chars (trimMarks (marks text)) ∧
      ∀ value ∈ leading, isBlank value = true := by
  obtain ⟨run, split, loose⟩ := dropTrailing_append_run Mark.isLooseBlank (marks text)
  have parts := List.takeWhile_append_dropWhile (p := fun mark : Mark => isBlank mark.char)
    (l := dropTrailing Mark.isLooseBlank (marks text))
  rw [← trimMarks] at parts
  have none : run = [] := by
    have whole := marked_marks text
    rw [split, ← parts, List.append_assoc] at whole
    cases trimmed : trimMarks (marks text) with
    | nil =>
      rw [trimmed] at ends
      cases ends
    | cons first rest =>
      have plain := (marked_cons_iff.1 (trimmed ▸ marked_trimMarks text)).1
      rw [trimmed] at whole ends
      have later : Marked false (first :: rest ++ run) := whole.right plain
      cases run with
      | nil => rfl
      | cons mark others =>
        have visible : mark.escaped = false := by
          have both := loose mark List.mem_cons_self
          simp only [Mark.isLooseBlank, Bool.and_eq_true, Bool.not_eq_true'] at both
          exact both.2
        exact later.eq_nil_of_endsInEscape (later.right visible) ends
  refine ⟨chars ((dropTrailing Mark.isLooseBlank (marks text)).takeWhile (isBlank ·.char)), ?_,
    fun value => isBlank_of_mem_takeWhile⟩
  rw [none, List.append_nil] at split
  rw [← chars_append, parts, ← split, chars_marks]

/-- Blanks before a text without blanks are left out. -/
theorem trimMarks_blanks_before {leading text : List Char}
    (blank : ∀ value ∈ leading, isBlank value = true)
    (visible : ∀ value ∈ text, isBlank value = false) (nonempty : text ≠ []) :
    trimMarks (marks (leading ++ text)) = marks text := by
  have settled : Settled leading := settled_blanks blank
  have firm := firm_of_visible visible
  have skipped : ∀ mark ∈ marks leading, isBlank mark.char = true := by
    intro mark member
    have loose := isLooseBlank_of_mem_marks blank member
    exact (Bool.and_eq_true _ _ ▸ loose).1
  have alone := trimMarks_marks_of_firm (fun first starts => visible first
    (List.mem_of_mem_head? starts)) firm
  rw [trimMarks, dropTrailing_of_getLast? firm] at alone
  rw [trimMarks, dropTrailing_of_getLast? (firm.append settled nonempty), settled,
    List.dropWhile_append_of_pos skipped, alone]

/-- A text without blanks that ends in an escape is what is left of another one by trimming if and
only if the other one is the text with blanks before it. -/
theorem chars_trimMarks_eq_iff {text : List Char} (visible : ∀ value ∈ text, isBlank value = false)
    (ends : Simple.endsInEscape text = true) (whole : List Char) :
    chars (trimMarks (marks whole)) = text ↔
      ∃ leading, (∀ value ∈ leading, isBlank value = true) ∧ whole = leading ++ text := by
  constructor
  · rintro rfl
    obtain ⟨leading, split, blank⟩ := exists_blanks_before ends
    exact ⟨leading, blank, split⟩
  · rintro ⟨leading, blank, rfl⟩
    have nonempty : text ≠ [] := by
      rintro rfl
      cases ends
    rw [trimMarks_blanks_before blank visible nonempty, chars_marks]

end Text

namespace Sequence

/-- A token that ends in an escape is the last one and ends the text. -/
theorem token_at_end {values : List Mark} (marked : Marked false values)
    {front back : List (List Char)} {token : List Char}
    (split : tokens (link values) = front ++ token :: back)
    (ends : Simple.endsInEscape token = true) :
    back = [] ∧ ∃ before, Text.chars values = before ++ token := by
  -- what a token leaves is shorter than what it was read from
  induction size : values.length using Nat.strongRecOn generalizing values front with
  | ind size hypothesis =>
    subst size
    have parts := List.takeWhile_append_dropWhile (p := fun mark : Mark => isBlank mark.char)
      (l := values)
    have behind := marked.dropWhile
    rw [tokens_eq, afterBlanks_link] at split
    cases body : values.dropWhile (isBlank ·.char) with
    | nil =>
      rw [body] at split
      simp [link] at split
    | cons first rest =>
      rw [body] at parts behind split
      have later := marked_drop_tokenTail behind
      rw [link_cons] at split
      dsimp only at split
      generalize tokenTail ⟨first, reachOf first.char (link rest)⟩ (link rest) = tail
        at later split
      rw [link_drop, cellChars_take_link] at split
      have cut : first :: rest = (first :: rest.take tail) ++ rest.drop tail := by
        rw [List.cons_append, List.take_append_drop]
      have whole : Text.chars values = Text.chars (values.takeWhile (isBlank ·.char)) ++
          (Text.chars (first :: rest.take tail) ++ Text.chars (rest.drop tail)) := by
        rw [← chars_append, ← chars_append, ← cut, parts]
      cases front with
      | nil =>
        obtain ⟨rfl, rounds⟩ := List.cons.inj split
        rw [cut] at behind
        have nothing : rest.drop tail = [] := behind.eq_nil_of_endsInEscape later ends
        rw [nothing] at rounds whole
        refine ⟨?_, Text.chars (values.takeWhile (isBlank ·.char)), ?_⟩
        · rw [← rounds, tokens_eq]
          rfl
        · rw [whole, show Text.chars [] = [] from rfl, List.append_nil]
          rfl
      | cons head others =>
        have shorter : (rest.drop tail).length < values.length := by
          have lengths := congrArg List.length parts
          rw [List.length_append, List.length_cons] at lengths
          rw [List.length_drop]
          omega
        obtain ⟨last, before, rounds⟩ :=
          hypothesis _ shorter later (List.cons.inj split).2 rfl
        refine ⟨last, Text.chars (values.takeWhile (isBlank ·.char)) ++
          (Text.chars (first :: rest.take tail) ++ before), ?_⟩
        rw [whole, rounds, List.append_assoc, List.append_assoc]

end Sequence

namespace Selector

/-- A piece whose text ends in an escape is the last one and ends what is left of a pattern behind
a gap. -/
theorem piece_at_end {first : Bool} {values body : List Mark}
    {joining : Option Combinator} (lead : readLead first (link values) = (joining, link body))
    (marked : Marked false body) {position : Nat} {front back : List Piece}
    {combinator : Option Combinator} {text : List Char}
    (split : pieces first position (link values) = front ++ .joined combinator text :: back)
    (ends : Simple.endsInEscape text = true) :
    back = [] ∧ ∃ before, Text.chars body = before ++ text := by
  -- what a round leaves is shorter than what it was given
  induction size : body.length using Nat.strongRecOn
    generalizing first values body joining position front with
  | ind size hypothesis =>
    subst size
    rcases pieces_cases lead marked position with
      dangling | ⟨part, later, filled, _, parted, ⟨rfl, single⟩ | ⟨symbol, behind, rounds⟩⟩
    · rw [dangling] at split
      have member : Piece.joined combinator text ∈ [Piece.dangling position] := by
        rw [split]
        simp
      simp at member
    · rw [single] at split
      cases front with
      | nil =>
        obtain ⟨same, nothing⟩ := List.cons.inj split
        cases same
        exact ⟨nothing.symm, [], by rw [parted, List.append_nil]; rfl⟩
      | cons head others => simp at split
    · rw [rounds] at split
      cases front with
      | nil =>
        obtain ⟨same, _⟩ := List.cons.inj split
        cases same
        rw [parted] at marked
        obtain ⟨mark, rest, starts, _⟩ := symbol
        have nothing := marked.eq_nil_of_endsInEscape behind ends
        rw [starts] at nothing
        cases nothing
      | cons head others =>
        obtain ⟨combining, gap, after, leadLater, cut, _, markedAfter⟩ := readLead_link behind symbol
        have shorter : after.length < body.length := by
          have taken := List.length_pos_iff.2 filled
          rw [Text.chars, List.length_map] at taken
          rw [parted, cut, List.length_append, List.length_append]
          omega
        obtain ⟨last, before, whole⟩ :=
          hypothesis _ shorter leadLater markedAfter (List.cons.inj split).2 rfl
        refine ⟨last, Text.chars part ++ (Text.chars gap ++ before), ?_⟩
        rw [parted, cut, chars_append, chars_append, whole, List.append_assoc, List.append_assoc]

end Selector

end NodeQuery
