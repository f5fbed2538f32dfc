import NodeQuery.Proofs.Text.Hiding

/-!
# Parts of marked texts

The mark of a character depends on the characters before it. But a part of a text has the marks
that it would have on its own if the character before it is no backslash that escapes, as behind
a trimmed start, a blank, a sign or a closer. So a text that is cut at such places may be marked
first and cut then.

Main statements: `marked_trimMarks` and `exists_blanks_around`.
-/

namespace NodeQuery.Text

/-- The marks of a text whose first character is escaped or not, as given. -/
def Marked (escaped : Bool) (values : List Mark) : Prop :=
  marksFrom escaped (chars values) = values

/-- The marks of a text are its marks. -/
theorem marked_marks (text : List Char) : Marked false (marks text) := by
  rw [Marked, chars_marks]
  rfl

/-- The first mark tells whether its character is escaped, and whether the next one is. -/
theorem marked_cons_iff {escaped : Bool} {mark : Mark} {rest : List Mark} :
    Marked escaped (mark :: rest) ↔ mark.escaped = escaped ∧ Marked mark.escapesNext rest := by
  obtain ⟨value, flag⟩ := mark
  rw [Marked, Marked, chars, List.map_cons, marksFrom, List.cons.injEq, Mark.mk.injEq, ← chars]
  constructor
  · rintro ⟨⟨_, rfl⟩, later⟩
    exact ⟨rfl, later⟩
  · rintro ⟨rfl, later⟩
    exact ⟨⟨rfl, rfl⟩, later⟩

namespace Marked

variable {escaped : Bool}

/-- A front part keeps its marks. -/
theorem left {front back : List Mark} (marked : Marked escaped (front ++ back)) :
    Marked escaped front := by
  induction front generalizing escaped with
  | nil => rfl
  | cons mark rest hypothesis =>
    obtain ⟨same, later⟩ := marked_cons_iff.1 marked
    exact marked_cons_iff.2 ⟨same, hypothesis later⟩

/-- A part that starts with an unescaped character keeps its marks. -/
theorem right {front : List Mark} {mark : Mark} {rest : List Mark}
    (marked : Marked escaped (front ++ mark :: rest)) (plain : mark.escaped = false) :
    Marked false (mark :: rest) := by
  induction front generalizing escaped with
  | nil =>
    obtain ⟨same, later⟩ := marked_cons_iff.1 marked
    exact marked_cons_iff.2 ⟨plain, later⟩
  | cons first others hypothesis => exact hypothesis (marked_cons_iff.1 marked).2

/-- What follows a character that is no backslash keeps its marks. -/
theorem tail {mark : Mark} {rest : List Mark} (marked : Marked escaped (mark :: rest))
    (plain : mark.char ≠ escapeMark) : Marked false rest := by
  have later := (marked_cons_iff.1 marked).2
  rw [Mark.escapesNext, beq_eq_false_iff_ne.2 plain, Bool.false_and] at later
  exact later

/-- What is left behind blanks keeps its marks. -/
theorem dropWhile {values : List Mark} (marked : Marked false values) :
    Marked false (values.dropWhile (isBlank ·.char)) := by
  induction values with
  | nil => exact marked
  | cons mark rest hypothesis =>
    by_cases blank : isBlank mark.char = true
    · rw [List.dropWhile_cons_of_pos (by exact blank)]
      exact hypothesis (marked.tail (ne_escapeMark_of_isBlank blank))
    · rw [List.dropWhile_cons_of_neg (by exact blank)]
      exact marked

end Marked

/-- A trimmed text keeps its marks. -/
theorem marked_trimMarks (text : List Char) : Marked false (trimMarks (marks text)) := by
  obtain ⟨run, split, _⟩ := dropTrailing_append_run Mark.isLooseBlank (marks text)
  have whole := marked_marks text
  rw [split] at whole
  exact whole.left.dropWhile

/-- The characters of marks behind each other. -/
theorem chars_append (front back : List Mark) : chars (front ++ back) = chars front ++ chars back :=
  List.map_append

/-- The front cells of marks stand on their characters. -/
theorem cellChars_take_link (values : List Mark) (count : Nat) :
    cellChars ((link values).take count) = chars (values.take count) := by
  rw [cellChars, List.map_take]
  change (cellChars (link values)).take count = _
  rw [cellChars_link, chars, chars, List.map_take]

/-- What is left from a target on starts with it and keeps its marks. -/
theorem marked_drop_of_found {escaped : Bool} {values : List Mark}
    (marked : Marked escaped values) {targets : List Char} {count : Nat}
    (found : findTarget targets (link values) = some count) :
    Marked false (values.drop count) ∧
      ∃ mark rest, values.drop count = mark :: rest ∧ mark.char ∈ targets := by
  obtain ⟨mark, rest, split, member, unescaped⟩ := exists_mark_of_findTarget found
  rw [← List.take_append_drop count values, split] at marked
  rw [split]
  exact ⟨marked.right unescaped, mark, rest, rfl, member⟩

/-- The cells behind the blanks at the start. -/
theorem afterBlanks_link (values : List Mark) :
    afterBlanks (link values) = link (values.dropWhile (isBlank ·.char)) := by
  induction values with
  | nil => rfl
  | cons mark rest hypothesis =>
    by_cases blank : isBlank mark.char = true
    · rw [List.dropWhile_cons_of_pos (by exact blank), ← hypothesis, link_cons, afterBlanks,
        List.dropWhile_cons_of_pos (by exact blank)]
      rfl
    · rw [List.dropWhile_cons_of_neg (by exact blank), link_cons, afterBlanks,
        List.dropWhile_cons_of_neg (by exact blank)]

/-! ## Trimmed texts -/

/-- The blanks at the start of some marks. -/
theorem isBlank_of_mem_takeWhile {values : List Mark} {value : Char}
    (member : value ∈ chars (values.takeWhile (isBlank ·.char))) : isBlank value = true := by
  obtain ⟨mark, inside, rfl⟩ := List.mem_map.1 member
  exact List.all_eq_true.1 List.all_takeWhile mark inside

/-- A trimmed text does not start with a blank. -/
theorem isBlank_head_trimMarks (text : List Char) :
    ∀ mark ∈ (trimMarks (marks text)).head?, isBlank mark.char = false := by
  intro mark first
  have stop := List.head?_dropWhile_not (fun mark : Mark => isBlank mark.char)
    (dropTrailing Mark.isLooseBlank (marks text))
  rw [← trimMarks, Option.mem_def.1 first] at stop
  simpa using stop

/-- A trimmed text does not end in an unescaped blank. -/
theorem isLooseBlank_getLast?_trimMarks (text : List Char) :
    ∀ mark ∈ (trimMarks (marks text)).getLast?, mark.isLooseBlank = false := by
  intro mark last
  obtain ⟨front, split⟩ := List.dropWhile_suffix (fun mark : Mark => isBlank mark.char)
    (l := dropTrailing Mark.isLooseBlank (marks text))
  refine getLast?_dropTrailing Mark.isLooseBlank (marks text) mark ?_
  rw [← split, List.getLast?_append, ← trimMarks, Option.mem_def.1 last]
  rfl

/-- A text is what is left of it by trimming, with blanks around it. -/
theorem exists_blanks_around (text : List Char) :
    ∃ leading trailing, text = leading ++ (cellChars (cellsOf text) ++ trailing) ∧
      (∀ value ∈ leading, isBlank value = true) ∧ ∀ value ∈ trailing, isBlank value = true := by
  obtain ⟨run, split, loose⟩ := dropTrailing_append_run Mark.isLooseBlank (marks text)
  have parts := List.takeWhile_append_dropWhile (p := fun mark : Mark => isBlank mark.char)
    (l := dropTrailing Mark.isLooseBlank (marks text))
  refine ⟨chars ((dropTrailing Mark.isLooseBlank (marks text)).takeWhile (isBlank ·.char)),
    chars run, ?_, fun value member => ?_, fun value member => ?_⟩
  · rw [cellsOf, cellChars_link, trimMarks, chars, chars, chars, ← List.append_assoc,
      ← List.map_append, parts, ← List.map_append, ← split]
    exact (chars_marks text).symm
  · obtain ⟨mark, inside, rfl⟩ := List.mem_map.1 member
    exact List.all_eq_true.1 List.all_takeWhile mark inside
  · obtain ⟨mark, inside, rfl⟩ := List.mem_map.1 member
    exact (Bool.and_eq_true _ _ ▸ loose mark inside).1

end NodeQuery.Text
