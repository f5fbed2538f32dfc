/-!
# Blank characters

Two classes of blank character occur in a pattern. The five blanks of the selector
language separate its parts and may be escaped. The wider class of Unicode spaces is used
where plain text is cut into words or trimmed: the order of a sort, a row count, a path
given on the command line.

The laws below say that trimming a run of blanks from an end leaves no blank there and
removes nothing else.
-/

namespace NodeQuery.Text

/-- The five characters that separate the parts of a pattern. -/
def blanks : List Char := [' ', '\t', '\n', '\r', '\x0c']

/-- Recognizes the five characters that separate the parts of a pattern. -/
def isBlank (value : Char) : Bool := blanks.contains value

/-- Recognizes the characters with the Unicode property White_Space. -/
def isSpace (value : Char) : Bool :=
  let point := value.toNat
  (9 ≤ point && point ≤ 13) || point == 0x20 || point == 0x85 || point == 0xa0 ||
    point == 0x1680 || (0x2000 ≤ point && point ≤ 0x200a) || point == 0x2028 ||
    point == 0x2029 || point == 0x202f || point == 0x205f || point == 0x3000

/-- Every blank of the selector language is a Unicode space. -/
theorem isSpace_of_isBlank {value : Char} (blank : isBlank value = true) :
    isSpace value = true := by
  simp only [isBlank, blanks, List.contains_iff_mem, List.mem_cons, List.not_mem_nil,
    or_false] at blank
  rcases blank with rfl | rfl | rfl | rfl | rfl <;> decide

/-- Removes the longest run at the end of a list whose members all satisfy a test. -/
def dropTrailing {Item : Type} (test : Item → Bool) : List Item → List Item
  | [] => []
  | head :: rest =>
    match dropTrailing test rest with
    | [] => if test head then [] else [head]
    | kept => head :: kept

/-- Trimming the end of a list leaves a front part of it. -/
theorem dropTrailing_append_run {Item : Type} (test : Item → Bool) (values : List Item) :
    ∃ run, values = dropTrailing test values ++ run ∧ ∀ value ∈ run, test value = true := by
  induction values with
  | nil => exact ⟨[], rfl, by simp⟩
  | cons head rest hypothesis =>
    obtain ⟨run, split, all⟩ := hypothesis
    simp only [dropTrailing]
    cases kept : dropTrailing test rest with
    | nil =>
      rw [kept] at split
      by_cases holds : test head = true
      · exact ⟨head :: run, by simpa [holds] using split, by simpa [holds] using all⟩
      · exact ⟨run, by simpa [holds] using split, all⟩
    | cons first others =>
      rw [kept] at split
      exact ⟨run, by simpa using split, all⟩

/-- Removes the Unicode spaces at both ends of a text. -/
def trimSpaces (text : List Char) : List Char :=
  dropTrailing isSpace (text.dropWhile isSpace)

/-- The first word of a text, words being separated by Unicode spaces. -/
def firstWord (text : List Char) : List Char :=
  (text.dropWhile isSpace).takeWhile (!isSpace ·)

/-- The maximal runs of a text without a gap; `run` holds the characters of the one being
read, the last one first. -/
def wordsFrom (isGap : Char → Bool) (run : List Char) : List Char → List (List Char)
  | [] => if run.isEmpty then [] else [run.reverse]
  | head :: rest =>
    if isGap head then
      if run.isEmpty then wordsFrom isGap [] rest else run.reverse :: wordsFrom isGap [] rest
    else wordsFrom isGap (head :: run) rest

/-- The maximal runs of a text that hold no gap. -/
def wordsBy (isGap : Char → Bool) (text : List Char) : List (List Char) :=
  wordsFrom isGap [] text

/-- The words of a text, separated by Unicode spaces. -/
def words (text : List Char) : List (List Char) := wordsBy isSpace text

end NodeQuery.Text
