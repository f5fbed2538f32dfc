/-!
# Escaped text

A backslash takes away the meaning of the character after it. `escape` writes a backslash
before each character that would otherwise be special, and `unescape` removes it again.
Main statement: unescaping restores an escaped text, whatever characters were special.
-/

namespace NodeQuery.Text

/-- The character that takes away the meaning of the one after it. -/
def escapeMark : Char := '\\'

/-- Writes a backslash before every backslash and every special character. -/
def escape (specials : List Char) : List Char → List Char
  | [] => []
  | head :: rest =>
    if head = escapeMark ∨ head ∈ specials then escapeMark :: head :: escape specials rest
    else head :: escape specials rest

/-- Replaces each backslash pair by its second character; a lone backslash at the end is
dropped. -/
def unescape : List Char → List Char
  | [] => []
  | [last] => if last = escapeMark then [] else [last]
  | head :: next :: rest =>
    if head = escapeMark then next :: unescape rest else head :: unescape (next :: rest)

/-- A character that is no backslash stands for itself. -/
theorem unescape_cons {head : Char} (plain : head ≠ escapeMark) (rest : List Char) :
    unescape (head :: rest) = head :: unescape rest := by
  cases rest <;> simp [unescape, plain]

/-- A backslash pair stands for its second character. -/
theorem unescape_pair (value : Char) (rest : List Char) :
    unescape (escapeMark :: value :: rest) = value :: unescape rest := by
  simp [unescape]

/-- Unescaping restores an escaped text before any other. -/
theorem unescape_escape_append (specials text rest : List Char) :
    unescape (escape specials text ++ rest) = text ++ unescape rest := by
  induction text with
  | nil => rfl
  | cons head others hypothesis =>
    by_cases special : head = escapeMark ∨ head ∈ specials
    · simp only [escape, special, if_true, List.cons_append, unescape_pair, hypothesis]
    · have plain : head ≠ escapeMark := fun same => special (Or.inl same)
      simp only [escape, special, if_false, List.cons_append, unescape_cons plain, hypothesis]

/-- Unescaping restores an escaped text. -/
theorem unescape_escape (specials text : List Char) :
    unescape (escape specials text) = text := by
  have whole := unescape_escape_append specials text []
  rwa [List.append_nil, unescape, List.append_nil] at whole

/-- A text without backslashes stands for itself. -/
theorem unescape_of_plain {text : List Char} (plain : ∀ value ∈ text, value ≠ escapeMark) :
    unescape text = text := by
  induction text with
  | nil => rfl
  | cons head rest hypothesis =>
    have others : ∀ value ∈ rest, value ≠ escapeMark := fun value member =>
      plain value (List.mem_cons_of_mem _ member)
    rw [unescape_cons (plain head List.mem_cons_self), hypothesis others]

end NodeQuery.Text
