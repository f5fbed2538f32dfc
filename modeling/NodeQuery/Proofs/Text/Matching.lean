import NodeQuery.Filter.Pattern

/-!
# What expressions match

A filter holds regular expressions as texts. This module says what such a text means: it is read
into parts, and the parts are looked for in a subject. The language is the fragment that
expressions made of plain text use: the anchors, single characters, `.`, classes such as `[^/]`,
and the repetitions `*` and `+` of one character. A backslash in front of a reserved character
makes it an ordinary one. A text outside of this fragment has no meaning here.

Escaped text is the part of an expression that nothing around it can change: it is read as its
own characters, whatever stands in front of it and behind it.

Main statements: `signs?_literalPattern_append` and `parts?_textSigns_append` for how escaped text
is read, `fits_literal_append` and `found_iff` for what it then matches.
-/

namespace NodeQuery.Regex

open Text

/-! ## Reading -/

/-- A test of one character. -/
inductive Test where
  /-- This character and no other. -/
  | exactly (value : Char)
  /-- Any character within a line. -/
  | inLine
  /-- Any character but this one. -/
  | otherThan (value : Char)
deriving DecidableEq

/-- Whether a character passes a test. -/
def Test.accepts : Test → Char → Bool
  | exactly value, given => given == value
  | inLine, given => given != '\n'
  | otherThan value, given => given != value

/-- The smallest units that an expression is written with. -/
inductive Sign where
  /-- One character. -/
  | test (test : Test)
  /-- Any number of what stands in front. -/
  | anyNumber
  /-- At least one of what stands in front. -/
  | oneOrMore
  /-- The start of the subject. -/
  | start
  /-- The end of the subject. -/
  | stop
deriving DecidableEq

/-- The characters that do not stand for themselves, or are kept back. -/
def reserved : List Char :=
  ['\\', '.', '+', '*', '?', '(', ')', '|', '[', ']', '\x7b', '\x7d', '^', '$', '#', '&', '-', '~']

/-- What a character stands for on its own. -/
def signOf? (value : Char) : Option Sign :=
  match value with
  | '^' => some .start
  | '$' => some .stop
  | '.' => some (.test .inLine)
  | '*' => some .anyNumber
  | '+' => some .oneOrMore
  | other => if other ∈ reserved then none else some (.test (.exactly other))

/-- The signs of an expression, unless it is outside of the fragment. -/
def signs? : List Char → Option (List Sign)
  | [] => some []
  | '\\' :: value :: rest =>
    if value ∈ reserved then (signs? rest).map (.test (.exactly value) :: ·) else none
  | '[' :: '^' :: value :: ']' :: rest =>
    if value ∈ reserved then none else (signs? rest).map (.test (.otherThan value) :: ·)
  | value :: rest => (signOf? value).bind fun sign => (signs? rest).map (sign :: ·)

/-- What is matched in turn. -/
inductive Part where
  /-- One character. -/
  | one (test : Test)
  /-- Any number of characters. -/
  | many (test : Test)
  /-- The start of the subject. -/
  | start
  /-- The end of the subject. -/
  | stop
deriving DecidableEq

/-- The parts that signs stand for; a repetition needs a character in front of it. -/
def parts? : List Sign → Option (List Part)
  | [] => some []
  | .test test :: .anyNumber :: rest => (parts? rest).map (.many test :: ·)
  | .test test :: .oneOrMore :: rest => (parts? rest).map ([.one test, .many test] ++ ·)
  | .test test :: rest => (parts? rest).map (.one test :: ·)
  | .start :: rest => (parts? rest).map (.start :: ·)
  | .stop :: rest => (parts? rest).map (.stop :: ·)
  | .anyNumber :: _ => none
  | .oneOrMore :: _ => none

/-- The parts of an expression, unless it is outside of the fragment. -/
def read? (pattern : List Char) : Option (List Part) := (signs? pattern).bind parts?

/-! ## Matching -/

/-- Whether something can follow after some characters that pass a test; the flag says whether
the text is the whole subject. -/
def followsMany (test : Test) (next : Bool → List Char → Bool) (whole : Bool) : List Char → Bool
  | [] => next whole []
  | head :: rest =>
    next whole (head :: rest) || (test.accepts head && followsMany test next false rest)

/-- Whether parts match the front of a text, which is the whole subject or, if not, the end of it.
The end of the subject is also in front of a line feed that ends it. -/
def fits : List Part → Bool → List Char → Bool
  | [], _, _ => true
  | .start :: rest, whole, text => whole && fits rest whole text
  | .stop :: rest, whole, text => (text == [] || text == ['\n']) && fits rest whole text
  | .one _ :: _, _, [] => false
  | .one test :: rest, _, head :: text => test.accepts head && fits rest false text
  | .many test :: rest, whole, text => followsMany test (fits rest) whole text

/-- Whether parts match somewhere in a text, which is the whole subject or the end of it. -/
def foundFrom (parts : List Part) (whole : Bool) : List Char → Bool
  | [] => fits parts whole []
  | head :: rest => fits parts whole (head :: rest) || foundFrom parts false rest

/-- Whether parts match somewhere in a subject. -/
def found (parts : List Part) (subject : List Char) : Bool := foundFrom parts true subject

/-- The parts that match a text and nothing else. -/
def literal (text : List Char) : List Part := text.map fun value => .one (.exactly value)

/-- A search that steps over characters that pass a test finds what is behind some of them. -/
theorem search_iff {passes : Char → Bool} {next search : Bool → List Char → Bool}
    (ended : ∀ whole, search whole [] = next whole [])
    (stepped : ∀ whole head rest, search whole (head :: rest) =
      (next whole (head :: rest) || (passes head && search false rest)))
    (whole : Bool) (text : List Char) :
    search whole text = true ↔
      ∃ front back, text = front ++ back ∧ (∀ value ∈ front, passes value = true) ∧
        next (whole && front.isEmpty) back = true := by
  induction text generalizing whole with
  | nil =>
    rw [ended]
    constructor
    · intro here
      exact ⟨[], [], rfl, List.forall_mem_nil _, by simpa using here⟩
    · rintro ⟨front, back, split, -, here⟩
      obtain ⟨rfl, rfl⟩ := List.append_eq_nil_iff.1 split.symm
      simpa using here
  | cons head rest hypothesis =>
    rw [stepped, Bool.or_eq_true, Bool.and_eq_true, hypothesis]
    constructor
    · rintro (here | ⟨first, front, back, rfl, all, later⟩)
      · exact ⟨[], head :: rest, rfl, List.forall_mem_nil _, by simpa using here⟩
      · exact ⟨head :: front, back, rfl, List.forall_mem_cons.2 ⟨first, all⟩, by simpa using later⟩
    · rintro ⟨front, back, split, all, here⟩
      cases front with
      | nil =>
        rw [List.nil_append] at split
        exact Or.inl (by simpa [split] using here)
      | cons second front =>
        obtain ⟨rfl, rfl⟩ := List.cons.inj split
        obtain ⟨first, all⟩ := List.forall_mem_cons.1 all
        exact Or.inr ⟨first, front, back, rfl, all, by simpa using here⟩

/-- A repetition takes some characters that pass its test. -/
theorem followsMany_iff (test : Test) (next : Bool → List Char → Bool) (whole : Bool)
    (text : List Char) :
    followsMany test next whole text = true ↔
      ∃ front back, text = front ++ back ∧ (∀ value ∈ front, test.accepts value = true) ∧
        next (whole && front.isEmpty) back = true := by
  have ended : ∀ whole, followsMany test next whole [] = next whole [] := fun _ => rfl
  have stepped : ∀ whole head rest, followsMany test next whole (head :: rest) =
      (next whole (head :: rest) || (test.accepts head && followsMany test next false rest)) :=
    fun _ _ _ => rfl
  exact search_iff ended stepped whole text

/-- The parts of a text match what starts with it. -/
theorem fits_literal_append (text : List Char) (parts : List Part) (whole : Bool)
    (subject : List Char) :
    fits (literal text ++ parts) whole subject = true ↔
      ∃ back, subject = text ++ back ∧ fits parts (whole && text.isEmpty) back = true := by
  induction text generalizing whole subject with
  | nil => simp [literal]
  | cons head rest hypothesis =>
    rw [literal, List.map_cons, List.cons_append]
    cases subject with
    | nil => simp [fits]
    | cons first others =>
      have next := hypothesis false others
      rw [literal] at next
      rw [fits, Bool.and_eq_true, next, Test.accepts, beq_iff_eq]
      constructor
      · rintro ⟨rfl, back, rfl, fitting⟩
        exact ⟨back, rfl, by simpa using fitting⟩
      · rintro ⟨back, split, fitting⟩
        obtain ⟨rfl, rfl⟩ := List.cons.inj split
        exact ⟨rfl, back, rfl, by simpa using fitting⟩

/-- Within a line, the end is where nothing is left. -/
theorem fits_stop {text : List Char} (line : '\n' ∉ text) (whole : Bool) :
    fits [.stop] whole text = true ↔ text = [] := by
  have other : text ≠ ['\n'] := by
    intro same
    exact line (same ▸ List.mem_cons_self)
  simp [fits, other]

/-- What is found in a subject matches behind some of its characters. -/
theorem found_iff (parts : List Part) (subject : List Char) :
    found parts subject = true ↔
      ∃ front back, subject = front ++ back ∧ fits parts front.isEmpty back = true := by
  have ended : ∀ whole, foundFrom parts whole [] = fits parts whole [] := fun _ => rfl
  -- every character may be stepped over
  have stepped : ∀ whole head rest, foundFrom parts whole (head :: rest) =
      (fits parts whole (head :: rest) || (true && foundFrom parts false rest)) := by
    intro whole head rest
    rw [Bool.true_and, foundFrom]
  rw [found, search_iff ended stepped]
  simp only [Bool.true_and, implies_true, true_and]

/-- An expression with an anchor in front matches at the start or nowhere. -/
theorem found_start (parts : List Part) (subject : List Char) :
    found (.start :: parts) subject = fits parts true subject := by
  rw [Bool.eq_iff_iff, found_iff]
  constructor
  · rintro ⟨front, back, rfl, here⟩
    rw [fits, Bool.and_eq_true, List.isEmpty_iff] at here
    obtain ⟨rfl, fitting⟩ := here
    exact fitting
  · intro fitting
    exact ⟨[], subject, rfl, by simpa [fits] using fitting⟩

/-! ## Escaped text -/

/-- The signs of a text of ordinary characters. -/
def textSigns (text : List Char) : List Sign := text.map fun value => .test (.exactly value)

/-- A character that is not reserved stands for itself, whatever follows. -/
theorem signs?_cons {value : Char} (ordinary : value ∉ reserved) (rest : List Char) :
    signs? (value :: rest) = (signs? rest).map (.test (.exactly value) :: ·) := by
  have other : ∀ sign ∈ reserved, value ≠ sign := by
    intro sign member same
    exact ordinary (same ▸ member)
  have alone : signOf? value = some (.test (.exactly value)) := by
    rw [signOf?, if_neg ordinary]
    · exact other '^' (by decide)
    · exact other '$' (by decide)
    · exact other '.' (by decide)
    · exact other '*' (by decide)
    · exact other '+' (by decide)
  rw [signs?, alone, Option.bind_some]
  · intro second others same
    exact absurd same (other '\\' (by decide))
  · intro second others same
    exact absurd same (other '[' (by decide))

/-- Escaped text is read as its characters, whatever follows. -/
theorem signs?_literalPattern_append (text rest : List Char) :
    signs? (Filter.literalPattern text ++ rest) = (signs? rest).map (textSigns text ++ ·) := by
  have covered : reserved = escapeMark :: Filter.patternSpecials := rfl
  induction text with
  | nil => simp [Filter.literalPattern, escape, textSigns]
  | cons head others hypothesis =>
    rw [Filter.literalPattern] at hypothesis
    have joined : ∀ back : Option (List Sign),
        (back.map (textSigns others ++ ·)).map (.test (.exactly head) :: ·) =
          back.map (textSigns (head :: others) ++ ·) := by
      intro back
      rw [Option.map_map]
      rfl
    rw [Filter.literalPattern, escape]
    split
    · rename_i special
      have known : head ∈ reserved := by
        rw [covered]
        exact List.mem_cons.2 special
      rw [List.cons_append, List.cons_append, escapeMark, signs?, if_pos known, hypothesis, joined]
    · rename_i special
      have ordinary : head ∉ reserved := by
        rw [covered]
        exact fun member => special (List.mem_cons.1 member)
      rw [List.cons_append, signs?_cons ordinary, hypothesis, joined]

/-- Whether signs start with a repetition. -/
def repeatsFirst : List Sign → Bool
  | .anyNumber :: _ => true
  | .oneOrMore :: _ => true
  | _ => false

/-- A text is read as parts of its own, unless a repetition follows. -/
theorem parts?_textSigns_append (text : List Char) {rest : List Sign}
    (single : repeatsFirst rest = false) :
    parts? (textSigns text ++ rest) = (parts? rest).map (literal text ++ ·) := by
  induction text with
  | nil => simp [textSigns, literal]
  | cons head others hypothesis =>
    have plain : repeatsFirst (textSigns others ++ rest) = false := by
      cases others with
      | nil => exact single
      | cons next others => rfl
    have alone : ∀ signs : List Sign, repeatsFirst signs = false →
        parts? (.test (.exactly head) :: signs) =
          (parts? signs).map (.one (.exactly head) :: ·) := by
      intro signs plain
      cases signs with
      | nil => rfl
      | cons sign signs => cases sign <;> first | rfl | cases plain
    have shown : textSigns (head :: others) ++ rest =
        .test (.exactly head) :: (textSigns others ++ rest) := rfl
    rw [shown, alone _ plain, hypothesis, Option.map_map]
    rfl

end NodeQuery.Regex
