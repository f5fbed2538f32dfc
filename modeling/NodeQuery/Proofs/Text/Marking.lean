import NodeQuery.Text.Enclosure

/-!
# Marks of written texts

A text is settled when it ends outside an escape: whatever follows is marked as if it stood
alone. Escaped texts are settled, and settled texts may be joined. An escaped text whose
blanks all are special keeps them when it is trimmed; one whose blanks are not special is
trimmed like the text before escaping.

Main statements: `settled_escape`, `trimMarks_marks_of_firm` and `trimMarks_marks_escape`.
-/

namespace NodeQuery.Text

/-- A property of every item of a list is checked over the list, not over the item's type. -/
theorem forall_mem_of_all {Item : Type} {items : List Item} {holds : Item → Prop}
    [DecidablePred holds] (all : items.all (fun item => decide (holds item)) = true) :
    ∀ item ∈ items, holds item :=
  fun item member => of_decide_eq_true (List.all_eq_true.1 all item member)

/-! ## Settled texts -/

/-- A text after which marking starts anew. -/
def Settled (text : List Char) : Prop :=
  ∀ rest, marks (text ++ rest) = marks text ++ marks rest

/-- The empty text is settled. -/
theorem settled_nil : Settled [] := fun _ => rfl

/-- Settled texts may be joined. -/
theorem Settled.append {front back : List Char} (first : Settled front) (second : Settled back) :
    Settled (front ++ back) := by
  intro rest
  rw [List.append_assoc, first, first, second, List.append_assoc]

/-- A character that is no backslash is settled. -/
theorem settled_char {value : Char} (plain : value ≠ escapeMark) : Settled [value] := by
  intro rest
  have next : Mark.escapesNext ⟨value, false⟩ = false := by simp [Mark.escapesNext, plain]
  simp only [marks, List.singleton_append, marksFrom, next]

/-- A backslash pair is settled. -/
theorem settled_pair (value : Char) : Settled [escapeMark, value] := by
  intro rest
  simp [marks, marksFrom, Mark.escapesNext]

/-- A text without backslashes is settled. -/
theorem settled_of_plain {text : List Char} (plain : ∀ value ∈ text, value ≠ escapeMark) :
    Settled text := by
  induction text with
  | nil => exact settled_nil
  | cons head rest hypothesis =>
    exact (settled_char (plain head (List.mem_cons_self ..))).append
      (hypothesis fun value member => plain value (List.mem_cons_of_mem _ member))

/-- The mark of a character at the start. -/
theorem marks_cons {value : Char} (plain : value ≠ escapeMark) (rest : List Char) :
    marks (value :: rest) = ⟨value, false⟩ :: marks rest :=
  settled_char plain rest

/-- The marks of a backslash pair at the start. -/
theorem marks_pair (value : Char) (rest : List Char) :
    marks (escapeMark :: value :: rest) = ⟨escapeMark, false⟩ :: ⟨value, true⟩ :: marks rest :=
  settled_pair value rest

/-- Marking adds and removes no character. -/
theorem marks_length (text : List Char) : (marks text).length = text.length := by
  rw [← List.length_map Mark.char, marks, marksFrom_chars]

/-- The marks of a text stand on its characters. -/
theorem chars_marks (text : List Char) : chars (marks text) = text := marksFrom_chars false text

/-! ## Escaped texts -/

/-- The form in which one character is written. -/
def escapedChar (specials : List Char) (value : Char) : List Char := escape specials [value]

/-- A special character is written as a backslash pair. -/
theorem escapedChar_special {specials : List Char} {value : Char}
    (special : value = escapeMark ∨ value ∈ specials) :
    escapedChar specials value = [escapeMark, value] := by
  simp [escapedChar, escape, special]

/-- Any other character stands for itself. -/
theorem escapedChar_plain {specials : List Char} {value : Char}
    (plain : ¬ (value = escapeMark ∨ value ∈ specials)) :
    escapedChar specials value = [value] := by
  simp [escapedChar, escape, plain]

/-- A text is escaped character by character. -/
theorem escape_cons (specials : List Char) (head : Char) (rest : List Char) :
    escape specials (head :: rest) = escapedChar specials head ++ escape specials rest := by
  by_cases special : head = escapeMark ∨ head ∈ specials <;>
    simp [escapedChar, escape, special]

/-- The marks of a special character at the start of an escaped text. -/
theorem marks_escape_special {specials : List Char} {head : Char}
    (special : head = escapeMark ∨ head ∈ specials) (rest : List Char) :
    marks (escape specials (head :: rest)) =
      ⟨escapeMark, false⟩ :: ⟨head, true⟩ :: marks (escape specials rest) := by
  rw [escape_cons, escapedChar_special special]
  exact marks_pair head _

/-- The mark of any other character at the start of an escaped text. -/
theorem marks_escape_plain {specials : List Char} {head : Char}
    (plain : ¬ (head = escapeMark ∨ head ∈ specials)) (rest : List Char) :
    marks (escape specials (head :: rest)) = ⟨head, false⟩ :: marks (escape specials rest) := by
  rw [escape_cons, escapedChar_plain plain]
  exact marks_cons (fun same => plain (Or.inl same)) _

/-- An escaped text is settled. -/
theorem settled_escape (specials text : List Char) : Settled (escape specials text) := by
  induction text with
  | nil => exact settled_nil
  | cons head rest hypothesis =>
    rw [escape_cons]
    refine Settled.append ?_ hypothesis
    by_cases special : head = escapeMark ∨ head ∈ specials
    · rw [escapedChar_special special]
      exact settled_pair head
    · rw [escapedChar_plain special]
      exact settled_char fun same => special (Or.inl same)

/-- Only the empty text is written as nothing. -/
theorem escape_ne_nil (specials : List Char) {text : List Char} (nonempty : text ≠ []) :
    escape specials text ≠ [] := by
  obtain ⟨head, rest, rfl⟩ := List.exists_cons_of_ne_nil nonempty
  unfold escape
  split <;> simp

/-- Only the empty string is written as nothing. -/
theorem isEmpty_escape_iff (specials : List Char) (value : String) :
    (escape specials value.toList).isEmpty = true ↔ value = "" := by
  rw [List.isEmpty_iff]
  constructor
  · intro nothing
    by_cases empty : value.toList = []
    · exact String.toList_eq_nil_iff.1 empty
    · exact absurd nothing (escape_ne_nil specials empty)
  · rintro rfl
    rfl

/-- The backslash is no blank. -/
theorem isBlank_escapeMark : isBlank escapeMark = false := by decide

/-- A blank is no backslash. -/
theorem ne_escapeMark_of_isBlank {value : Char} (blank : isBlank value = true) :
    value ≠ escapeMark := by
  rintro rfl
  rw [isBlank_escapeMark] at blank
  cases blank

/-- A run of blanks is settled. -/
theorem settled_blanks {run : List Char} (blank : ∀ value ∈ run, isBlank value = true) :
    Settled run :=
  settled_of_plain fun value member => ne_escapeMark_of_isBlank (blank value member)

/-- What is written for a text starts with a character that is no blank when all blanks are
special. -/
theorem isBlank_head_escape {specials : List Char}
    (blanksSpecial : ∀ value, isBlank value = true → value ∈ specials) (text : List Char) :
    ∀ first ∈ (escape specials text).head?, isBlank first = false := by
  intro first starts
  cases text with
  | nil => simp [escape] at starts
  | cons head rest =>
    rw [escape_cons] at starts
    by_cases special : head = escapeMark ∨ head ∈ specials
    · rw [escapedChar_special special] at starts
      obtain rfl : escapeMark = first := by simpa using starts
      exact isBlank_escapeMark
    · rw [escapedChar_plain special] at starts
      obtain rfl : head = first := by simpa using starts
      exact Bool.eq_false_iff.2 fun blank => special (Or.inr (blanksSpecial _ blank))

/-! ## Trimming -/

/-- A text that does not end in an unescaped blank. -/
def Firm (text : List Char) : Prop := ∀ mark ∈ (marks text).getLast?, mark.isLooseBlank = false

/-- A text is firm when its last part is. -/
theorem Firm.append {front back : List Char} (settled : Settled front) (nonempty : back ≠ [])
    (firm : Firm back) : Firm (front ++ back) := by
  have marked : marks back ≠ [] := by
    intro none
    rw [← chars_marks back, none] at nonempty
    exact nonempty rfl
  intro mark last
  rw [settled, List.getLast?_append, List.getLast?_eq_some_getLast marked, Option.some_or] at last
  exact firm mark (by rw [List.getLast?_eq_some_getLast marked]; exact last)

/-- A text without blanks is firm. -/
theorem firm_of_visible {text : List Char} (visible : ∀ value ∈ text, isBlank value = false) :
    Firm text := by
  intro mark last
  have member : mark.char ∈ chars (marks text) := List.mem_map_of_mem (List.mem_of_getLast? last)
  rw [chars_marks] at member
  simp [Mark.isLooseBlank, visible mark.char member]

/-- A character that is no blank is firm. -/
theorem firm_char {value : Char} (visible : isBlank value = false) : Firm [value] :=
  firm_of_visible fun _ member => List.mem_singleton.1 member ▸ visible

/-- What is unescaped in an escaped text is a backslash or not special. -/
theorem plain_of_mem_marks_escape {specials text : List Char} {mark : Mark}
    (member : mark ∈ marks (escape specials text)) (unescaped : mark.escaped = false) :
    mark.char = escapeMark ∨ mark.char ∉ specials := by
  induction text with
  | nil => cases member
  | cons head rest hypothesis =>
    by_cases special : head = escapeMark ∨ head ∈ specials
    · rw [marks_escape_special special, List.mem_cons, List.mem_cons] at member
      rcases member with rfl | rfl | later
      · exact Or.inl rfl
      · cases unescaped
      · exact hypothesis later
    · rw [marks_escape_plain special, List.mem_cons] at member
      rcases member with rfl | later
      · exact Or.inr fun inside => special (Or.inr inside)
      · exact hypothesis later

/-- The unescaped blanks of an escaped text are blanks of the text that are not special. -/
theorem isLooseBlank_of_mem_marks_escape {specials text : List Char} {mark : Mark}
    (member : mark ∈ marks (escape specials text)) (loose : mark.isLooseBlank = true) :
    isBlank mark.char = true ∧ mark.char ∉ specials := by
  obtain ⟨blank, unescaped⟩ := Bool.and_eq_true _ _ ▸ loose
  have plain := plain_of_mem_marks_escape member (by simpa using unescaped)
  exact ⟨blank, plain.resolve_left (ne_escapeMark_of_isBlank blank)⟩

/-- An escaped text is firm when all blanks are special. -/
theorem firm_escape {specials : List Char}
    (blanksSpecial : ∀ value, isBlank value = true → value ∈ specials) (text : List Char) :
    Firm (escape specials text) := by
  intro mark last
  refine Bool.eq_false_iff.2 fun loose => ?_
  obtain ⟨blank, plain⟩ := isLooseBlank_of_mem_marks_escape (List.mem_of_getLast? last) loose
  exact plain (blanksSpecial _ blank)

/-- The end of a list stays when its last member fails the test. -/
theorem dropTrailing_of_getLast? {Item : Type} {test : Item → Bool} {values : List Item}
    (kept : ∀ last ∈ values.getLast?, test last = false) : dropTrailing test values = values := by
  induction values with
  | nil => rfl
  | cons head rest hypothesis =>
    unfold dropTrailing
    cases rest with
    | nil => simp [dropTrailing, kept head rfl]
    | cons next others =>
      have inner := hypothesis (by simpa [List.getLast?_cons_cons] using kept)
      simp [inner]

/-- A member is removed from the end when it passes the test and all after it are removed. -/
theorem dropTrailing_cons {Item : Type} (test : Item → Bool) (head : Item) (rest : List Item) :
    dropTrailing test (head :: rest) =
      if dropTrailing test rest = [] ∧ test head = true then []
      else head :: dropTrailing test rest := by
  rw [dropTrailing]
  cases kept : dropTrailing test rest <;> simp

/-- A text that starts with no blank and is firm is not changed by trimming. -/
theorem trimMarks_marks_of_firm {text : List Char}
    (visible : ∀ first ∈ text.head?, isBlank first = false) (firm : Firm text) :
    trimMarks (marks text) = marks text := by
  rw [trimMarks, dropTrailing_of_getLast? firm]
  cases text with
  | nil => rfl
  | cons head rest =>
    have stays := visible head rfl
    simp [marks, marksFrom, stays]

/-- Such a text is searched as it stands. -/
theorem cellsOf_of_firm {text : List Char}
    (visible : ∀ first ∈ text.head?, isBlank first = false) (firm : Firm text) :
    cellsOf text = link (marks text) := by
  rw [cellsOf, trimMarks_marks_of_firm visible firm]

/-- A run at the end whose members pass the test is removed. -/
theorem dropTrailing_append_of_all {Item : Type} {test : Item → Bool} (values : List Item)
    {run : List Item} (all : ∀ value ∈ run, test value = true) :
    dropTrailing test (values ++ run) = dropTrailing test values := by
  induction values with
  | nil =>
    rw [List.nil_append]
    induction run with
    | nil => rfl
    | cons head rest hypothesis =>
      have gone := hypothesis fun value member => all value (List.mem_cons_of_mem _ member)
      rw [dropTrailing_cons, if_pos ⟨gone, all head (List.mem_cons_self ..)⟩, dropTrailing]
  | cons head rest hypothesis =>
    rw [List.cons_append, dropTrailing_cons, dropTrailing_cons, hypothesis]

/-- Blanks are marked as unescaped ones. -/
theorem isLooseBlank_of_mem_marks {run : List Char} (blank : ∀ value ∈ run, isBlank value = true)
    {mark : Mark} (member : mark ∈ marks run) : mark.isLooseBlank = true := by
  induction run with
  | nil => cases member
  | cons head rest hypothesis =>
    have headBlank := blank head (List.mem_cons_self ..)
    rw [marks_cons (ne_escapeMark_of_isBlank headBlank), List.mem_cons] at member
    rcases member with rfl | later
    · rw [Mark.isLooseBlank, headBlank]
      rfl
    · exact hypothesis (fun value inside => blank value (List.mem_cons_of_mem _ inside)) later

/-- Blanks behind a settled text do not matter to a search. -/
theorem cellsOf_append_blanks {text run : List Char} (settled : Settled text)
    (blank : ∀ value ∈ run, isBlank value = true) : cellsOf (text ++ run) = cellsOf text := by
  have loose : ∀ mark ∈ marks run, mark.isLooseBlank = true :=
    fun _ => isLooseBlank_of_mem_marks blank
  rw [cellsOf, cellsOf, trimMarks, trimMarks, settled, dropTrailing_append_of_all _ loose]

/-- Blanks around a text that is settled and firm do not matter to a search. -/
theorem cellsOf_blanks_around {leading text trailing : List Char}
    (blankLeading : ∀ value ∈ leading, isBlank value = true)
    (blankTrailing : ∀ value ∈ trailing, isBlank value = true) (nonempty : text ≠ [])
    (settled : Settled text) (firm : Firm text) :
    cellsOf (leading ++ (text ++ trailing)) = cellsOf text := by
  have leadingSettled : Settled leading := settled_blanks blankLeading
  have firmBoth : Firm (leading ++ text) := Firm.append leadingSettled nonempty firm
  have kept : dropTrailing Mark.isLooseBlank (marks (leading ++ (text ++ trailing))) =
      marks leading ++ marks text := by
    rw [← List.append_assoc, leadingSettled.append settled,
      dropTrailing_append_of_all _ fun _ => isLooseBlank_of_mem_marks blankTrailing,
      dropTrailing_of_getLast? firmBoth, leadingSettled]
  have skipped : ∀ mark ∈ marks leading, isBlank mark.char = true := by
    intro mark member
    have loose := isLooseBlank_of_mem_marks blankLeading member
    exact (Bool.and_eq_true _ _ ▸ loose).1
  rw [cellsOf, cellsOf, trimMarks, trimMarks, kept, List.dropWhile_append_of_pos skipped,
    dropTrailing_of_getLast? firm]

/-- Removes the blanks at both ends of a text. -/
def trimBlanks (text : List Char) : List Char := (dropTrailing isBlank text).dropWhile isBlank

/-- Whether a text neither starts nor ends with a blank. -/
def hasVisibleEnds (text : List Char) : Bool :=
  text.head?.all (!isBlank ·) && text.getLast?.all (!isBlank ·)

/-- Trimming does not depend on the blanks at the start. -/
theorem trimBlanks_dropWhile (text : List Char) :
    trimBlanks (text.dropWhile isBlank) = trimBlanks text := by
  induction text with
  | nil => rfl
  | cons head rest hypothesis =>
    by_cases blank : isBlank head = true
    · rw [List.dropWhile_cons_of_pos blank, hypothesis, trimBlanks, trimBlanks, dropTrailing_cons]
      by_cases none : dropTrailing isBlank rest = []
      · rw [if_pos ⟨none, blank⟩, none]
      · rw [if_neg fun both => none both.1, List.dropWhile_cons_of_pos blank]
    · rw [List.dropWhile_cons_of_neg blank]

/-- What is left of a list does not end in a member that passes the test. -/
theorem getLast?_dropTrailing {Item : Type} (test : Item → Bool) (values : List Item) :
    ∀ last ∈ (dropTrailing test values).getLast?, test last = false := by
  induction values with
  | nil => simp [dropTrailing]
  | cons head rest hypothesis =>
    rw [dropTrailing_cons]
    split
    · simp
    · rename_i stays
      intro last member
      cases kept : dropTrailing test rest with
      | nil =>
        rw [kept] at member
        obtain rfl : head = last := by simpa using member
        exact Bool.eq_false_iff.2 fun passes => stays ⟨kept, passes⟩
      | cons next others =>
        rw [kept, List.getLast?_cons_cons, ← kept] at member
        exact hypothesis last member

/-- A text without its blanks at both ends has visible ends. -/
theorem hasVisibleEnds_trimBlanks (text : List Char) : hasVisibleEnds (trimBlanks text) = true := by
  have starts : (trimBlanks text).head?.all (!isBlank ·) = true := by
    have stop := List.head?_dropWhile_not isBlank (dropTrailing isBlank text)
    rw [trimBlanks]
    cases first : ((dropTrailing isBlank text).dropWhile isBlank).head? with
    | none => rfl
    | some head => simpa [first] using stop
  have stops : (trimBlanks text).getLast?.all (!isBlank ·) = true := by
    cases last : (trimBlanks text).getLast? with
    | none => rfl
    | some final =>
      obtain ⟨front, split⟩ := (List.dropWhile_suffix isBlank (l := dropTrailing isBlank text))
      have member : final ∈ (dropTrailing isBlank text).getLast? := by
        rw [← split, List.getLast?_append, ← trimBlanks, last]
        rfl
      simp [getLast?_dropTrailing isBlank text final member]
  rw [hasVisibleEnds, starts, stops]
  rfl

/-- A text with visible ends is not changed by trimming. -/
theorem trimBlanks_of_hasVisibleEnds {text : List Char} (visible : hasVisibleEnds text = true) :
    trimBlanks text = text := by
  obtain ⟨starts, stops⟩ := Bool.and_eq_true _ _ ▸ visible
  rw [trimBlanks, dropTrailing_of_getLast? fun last member => by
    rw [Option.mem_def.1 member] at stops
    simpa using stops]
  cases text with
  | nil => rfl
  | cons head rest => rw [List.dropWhile_cons_of_neg (by simpa using starts)]

/-- Only the empty text is marked as nothing. -/
theorem marks_escape_eq_nil_iff (specials text : List Char) :
    marks (escape specials text) = [] ↔ text = [] := by
  constructor
  · intro none
    rw [← unescape_escape specials text, ← chars_marks (escape specials text), none]
    rfl
  · rintro rfl
    rfl

/-- Where no blank is special, the unescaped blanks at the end are those of the text. -/
theorem dropTrailing_marks_escape {specials : List Char}
    (bare : ∀ special ∈ specials, isBlank special = false) (text : List Char) :
    dropTrailing Mark.isLooseBlank (marks (escape specials text)) =
      marks (escape specials (dropTrailing isBlank text)) := by
  induction text with
  | nil => rfl
  | cons head rest hypothesis =>
    by_cases special : head = escapeMark ∨ head ∈ specials
    · have visible : isBlank head = false :=
        special.elim (fun same => same ▸ isBlank_escapeMark) (bare head)
      rw [marks_escape_special special, dropTrailing_cons, dropTrailing_cons, dropTrailing_cons,
        hypothesis]
      simp [Mark.isLooseBlank, isBlank_escapeMark, visible, marks_escape_special special]
    · have same : (marks (escape specials (dropTrailing isBlank rest)) = [] ∧
          Mark.isLooseBlank ⟨head, false⟩ = true) ↔
          (dropTrailing isBlank rest = [] ∧ isBlank head = true) := by
        simp [marks_escape_eq_nil_iff, Mark.isLooseBlank]
      rw [marks_escape_plain special, dropTrailing_cons, dropTrailing_cons, hypothesis]
      by_cases removed : dropTrailing isBlank rest = [] ∧ isBlank head = true
      · rw [if_pos removed, if_pos (same.2 removed)]
        rfl
      · rw [if_neg removed, if_neg (mt same.1 removed), marks_escape_plain special]

/-- Where no blank is special, the blanks at the start are those of the text. -/
theorem dropWhile_marks_escape {specials : List Char}
    (bare : ∀ special ∈ specials, isBlank special = false) (text : List Char) :
    (marks (escape specials text)).dropWhile (isBlank ·.char) =
      marks (escape specials (text.dropWhile isBlank)) := by
  induction text with
  | nil => rfl
  | cons head rest hypothesis =>
    by_cases special : head = escapeMark ∨ head ∈ specials
    · have visible : isBlank head = false :=
        special.elim (fun same => same ▸ isBlank_escapeMark) (bare head)
      rw [List.dropWhile_cons_of_neg (by simp [visible]), marks_escape_special special,
        List.dropWhile_cons_of_neg (by simp [isBlank_escapeMark])]
    · rw [marks_escape_plain special]
      by_cases blank : isBlank head = true
      · rw [List.dropWhile_cons_of_pos (by exact blank), List.dropWhile_cons_of_pos blank,
          hypothesis]
      · rw [List.dropWhile_cons_of_neg (by exact blank), List.dropWhile_cons_of_neg blank,
          marks_escape_plain special]

/-- Where no blank is special, an escaped text is trimmed like the text. -/
theorem trimMarks_marks_escape {specials : List Char}
    (bare : ∀ special ∈ specials, isBlank special = false) (text : List Char) :
    trimMarks (marks (escape specials text)) = marks (escape specials (trimBlanks text)) := by
  rw [trimMarks, dropTrailing_marks_escape bare, dropWhile_marks_escape bare, trimBlanks]

/-- Before a firm text that starts with no blank, an escaped text in which no blank is special
loses the blanks at its start. -/
theorem trimMarks_marks_escape_append {specials : List Char}
    (bare : ∀ special ∈ specials, isBlank special = false) (text : List Char) {tail : List Char}
    (nonempty : tail ≠ []) (visible : ∀ first ∈ tail.head?, isBlank first = false)
    (firm : Firm tail) :
    trimMarks (marks (escape specials text ++ tail)) =
      marks (escape specials (text.dropWhile isBlank) ++ tail) := by
  have kept := Firm.append (settled_escape specials text) nonempty firm
  have start : (marks tail).dropWhile (isBlank ·.char) = marks tail := by
    have unchanged := trimMarks_marks_of_firm visible firm
    rwa [trimMarks, dropTrailing_of_getLast? firm] at unchanged
  rw [trimMarks, dropTrailing_of_getLast? kept, settled_escape specials text,
    settled_escape specials (text.dropWhile isBlank), List.dropWhile_append,
    dropWhile_marks_escape bare]
  cases left : marks (escape specials (text.dropWhile isBlank)) with
  | nil => simpa using start
  | cons mark marks => simp

end NodeQuery.Text
