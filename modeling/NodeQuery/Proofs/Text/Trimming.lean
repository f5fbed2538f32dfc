import NodeQuery.Proofs.Selector.Ending
import NodeQuery.Proofs.Text.Slicing

/-!
# What a scan keeps

A text is marked before it is trimmed, so its marks tell of backslashes that trimming could have
taken away, and a part of a scan carries marks of the whole text. Neither makes a difference: no
backslash is a blank, so the backslashes in front of a character that is kept are kept with it, and
a part that starts at an unescaped character is marked like a text of its own.

A part may be trimmed in two ways: as a list, first at its end and then at its start, or between
positions, from the first key of the part and back from its end. `trimmedSlice_eq` says that these
are the same, also where nothing but blanks is left.

Main statement: `Scan.keeps_ofText`.
-/

namespace NodeQuery.Text

/-! ## Marks and backslashes -/

/-- A character is marked as escaped exactly if an odd run of backslashes stands before it. -/
theorem Marked.escaped_eq_of_split {front back : List Mark} {mark : Mark}
    (marked : Marked false (front ++ mark :: back)) :
    mark.escaped = Simple.endsInEscape (chars front) :=
  (marked_cons_iff.1 marked.behind).1

/-- The same at a position. -/
theorem Marked.escaped_eq {values : List Mark} (marked : Marked false values) {position : Nat}
    {mark : Mark} (place : values[position]? = some mark) :
    mark.escaped = Simple.endsInEscape (chars (values.take position)) := by
  obtain ⟨inside, rfl⟩ := List.getElem?_eq_some_iff.1 place
  rw [← List.take_append_drop position values, List.drop_eq_getElem_cons inside] at marked
  exact marked.escaped_eq_of_split

/-! ## Trimmed texts -/

/-- A text falls into the blanks at its start, what is kept of it, and the longest run of unescaped
blanks at its end. -/
structure Trims (text leading kept trailing : List Char) : Prop where
  /-- Nothing else is lost. -/
  whole : text = leading ++ (kept ++ trailing)
  /-- Blanks stand before what is kept. -/
  before : ∀ value ∈ leading, isBlank value = true
  /-- All of them are left out. -/
  starts : ∀ value ∈ kept.head?, isBlank value = false
  /-- Unescaped blanks stand behind what is kept. -/
  behind : ∀ front value back, trailing = front ++ value :: back →
    isBlank value = true ∧ Simple.endsInEscape (leading ++ (kept ++ front)) = false
  /-- All of them are left out: a blank at the end of what is kept is escaped. -/
  stops : ∀ front value, kept = front ++ [value] → isBlank value = true →
    Simple.endsInEscape (leading ++ front) = true

/-- What is left of marks behind their blanks, and before the unescaped blanks at their end. -/
theorem exists_trims (text : List Char) :
    ∃ leading trailing, Trims text leading (chars (trimMarks (marks text))) trailing := by
  obtain ⟨run, split, loose⟩ := dropTrailing_append_run Mark.isLooseBlank (marks text)
  have parts := List.takeWhile_append_dropWhile (p := fun mark : Mark => isBlank mark.char)
    (l := dropTrailing Mark.isLooseBlank (marks text))
  rw [← trimMarks] at parts
  generalize blanks : (dropTrailing Mark.isLooseBlank (marks text)).takeWhile (isBlank ·.char) =
    before at parts
  have marked := marked_marks text
  have visible := isBlank_head_trimMarks text
  have firm := isLooseBlank_getLast?_trimMarks text
  generalize trimMarks (marks text) = kept at parts visible firm
  rw [split, ← parts, List.append_assoc] at marked
  refine ⟨chars before, chars run, ?_, ?_, ?_, ?_, ?_⟩
  · rw [← chars_append, ← chars_append, ← List.append_assoc, parts, ← split, chars_marks]
  · rw [← blanks]
    exact fun value => isBlank_of_mem_takeWhile
  · intro value first
    obtain ⟨mark, head, rfl⟩ := Option.map_eq_some_iff.1 (List.head?_map.symm.trans first)
    exact visible mark head
  · intro front value back order
    obtain ⟨frontMarks, others, rfl, rfl, tail⟩ := List.map_eq_append_iff.1 order
    obtain ⟨mark, backMarks, rfl, rfl, rfl⟩ := List.map_eq_cons_iff.1 tail
    obtain ⟨blank, unescaped⟩ := Bool.and_eq_true _ _ ▸ loose mark (by simp)
    refine ⟨blank, ?_⟩
    rw [← List.append_assoc, ← List.append_assoc] at marked
    have same := marked.escaped_eq_of_split
    rw [chars_append, chars_append, List.append_assoc] at same
    exact same.symm.trans (by simpa using unescaped)
  · intro front value order blank
    obtain ⟨frontMarks, others, rfl, rfl, tail⟩ := List.map_eq_append_iff.1 order
    obtain ⟨mark, rfl, rfl⟩ := List.map_eq_singleton_iff.1 tail
    have whole := marked
    rw [← List.append_assoc, ← List.append_assoc, List.append_assoc _ [mark]] at whole
    have same := whole.escaped_eq_of_split
    have shown := firm mark (by simp)
    rw [Mark.isLooseBlank, blank, Bool.true_and, Bool.not_eq_false'] at shown
    rw [chars_append, shown] at same
    exact same.symm

/-- Trimming once is enough. -/
theorem trimMarks_idem (text : List Char) :
    trimMarks (marks (chars (trimMarks (marks text)))) = trimMarks (marks text) := by
  have own : marks (chars (trimMarks (marks text))) = trimMarks (marks text) :=
    marked_trimMarks text
  have firm : Firm (chars (trimMarks (marks text))) := by
    rw [Firm, own]
    exact isLooseBlank_getLast?_trimMarks text
  refine (trimMarks_marks_of_firm ?_ firm).trans own
  intro value first
  obtain ⟨mark, head, rfl⟩ := Option.map_eq_some_iff.1 (List.head?_map.symm.trans first)
  exact isBlank_head_trimMarks text mark head

/-- The end of a list may be trimmed before or behind the blanks at its start. -/
theorem trimMarks_eq_dropTrailing_dropWhile (values : List Mark) :
    trimMarks values = dropTrailing Mark.isLooseBlank (values.dropWhile (isBlank ·.char)) := by
  rw [trimMarks]
  induction values with
  | nil => rfl
  | cons mark rest hypothesis =>
    rw [dropTrailing_cons]
    by_cases blank : isBlank mark.char = true
    · rw [List.dropWhile_cons_of_pos (by exact blank), ← hypothesis]
      split
      · rename_i gone
        rw [gone.1]
      · rw [List.dropWhile_cons_of_pos (by exact blank)]
    · have firm : mark.isLooseBlank = false := by
        rw [Mark.isLooseBlank, Bool.eq_false_iff.2 blank, Bool.false_and]
      rw [List.dropWhile_cons_of_neg (by exact blank), dropTrailing_cons, firm,
        if_neg (by simp), List.dropWhile_cons_of_neg (by exact blank)]

namespace Scan

/-- The characters that a scan keeps of its text. -/
def kept (scan : Scan) : List Char := scan.slice 0 scan.length

/-- A scan keeps what is left of its text by trimming. -/
theorem kept_ofText (text : List Char) : (ofText text).kept = chars (trimMarks (marks text)) := by
  rw [kept, slice, range, length, List.take_length, List.drop_zero, ofText, cellsOf, cellChars_link]

/-! ## Trimming between positions -/

/-- Whether an unescaped blank stands at a position. -/
def isLooseBlank (scan : Scan) (position : Nat) : Bool :=
  scan.cells[position]?.any (·.toMark.isLooseBlank)

/-- The end of what is left when the unescaped blanks before a position are left out, down to the
position `first`. -/
def retreat (scan : Scan) (first : Nat) : Nat → Nat
  | 0 => 0
  | last + 1 =>
    if first < last + 1 ∧ scan.isLooseBlank last = true then scan.retreat first last else last + 1

/-- The characters between positions from the first key on, less the unescaped blanks before the
end. -/
def sliceFromKey (scan : Scan) (start stop : Nat) : List Char :=
  match (scan.nextKey? start).filter (· < min stop scan.length) with
  | none => []
  | some first => scan.slice first (scan.retreat first (min stop scan.length))

/-- What is left by going back from the end is what is left of the list. -/
theorem slice_retreat (scan : Scan) (first : Nat) {last : Nat} (fits : last ≤ scan.length) :
    scan.slice first (scan.retreat first last) =
      chars (dropTrailing Mark.isLooseBlank ((scan.range first last).map Cell.toMark)) := by
  induction last with
  | zero => simp [retreat, slice, range, cellChars, dropTrailing, chars]
  | succ last hypothesis =>
    have inside : last < scan.cells.length := fits
    by_cases early : first < last + 1
    · have longer : scan.range first (last + 1) =
          scan.range first last ++ [scan.cells[last]] := by
        rw [range, List.take_succ_eq_append_getElem inside,
          List.drop_append_of_le_length (by rw [List.length_take]; omega)]
        rfl
      have here : scan.isLooseBlank last = scan.cells[last].toMark.isLooseBlank := by
        rw [isLooseBlank, List.getElem?_eq_getElem inside, Option.any_some]
      rw [retreat, longer, List.map_append, List.map_singleton]
      cases loose : scan.isLooseBlank last with
      | true =>
        rw [if_pos ⟨early, rfl⟩, hypothesis (by omega),
          dropTrailing_append_of_all _ (by simpa [here] using loose)]
      | false =>
        rw [if_neg (by simp), dropTrailing_of_getLast? (by simpa [here] using loose), slice, longer,
          cellChars, chars, List.map_append, List.map_append, List.map_map]
        rfl
    · have nothing : scan.range first (last + 1) = [] := by
        rw [range, List.drop_eq_nil_of_le (by rw [List.length_take]; omega)]
      rw [retreat, if_neg (by omega), slice, nothing]
      rfl

/-- The first key of a part, unless there is none before its end. -/
theorem nextKey?_filter (scan : Scan) (start stop : Nat) :
    (scan.nextKey? start).filter (· < stop) =
      ((scan.range start stop).findIdx? (!isBlank ·.char)).map (· + start) := by
  rw [nextKey?, range, List.drop_take, List.findIdx?_take, Option.bind_guard, Option.filter_map]
  congr 2
  funext offset
  exact decide_eq_decide.2 (by dsimp only; omega)

/-- Trimming a part between positions is trimming it as a list. -/
theorem trimmedSlice_eq (scan : Scan) (start stop : Nat) :
    scan.trimmedSlice start stop = scan.sliceFromKey start stop := by
  have clamped : scan.range start stop = scan.range start (min stop scan.length) := by
    rw [range, range, length, List.take_eq_take_min]
  have fits : min stop scan.length ≤ scan.length := Nat.min_le_right _ _
  rw [trimmedSlice, trimmedChars, trimMarks_eq_dropTrailing_dropWhile, sliceFromKey, clamped]
  generalize min stop scan.length = stop at fits
  rw [nextKey?_filter]
  cases key : (scan.range start stop).findIdx? (!isBlank ·.char) with
  | none =>
    have blank : (scan.range start stop).dropWhile (isBlank ·.char) = [] := by
      rw [List.dropWhile_eq_drop_findIdx_not, List.findIdx?_eq_none_iff_findIdx_eq.1 key,
        List.drop_length]
    rw [List.dropWhile_map]
    change chars (dropTrailing _ (((scan.range start stop).dropWhile (isBlank ·.char)).map _)) = []
    rw [blank]
    rfl
  | some offset =>
    have first : (scan.range start stop).findIdx (!isBlank ·.char) = offset :=
      (List.findIdx?_eq_some_iff_findIdx_eq.1 key).2
    have rest : (scan.range start stop).dropWhile (isBlank ·.char) =
        scan.range (offset + start) stop := by
      rw [List.dropWhile_eq_drop_findIdx_not, first, range, range, List.drop_drop, Nat.add_comm]
    rw [List.dropWhile_map]
    change chars (dropTrailing _ (((scan.range start stop).dropWhile (isBlank ·.char)).map _)) = _
    rw [rest, Option.map_some]
    exact (scan.slice_retreat _ fits).symm

/-! ## What is kept -/

/-- The marks of a part from an unescaped position on are those of a text of its own. -/
theorem marked_part {values : List Mark} (marked : Marked false values) {start : Nat}
    (plain : values[start]?.any Mark.escaped = false) (stop : Nat) :
    Marked false ((values.take stop).drop start) := by
  by_cases inside : start < values.length
  · rw [List.getElem?_eq_getElem inside, Option.any_some] at plain
    rw [← List.take_append_drop start values, List.drop_eq_getElem_cons inside] at marked
    have own := marked.right plain
    rw [← List.drop_eq_getElem_cons inside,
      ← List.take_append_drop (stop - start) (values.drop start)] at own
    rw [List.drop_take]
    exact own.left
  · rw [List.drop_eq_nil_of_le (by rw [List.length_take]; omega)]
    rfl

/-- A scan keeps its text without the blanks at its start and without the longest run of unescaped
blanks at its end. A character that is kept is escaped exactly if an odd run of backslashes stands
before it in what is kept, and a scan of what is kept is the same scan. A part is trimmed as its
positions tell, and a part that starts at an unescaped position is trimmed like a text of its
own. -/
theorem keeps_ofText (text : List Char) :
    let scan := ofText text
    (∃ leading trailing, Trims text leading scan.kept trailing) ∧
      (∀ position < scan.length,
        scan.isEscaped position = Simple.endsInEscape (scan.kept.take position)) ∧
      ofText scan.kept = scan ∧
      (∀ start stop, scan.trimmedSlice start stop = scan.sliceFromKey start stop) ∧
      ∀ start stop, scan.isEscaped start = false →
        scan.trimmedSlice start stop = (ofText (scan.slice start stop)).kept := by
  intro scan
  have kept : scan.kept = chars (trimMarks (marks text)) := kept_ofText text
  have marked := marked_trimMarks text
  have shape : scan = ⟨link (trimMarks (marks text))⟩ := rfl
  refine ⟨kept ▸ exists_trims text, fun position inside => ?_, ?_, scan.trimmedSlice_eq,
    fun start stop plain => ?_⟩
  · rw [shape, length, link_length] at inside
    have place := List.getElem?_eq_getElem inside
    rw [kept, shape, isEscaped_link, place, Option.any_some, marked.escaped_eq place, chars, chars,
      List.map_take]
  · rw [kept, shape, ofText, cellsOf, trimMarks_idem]
  · rw [shape, isEscaped_link] at plain
    have part : (scan.range start stop).map Cell.toMark =
        ((trimMarks (marks text)).take stop).drop start := by
      rw [range, List.map_drop, List.map_take, shape, link_marks]
    have own : marks (scan.slice start stop) = (scan.range start stop).map Cell.toMark := by
      have same : marks (chars ((scan.range start stop).map Cell.toMark)) =
          (scan.range start stop).map Cell.toMark := part ▸ marked_part marked plain stop
      rwa [chars, List.map_map] at same
    rw [trimmedSlice, trimmedChars, kept_ofText, own]

end Scan

end NodeQuery.Text
