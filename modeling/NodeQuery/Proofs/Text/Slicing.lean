import NodeQuery.Proofs.Text.Parts
import NodeQuery.Text.Scan

/-!
# Parts of scanned texts

A reader cuts a text where its search for a separator stops and hands the part to the next
reader, which scans it anew. The new scan trims the part, marks it from its start and matches
its enclosures, so each of these could come out otherwise than in the whole text. None does:
the part starts at an unescaped character, its end is a position that the search came to, and
the blanks trimmed from its end neither open nor close anything.

Main statement: `Scan.answersLike_slice`.
-/

namespace NodeQuery.Text

/-! ## Walks -/

/-- A character hides no more cells than follow it. -/
theorem hidden_headCell_le (mark : Mark) (rest : List Mark) :
    (headCell mark rest).hidden ≤ rest.length := by
  by_cases plain : mark.escaped = true ∨ closerOf? mark.char = none
  · rw [hidden_headCell_of_plain plain]
    exact Nat.zero_le _
  · obtain ⟨unescaped, opens⟩ := not_or.1 plain
    obtain ⟨closer, closes⟩ := Option.ne_none_iff_exists'.1 opens
    rw [hidden_headCell_of_opener (Bool.eq_false_iff.2 unescaped) closes]
    cases found : (if isQuote mark.char then findPlain closer (link rest)
        else findTarget [closer] (link rest)) with
    | none => exact Nat.zero_le _
    | some position =>
      have inside : position < (link rest).length := by
        split at found
        · exact (List.findIdx?_eq_some_iff_getElem.1 found).1
        · obtain ⟨_, cell, others, split, _⟩ := exists_of_findTarget found
          refine Nat.lt_of_not_le fun outside => ?_
          rw [List.drop_eq_nil_of_le outside] at split
          cases split
      rw [link_length] at inside
      exact inside

/-- A walk comes to the end of the text. -/
theorem shown_length (values : List Mark) : Shown values.length (link values) := by
  induction size : values.length using Nat.strongRecOn generalizing values with
  | ind size hypothesis =>
    subst size
    cases values with
    | nil => exact .here _
    | cons mark rest =>
      have bound := hidden_headCell_le mark rest
      have fewer : (rest.drop (headCell mark rest).hidden).length < (mark :: rest).length := by
        rw [List.length_drop, List.length_cons]
        omega
      have later := hypothesis _ fewer (rest.drop (headCell mark rest).hidden) rfl
      rw [← link_drop, List.length_drop] at later
      have whole := @Shown.behind (headCell mark rest) _ _ later
      rw [← Nat.add_assoc, Nat.sub_add_cancel bound] at whole
      exact whole

/-- A search stops at a position that the walk comes to: at a target or at the end. -/
theorem shown_stop (targets : List Char) (values : List Mark) :
    Shown ((findTarget targets (link values)).getD values.length) (link values) := by
  cases found : findTarget targets (link values) with
  | none => exact shown_length values
  | some position => exact (exists_of_findTarget found).1

/-- A walk that comes to two positions goes from the first one to the second. -/
theorem Shown.between {front back : Nat} {cells : List Cell} (first : Shown front cells)
    (second : Shown back cells) (ordered : front ≤ back) :
    Shown (back - front) (cells.drop front) := by
  induction first generalizing back with
  | here cells => exact second
  | @behind cell rest position _ hypothesis =>
    cases second with
    | here => omega
    | @behind _ _ later inside =>
      rw [drop_behind, Nat.add_sub_add_right]
      exact hypothesis inside (by omega)

/-! ## Blanks at the end -/

/-- No closer is a blank. -/
theorem isBlank_of_closerOf? {opener closer : Char} (closes : closerOf? opener = some closer) :
    isBlank closer = false := by
  have all : ∀ pair ∈ enclosures, isBlank pair.2 = false := forall_mem_of_all (by decide)
  obtain ⟨front, back, split, _⟩ := List.lookup_eq_some_iff.1 closes
  exact all (opener, closer) (split ▸ List.mem_append_right _ List.mem_cons_self)

section Blanks

variable {run : List Mark} (blank : ∀ mark ∈ run, isBlank mark.char = true)

include blank

/-- A search without enclosures for a character that is no blank ends before the blanks at the
end. -/
theorem findPlain_link_append_blanks {target : Char} (visible : isBlank target = false)
    (front : List Mark) :
    findPlain target (link (front ++ run)) = findPlain target (link front) := by
  have before := findPlain_link_take target (front ++ run) front.length
  rw [List.take_left] at before
  rw [before]
  cases found : findPlain target (link (front ++ run)) with
  | none => rfl
  | some position =>
    obtain ⟨inside, matched, _⟩ := List.findIdx?_eq_some_iff_getElem.1 found
    have marked : ((link (front ++ run)).map Cell.toMark)[position]? =
        some (link (front ++ run))[position].toMark := by
      rw [List.getElem?_map, List.getElem?_eq_getElem inside]
      rfl
    rw [Bool.and_eq_true, beq_iff_eq] at matched
    rw [link_marks] at marked
    have early : position < front.length := by
      refine Nat.lt_of_not_le fun late => ?_
      rw [List.getElem?_append_right late] at marked
      have skipped := blank _ (List.mem_of_getElem? marked)
      rw [matched.1, visible] at skipped
      cases skipped
    rw [Option.filter_some, if_pos (decide_eq_true early)]

/-- The blanks at the end close no enclosure. -/
theorem reachOf_append_blanks {rest : List Mark}
    (same : ∀ closer, isBlank closer = false →
      findTarget [closer] (link (rest ++ run)) = findTarget [closer] (link rest))
    (opener : Char) : reachOf opener (link (rest ++ run)) = reachOf opener (link rest) := by
  rw [reachOf, reachOf]
  cases closes : closerOf? opener with
  | none => rfl
  | some closer =>
    have visible := isBlank_of_closerOf? closes
    rw [Option.bind_some, Option.bind_some, same closer visible,
      findPlain_link_append_blanks blank visible]

/-- A search for characters that are no blanks ends before the blanks at the end. -/
theorem findTarget_link_append_blanks {targets : List Char}
    (visible : ∀ value ∈ targets, isBlank value = false) (front : List Mark) :
    findTarget targets (link (front ++ run)) = findTarget targets (link front) := by
  -- closers are searched for among fewer marks
  induction size : front.length using Nat.strongRecOn generalizing front targets with
  | ind size hypothesis =>
    subst size
    cases front with
    | nil =>
      refine (findTarget_eq_none_iff _ _).2 fun position cell rest _ split => ?_
      have member : cell.toMark ∈ run := by
        rw [← link_marks run]
        exact List.mem_map_of_mem (List.mem_of_mem_drop (split ▸ List.mem_cons_self))
      have other : cell.char ∉ targets := fun target =>
        absurd (blank _ member) (Bool.eq_false_iff.1 (visible _ target))
      simp [Cell.isTarget, other]
    | cons mark rest =>
      have closers : ∀ closer, isBlank closer = false →
          findTarget [closer] (link (rest ++ run)) = findTarget [closer] (link rest) :=
        fun closer shown => hypothesis rest.length (Nat.lt_succ_self _)
          (fun value member => List.mem_singleton.1 member ▸ shown) rest rfl
      have reach := reachOf_append_blanks blank closers mark.char
      have bound := hidden_headCell_le mark rest
      have fewer : (rest.drop (headCell mark rest).hidden).length < (mark :: rest).length := by
        rw [List.length_drop, List.length_cons]
        omega
      have later := hypothesis _ fewer visible (rest.drop (headCell mark rest).hidden) rfl
      rw [List.cons_append, link_cons, link_cons, reach]
      change findTarget targets (headCell mark rest :: link (rest ++ run)) =
        findTarget targets (headCell mark rest :: link rest)
      rw [findTarget_cons, findTarget_cons, link_drop, link_drop,
        List.drop_append_of_le_length bound, later]

end Blanks

/-! ## Parts of marked texts -/

/-- A text that does not start with a blank loses only unescaped blanks at its end. -/
theorem exists_trimmed_run {values : List Mark}
    (visible : ∀ mark ∈ values.head?, isBlank mark.char = false) :
    ∃ run, values = trimMarks values ++ run ∧ ∀ mark ∈ run, mark.isLooseBlank = true := by
  obtain ⟨run, split, loose⟩ := dropTrailing_append_run Mark.isLooseBlank values
  refine ⟨run, ?_, loose⟩
  rw [trimMarks]
  cases kept : dropTrailing Mark.isLooseBlank values with
  | nil =>
    rw [kept] at split
    exact split
  | cons first others =>
    rw [kept] at split
    have starts : first ∈ values.head? := by
      rw [split]
      rfl
    rw [List.dropWhile_cons_of_neg (by simp [visible first starts])]
    exact split

/-- What an unescaped character reaches is told by what it hides. -/
theorem reachOf_eq_of_hidden {mark : Mark} (unescaped : mark.escaped = false)
    {one other : List Mark} (same : (headCell mark one).hidden = (headCell mark other).hidden) :
    reachOf mark.char (link one) = reachOf mark.char (link other) := by
  have positive : ∀ rest, reachOf mark.char rest ≠ some 0 := by
    intro rest nothing
    obtain ⟨closer, _, found⟩ := Option.bind_eq_some_iff.1 nothing
    obtain ⟨position, _, zero⟩ := Option.map_eq_some_iff.1 found
    cases zero
  simp only [headCell, Cell.hidden, unescaped, Bool.false_eq_true, if_false] at same
  cases first : reachOf mark.char (link one) with
  | none =>
    cases second : reachOf mark.char (link other) with
    | none => rfl
    | some distance =>
      rw [first, second] at same
      exact absurd (second.trans (congrArg some same.symm)) (positive _)
  | some distance =>
    cases second : reachOf mark.char (link other) with
    | none =>
      rw [first, second] at same
      exact absurd (first.trans (congrArg some same)) (positive _)
    | some position =>
      rw [first, second] at same
      exact congrArg some same

/-- The cell at a position of a text. -/
theorem getElem?_link {values : List Mark} {position : Nat} {mark : Mark} {rest : List Mark}
    (place : values.drop position = mark :: rest) :
    (link values)[position]? = some (headCell mark rest) := by
  rw [← List.head?_drop, link_drop, place]
  rfl

section Parts

variable {values kept run : List Mark} {count : Nat} (shown : Shown count (link values))
  (split : values.take count = kept ++ run) (blank : ∀ mark ∈ run, isBlank mark.char = true)

include shown split blank

/-- A search in a part without the blanks at its end finds what it finds there in the whole
text. -/
theorem findTarget_link_part {targets : List Char}
    (visible : ∀ value ∈ targets, isBlank value = false) :
    findTarget targets (link kept) = (findTarget targets (link values)).filter (· < count) := by
  rw [← findTarget_link_append_blanks blank visible, ← split, findTarget_link_take _ _ shown]

/-- An unescaped opener that the walk comes to reaches the same closer in a part. -/
theorem reachOf_part {position : Nat} (reached : Shown position (link values))
    (inside : position < kept.length) {mark : Mark} {rest : List Mark}
    (place : values.drop position = mark :: rest) (unescaped : mark.escaped = false) :
    reachOf mark.char (link (kept.drop (position + 1))) = reachOf mark.char (link rest) := by
  have fits : kept.length ≤ count := by
    have lengths := congrArg List.length split
    rw [List.length_take, List.length_append] at lengths
    omega
  have onwards := reached.between shown (by omega)
  rw [link_drop, place] at onwards
  change Shown (count - position) (headCell mark rest :: link rest) at onwards
  generalize distance : count - position = left at onwards
  cases onwards with
  | here => omega
  | @behind _ _ left inner =>
    have hidden := hidden_headCell_take
      (fun closer _ => findTarget_link_take [closer] rest) inner
    have behind : values.drop (position + 1) = rest := by
      rw [← List.drop_drop, place]
      rfl
    have remaining : rest.take (left + (headCell mark rest).hidden) =
        kept.drop (position + 1) ++ run := by
      rw [← List.drop_append_of_le_length (by omega), ← split, List.drop_take, behind]
      congr 1
      omega
    rw [remaining] at hidden
    rw [← reachOf_eq_of_hidden unescaped hidden]
    exact (reachOf_append_blanks blank
      (fun closer visible => findTarget_link_append_blanks blank
        (fun value member => List.mem_singleton.1 member ▸ visible) _) mark.char).symm

end Parts

/-! ## Scans of parts -/

namespace Scan

/-- A scan shows the characters of its marks. -/
theorem char?_link (values : List Mark) (position : Nat) :
    char? ⟨link values⟩ position = values[position]?.map Mark.char := by
  have marked : ((link values).map Cell.toMark)[position]? = values[position]? := by
    rw [link_marks]
  rw [← marked, List.getElem?_map, Option.map_map]
  rfl

/-- A scan shows which of its marks are escaped. -/
theorem isEscaped_link (values : List Mark) (position : Nat) :
    isEscaped ⟨link values⟩ position = values[position]?.any Mark.escaped := by
  have marked : ((link values).map Cell.toMark)[position]? = values[position]? := by
    rw [link_marks]
  rw [← marked, List.getElem?_map, Option.any_map]
  rfl

/-- A scan searches among the marks from a position on. -/
theorem find?_link (targets : List Char) (values : List Mark) (start : Nat) :
    find? ⟨link values⟩ targets start false =
      (findTarget targets (link (values.drop start))).map (· + start) := by
  rw [find?, link_drop]
  rfl

/-- A slice has the characters of its marks. -/
theorem slice_link (values : List Mark) (start count : Nat) :
    slice ⟨link values⟩ start (start + count) = Text.chars ((values.drop start).take count) := by
  rw [slice, range, List.drop_take, Nat.add_sub_cancel_left, link_drop, cellChars_take_link]

/-- The scan of a part of a text answers like the scan of the whole text. -/
structure AnswersLike (part whole : Scan) (start stop : Nat) : Prop where
  /-- The part holds nothing from behind its end. -/
  fits : start + part.length ≤ stop
  /-- What it leaves out before its end are blanks. -/
  trimmed : ∀ position, start + part.length ≤ position → position < stop →
    ∀ value ∈ whole.char? position, isBlank value = true
  /-- It holds the characters of the whole text. -/
  chars : ∀ position < part.length, part.char? position = whole.char? (start + position)
  /-- They are escaped as in the whole text. -/
  escapes : ∀ position < part.length, part.isEscaped position = whole.isEscaped (start + position)
  /-- An opener that a search from the start comes to has the closer that it has in the whole
  text. -/
  enclosures : ∀ position < part.length, Shown position (whole.cells.drop start) →
    whole.isOpening (start + position) = true →
      (part.closer? position).map (start + ·) = whole.closer? (start + position)
  /-- A search finds what it finds in the whole text before the end of the part, and nothing
  else. -/
  searches : ∀ targets, (∀ value ∈ targets, isBlank value = false) →
    part.find? targets 0 false =
      ((whole.find? targets start false).filter (· < stop)).map (· - start)

/-- The scan of a part whose end the walk from its start comes to, without the blanks at its end,
answers like the scan of the whole text. -/
theorem answersLike_link {values kept run : List Mark} {start count : Nat}
    (shown : Shown count (link (values.drop start)))
    (split : (values.drop start).take count = kept ++ run)
    (blank : ∀ mark ∈ run, isBlank mark.char = true) :
    AnswersLike ⟨link kept⟩ ⟨link values⟩ start (start + count) := by
  have size : length ⟨link kept⟩ = kept.length := link_length kept
  have bound : kept.length ≤ count := by
    have lengths := congrArg List.length split
    rw [List.length_take, List.length_append] at lengths
    omega
  have place : ∀ position, position < count →
      values[start + position]? = (kept ++ run)[position]? := by
    intro position early
    rw [← split, List.getElem?_take_of_lt early, List.getElem?_drop]
  have same : ∀ position < length ⟨link kept⟩, values[start + position]? = kept[position]? := by
    intro position inside
    rw [size] at inside
    rw [place position (by omega), List.getElem?_append_left inside]
  constructor
  · rw [size]
    omega
  · intro position late early value found
    rw [size] at late
    obtain ⟨offset, rfl⟩ := Nat.exists_eq_add_of_le (show start ≤ position by omega)
    rw [char?_link, place offset (by omega), List.getElem?_append_right (by omega)] at found
    obtain ⟨mark, member, rfl⟩ := Option.map_eq_some_iff.1 (Option.mem_def.1 found)
    exact blank mark (List.mem_of_getElem? member)
  · intro position inside
    rw [char?_link, char?_link, same position inside]
  · intro position inside
    rw [isEscaped_link, isEscaped_link, same position inside]
  · intro position inside reached opening
    have present := same position inside
    rw [size] at inside
    rw [link_drop] at reached
    obtain ⟨mark, kinds⟩ : ∃ mark, kept[position]? = some mark :=
      ⟨kept[position], List.getElem?_eq_getElem inside⟩
    rw [kinds] at present
    obtain ⟨room, here⟩ := List.getElem?_eq_some_iff.1 present
    have whole : values.drop (start + position) =
        mark :: values.drop (start + position + 1) := by
      rw [← here, List.drop_eq_getElem_cons room]
    have part : kept.drop position = mark :: kept.drop (position + 1) := by
      obtain ⟨_, own⟩ := List.getElem?_eq_some_iff.1 kinds
      rw [← own, List.drop_eq_getElem_cons inside]
    have unescaped : mark.escaped = false := by
      rw [isOpening, getElem?_link whole, Option.any_some, Bool.and_eq_true] at opening
      cases escaped : mark.escaped with
      | false => rfl
      | true =>
        rw [headCell, escaped] at opening
        cases opening.1
    have behind : (values.drop start).drop position =
        mark :: values.drop (start + position + 1) := by
      rw [List.drop_drop, whole]
    have reach := reachOf_part shown split blank reached inside behind unescaped
    rw [closer?, closer?, getElem?_link whole, getElem?_link part, Option.bind_some,
      Option.bind_some, headCell, headCell, reach, Option.map_map]
    congr 1
    funext distance
    simp only [Function.comp_apply]
    omega
  · intro targets visible
    have search := findTarget_link_part shown split blank visible
    rw [find?_link, find?_link, List.drop_zero, search]
    cases findTarget targets (link (values.drop start)) with
    | none => rfl
    | some position =>
      simp only [Option.filter_some, Option.map_some, decide_eq_true_eq]
      by_cases early : position < count
      · rw [if_pos early, if_pos (by omega)]
        simp
      · rw [if_neg early, if_neg (by omega)]
        rfl

/-- The part of a text from an unescaped character that is no blank up to where a search from
there stops, or up to the end where it finds nothing, has a scan that answers like the scan of
the whole text. -/
theorem answersLike_slice (text targets : List Char) {start : Nat}
    (inside : start < (ofText text).length) (unescaped : (ofText text).isEscaped start = false)
    (visible : ∀ value ∈ (ofText text).char? start, isBlank value = false) :
    let whole := ofText text
    let stop := (whole.find? targets start false).getD whole.length
    AnswersLike (ofText (whole.slice start stop)) whole start stop := by
  intro whole stop
  have marked := marked_trimMarks text
  have cells : whole = ⟨link (trimMarks (marks text))⟩ := rfl
  change start < whole.length at inside
  change whole.isEscaped start = false at unescaped
  change ∀ value ∈ whole.char? start, isBlank value = false at visible
  generalize trimMarks (marks text) = values at cells marked
  have size : whole.length = values.length := by
    rw [cells, length, link_length]
  rw [size] at inside
  have first : values[start]? = some values[start] := List.getElem?_eq_getElem inside
  have place : values.drop start = values[start] :: values.drop (start + 1) :=
    List.drop_eq_getElem_cons inside
  rw [cells, isEscaped_link, first, Option.any_some] at unescaped
  rw [cells, char?_link, first, Option.map_some] at visible
  have stops : stop = start +
      (findTarget targets (link (values.drop start))).getD (values.drop start).length := by
    change (whole.find? targets start false).getD whole.length = _
    rw [size, cells, find?_link]
    cases findTarget targets (link (values.drop start)) with
    | none =>
      rw [Option.map_none, Option.getD_none, Option.getD_none, List.length_drop]
      omega
    | some position => exact Nat.add_comm position start
  have shown := shown_stop targets (values.drop start)
  generalize (findTarget targets (link (values.drop start))).getD _ = count at shown stops
  -- from the start on, the marks are those of a text of its own
  have own : marks (Text.chars ((values.drop start).take count)) =
      (values.drop start).take count := by
    rw [← List.take_append_drop start values, place] at marked
    have tail := marked.right unescaped
    rw [← place, ← List.take_append_drop count (values.drop start)] at tail
    exact tail.left
  have starts : ∀ mark ∈ ((values.drop start).take count).head?, isBlank mark.char = false := by
    intro mark head
    rw [place] at head
    cases count with
    | zero => cases head
    | succ count =>
      obtain rfl := Option.some.inj (Option.mem_def.1 head)
      exact visible _ rfl
  obtain ⟨run, split, loose⟩ := exists_trimmed_run starts
  have blank : ∀ mark ∈ run, isBlank mark.char = true := fun mark member =>
    (Bool.and_eq_true _ _ ▸ loose mark member).1
  rw [stops, cells, slice_link, ofText, cellsOf, own]
  exact answersLike_link shown split blank

/-- The part before a space, cut inside a parenthesis whose closer stays behind: the brackets in
the part hide the first space, and the tab before the second one is trimmed. -/
theorem answersLike_slice_parenthesis :
    let whole := ofText "a(b[c d].e\t f)".toList
    let part := ofText (whole.slice 2 11)
    (2 < whole.length ∧ whole.isEscaped 2 = false ∧
      ∀ value ∈ whole.char? 2, isBlank value = false) ∧
      whole.find? [' '] 2 false = some 11 ∧ AnswersLike part whole 2 11 ∧
      part.find? ['.'] 0 false = some 6 := by
  intro whole part
  have inside : 2 < whole.length := by decide
  have unescaped : whole.isEscaped 2 = false := by decide
  have visible : ∀ value ∈ whole.char? 2, isBlank value = false := by
    intro value found
    cases found
    decide
  have stop : whole.find? [' '] 2 false = some 11 := by decide
  have answers := answersLike_slice "a(b[c d].e\t f)".toList [' '] inside unescaped visible
  change AnswersLike (ofText (whole.slice 2 ((whole.find? [' '] 2 false).getD _))) whole 2 _
    at answers
  rw [stop, Option.getD_some] at answers
  refine ⟨⟨inside, unescaped, visible⟩, stop, answers, ?_⟩
  rw [answers.searches ['.'] (List.forall_mem_singleton.2 rfl)]
  decide

end Scan

end NodeQuery.Text
