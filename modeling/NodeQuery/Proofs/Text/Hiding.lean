import NodeQuery.Proofs.Text.Search

/-!
# What enclosures hide

A search walks over a text and steps over each matched enclosure. The positions that it comes to
are shown, all others are hidden. Where a text is cut at a shown position, the enclosures of the
front part are the ones that it had in the whole text: an opener that was stepped over has its
closer there, and one without a closer gets none. So a search over the front part finds what the
search over the whole text finds there.

Main statements: `findTarget_eq_none_iff` and `findTarget_link_take`.
-/

namespace NodeQuery.Text

/-! ## Shown positions -/

/-- A walk over some cells comes to a position, stepping over what each cell hides. -/
inductive Shown : Nat → List Cell → Prop where
  /-- The walk starts at the first cell. -/
  | here (cells : List Cell) : Shown 0 cells
  /-- It goes on behind what a cell hides. -/
  | behind {cell : Cell} {rest : List Cell} {position : Nat} :
    Shown position (rest.drop cell.hidden) → Shown (position + (cell.hidden + 1)) (cell :: rest)

/-- What holds of no cells, and of some if it holds behind what the first one hides, holds of all
cells. -/
@[elab_as_elim]
theorem walkInduction {motive : List Cell → Prop} (nil : motive [])
    (cons : ∀ cell rest, motive (rest.drop cell.hidden) → motive (cell :: rest))
    (cells : List Cell) : motive cells := by
  induction size : cells.length using Nat.strongRecOn generalizing cells with
  | ind size hypothesis =>
    subst size
    cases cells with
    | nil => exact nil
    | cons cell rest =>
      refine cons cell rest (hypothesis _ ?_ _ rfl)
      rw [List.length_drop, List.length_cons]
      omega

/-- A walk may be continued. -/
theorem Shown.trans {front back : Nat} {cells : List Cell} (first : Shown front cells)
    (second : Shown back (cells.drop front)) : Shown (back + front) cells := by
  induction first with
  | here cells => exact second
  | @behind cell rest position _ hypothesis =>
    rw [← Nat.add_assoc, List.drop_succ_cons, Nat.add_comm, ← List.drop_drop] at second
    rw [← Nat.add_assoc]
    exact (hypothesis second).behind

/-- The cells from a position behind what the first one hides. -/
theorem drop_behind (cell : Cell) (rest : List Cell) (position : Nat) :
    (cell :: rest).drop (position + (cell.hidden + 1)) = (rest.drop cell.hidden).drop position := by
  rw [List.drop_drop, ← Nat.add_assoc, List.drop_succ_cons, Nat.add_comm]

/-- What is found is shown, and it is a target. -/
theorem exists_of_findFrom {targets : List Char} {escapedToo : Bool} {cells : List Cell}
    {position : Nat} (found : findFrom targets escapedToo 0 cells = some position) :
    Shown position cells ∧ ∃ cell rest, cells.drop position = cell :: rest ∧
      cell.isTarget targets escapedToo = true := by
  induction cells using walkInduction generalizing position with
  | nil => cases found
  | cons cell rest hypothesis =>
    rw [findFrom_cons] at found
    cases target : cell.isTarget targets escapedToo with
    | true =>
      rw [target, if_pos rfl] at found
      cases found
      exact ⟨.here _, cell, rest, rfl, target⟩
    | false =>
      rw [target, if_neg Bool.false_ne_true] at found
      obtain ⟨inner, later, rfl⟩ := Option.map_eq_some_iff.1 found
      obtain ⟨shown, stop, others, split, holds⟩ := hypothesis later
      exact ⟨shown.behind, stop, others, by rw [drop_behind, split], holds⟩

/-- What is found of unescaped targets is shown, and it is one. -/
theorem exists_of_findTarget {targets : List Char} {cells : List Cell} {position : Nat}
    (found : findTarget targets cells = some position) :
    Shown position cells ∧ ∃ cell rest, cells.drop position = cell :: rest ∧
      cell.isTarget targets false = true :=
  exists_of_findFrom found

/-- No cell that is shown before what is found is a target. -/
theorem isTarget_of_shown {targets : List Char} {escapedToo : Bool} {cells : List Cell}
    {position : Nat} {cell : Cell} {rest : List Cell} (shown : Shown position cells)
    (split : cells.drop position = cell :: rest)
    (behind : ∀ found ∈ findFrom targets escapedToo 0 cells, position < found) :
    cell.isTarget targets escapedToo = false := by
  induction shown with
  | here cells =>
    rw [List.drop_zero] at split
    rw [split, findFrom_cons] at behind
    refine Bool.eq_false_iff.2 fun target => ?_
    rw [if_pos target] at behind
    exact Nat.lt_irrefl 0 (behind 0 rfl)
  | @behind first others position _ hypothesis =>
    rw [drop_behind] at split
    rw [findFrom_cons] at behind
    cases target : first.isTarget targets escapedToo with
    | true =>
      rw [if_pos target] at behind
      exact absurd (behind 0 rfl) (Nat.not_lt_zero _)
    | false =>
      rw [target, if_neg Bool.false_ne_true] at behind
      refine hypothesis split fun found later => ?_
      have after := behind (found + (first.hidden + 1)) (Option.mem_map_of_mem _ later)
      omega

/-- Nothing is found if and only if no cell that is shown is a target. -/
theorem findFrom_eq_none_iff (targets : List Char) (escapedToo : Bool) (cells : List Cell) :
    findFrom targets escapedToo 0 cells = none ↔ ∀ position cell rest, Shown position cells →
      cells.drop position = cell :: rest → cell.isTarget targets escapedToo = false := by
  constructor
  · intro nothing position cell rest shown split
    exact isTarget_of_shown shown split (by simp [nothing])
  · intro none
    cases found : findFrom targets escapedToo 0 cells with
    | none => rfl
    | some position =>
      obtain ⟨shown, cell, rest, split, target⟩ := exists_of_findFrom found
      rw [none position cell rest shown split] at target
      cases target

/-- No unescaped target is found if and only if no cell that is shown is one. -/
theorem findTarget_eq_none_iff (targets : List Char) (cells : List Cell) :
    findTarget targets cells = none ↔ ∀ position cell rest, Shown position cells →
      cells.drop position = cell :: rest → cell.isTarget targets false = false :=
  findFrom_eq_none_iff targets false cells

/-- In the marks of a text there is an unescaped target where one is found. -/
theorem exists_mark_of_findTarget {targets : List Char} {values : List Mark} {position : Nat}
    (found : findTarget targets (link values) = some position) :
    ∃ mark rest, values.drop position = mark :: rest ∧ mark.char ∈ targets ∧
      mark.escaped = false := by
  obtain ⟨_, cell, others, split, target⟩ := exists_of_findTarget found
  rw [link_drop] at split
  cases behind : values.drop position with
  | nil =>
    rw [behind] at split
    cases split
  | cons mark rest =>
    rw [behind] at split
    obtain ⟨rfl, _⟩ := List.cons.inj split
    exact ⟨mark, rest, rfl, by simpa [Cell.isTarget] using target⟩

/-! ## Front parts -/

/-- A search without enclosures over a front part finds what it finds there in the whole text. -/
theorem findPlain_link_take (target : Char) (values : List Mark) (count : Nat) :
    findPlain target (link (values.take count)) =
      (findPlain target (link values)).filter (· < count) := by
  have onMarks : ∀ values, findPlain target (link values) =
      values.findIdx? fun mark => mark.char == target && !mark.escaped := by
    intro values
    have mapped : ((link values).map Cell.toMark).findIdx? (fun mark =>
        mark.char == target && !mark.escaped) = findPlain target (link values) :=
      List.findIdx?_map
    rw [← mapped, link_marks]
  rw [onMarks, onMarks, List.findIdx?_take, Option.bind_guard]

/-- A bracket does not close what opens something itself. -/
theorem closerOf?_closer {opener closer : Char} (closes : closerOf? opener = some closer)
    (bracket : isQuote opener = false) : closerOf? closer = none := by
  have all : ∀ pair ∈ enclosures, isQuote pair.1 = false → closerOf? pair.2 = none :=
    forall_mem_of_all (by decide)
  obtain ⟨front, back, split, _⟩ := List.lookup_eq_some_iff.1 closes
  exact all (opener, closer) (split ▸ List.mem_append_right _ List.mem_cons_self) bracket

/-- The first cell of some marks. -/
def headCell (mark : Mark) (rest : List Mark) : Cell := ⟨mark, reachOf mark.char (link rest)⟩

/-- What an escaped character or one that opens nothing hides. -/
theorem hidden_headCell_of_plain {mark : Mark}
    (plain : mark.escaped = true ∨ closerOf? mark.char = none) (rest : List Mark) :
    (headCell mark rest).hidden = 0 := by
  rcases plain with escaped | opens
  · simp [Cell.hidden, headCell, escaped]
  · simp [Cell.hidden, headCell, reachOf, opens]

/-- What an opener hides. -/
theorem hidden_headCell_of_opener {mark : Mark} {closer : Char} (shown : mark.escaped = false)
    (closes : closerOf? mark.char = some closer) (rest : List Mark) :
    (headCell mark rest).hidden =
      ((if isQuote mark.char then findPlain closer (link rest)
        else findTarget [closer] (link rest)).map (· + 1)).getD 0 := by
  simp [Cell.hidden, headCell, reachOf, shown, closes]

/-- Where the walk goes on behind a matched bracket, it comes to the closer first. -/
theorem shown_of_bracket {mark : Mark} {rest : List Mark} {count : Nat} {closer : Char}
    (unescaped : mark.escaped = false) (closes : closerOf? mark.char = some closer)
    (bracket : isQuote mark.char = false)
    (shown : Shown count ((link rest).drop (headCell mark rest).hidden)) :
    Shown (count + (headCell mark rest).hidden) (link rest) := by
  rw [hidden_headCell_of_opener unescaped closes, bracket, if_neg Bool.false_ne_true] at shown ⊢
  cases found : findTarget [closer] (link rest) with
  | none =>
    rw [found] at shown
    exact shown
  | some position =>
    rw [found, Option.map_some, Option.getD_some] at shown
    rw [Option.map_some, Option.getD_some, Nat.add_comm position, ← Nat.add_assoc]
    obtain ⟨stop, later, split, closing, _⟩ := exists_mark_of_findTarget found
    rw [← List.drop_drop, link_drop, split] at shown
    have silent : (headCell stop later).hidden = 0 := by
      refine hidden_headCell_of_plain (Or.inr ?_) later
      rw [List.mem_singleton.1 closing]
      exact closerOf?_closer closes bracket
    have next : Shown (count + ((headCell stop later).hidden + 1)) (link (stop :: later)) := by
      refine .behind ?_
      rw [silent]
      exact shown
    rw [silent, ← split, ← link_drop] at next
    exact (exists_of_findTarget found).1.trans next

/-- What the first cell hides does not change in a front part that the walk comes to the end
of. -/
theorem hidden_headCell_take {mark : Mark} {rest : List Mark}
    (same : ∀ closer count, Shown count (link rest) →
      findTarget [closer] (link (rest.take count)) =
        (findTarget [closer] (link rest)).filter (· < count))
    {count : Nat} (shown : Shown count ((link rest).drop (headCell mark rest).hidden)) :
    (headCell mark (rest.take (count + (headCell mark rest).hidden))).hidden =
      (headCell mark rest).hidden := by
  by_cases plain : mark.escaped = true ∨ closerOf? mark.char = none
  · rw [hidden_headCell_of_plain plain, hidden_headCell_of_plain plain]
  · obtain ⟨unescaped, opens⟩ := not_or.1 plain
    obtain ⟨closer, closes⟩ := Option.ne_none_iff_exists'.1 opens
    have visible := Bool.eq_false_iff.2 unescaped
    have inside := hidden_headCell_of_opener visible closes rest
    have kept : (if isQuote mark.char then
          findPlain closer (link (rest.take (count + (headCell mark rest).hidden)))
        else findTarget [closer] (link (rest.take (count + (headCell mark rest).hidden)))) =
        (if isQuote mark.char then findPlain closer (link rest)
          else findTarget [closer] (link rest)).filter
            (· < count + (headCell mark rest).hidden) := by
      cases quote : isQuote mark.char with
      | true => exact findPlain_link_take closer rest _
      | false => exact same closer _ (shown_of_bracket visible closes quote shown)
    rw [hidden_headCell_of_opener visible closes (rest.take _), kept]
    cases found : (if isQuote mark.char then findPlain closer (link rest)
        else findTarget [closer] (link rest)) with
    | none =>
      rw [found] at inside
      exact inside.symm
    | some position =>
      -- the closer is hidden, so it stands before the end of the front part
      rw [found, Option.map_some, Option.getD_some] at inside
      have before : position < count + (headCell mark rest).hidden := by omega
      rw [Option.filter_some, if_pos (decide_eq_true before), inside]
      rfl

/-- A search over a front part that the walk comes to the end of finds what it finds there in
the whole text. -/
theorem findTarget_link_take (targets : List Char) (values : List Mark) {count : Nat}
    (shown : Shown count (link values)) :
    findTarget targets (link (values.take count)) =
      (findTarget targets (link values)).filter (· < count) := by
  -- closers are searched for among fewer marks
  induction size : values.length using Nat.strongRecOn generalizing values count targets with
  | ind size hypothesis =>
    subst size
    cases values with
    | nil =>
      rw [List.take_nil]
      rfl
    | cons mark rest =>
      rw [link_cons] at shown
      change Shown count (headCell mark rest :: link rest) at shown
      cases shown with
      | here =>
        refine (Option.filter_eq_none_iff.2 fun position _ => ?_).symm
        simp
      | @behind _ _ count inside =>
        have shorter : ∀ closer position, Shown position (link rest) →
            findTarget [closer] (link (rest.take position)) =
              (findTarget [closer] (link rest)).filter (· < position) :=
          fun closer position reached =>
            hypothesis rest.length (Nat.lt_succ_self _) [closer] rest reached rfl
        have hidden := hidden_headCell_take shorter inside
        have later : findTarget targets
            ((link (rest.take (count + (headCell mark rest).hidden))).drop
              (headCell mark rest).hidden) =
            (findTarget targets ((link rest).drop (headCell mark rest).hidden)).filter
              (· < count) := by
          have fewer : (rest.drop (headCell mark rest).hidden).length < (mark :: rest).length := by
            rw [List.length_drop, List.length_cons]
            omega
          rw [link_drop] at inside
          rw [link_drop, link_drop, List.drop_take, Nat.add_sub_cancel]
          exact hypothesis _ fewer targets _ inside rfl
        rw [← Nat.add_assoc, List.take_succ_cons, link_cons, link_cons]
        change findTarget targets (headCell mark (rest.take _) :: link (rest.take _)) =
          (findTarget targets (headCell mark rest :: link rest)).filter _
        rw [findTarget_cons, findTarget_cons, hidden, later]
        change (if (headCell mark rest).isTarget targets false then _ else _) = _
        cases (headCell mark rest).isTarget targets false with
        | true => rfl
        | false =>
          rw [if_neg Bool.false_ne_true, if_neg Bool.false_ne_true, Option.filter_map]
          congr 2
          funext position
          exact decide_eq_decide.2 (by dsimp only; omega)

/-- No target is found before the one that a text is cut at. -/
theorem findTarget_link_take_of_found {targets : List Char} {values : List Mark} {count : Nat}
    (found : findTarget targets (link values) = some count) :
    findTarget targets (link (values.take count)) = none := by
  rw [findTarget_link_take targets values (exists_of_findTarget found).1, found,
    Option.filter_some, if_neg (by simp)]

end NodeQuery.Text
