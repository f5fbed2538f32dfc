import NodeQuery.Proofs.Text.Slicing

/-!
# Searches and the enclosures they step over

A search asks for the closer of every opener that it comes to, and the search for that closer does
the same behind it. `Searches` and `Closes` state this recursion as it is read off a text, position
by position and without the stored distances: each finite derivation is a run that comes to an end.
Every search has one, and its answer is the one that the stored distances give.

The positions that a search visits do not depend on what it looks for; it stops at the first of them
that holds a target. So a search for the targets of two lists stops where the first of the two
searches does. The enclosures that one search steps over lie one behind the other. A quote is closed
by the next such quote and hides whatever is between, so an enclosure may start inside of it and end
behind it.

Main statement: `Scan.searchLaws_ofText`.
-/

namespace NodeQuery.Text

/-! ## The targets of two lists -/

/-- The first of two offsets is the first one also from another place. -/
theorem map_merge_min (one other : Option Nat) (count : Nat) :
    (Option.merge min one other).map (· + count) =
      Option.merge min (one.map (· + count)) (other.map (· + count)) := by
  cases one <;> cases other <;> simp [Option.merge, Nat.add_min_add_right]

/-- A search for the targets of two lists finds the first of what the two searches find. -/
theorem findFrom_union {targets others both : List Char}
    (union : ∀ value, value ∈ both ↔ value ∈ targets ∨ value ∈ others) (escapedToo : Bool)
    (skip : Nat) (cells : List Cell) :
    findFrom both escapedToo skip cells =
      Option.merge min (findFrom targets escapedToo skip cells)
        (findFrom others escapedToo skip cells) := by
  induction cells generalizing skip with
  | nil => cases skip <;> rfl
  | cons cell rest hypothesis =>
    cases skip with
    | succ skip => simp only [findFrom, hypothesis, map_merge_min]
    | zero =>
      have either : cell.isTarget both escapedToo =
          (cell.isTarget targets escapedToo || cell.isTarget others escapedToo) := by
        have contained : both.contains cell.char =
            (targets.contains cell.char || others.contains cell.char) := by
          rw [Bool.eq_iff_iff]
          simpa using union cell.char
        rw [Cell.isTarget, contained, Bool.and_or_distrib_right]
        rfl
      simp only [findFrom, either, hypothesis, map_merge_min]
      cases cell.isTarget targets escapedToo <;> cases cell.isTarget others escapedToo <;>
        cases findFrom targets escapedToo cell.hidden rest <;>
        cases findFrom others escapedToo cell.hidden rest <;> simp [Option.merge]

namespace Scan

/-! ## Positions -/

/-- Whether a position holds a target; an escaped one counts only when asked for. -/
def holds (scan : Scan) (targets : List Char) (escapedToo : Bool) (position : Nat) : Bool :=
  (scan.char? position).any targets.contains && (escapedToo || !scan.isEscaped position)

/-- A search that starts at one position comes to another one. -/
def Visits (scan : Scan) (start position : Nat) : Prop :=
  start ≤ position ∧ Shown (position - start) (scan.cells.drop start)

/-- A search visits the position where it starts. -/
theorem visits_self (scan : Scan) (start : Nat) : scan.Visits start start := by
  refine ⟨Nat.le_refl _, ?_⟩
  rw [Nat.sub_self]
  exact .here _

/-- What the cell at a position says about it. -/
theorem holds_eq_any (scan : Scan) (targets : List Char) (escapedToo : Bool) (position : Nat) :
    scan.holds targets escapedToo position =
      scan.cells[position]?.any (·.isTarget targets escapedToo) := by
  rw [holds, char?, isEscaped]
  cases scan.cells[position]? <;> rfl

/-- The cell of a position that is shown among those from another one on. -/
theorem getElem?_of_drop_drop {scan : Scan} {start offset : Nat} {cell : Cell} {rest : List Cell}
    (split : (scan.cells.drop start).drop offset = cell :: rest) :
    scan.cells[start + offset]? = some cell := by
  rw [← List.head?_drop, ← List.drop_drop, split]
  rfl

/-- What is found is visited and holds a target, and no position visited before it does. -/
theorem first_of_find? {scan : Scan} {targets : List Char} {start position : Nat}
    {escapedToo : Bool} (found : scan.find? targets start escapedToo = some position) :
    scan.Visits start position ∧ scan.holds targets escapedToo position = true ∧
      ∀ earlier < position, scan.Visits start earlier →
        scan.holds targets escapedToo earlier = false := by
  obtain ⟨offset, inner, rfl⟩ := Option.map_eq_some_iff.1 found
  obtain ⟨shown, cell, rest, split, target⟩ := exists_of_findFrom inner
  rw [Nat.add_comm offset start]
  refine ⟨⟨Nat.le_add_right _ _, by rwa [Nat.add_sub_cancel_left]⟩, ?_, ?_⟩
  · rw [holds_eq_any, getElem?_of_drop_drop split, Option.any_some, target]
  · rintro earlier before ⟨ordered, visited⟩
    obtain ⟨distance, rfl⟩ := Nat.exists_eq_add_of_le ordered
    rw [Nat.add_sub_cancel_left] at visited
    rw [holds_eq_any, ← List.head?_drop, ← List.drop_drop]
    cases place : (scan.cells.drop start).drop distance with
    | nil => rfl
    | cons other others =>
      refine isTarget_of_shown visited place fun later same => ?_
      rw [inner] at same
      cases same
      omega

/-- A search that finds nothing visits no position that holds a target. -/
theorem holds_of_find?_eq_none {scan : Scan} {targets : List Char} {start position : Nat}
    {escapedToo : Bool} (nothing : scan.find? targets start escapedToo = none)
    (visited : scan.Visits start position) : scan.holds targets escapedToo position = false := by
  obtain ⟨ordered, shown⟩ := visited
  obtain ⟨distance, rfl⟩ := Nat.exists_eq_add_of_le ordered
  rw [Nat.add_sub_cancel_left] at shown
  rw [holds_eq_any, ← List.head?_drop, ← List.drop_drop]
  cases place : (scan.cells.drop start).drop distance with
  | nil => rfl
  | cons cell rest =>
    exact (findFrom_eq_none_iff _ _ _).1 (Option.map_eq_none_iff.1 nothing) _ _ _ shown place

/-- A search stops at the first visited position that holds a target. -/
theorem find?_eq_some_iff (scan : Scan) (targets : List Char) (start : Nat) (escapedToo : Bool)
    (position : Nat) :
    scan.find? targets start escapedToo = some position ↔
      scan.Visits start position ∧ scan.holds targets escapedToo position = true ∧
        ∀ earlier < position, scan.Visits start earlier →
          scan.holds targets escapedToo earlier = false := by
  constructor
  · exact first_of_find?
  · rintro ⟨visited, target, first⟩
    cases found : scan.find? targets start escapedToo with
    | none =>
      rw [holds_of_find?_eq_none found visited] at target
      cases target
    | some other =>
      obtain ⟨otherVisited, otherTarget, otherFirst⟩ := first_of_find? found
      rcases Nat.lt_trichotomy other position with before | same | behind
      · rw [first other before otherVisited] at otherTarget
        cases otherTarget
      · rw [same]
      · rw [otherFirst position behind visited] at target
        cases target

/-- A search that is at no target goes on behind what the position hides. -/
theorem find?_eq {scan : Scan} {position : Nat} {cell : Cell}
    (place : scan.cells[position]? = some cell) (targets : List Char) (escapedToo : Bool) :
    scan.find? targets position escapedToo =
      if scan.holds targets escapedToo position then some position
      else scan.find? targets (position + cell.hidden + 1) escapedToo := by
  have target := holds_eq_any scan targets escapedToo position
  rw [place, Option.any_some] at target
  obtain ⟨inside, rfl⟩ := List.getElem?_eq_some_iff.1 place
  rw [target, find?, List.drop_eq_getElem_cons inside, findFrom_cons, find?, List.drop_drop]
  cases scan.cells[position].isTarget targets escapedToo with
  | true => simp
  | false =>
    rw [if_neg Bool.false_ne_true, if_neg Bool.false_ne_true, Option.map_map,
      show position + 1 + scan.cells[position].hidden = position + scan.cells[position].hidden + 1 by
        omega]
    congr 1
    funext offset
    simp only [Function.comp_apply]
    omega

/-- Behind an unescaped opener that is closed, a search goes on behind the closer. -/
theorem hidden_of_closer? {scan : Scan} {position stop : Nat} {cell : Cell}
    (place : scan.cells[position]? = some cell) (unescaped : scan.isEscaped position = false)
    (closed : scan.closer? position = some stop) : stop = position + cell.hidden := by
  rw [isEscaped, place, Option.any_some] at unescaped
  rw [closer?, place, Option.bind_some] at closed
  obtain ⟨distance, reach, rfl⟩ := Option.map_eq_some_iff.1 closed
  rw [Cell.hidden, unescaped, reach, Nat.add_comm]
  rfl

/-- Any other position hides nothing. -/
theorem hidden_of_open {scan : Scan} {position : Nat} {cell : Cell}
    (place : scan.cells[position]? = some cell)
    (opened : scan.isEscaped position = true ∨ scan.closer? position = none) :
    cell.hidden = 0 := by
  rw [isEscaped, closer?, place, Option.any_some, Option.bind_some, Option.map_eq_none_iff]
    at opened
  rcases opened with escaped | unclosed
  · rw [Cell.hidden, if_pos escaped]
  · rw [Cell.hidden, unclosed, Option.getD_none, ite_self]

/-- Behind the end a search finds nothing. -/
theorem find?_of_outside {scan : Scan} {position : Nat} (outside : scan.char? position = none)
    (targets : List Char) (escapedToo : Bool) : scan.find? targets position escapedToo = none := by
  rw [char?, Option.map_eq_none_iff, List.getElem?_eq_none_iff] at outside
  rw [find?, List.drop_eq_nil_of_le outside]
  rfl

/-- At a target a search stops. -/
theorem find?_of_holds {scan : Scan} {targets : List Char} {escapedToo : Bool} {position : Nat}
    (target : scan.holds targets escapedToo position = true) :
    scan.find? targets position escapedToo = some position := by
  cases place : scan.cells[position]? with
  | none =>
    rw [holds_eq_any, place] at target
    cases target
  | some cell => rw [find?_eq place, if_pos target]

/-- An enclosure that is closed is stepped over. -/
theorem find?_of_closed {scan : Scan} {targets : List Char} {escapedToo : Bool}
    {position stop : Nat} (other : scan.holds targets escapedToo position = false)
    (unescaped : scan.isEscaped position = false) (closed : scan.closer? position = some stop) :
    scan.find? targets position escapedToo = scan.find? targets (stop + 1) escapedToo := by
  cases place : scan.cells[position]? with
  | none =>
    rw [closer?, place] at closed
    cases closed
  | some cell =>
    rw [find?_eq place, other, if_neg Bool.false_ne_true,
      hidden_of_closer? place unescaped closed]

/-- Any other character is passed by. -/
theorem find?_of_open {scan : Scan} {targets : List Char} {escapedToo : Bool} {position : Nat}
    (other : scan.holds targets escapedToo position = false)
    (opened : scan.isEscaped position = true ∨ scan.closer? position = none) :
    scan.find? targets position escapedToo = scan.find? targets (position + 1) escapedToo := by
  cases place : scan.cells[position]? with
  | none =>
    have next : scan.cells[position + 1]? = none := by
      rw [List.getElem?_eq_none_iff] at place ⊢
      omega
    rw [find?_of_outside (by rw [char?, place]; rfl), find?_of_outside (by rw [char?, next]; rfl)]
  | some cell =>
    rw [find?_eq place, other, if_neg Bool.false_ne_true, hidden_of_open place opened]

/-- The enclosures that one search steps over lie one behind the other. -/
theorem closer?_lt_of_visits {scan : Scan} {start inner position last : Nat}
    (visited : scan.Visits start inner) (visitedLater : scan.Visits start position)
    (before : inner < position) (unescaped : scan.isEscaped inner = false)
    (closed : scan.closer? inner = some last) : last < position := by
  obtain ⟨ordered, shown⟩ := visited
  have onwards := shown.between visitedLater.2 (by omega)
  rw [List.drop_drop, Nat.add_sub_cancel' ordered,
    show position - start - (inner - start) = position - inner by omega] at onwards
  cases place : scan.cells[inner]? with
  | none =>
    rw [closer?, place] at closed
    cases closed
  | some cell =>
    obtain ⟨inside, rfl⟩ := List.getElem?_eq_some_iff.1 place
    rw [hidden_of_closer? place unescaped closed]
    rw [List.drop_eq_getElem_cons inside] at onwards
    generalize distance : position - inner = left at onwards
    cases onwards with
    | here => omega
    | behind later => omega

/-! ## Runs of the search -/

mutual

/-- A search from a position comes to an end with an answer. -/
inductive Searches (scan : Scan) : List Char → Bool → Nat → Option Nat → Prop where
  /-- Behind the end there is nothing. -/
  | ended {targets : List Char} {escapedToo : Bool} {position : Nat}
    (outside : scan.char? position = none) : Searches scan targets escapedToo position none
  /-- A target is recognized before what it may open. -/
  | stopped {targets : List Char} {escapedToo : Bool} {position : Nat}
    (target : scan.holds targets escapedToo position = true) :
    Searches scan targets escapedToo position (some position)
  /-- An enclosure that is closed is stepped over. -/
  | over {targets : List Char} {escapedToo : Bool} {position stop : Nat} {answer : Option Nat}
    (other : scan.holds targets escapedToo position = false)
    (unescaped : scan.isEscaped position = false) (closed : Closes scan position (some stop))
    (behind : Searches scan targets escapedToo (stop + 1) answer) :
    Searches scan targets escapedToo position answer
  /-- An escaped character opens nothing. -/
  | escaped {targets : List Char} {escapedToo : Bool} {position : Nat} {answer : Option Nat}
    (other : scan.holds targets escapedToo position = false)
    (escaped : scan.isEscaped position = true)
    (next : Searches scan targets escapedToo (position + 1) answer) :
    Searches scan targets escapedToo position answer
  /-- An opener without a closer is an ordinary character. -/
  | unclosed {targets : List Char} {escapedToo : Bool} {position : Nat} {answer : Option Nat}
    {value : Char} (inside : scan.char? position = some value)
    (other : scan.holds targets escapedToo position = false)
    (unescaped : scan.isEscaped position = false) (unclosed : Closes scan position none)
    (next : Searches scan targets escapedToo (position + 1) answer) :
    Searches scan targets escapedToo position answer

/-- The search for the closer of what a position opens comes to an end with an answer. -/
inductive Closes (scan : Scan) : Nat → Option Nat → Prop where
  /-- Most characters open nothing. -/
  | ordinary {position : Nat} (nothing : (scan.char? position).bind closerOf? = none) :
    Closes scan position none
  /-- A quote is closed by the next such quote, whatever is between. -/
  | quote {position : Nat} {opener closer : Char} (inside : scan.char? position = some opener)
    (closes : closerOf? opener = some closer) (quote : isQuote opener = true) :
    Closes scan position (scan.findPlain? closer (position + 1))
  /-- A bracket is closed where a search for its closer stops. -/
  | bracket {position : Nat} {opener closer : Char} {answer : Option Nat}
    (inside : scan.char? position = some opener) (closes : closerOf? opener = some closer)
    (bracket : isQuote opener = false)
    (search : Searches scan [closer] false (position + 1) answer) : Closes scan position answer

end

/-- A scan whose stored distances are those of its characters, as of every scan of a text. -/
def Linked (scan : Scan) : Prop := ∃ values, scan = ⟨link values⟩

/-- The stored distance leads to what the search for the closer finds. -/
theorem Linked.closer?_eq {scan : Scan} (linked : scan.Linked) (position : Nat) :
    scan.closer? position =
      (scan.char? position).bind fun opener => (closerOf? opener).bind fun closer =>
        if isQuote opener then scan.findPlain? closer (position + 1)
        else scan.find? [closer] (position + 1) false := by
  obtain ⟨values, rfl⟩ := linked
  cases place : values.drop position with
  | nil =>
    have outside : (link values)[position]? = none := by
      rw [← List.head?_drop, link_drop, place]
      rfl
    rw [closer?, char?, outside]
    rfl
  | cons mark rest =>
    have behind : (link values).drop (position + 1) = link rest := by
      rw [link_drop, ← List.drop_drop, place]
      rfl
    rw [closer?, char?, getElem?_link place]
    simp only [headCell, Option.map_some, Option.bind_some, reachOf, findPlain?, find?, behind]
    cases closerOf? mark.char with
    | none => rfl
    | some closer =>
      simp only [Option.bind_some, Option.map_map, findTarget]
      split <;>
        · congr 1
          funext distance
          simp only [Function.comp_apply]
          omega

/-- A closer stands behind its opener. -/
theorem Linked.lt_of_closer? {scan : Scan} (linked : scan.Linked) {position stop : Nat}
    (closed : scan.closer? position = some stop) : position < stop := by
  rw [linked.closer?_eq] at closed
  obtain ⟨opener, _, inner⟩ := Option.bind_eq_some_iff.1 closed
  obtain ⟨closer, _, found⟩ := Option.bind_eq_some_iff.1 inner
  split at found
  · obtain ⟨offset, _, rfl⟩ := Option.map_eq_some_iff.1 found
    omega
  · exact (first_of_find? found).1.1

mutual

/-- The answer of a run is the one that the stored distances give. -/
theorem Searches.answer_eq {scan : Scan} {targets : List Char} {escapedToo : Bool} {position : Nat}
    {answer : Option Nat} (run : Searches scan targets escapedToo position answer)
    (linked : scan.Linked) : answer = scan.find? targets position escapedToo := by
  match run with
  | .ended outside => rw [find?_of_outside outside]
  | .stopped target => rw [find?_of_holds target]
  | .over other unescaped closed behind =>
    have stop := closed.answer_eq linked
    rw [find?_of_closed other unescaped stop.symm]
    exact behind.answer_eq linked
  | .escaped other escaped next =>
    rw [find?_of_open other (Or.inl escaped)]
    exact next.answer_eq linked
  | .unclosed inside other unescaped unclosed next =>
    have nothing := unclosed.answer_eq linked
    rw [find?_of_open other (Or.inr nothing.symm)]
    exact next.answer_eq linked

/-- The closer of a run is the one that the stored distance leads to. -/
theorem Closes.answer_eq {scan : Scan} {position : Nat} {answer : Option Nat}
    (run : Closes scan position answer) (linked : scan.Linked) :
    answer = scan.closer? position := by
  rw [linked.closer?_eq]
  match run with
  | .ordinary nothing =>
    cases here : scan.char? position with
    | none => rfl
    | some opener =>
      rw [here, Option.bind_some] at nothing
      rw [Option.bind_some, nothing, Option.bind_none]
  | .quote inside closes quote =>
    rw [inside, Option.bind_some, closes, Option.bind_some, if_pos quote]
  | .bracket inside closes bracket search =>
    rw [inside, Option.bind_some, closes, Option.bind_some, bracket, if_neg Bool.false_ne_true]
    exact search.answer_eq linked

end

/-- The search for a closer comes to an end if the searches right behind the opener do. -/
theorem Linked.closes_of_behind {scan : Scan} (linked : scan.Linked) {position : Nat}
    (behind : ∀ targets, Searches scan targets false (position + 1)
      (scan.find? targets (position + 1) false)) : Closes scan position (scan.closer? position) := by
  rw [linked.closer?_eq]
  cases inside : scan.char? position with
  | none => exact .ordinary (by rw [inside]; rfl)
  | some value =>
    rw [Option.bind_some]
    cases opens : closerOf? value with
    | none => exact .ordinary (by rw [inside]; exact opens)
    | some closer =>
      rw [Option.bind_some]
      cases quote : isQuote value with
      | true => exact .quote inside opens quote
      | false => exact .bracket inside opens quote (behind [closer])

/-- A search comes to an end if the one for the closer of its first position does, and if it does
wherever it may go on. -/
theorem Linked.searches_of_behind {scan : Scan} (linked : scan.Linked) {position : Nat}
    (closes : Closes scan position (scan.closer? position)) {targets : List Char}
    {escapedToo : Bool}
    (behind : ∀ next, position < next →
      Searches scan targets escapedToo next (scan.find? targets next escapedToo)) :
    Searches scan targets escapedToo position (scan.find? targets position escapedToo) := by
  cases inside : scan.char? position with
  | none =>
    rw [find?_of_outside inside]
    exact .ended inside
  | some value =>
    cases target : scan.holds targets escapedToo position with
    | true =>
      rw [find?_of_holds target]
      exact .stopped target
    | false =>
      cases escaped : scan.isEscaped position with
      | true =>
        rw [find?_of_open target (Or.inl escaped)]
        exact .escaped target escaped (behind _ (Nat.lt_succ_self _))
      | false =>
        cases closed : scan.closer? position with
        | none =>
          rw [closed] at closes
          rw [find?_of_open target (Or.inr closed)]
          exact .unclosed inside target escaped closes (behind _ (Nat.lt_succ_self _))
        | some stop =>
          have later := linked.lt_of_closer? closed
          rw [closed] at closes
          rw [find?_of_closed target escaped closed]
          exact .over target escaped closes (behind _ (by omega))

/-- Every search comes to an end, and so does the search for every closer. -/
theorem Linked.exists_runs {scan : Scan} (linked : scan.Linked) (position : Nat) :
    (∀ targets escapedToo,
      Searches scan targets escapedToo position (scan.find? targets position escapedToo)) ∧
      Closes scan position (scan.closer? position) := by
  -- what is searched for is searched for farther behind
  induction left : scan.length - position using Nat.strongRecOn generalizing position with
  | ind left hypothesis =>
    subst left
    have later : ∀ next, position < next → ∀ targets escapedToo,
        Searches scan targets escapedToo next (scan.find? targets next escapedToo) := by
      intro next behind targets escapedToo
      cases inside : scan.char? next with
      | none =>
        rw [find?_of_outside inside]
        exact .ended inside
      | some value =>
        obtain ⟨cell, place, _⟩ := Option.map_eq_some_iff.1 inside
        have early : next < scan.length := (List.getElem?_eq_some_iff.1 place).1
        exact (hypothesis _ (by omega) next rfl).1 targets escapedToo
    have closes := linked.closes_of_behind fun targets => later _ (Nat.lt_succ_self _) targets false
    exact ⟨fun targets escapedToo => linked.searches_of_behind closes fun next behind =>
      later next behind targets escapedToo, closes⟩

/-! ## What is found -/

/-- What is found stands at or behind the start, and it is a target that may count. -/
theorem place_of_find? {scan : Scan} {targets : List Char} {start position : Nat}
    {escapedToo : Bool} (found : scan.find? targets start escapedToo = some position) :
    start ≤ position ∧ position < scan.length ∧
      (∃ value ∈ scan.char? position, value ∈ targets) ∧
        (escapedToo = false → scan.isEscaped position = false) := by
  obtain ⟨⟨ordered, _⟩, target, _⟩ := first_of_find? found
  rw [holds, Bool.and_eq_true] at target
  obtain ⟨value, here, contained⟩ := (Option.any_eq_true _ _).1 target.1
  obtain ⟨cell, place, _⟩ := Option.map_eq_some_iff.1 here
  refine ⟨ordered, (List.getElem?_eq_some_iff.1 place).1, ⟨value, here, by simpa using contained⟩,
    fun unescapedOnly => ?_⟩
  simpa [unescapedOnly] using target.2

/-- A search without enclosures finds the first unescaped occurrence. -/
theorem first_of_findPlain? {scan : Scan} {target : Char} {start position : Nat}
    (found : scan.findPlain? target start = some position) :
    start ≤ position ∧ scan.char? position = some target ∧ scan.isEscaped position = false ∧
      ∀ earlier, start ≤ earlier → earlier < position → scan.char? earlier = some target →
        scan.isEscaped earlier = true := by
  obtain ⟨offset, inner, rfl⟩ := Option.map_eq_some_iff.1 found
  obtain ⟨inside, matched, first⟩ := List.findIdx?_eq_some_iff_getElem.1 inner
  rw [Bool.and_eq_true, beq_iff_eq, List.getElem_drop] at matched
  rw [List.length_drop] at inside
  have place : scan.cells[start + offset]? = some scan.cells[start + offset] :=
    List.getElem?_eq_getElem (by omega)
  rw [Nat.add_comm offset start]
  refine ⟨Nat.le_add_right _ _, ?_, ?_, fun earlier ordered before here => ?_⟩
  · rw [char?, place, Option.map_some, matched.1]
  · rw [isEscaped, place, Option.any_some]
    simpa using matched.2
  · obtain ⟨distance, rfl⟩ := Nat.exists_eq_add_of_le ordered
    have other := first distance (by omega)
    obtain ⟨cell, earlierPlace, rfl⟩ := Option.map_eq_some_iff.1 here
    obtain ⟨earlierInside, rfl⟩ := List.getElem?_eq_some_iff.1 earlierPlace
    rw [isEscaped, earlierPlace, Option.any_some]
    simpa using other

/-- A closer and what is between it and its opener. -/
structure Encloses (scan : Scan) (opening stop : Nat) : Prop where
  /-- The closer stands behind the opener. -/
  behind : opening < stop
  /-- It is the closer of the opener. -/
  closes : ∃ opener closer, scan.char? opening = some opener ∧ closerOf? opener = some closer ∧
    scan.char? stop = some closer
  /-- It is not escaped. -/
  unescaped : scan.isEscaped stop = false
  /-- Between brackets, an unescaped opener that the search for the closer visits is closed before
  it, if at all. -/
  nested : (scan.char? opening).any isQuote = false →
    ∀ inner last, inner < stop → scan.Visits (opening + 1) inner →
      scan.isEscaped inner = false → scan.closer? inner = some last → last < stop
  /-- Between quotes there is no other such quote that is unescaped. -/
  quoted : (scan.char? opening).any isQuote = true →
    ∀ inner, opening < inner → inner < stop → scan.char? inner = scan.char? stop →
      scan.isEscaped inner = true

/-- What closes an opener encloses what is between. -/
theorem Linked.encloses {scan : Scan} (linked : scan.Linked) {opening stop : Nat}
    (closed : scan.closer? opening = some stop) : scan.Encloses opening stop := by
  have behind := linked.lt_of_closer? closed
  rw [linked.closer?_eq] at closed
  obtain ⟨opener, here, inner⟩ := Option.bind_eq_some_iff.1 closed
  obtain ⟨closer, closes, found⟩ := Option.bind_eq_some_iff.1 inner
  cases quote : isQuote opener with
  | true =>
    rw [quote, if_pos rfl] at found
    obtain ⟨_, place, unescaped, first⟩ := first_of_findPlain? found
    refine ⟨behind, ⟨opener, closer, here, closes, place⟩, unescaped, fun bracket => ?_,
      fun _ inner later before same => first inner later before (same.trans place)⟩
    rw [here, Option.any_some, quote] at bracket
    cases bracket
  | false =>
    rw [quote, if_neg Bool.false_ne_true] at found
    obtain ⟨_, _, ⟨value, place, target⟩, unescaped⟩ := place_of_find? found
    have visited := (first_of_find? found).1
    rw [List.mem_singleton.1 target] at place
    refine ⟨behind, ⟨opener, closer, here, closes, place⟩, unescaped rfl,
      fun _ inner last before reached plain closed =>
        closer?_lt_of_visits reached visited before plain closed, fun quoted => ?_⟩
    rw [here, Option.any_some, quote] at quoted
    cases quoted

/-- The laws of searches and of the enclosures that they step over. -/
structure SearchLaws (scan : Scan) : Prop where
  /-- A search for the targets of two lists finds the first of what the two searches find. -/
  union : ∀ targets others both start escapedToo,
    (∀ value, value ∈ both ↔ value ∈ targets ∨ value ∈ others) →
      scan.find? both start escapedToo =
        Option.merge min (scan.find? targets start escapedToo) (scan.find? others start escapedToo)
  /-- What is found stands at or behind the start, and it is a target that may count. -/
  found : ∀ targets start escapedToo position,
    scan.find? targets start escapedToo = some position →
      start ≤ position ∧ position < scan.length ∧
        (∃ value ∈ scan.char? position, value ∈ targets) ∧
          (escapedToo = false → scan.isEscaped position = false)
  /-- It is the first such target among the positions that are visited, whatever the targets. -/
  first : ∀ targets start escapedToo position,
    scan.find? targets start escapedToo = some position ↔
      scan.Visits start position ∧ scan.holds targets escapedToo position = true ∧
        ∀ earlier < position, scan.Visits start earlier →
          scan.holds targets escapedToo earlier = false
  /-- A closer stands behind its opener, and brackets enclose whole enclosures. -/
  encloses : ∀ opening stop, scan.closer? opening = some stop → scan.Encloses opening stop
  /-- The enclosures that one search steps over lie one behind the other. -/
  apart : ∀ start inner position last, scan.Visits start inner → scan.Visits start position →
    inner < position → scan.isEscaped inner = false → scan.closer? inner = some last →
      last < position
  /-- A search comes to an end with what is found, and with nothing else. -/
  search : ∀ targets escapedToo position answer,
    scan.Searches targets escapedToo position answer ↔
      answer = scan.find? targets position escapedToo
  /-- The search for a closer comes to an end with it, and with nothing else. -/
  closing : ∀ position answer, scan.Closes position answer ↔ answer = scan.closer? position

/-- Every scan of a text keeps the laws of searches. -/
theorem searchLaws_ofText (text : List Char) : (ofText text).SearchLaws := by
  have linked : (ofText text).Linked := ⟨trimMarks (marks text), rfl⟩
  refine ⟨fun targets others both start escapedToo union => ?_, fun _ _ _ _ => place_of_find?,
    fun targets start escapedToo position => find?_eq_some_iff _ targets start escapedToo position,
    fun _ _ => linked.encloses, fun _ _ _ _ => closer?_lt_of_visits,
    fun targets escapedToo position answer => ⟨fun run => run.answer_eq linked, ?_⟩,
    fun position answer => ⟨fun run => run.answer_eq linked, ?_⟩⟩
  · rw [find?, findFrom_union union, map_merge_min]
    rfl
  · rintro rfl
    exact (linked.exists_runs position).1 targets escapedToo
  · rintro rfl
    exact (linked.exists_runs position).2

/-- An opener between quotes may be closed behind them: they are closed at the next quote, and
whatever opens between them is closed where a search from there on finds its closer. -/
theorem not_nested_quotes :
    let scan := ofText ['"', '[', '"', ']']
    scan.closer? 0 = some 2 ∧
      ¬ ∀ inner last, inner < 2 → scan.Visits 1 inner → scan.isEscaped inner = false →
        scan.closer? inner = some last → last < 2 := by
  intro scan
  refine ⟨by decide, fun nested => ?_⟩
  have early : 3 < 2 :=
    nested 1 3 (by decide) (scan.visits_self 1) (by decide) (by decide)
  omega

end Scan

end NodeQuery.Text
