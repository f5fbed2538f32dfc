import Mathlib.Data.List.Forall2
import NodeQuery.Proofs.Selector.Sequence
import NodeQuery.Selector.Reader

/-!
# Patterns cut at their gaps

Between two sequences of a pattern stands a gap: a run of blanks, or an explicit combinator with
blanks around it. A gap divides a pattern if a search for combinators finds something in it, the
symbol of an explicit combinator or a space. At such a gap the pattern is cut, and the combinator
that the gap stands for is read; any other gap stays inside its piece.

Main statements: `pieces_spacedChars` and `parse_spacedChars`.
-/

namespace NodeQuery.Selector

open Text

/-! ## Bodies -/

/-- A combinator is written with a character that a search for combinators finds. -/
theorem symbol_mem_symbols (combinator : Combinator) : combinator.symbol ∈ Combinator.symbols := by
  cases combinator <;> decide

/-- No combinator is written as a backslash. -/
theorem ne_escapeMark_of_mem_symbols {value : Char} (symbol : value ∈ Combinator.symbols) :
    value ≠ escapeMark := by
  have all : ∀ symbol ∈ Combinator.symbols, symbol ≠ escapeMark := forall_mem_of_all (by decide)
  exact all value symbol

/-- The only blank that is a combinator is the space. -/
theorem eq_space_of_mem_symbols {value : Char} (symbol : value ∈ Combinator.symbols)
    (blank : isBlank value = true) : value = ' ' := by
  have all : ∀ symbol ∈ Combinator.symbols, isBlank symbol = true → symbol = ' ' :=
    forall_mem_of_all (by decide)
  exact all value symbol blank

/-- Any other character stands for no combinator. -/
theorem ofChar?_eq_none {value : Char} (other : value ∉ Combinator.symbols) :
    Combinator.ofChar? value = none := by
  rw [Combinator.ofChar?, List.find?_eq_none]
  intro combinator _ same
  rw [← beq_iff_eq.1 same] at other
  exact other (symbol_mem_symbols combinator)

/-- A text that a search for combinators passes over, and that starts with what no combinator
is. -/
structure Body (text : List Char) : Prop where
  /-- Nothing in the text escapes what follows it. -/
  settled : Settled text
  /-- No combinator is found in the text. -/
  skipped : Skipped Combinator.symbols text
  /-- The text starts with a character that is no blank and no combinator. -/
  start : ∃ head rest, text = head :: rest ∧ isBlank head = false ∧
    Combinator.ofChar? head = none

/-- The text of a sequence is a body. -/
theorem body_chars {sequence : Sequence} (shaped : sequence.Shaped) : Body sequence.chars := by
  obtain ⟨head, rest, split, visible, other⟩ := shaped.exists_head_chars
  exact ⟨shaped.settled_chars, shaped.skipped_chars, head, rest, split, visible,
    ofChar?_eq_none other⟩

/-- What follows a body may belong to it. -/
theorem Body.append {front back : List Char} (body : Body front) (settled : Settled back)
    (skipped : Skipped Combinator.symbols back) : Body (front ++ back) := by
  obtain ⟨head, rest, rfl, visible, other⟩ := body.start
  exact ⟨body.settled.append settled, body.skipped.append skipped, head, rest ++ back, rfl, visible,
    other⟩

/-- Blanks that are no combinators may belong to the body before them. -/
theorem Body.append_blanks {text run : List Char} (body : Body text)
    (blank : ∀ value ∈ run, isBlank value = true ∧ value ∉ Combinator.symbols) :
    Body (text ++ run) := by
  have spaces : ∀ value ∈ run, isBlank value = true := fun value member => (blank value member).1
  have others : ∀ value ∈ run, value ∉ Combinator.symbols :=
    fun value member => (blank value member).2
  exact body.append (settled_blanks spaces) (skipped_blanks spaces others)

/-! ## Gaps -/

/-- The texts that stand for a combinator between two sequences. -/
inductive StandsFor : Combinator → List Char → Prop where
  /-- Blanks alone mean any depth below. -/
  | blanks {gap : List Char} (filled : gap ≠ []) (blank : ∀ value ∈ gap, isBlank value = true) :
    StandsFor .descendant gap
  /-- Any other combinator has its symbol, with blanks around it. -/
  | explicit {combinator : Combinator} {before after : List Char}
    (shown : combinator ≠ .descendant) (blankBefore : ∀ value ∈ before, isBlank value = true)
    (blankAfter : ∀ value ∈ after, isBlank value = true) :
    StandsFor combinator (before ++ combinator.symbol :: after)

/-- Whether a search for combinators finds one in a gap. -/
def divides (gap : List Char) : Bool := gap.any Combinator.symbols.contains

/-- A gap consists of blanks and symbols of combinators. -/
theorem StandsFor.mem {combinator : Combinator} {gap : List Char}
    (stands : StandsFor combinator gap) {value : Char} (member : value ∈ gap) :
    isBlank value = true ∨ value ∈ Combinator.symbols := by
  cases stands with
  | blanks _ blank => exact Or.inl (blank value member)
  | explicit _ blankBefore blankAfter =>
    rcases List.mem_append.1 member with front | back
    · exact Or.inl (blankBefore value front)
    · rcases List.mem_cons.1 back with rfl | later
      · exact Or.inr (symbol_mem_symbols combinator)
      · exact Or.inl (blankAfter value later)

/-- The symbol of a combinator alone is a gap that stands for it. -/
theorem standsFor_symbol (combinator : Combinator) : StandsFor combinator [combinator.symbol] := by
  by_cases blank : combinator = .descendant
  · rw [blank]
    exact .blanks (List.cons_ne_nil _ _) (forall_mem_of_all (by decide))
  · have bare : StandsFor combinator ([] ++ combinator.symbol :: []) :=
      .explicit blank (List.forall_mem_nil _) (List.forall_mem_nil _)
    exact bare

/-- A gap divides unless it is a run of blanks without a space. -/
theorem StandsFor.divides_iff {combinator : Combinator} {gap : List Char}
    (stands : StandsFor combinator gap) :
    divides gap = true ↔ (combinator = .descendant → ' ' ∈ gap) := by
  cases stands with
  | blanks _ blank =>
    constructor
    · intro divided _
      obtain ⟨value, member, symbol⟩ := List.any_eq_true.1 divided
      obtain rfl := eq_space_of_mem_symbols (List.contains_iff_mem.1 symbol) (blank value member)
      exact member
    · intro holds
      exact List.any_eq_true.2 ⟨' ', holds rfl, by decide⟩
  | explicit shown _ _ =>
    refine iff_of_true (List.any_eq_true.2 ⟨combinator.symbol, by simp, ?_⟩) fun same =>
      absurd same shown
    exact List.contains_iff_mem.2 (symbol_mem_symbols combinator)

/-- Nothing in a gap escapes what follows it. -/
theorem StandsFor.settled {combinator : Combinator} {gap : List Char}
    (stands : StandsFor combinator gap) : Settled gap := by
  refine settled_of_plain fun value member => ?_
  rcases stands.mem member with blank | symbol
  · exact ne_escapeMark_of_isBlank blank
  · exact ne_escapeMark_of_mem_symbols symbol

/-- A gap that does not divide consists of blanks that are no combinators. -/
theorem StandsFor.of_not_divides {combinator : Combinator} {gap : List Char}
    (stands : StandsFor combinator gap) (joined : divides gap = false) :
    ∀ value ∈ gap, isBlank value = true ∧ value ∉ Combinator.symbols := by
  intro value member
  have plain : value ∉ Combinator.symbols := fun symbol =>
    List.any_eq_false.1 joined value member (List.contains_iff_mem.2 symbol)
  exact ⟨(stands.mem member).resolve_right plain, plain⟩

/-- The part of a gap before the first character that is a combinator. -/
def beforeSymbol (gap : List Char) : List Char := gap.takeWhile (!Combinator.symbols.contains ·)

/-- A gap that divides has blanks that are no combinators before the first character that is
one. -/
theorem StandsFor.exists_symbol {combinator : Combinator} {gap : List Char}
    (stands : StandsFor combinator gap) (divided : divides gap = true) :
    ∃ stop after, gap = beforeSymbol gap ++ stop :: after ∧ stop ∈ Combinator.symbols ∧
      ∀ value ∈ beforeSymbol gap, isBlank value = true ∧ value ∉ Combinator.symbols := by
  have split := List.takeWhile_append_dropWhile (p := (!Combinator.symbols.contains ·)) (l := gap)
  have plain : ∀ value ∈ beforeSymbol gap, value ∉ Combinator.symbols := by
    intro value member symbol
    have passed := List.all_eq_true.1 List.all_takeWhile value member
    rw [List.contains_iff_mem.2 symbol] at passed
    cases passed
  cases found : gap.dropWhile (!Combinator.symbols.contains ·) with
  | nil =>
    obtain ⟨value, member, symbol⟩ := List.any_eq_true.1 divided
    rw [found, List.append_nil] at split
    exact absurd (List.contains_iff_mem.1 symbol) (plain value (by rwa [beforeSymbol, split]))
  | cons stop after =>
    have first := List.head?_dropWhile_not (!Combinator.symbols.contains ·) gap
    rw [found] at first split
    refine ⟨stop, after, split.symm, by simpa using first, fun value member => ?_⟩
    have inside : value ∈ gap := List.takeWhile_subset _ member
    exact ⟨(stands.mem inside).resolve_right (plain value member), plain value member⟩

/-! ## Reading what stands before a sequence -/

/-- Behind a run of blanks is what starts with no blank. -/
theorem afterBlanks_run_visible {run : List Char} (blank : ∀ value ∈ run, isBlank value = true)
    {head : Char} (visible : isBlank head = false) (rest : List Char) :
    afterBlanks (link (marks (run ++ head :: rest))) = link (marks (head :: rest)) := by
  rw [afterBlanks_run blank]
  exact afterBlanks_of_visible (by simpa using visible)

/-- Where there is no explicit combinator the implicit one holds. -/
theorem readExplicit_other (implicit : Option Combinator) {head : Char}
    (other : Combinator.ofChar? head = none) (rest : List Char) :
    readExplicit implicit (link (marks (head :: rest))) =
      (implicit, link (marks (head :: rest))) := by
  obtain ⟨cell, cells, split, char⟩ := exists_link_marks head rest
  rw [split]
  simp only [readExplicit, char, other]

/-- An explicit combinator is read with the blanks behind it. -/
theorem readExplicit_symbol (implicit : Option Combinator) {combinator : Combinator}
    (shown : combinator ≠ .descendant) {after : List Char}
    (blank : ∀ value ∈ after, isBlank value = true) {head : Char} (visible : isBlank head = false)
    (rest : List Char) :
    readExplicit implicit (link (marks (combinator.symbol :: (after ++ head :: rest)))) =
      (some combinator, link (marks (head :: rest))) := by
  have behind := afterBlanks_run_visible blank visible rest
  have plain := ne_escapeMark_of_mem_symbols (symbol_mem_symbols combinator)
  rw [marks_cons plain, link_cons, readExplicit,
    Combinator.ofChar?_symbol]
  cases combinator with
  | descendant => exact absurd rfl shown
  | _ => simp only [behind]

/-- Before the first sequence there is nothing to read. -/
theorem readLead_first {head : Char} (rest : List Char) (visible : isBlank head = false)
    (other : Combinator.ofChar? head = none) :
    readLead true (link (marks (head :: rest))) = (none, link (marks (head :: rest))) := by
  have start : afterBlanks (link (marks (head :: rest))) = link (marks (head :: rest)) :=
    afterBlanks_of_visible (by simpa using visible)
  rw [readLead, start]
  exact readExplicit_other none other rest

/-- From the first character of a gap that is a combinator on, the combinator that the gap stands
for is read. -/
theorem readLead_gap {combinator : Combinator} {before after : List Char} {stop : Char}
    (stands : StandsFor combinator (before ++ stop :: after)) (symbol : stop ∈ Combinator.symbols)
    (plain : ∀ value ∈ before, value ∉ Combinator.symbols) {head : Char}
    (visible : isBlank head = false) (other : Combinator.ofChar? head = none) (rest : List Char) :
    readLead false (link (marks (stop :: (after ++ head :: rest)))) =
      (some combinator, link (marks (head :: rest))) := by
  generalize whole : before ++ stop :: after = gap at stands
  cases stands with
  | blanks _ blank =>
    rw [← whole] at blank
    have run : ∀ value ∈ stop :: after, isBlank value = true :=
      fun value member => blank value (List.mem_append_right _ member)
    have space := eq_space_of_mem_symbols symbol (run stop (List.mem_cons_self ..))
    have implicit : (link (marks (stop :: (after ++ head :: rest)))).head?.map (fun cell =>
        (Combinator.ofChar? cell.char).getD .descendant) = some .descendant := by
      obtain ⟨cell, cells, split, char⟩ := exists_link_marks stop (after ++ head :: rest)
      rw [split, List.head?_cons, Option.map_some, char, space]
      rfl
    have start := afterBlanks_run_visible run visible rest
    rw [List.cons_append] at start
    rw [readLead, implicit, start]
    exact readExplicit_other _ other rest
  | @explicit _ front back shown blankBefore blankAfter =>
    -- no combinator stands before `stop`, so the explicit one is `stop` or comes after blanks
    obtain ⟨run, split, blank⟩ : ∃ run, stop :: after = run ++ combinator.symbol :: back ∧
        ∀ value ∈ run, isBlank value = true := by
      rcases List.append_eq_append_iff.1 whole with ⟨run, rfl, split⟩ | ⟨run, rfl, split⟩
      · exact ⟨run, split, fun value member => blankBefore value (List.mem_append_right _ member)⟩
      · cases run with
        | nil => exact ⟨[], split.symm, List.forall_mem_nil _⟩
        | cons first others =>
          obtain ⟨rfl, _⟩ := List.cons.inj split
          exact absurd (symbol_mem_symbols combinator)
            (plain _ (List.mem_append_right _ (List.mem_cons_self ..)))
    have symbolVisible : isBlank combinator.symbol = false := by
      cases combinator with
      | descendant => exact absurd rfl shown
      | _ => decide
    rw [← List.cons_append, split, List.append_assoc, List.cons_append, readLead,
      afterBlanks_run_visible blank symbolVisible]
    exact readExplicit_symbol _ shown blankAfter visible rest

/-! ## Texts with gaps -/

/-- The text of a sequence and of those behind it, each with the gap before it. -/
def spacedChars (front : List Char) : List (Combinator × Sequence) → List (List Char) → List Char
  | [], _ => front
  | _ :: _, [] => front
  | (_, next) :: rest, gap :: gaps => front ++ (gap ++ spacedChars next.chars rest gaps)

/-- A text with gaps starts as its first sequence does. -/
theorem exists_head_spacedChars {front : List Char} (body : Body front)
    (rest : List (Combinator × Sequence)) (gaps : List (List Char)) :
    ∃ head others, spacedChars front rest gaps = head :: others ∧ isBlank head = false ∧
      Combinator.ofChar? head = none := by
  obtain ⟨head, others, rfl, visible, other⟩ := body.start
  cases rest with
  | nil => exact ⟨head, _, rfl, visible, other⟩
  | cons pair rest => cases gaps <;> exact ⟨head, _, rfl, visible, other⟩

/-- A gap and the sequence behind it may count as part of what is before them. -/
theorem spacedChars_glue (front gap : List Char) (next : Sequence)
    (rest : List (Combinator × Sequence)) (gaps : List (List Char)) :
    front ++ (gap ++ spacedChars next.chars rest gaps) =
      spacedChars (front ++ (gap ++ next.chars)) rest gaps := by
  cases rest with
  | nil => rfl
  | cons pair rest =>
    cases gaps with
    | nil => rfl
    | cons other gaps => simp [spacedChars]

/-- Nothing in a text with gaps escapes what follows it. -/
theorem settled_spacedChars {front : List Char} (settled : Settled front)
    {rest : List (Combinator × Sequence)} (shaped : ∀ pair ∈ rest, pair.2.Shaped)
    {gaps : List (List Char)} (standing : List.Forall₂ StandsFor (rest.map Prod.fst) gaps) :
    Settled (spacedChars front rest gaps) := by
  induction rest generalizing front gaps with
  | nil => exact settled
  | cons pair rest hypothesis =>
    obtain ⟨gap, others, stands, later, rfl⟩ := List.forall₂_cons_left_iff.1 standing
    obtain ⟨nextShaped, laterShaped⟩ := List.forall_mem_cons.1 shaped
    exact settled.append
      (stands.settled.append (hypothesis nextShaped.settled_chars laterShaped later))

/-- A text with gaps does not end in an unescaped blank. -/
theorem firm_spacedChars {first : Sequence} {rest : List (Combinator × Sequence)}
    (shaped : ∀ sequence ∈ first :: rest.map Prod.snd, sequence.Shaped)
    {gaps : List (List Char)} (standing : List.Forall₂ StandsFor (rest.map Prod.fst) gaps) :
    Firm (spacedChars first.chars rest gaps) := by
  induction rest generalizing first gaps with
  | nil => exact (shaped first (List.mem_cons_self ..)).firm_chars
  | cons pair rest hypothesis =>
    obtain ⟨gap, others, stands, later, rfl⟩ := List.forall₂_cons_left_iff.1 standing
    obtain ⟨firstShaped, laterShaped⟩ := List.forall_mem_cons.1 shaped
    obtain ⟨head, tail, split, _⟩ := exists_head_spacedChars
      (body_chars (laterShaped pair.2 (List.mem_cons_self ..))) rest others
    rw [spacedChars, ← List.append_assoc]
    exact Firm.append (firstShaped.settled_chars.append stands.settled) (by simp [split])
      (hypothesis laterShaped later)

/-! ## Pieces -/

/-- One round of cutting, without the proofs that it ends. -/
theorem pieces_eq (first : Bool) (position : Nat) (cells : List Cell) :
    pieces first position cells =
      match (readLead first cells).2 with
      | [] => [.dangling position]
      | head :: rest =>
        match findTarget Combinator.symbols (head :: rest) with
        | none => [.joined (readLead first cells).1 (cellChars (head :: rest))]
        | some 0 => [.dangling position]
        | some (tail + 1) =>
          .joined (readLead first cells).1 (head.char :: cellChars (rest.take tail)) ::
            pieces false (position + (cells.length - (rest.length + 1)) + (tail + 1))
              (rest.drop tail) := by
  rw [pieces]
  split
  · rename_i body
    simp only [body]
  · rename_i head rest body
    rewrite [body]
    rfl

/-- The cells of a body that a combinator stands behind: those of its text, in which no combinator
is found, and those from the combinator on. -/
theorem exists_link_body {text : List Char} (body : Body text) {stop : Char}
    (symbol : stop ∈ Combinator.symbols) (rest : List Char) :
    ∃ cell cells length, link (marks (text ++ stop :: rest)) = cell :: cells ∧
      findTarget Combinator.symbols (cell :: cells) = some (length + 1) ∧
      cell.char :: cellChars (cells.take length) = text ∧
      cells.drop length = link (marks (stop :: rest)) := by
  obtain ⟨head, others, written, _⟩ := body.start
  have search :=
    body.skipped.findTarget_eq_some (ne_escapeMark_of_mem_symbols symbol) symbol rest
  have front := cellChars_take_link_marks text (stop :: rest)
  have back := drop_link_marks body.settled (stop :: rest)
  obtain ⟨cell, cells, split, _⟩ := exists_link_marks head (others ++ stop :: rest)
  rw [written, List.cons_append, split, List.length_cons] at search front back
  refine ⟨cell, cells, others.length, ?_, search, ?_, ?_⟩
  · rw [written, List.cons_append, split]
  · rw [written, ← front]
    rfl
  · rw [← back, List.drop_succ_cons]

/-- The pieces of a text with gaps: it is cut at the gaps that divide. -/
def cut (combinator : Option Combinator) (front : List Char) :
    List (Combinator × Sequence) → List (List Char) → List Piece
  | [], _ => [.joined combinator front]
  | _ :: _, [] => [.joined combinator front]
  | (joining, next) :: rest, gap :: gaps =>
    if divides gap then
      .joined combinator (front ++ beforeSymbol gap) :: cut (some joining) next.chars rest gaps
    else cut combinator (front ++ (gap ++ next.chars)) rest gaps

/-- Behind what is read before it, a text with gaps is cut at the gaps that divide. -/
theorem pieces_spacedChars {front : List Char} (body : Body front)
    {rest : List (Combinator × Sequence)} (shaped : ∀ pair ∈ rest, pair.2.Shaped)
    {gaps : List (List Char)} (standing : List.Forall₂ StandsFor (rest.map Prod.fst) gaps)
    {flag : Bool} {position : Nat} {cells : List Cell} {combinator : Option Combinator}
    (lead : readLead flag cells = (combinator, link (marks (spacedChars front rest gaps)))) :
    pieces flag position cells = cut combinator front rest gaps := by
  induction rest generalizing front gaps flag position cells combinator with
  | nil =>
    obtain ⟨head, others, written, _⟩ := body.start
    obtain ⟨cell, tail, split, _⟩ := exists_link_marks head others
    have search := body.skipped.findTarget_eq_none
    have whole := cellChars_link_marks front
    rw [written, split] at search whole
    rw [pieces_eq, lead, spacedChars, cut, written, split]
    simp only [search, whole]
  | cons pair rest hypothesis =>
    obtain ⟨joining, next⟩ := pair
    obtain ⟨gap, others, stands, later, rfl⟩ := List.forall₂_cons_left_iff.1 standing
    obtain ⟨nextShaped, laterShaped⟩ := List.forall_mem_cons.1 shaped
    rw [spacedChars] at lead
    rw [cut]
    cases divided : divides gap with
    | true =>
      obtain ⟨stop, after, whole, symbol, blanks⟩ := stands.exists_symbol divided
      obtain ⟨head, tail, start, visible, other⟩ :=
        exists_head_spacedChars (body_chars nextShaped) rest others
      have text : front ++ (gap ++ spacedChars next.chars rest others) =
          (front ++ beforeSymbol gap) ++
            stop :: (after ++ spacedChars next.chars rest others) := by
        conv_lhs => rw [whole]
        simp
      obtain ⟨cell, cells, length, split, search, before, back⟩ :=
        exists_link_body (body.append_blanks blanks) symbol
          (after ++ spacedChars next.chars rest others)
      have nextLead := readLead_gap (whole ▸ stands) symbol
        (fun value member => (blanks value member).2) visible other tail
      rw [← start] at nextLead
      rw [text, split] at lead
      rw [pieces_eq, lead, if_pos rfl]
      simp only [search, before, back, hypothesis (body_chars nextShaped) laterShaped later nextLead]
    | false =>
      have gluedBody : Body (front ++ (gap ++ next.chars)) := by
        rw [← List.append_assoc]
        exact (body.append_blanks (stands.of_not_divides divided)).append
          nextShaped.settled_chars nextShaped.skipped_chars
      rw [spacedChars_glue] at lead
      rw [if_neg Bool.false_ne_true]
      exact hypothesis gluedBody laterShaped later lead

/-- A text with gaps is cut from its start at the gaps that divide. -/
theorem pieces_first_spacedChars {first : Sequence} {rest : List (Combinator × Sequence)}
    (shaped : ∀ sequence ∈ first :: rest.map Prod.snd, sequence.Shaped)
    {gaps : List (List Char)} (standing : List.Forall₂ StandsFor (rest.map Prod.fst) gaps) :
    pieces true 0 (link (marks (spacedChars first.chars rest gaps))) =
      cut none first.chars rest gaps := by
  have body := body_chars (shaped first (List.mem_cons_self ..))
  have laterShaped : ∀ pair ∈ rest, pair.2.Shaped :=
    fun pair member => shaped pair.2 (List.mem_cons_of_mem _ (List.mem_map_of_mem member))
  obtain ⟨head, others, start, visible, other⟩ := exists_head_spacedChars body rest gaps
  have lead := readLead_first others visible other
  rw [← start] at lead
  exact pieces_spacedChars body laterShaped standing lead

/-- A text with gaps and blanks around it is read piece by piece. -/
theorem parse_spacedChars {first : Sequence} {rest : List (Combinator × Sequence)}
    (shaped : ∀ sequence ∈ first :: rest.map Prod.snd, sequence.Shaped)
    {gaps : List (List Char)} (standing : List.Forall₂ StandsFor (rest.map Prod.fst) gaps)
    {leading trailing : List Char} (blankLeading : ∀ value ∈ leading, isBlank value = true)
    (blankTrailing : ∀ value ∈ trailing, isBlank value = true) :
    parse (leading ++ (spacedChars first.chars rest gaps ++ trailing)) =
      (cut none first.chars rest gaps).foldlM appendPiece empty := by
  have firstShaped := shaped first (List.mem_cons_self ..)
  have laterShaped : ∀ pair ∈ rest, pair.2.Shaped :=
    fun pair member => shaped pair.2 (List.mem_cons_of_mem _ (List.mem_map_of_mem member))
  obtain ⟨head, others, start, visible, _⟩ :=
    exists_head_spacedChars (body_chars firstShaped) rest gaps
  have settled := settled_spacedChars firstShaped.settled_chars laterShaped standing
  have firm := firm_spacedChars shaped standing
  have searched : cellsOf (leading ++ (spacedChars first.chars rest gaps ++ trailing)) =
      link (marks (spacedChars first.chars rest gaps)) := by
    rw [cellsOf_blanks_around blankLeading blankTrailing (by simp [start]) settled firm]
    exact cellsOf_of_firm (by simpa [start] using visible) firm
  have pieces := pieces_first_spacedChars shaped standing
  obtain ⟨cell, cells, split, _⟩ := exists_link_marks head others
  rw [parse, searched]
  rw [start, split] at pieces ⊢
  simp only [pieces]

end NodeQuery.Selector
