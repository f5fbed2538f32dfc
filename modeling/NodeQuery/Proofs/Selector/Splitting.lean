import Mathlib
import NodeQuery.Proofs.Selector.Reader
import NodeQuery.Proofs.Text.Parts

/-!
# Patterns split without loss

A pattern that is read is, but for the blanks around it, the texts of its sequences in their
order with gaps between them, and each gap stands for the combinator between its two sequences.
In the same way the text of a sequence is the tokens of its items with blanks between them. What
a round of either loop does not take is a shorter end of the text, and the next round starts
there.

Main statement: `parse_splits`.
-/

namespace NodeQuery.Selector

open Text

/-! ## Texts and gaps -/

/-- Every combinator character of a text is escaped or hidden by a matched enclosure. -/
def Undivided (text : List Char) : Prop :=
  ∀ position cell rest, Shown position (link (marks text)) →
    (link (marks text)).drop position = cell :: rest →
      cell.char ∈ Combinator.symbols → cell.escaped = true

/-- A text is undivided if and only if no combinator is found in it. -/
theorem undivided_iff (text : List Char) :
    Undivided text ↔ findTarget Combinator.symbols (link (marks text)) = none := by
  have target : ∀ cell : Cell, cell.isTarget Combinator.symbols false = false ↔
      (cell.char ∈ Combinator.symbols → cell.escaped = true) := by
    intro cell
    simp [Cell.isTarget, imp_iff_not_or]
  rw [findTarget_eq_none_iff]
  simp only [target, Undivided]

/-- A text that a sequence is read from. -/
structure ReadsAs (text : List Char) (sequence : Sequence) : Prop where
  /-- There is something to be read. -/
  filled : text ≠ []
  /-- No combinator divides the text. -/
  undivided : Undivided text
  /-- Reading the text on its own gives the sequence. -/
  read : Sequence.parse text = .ok sequence

/-- A gap that joins two sequences. -/
structure Joins (gap : List Char) (combinator : Combinator) : Prop where
  /-- The gap stands for the combinator. -/
  stands : StandsFor combinator gap
  /-- It starts with a combinator character. -/
  starts : ∃ head ∈ gap.head?, head ∈ Combinator.symbols

/-- A gap is not empty. -/
theorem StandsFor.ne_nil {combinator : Combinator} {gap : List Char}
    (stands : StandsFor combinator gap) : gap ≠ [] := by
  cases stands with
  | blanks filled _ => exact filled
  | explicit _ _ _ => simp

/-! ## Rounds over a pattern -/

/-- A character that is a combinator, at the start of what a round leaves. -/
def StartsAtSymbol (values : List Mark) : Prop :=
  ∃ mark rest, values = mark :: rest ∧ mark.char ∈ Combinator.symbols

/-- A gap there starts with this character. -/
theorem joins_of_standsFor {values gap after : List Mark} (symbol : StartsAtSymbol values)
    (split : values = gap ++ after) {combinator : Combinator}
    (stands : StandsFor combinator (Text.chars gap)) : Joins (Text.chars gap) combinator := by
  obtain ⟨mark, rest, rfl, starts⟩ := symbol
  cases gap with
  | nil => exact absurd rfl stands.ne_nil
  | cons first others =>
    obtain ⟨rfl, _⟩ := List.cons.inj split
    exact ⟨stands, mark.char, rfl, starts⟩

/-- An explicit combinator is read with the blanks around it. -/
theorem readExplicit_link {run rest : List Mark} {mark : Mark} {combinator : Combinator}
    (blank : ∀ value ∈ Text.chars run, isBlank value = true) (visible : isBlank mark.char = false)
    (written : Combinator.ofChar? mark.char = some combinator)
    (marked : Marked false (mark :: rest)) (implicit : Option Combinator) :
    ∃ gap after, readExplicit implicit (link (mark :: rest)) = (some combinator, link after) ∧
      run ++ mark :: rest = gap ++ after ∧ StandsFor combinator (Text.chars gap) ∧
        Marked false after := by
  have symbol : combinator.symbol = mark.char := by
    have found : (combinator.symbol == mark.char) = true :=
      List.find?_some (p := fun combinator : Combinator => combinator.symbol == mark.char) written
    exact beq_iff_eq.1 found
  have shown : combinator ≠ .descendant := by
    rintro rfl
    rw [← symbol] at visible
    cases visible
  have plain : mark.char ≠ escapeMark :=
    ne_escapeMark_of_mem_symbols (symbol ▸ symbol_mem_symbols combinator)
  refine ⟨run ++ mark :: rest.takeWhile (isBlank ·.char), rest.dropWhile (isBlank ·.char),
    ?_, ?_, ?_, (marked.tail plain).dropWhile⟩
  · rw [← afterBlanks_link, link_cons, readExplicit, written]
    cases combinator with
    | descendant => exact absurd rfl shown
    | _ => rfl
  · rw [List.append_assoc, List.cons_append, List.takeWhile_append_dropWhile]
  · rw [Text.chars, List.map_append, List.map_cons, ← symbol]
    exact .explicit shown blank fun value => isBlank_of_mem_takeWhile

/-- From a combinator character on, a gap and the combinator that it stands for are read. -/
theorem readLead_link {values : List Mark} (marked : Marked false values)
    (symbol : StartsAtSymbol values) :
    ∃ combinator gap after, readLead false (link values) = (some combinator, link after) ∧
      values = gap ++ after ∧ StandsFor combinator (Text.chars gap) ∧ Marked false after := by
  obtain ⟨first, rest, rfl, starts⟩ := symbol
  obtain ⟨joining, _, same⟩ := List.mem_map.1 starts
  have written : Combinator.ofChar? first.char = some joining := by
    rw [← same, Combinator.ofChar?_symbol]
  have lead : readLead false (link (first :: rest)) =
      readExplicit (some joining) (link ((first :: rest).dropWhile (isBlank ·.char))) := by
    rw [readLead, afterBlanks_link, link_cons]
    change readExplicit (some ((Combinator.ofChar? first.char).getD .descendant)) _ = _
    rw [written, Option.getD_some]
  rw [lead]
  cases blank : isBlank first.char with
  | false =>
    rw [List.dropWhile_cons_of_neg (by simp [blank])]
    have nothing : ∀ value ∈ Text.chars [], isBlank value = true := List.forall_mem_nil _
    obtain ⟨gap, after, found⟩ := readExplicit_link nothing blank written marked (some joining)
    exact ⟨joining, gap, after, found⟩
  | true =>
    -- the first character is the space, which an explicit combinator may follow
    have space : joining = .descendant := by
      cases joining with
      | descendant => rfl
      | _ => exact absurd (same ▸ blank) (by decide)
    have parts := List.takeWhile_append_dropWhile (p := fun mark : Mark => isBlank mark.char)
      (l := first :: rest)
    have run : StandsFor .descendant
        (Text.chars ((first :: rest).takeWhile (isBlank ·.char))) := by
      refine .blanks ?_ fun value => isBlank_of_mem_takeWhile
      rw [List.takeWhile_cons_of_pos (by exact blank)]
      exact List.cons_ne_nil _ _
    have behind := marked.dropWhile
    rw [space]
    cases body : (first :: rest).dropWhile (isBlank ·.char) with
    | nil =>
      rw [body] at parts
      exact ⟨.descendant, _, [], rfl, parts.symm, run, rfl⟩
    | cons mark later =>
      have visible : isBlank mark.char = false := by
        have first := List.head?_dropWhile_not (fun mark : Mark => isBlank mark.char) (first :: rest)
        rw [body] at first
        simpa using first
      rw [body] at parts behind
      cases explicit : Combinator.ofChar? mark.char with
      | none =>
        refine ⟨.descendant, _, mark :: later, ?_, parts.symm, run, behind⟩
        rw [link_cons, readExplicit, explicit]
      | some combinator =>
        obtain ⟨gap, after, read, split, found⟩ := readExplicit_link
          (fun value => isBlank_of_mem_takeWhile) visible explicit behind (some .descendant)
        exact ⟨combinator, gap, after, read, parts.symm.trans split, found⟩

/-- A round ends in a dangling combinator, or it takes a text that no combinator divides. Either
this is all that was left, or the next round starts at the combinator character behind it, at the
position that this character has. -/
theorem pieces_cases {first : Bool} {values body : List Mark} {combinator : Option Combinator}
    (lead : readLead first (link values) = (combinator, link body)) (marked : Marked false body)
    (position : Nat) :
    pieces first position (link values) = [.dangling position] ∨
      ∃ part later, Text.chars part ≠ [] ∧ Undivided (Text.chars part) ∧ body = part ++ later ∧
        (later = [] ∧ pieces first position (link values) = [.joined combinator (Text.chars part)] ∨
          StartsAtSymbol later ∧ Marked false later ∧
            pieces first position (link values) =
              .joined combinator (Text.chars part) ::
                pieces false (position + (values.length - later.length)) (link later)) := by
  have fits := readLead_length_le first (link values)
  rw [pieces_eq, lead]
  rw [lead, link_length, link_length] at fits
  cases body with
  | nil => exact Or.inl rfl
  | cons mark rest =>
    rw [link_cons]
    dsimp only
    cases found : findTarget Combinator.symbols
        (⟨mark, reachOf mark.char (link rest)⟩ :: link rest) with
    | none =>
      have whole : link (marks (Text.chars (mark :: rest))) = link (mark :: rest) :=
        congrArg link marked
      refine Or.inr ⟨mark :: rest, [], List.cons_ne_nil _ _, ?_,
        (List.append_nil _).symm, Or.inl ⟨rfl, ?_⟩⟩
      · rw [undivided_iff, whole]
        exact found
      · rw [← cellChars_link]
        rfl
    | some count =>
      cases count with
      | zero => exact Or.inl rfl
      | succ tail =>
        obtain ⟨later, stop, others, split, symbol⟩ := marked_drop_of_found marked found
        have parts := List.take_append_drop (tail + 1) (mark :: rest)
        have front : marks (Text.chars ((mark :: rest).take (tail + 1))) =
            (mark :: rest).take (tail + 1) := by
          rw [← parts] at marked
          exact marked.left
        rw [List.drop_succ_cons] at later split parts
        have behind : position + (values.length - (rest.length + 1)) + (tail + 1) =
            position + (values.length - (rest.drop tail).length) := by
          have left := congrArg List.length split
          rw [List.length_drop, List.length_cons] at left
          rw [List.length_cons] at fits
          rw [List.length_drop]
          omega
        refine Or.inr ⟨(mark :: rest).take (tail + 1), rest.drop tail,
          List.cons_ne_nil _ _, ?_, parts.symm, Or.inr ⟨⟨stop, others, split, symbol⟩, later, ?_⟩⟩
        · rw [undivided_iff, front]
          exact findTarget_link_take_of_found found
        · dsimp only
          rw [cellChars_take_link, link_drop, link_length, link_length, behind]
          rfl

/-! ## Splitting a pattern -/

/-- The text of parts, each a gap and what follows it. -/
def glue (parts : List (List Char × List Char)) : List Char :=
  parts.flatMap fun part => part.1 ++ part.2

/-- The first part comes first. -/
theorem glue_cons (part : List Char × List Char) (rest : List (List Char × List Char)) :
    glue (part :: rest) = part.1 ++ (part.2 ++ glue rest) := by
  rw [glue, List.flatMap_cons, List.append_assoc]
  rfl

/-- A gap and the text behind it are read as a combinator and a sequence. -/
def Follows (part : List Char × List Char) (pair : Combinator × Sequence) : Prop :=
  Joins part.1 pair.1 ∧ ReadsAs part.2 pair.2

/-- What is left behind a gap and a text that is not empty is shorter. -/
theorem length_lt_of_filled {gap part later : List Mark} (filled : Text.chars part ≠ []) :
    later.length < (gap ++ (part ++ later)).length := by
  have taken := List.length_pos_iff.2 filled
  rw [Text.chars, List.length_map] at taken
  rw [List.length_append, List.length_append]
  omega

/-- From a combinator character on, a pattern that is read consists of gaps and of the texts of the
sequences that are added to the chain. -/
theorem exists_parts_of_foldlM {values : List Mark} (marked : Marked false values)
    (symbol : StartsAtSymbol values) {position : Nat} {chain : Chain} {after : Selector}
    (read : (pieces false position (link values)).foldlM appendPiece (ofChain chain) =
      .ok after) :
    ∃ parts pairs, Text.chars values = glue parts ∧ List.Forall₂ Follows parts pairs ∧
      after = ofChain { chain with rest := chain.rest ++ pairs } := by
  -- what a round leaves is shorter than what it was given
  induction size : values.length using Nat.strongRecOn generalizing values position chain with
  | ind size hypothesis =>
    subst size
    obtain ⟨combinator, gap, body, lead, split, stands, bodyMarked⟩ := readLead_link marked symbol
    have joins := joins_of_standsFor symbol split stands
    rcases pieces_cases lead bodyMarked position with
      dangling | ⟨part, later, filled, undivided, parted, last | more⟩
    · rw [dangling] at read
      cases read
    · obtain ⟨rfl, single⟩ := last
      rw [single, List.foldlM_cons, bind_eq_ok_iff] at read
      obtain ⟨next, added, same⟩ := read
      obtain ⟨sequence, readText, rfl⟩ := (appendPiece_joined_iff _ _ _ _).1 added
      cases same
      refine ⟨[(Text.chars gap, Text.chars part)], [(combinator, sequence)], ?_,
        .cons ⟨joins, filled, undivided, readText⟩ .nil, rfl⟩
      rw [split, parted, chars_append, chars_append, glue_cons]
      rfl
    · obtain ⟨laterSymbol, laterMarked, rounds⟩ := more
      rw [rounds, List.foldlM_cons, bind_eq_ok_iff] at read
      obtain ⟨longer, added, rest⟩ := read
      obtain ⟨sequence, readText, rfl⟩ := (appendPiece_joined_iff _ _ _ _).1 added
      have shorter : later.length < values.length := by
        rw [split, parted]
        exact length_lt_of_filled filled
      obtain ⟨parts, pairs, whole, follow, rfl⟩ :=
        hypothesis _ shorter laterMarked laterSymbol rest rfl
      refine ⟨(Text.chars gap, Text.chars part) :: parts, (combinator, sequence) :: pairs, ?_,
        .cons ⟨joins, filled, undivided, readText⟩ follow, ?_⟩
      · rw [split, parted, chars_append, chars_append, whole, glue_cons]
      · simp

/-- At the start of a trimmed pattern only an explicit combinator can be read. -/
theorem readLead_first_visible {mark : Mark} (visible : isBlank mark.char = false)
    (rest : List Mark) :
    readLead true (link (mark :: rest)) = readExplicit none (link (mark :: rest)) := by
  rw [readLead, if_pos rfl, afterBlanks_link, List.dropWhile_cons_of_neg (by simp [visible])]

/-- At the start of a trimmed pattern no gap is read, unless there is a combinator that nothing
stands before. -/
theorem readLead_first_link {values : List Mark} (marked : Marked false values)
    (visible : ∀ mark ∈ values.head?, isBlank mark.char = false) :
    ∃ combinator body, readLead true (link values) = (combinator, link body) ∧
      Marked false body ∧ (combinator = none → body = values) := by
  cases values with
  | nil => exact ⟨none, [], rfl, rfl, fun _ => rfl⟩
  | cons mark rest =>
    rw [readLead_first_visible (visible mark rfl)]
    cases written : Combinator.ofChar? mark.char with
    | none =>
      refine ⟨none, mark :: rest, ?_, marked, fun _ => rfl⟩
      rw [link_cons, readExplicit, written]
    | some combinator =>
      have nothing : ∀ value ∈ Text.chars [], isBlank value = true := List.forall_mem_nil _
      obtain ⟨_, after, read, _, _, later⟩ :=
        readExplicit_link nothing (visible mark rfl) written marked none
      refine ⟨some combinator, after, read, later, fun none => ?_⟩
      cases none

/-- A pattern that is read is the text of the first sequence, and behind it the gaps and the texts
of the others. -/
theorem exists_parts_of_parse {pattern : List Char} {selector : Selector}
    (read : parse pattern = .ok selector) :
    ∃ chain first parts, selector = ofChain chain ∧
      cellChars (cellsOf pattern) = first ++ glue parts ∧ ReadsAs first chain.first ∧
        List.Forall₂ Follows parts chain.rest := by
  obtain ⟨combinator, body, lead, marked, whole⟩ :=
    readLead_first_link (marked_trimMarks pattern) (isBlank_head_trimMarks pattern)
  have rounds : (pieces true 0 (cellsOf pattern)).foldlM appendPiece empty = .ok selector := by
    rw [parse] at read
    split at read
    · cases read
    · rename_i cells
      rw [cells]
      exact read
  rw [cellsOf, cellChars_link]
  rw [cellsOf] at rounds
  rcases pieces_cases lead marked 0 with
    dangling | ⟨part, later, filled, undivided, parted, last | more⟩
  · rw [dangling] at rounds
    cases rounds
  · obtain ⟨rfl, single⟩ := last
    rw [single, List.foldlM_cons, bind_eq_ok_iff] at rounds
    obtain ⟨next, added, same⟩ := rounds
    obtain ⟨none, sequence, readText, rfl⟩ := (appendPiece_empty_iff _ _ _).1 added
    cases same
    refine ⟨⟨sequence, []⟩, Text.chars part, [], rfl, ?_, ⟨filled, undivided, readText⟩, .nil⟩
    rw [← whole none, parted, chars_append]
    rfl
  · obtain ⟨symbol, laterMarked, found⟩ := more
    rw [found, List.foldlM_cons, bind_eq_ok_iff] at rounds
    obtain ⟨start, added, rest⟩ := rounds
    obtain ⟨none, sequence, readText, rfl⟩ := (appendPiece_empty_iff _ _ _).1 added
    obtain ⟨parts, pairs, glued, follow, rfl⟩ :=
      exists_parts_of_foldlM laterMarked symbol rest
    refine ⟨⟨sequence, pairs⟩, Text.chars part, parts, rfl, ?_, ⟨filled, undivided, readText⟩,
      follow⟩
    rw [← whole none, parted, chars_append, glued]

end NodeQuery.Selector

namespace NodeQuery.Sequence

open Text Selector

/-! ## Rounds over a sequence -/

/-- What is left behind a token keeps its marks. -/
theorem marked_drop_tokenTail {first : Mark} {rest : List Mark}
    (marked : Marked false (first :: rest)) :
    Marked false (rest.drop (tokenTail ⟨first, reachOf first.char (link rest)⟩ (link rest))) := by
  have behind := (marked_cons_iff.1 marked).2
  have searched : ∀ targets, Marked false
      (rest.drop ((findTarget targets (link rest)).getD (link rest).length)) := by
    intro targets
    cases found : findTarget targets (link rest) with
    | none =>
      rw [Option.getD_none, link_length, List.drop_length]
      rfl
    | some count => exact (marked_drop_of_found behind found).1
  unfold tokenTail
  split
  · exact searched _
  · rename_i kind
    -- the token ends in a closing bracket, which escapes nothing
    have bracket : first.char = '[' := Simple.eq_of_kindOf? kind (by decide)
    have reach : reachOf first.char (link rest) = (findTarget [']'] (link rest)).map (· + 1) := by
      rw [bracket]
      rfl
    dsimp only
    rw [reach]
    cases found : findTarget [']'] (link rest) with
    | none =>
      rw [Option.map_none, Option.getD_none, link_length, List.drop_length]
      rfl
    | some count =>
      obtain ⟨later, mark, others, split, closer⟩ := marked_drop_of_found behind found
      have next : rest.drop (count + 1) = others := by
        rw [← List.drop_drop, split]
        rfl
      rw [Option.map_some, Option.getD_some, next]
      rw [split] at later
      exact later.tail (List.mem_singleton.1 closer ▸ by decide)
  · exact searched _

/-- A text that does not end in an unescaped blank is the tokens that are read from it, with blanks
before each. -/
theorem exists_parts_of_tokens {values : List Mark} (marked : Marked false values)
    (firm : ∀ mark ∈ values.getLast?, mark.isLooseBlank = false) :
    ∃ parts, Text.chars values = glue parts ∧ tokens (link values) = parts.map Prod.snd ∧
      ∀ part ∈ parts, (∀ value ∈ part.1, isBlank value = true) ∧ part.2 ≠ [] := by
  -- what a token leaves is shorter than what it was read from
  induction size : values.length using Nat.strongRecOn generalizing values with
  | ind size hypothesis =>
    subst size
    have split := List.takeWhile_append_dropWhile (p := fun mark : Mark => isBlank mark.char)
      (l := values)
    have behind := marked.dropWhile
    rw [tokens_eq, afterBlanks_link]
    cases body : values.dropWhile (isBlank ·.char) with
    | nil =>
      rw [body, List.append_nil] at split
      have blank : ∀ value ∈ Text.chars values, isBlank value = true := fun value member =>
        isBlank_of_mem_takeWhile (split.symm ▸ member)
      have loose : ∀ mark ∈ values, mark.isLooseBlank = true := by
        intro mark member
        rw [← show marks (Text.chars values) = values from marked] at member
        exact isLooseBlank_of_mem_marks blank member
      cases last : values.getLast? with
      | none =>
        rw [List.getLast?_eq_none_iff.1 last]
        exact ⟨[], rfl, rfl, List.forall_mem_nil _⟩
      | some mark =>
        have visible := firm mark last
        rw [loose mark (List.mem_of_getLast? last)] at visible
        cases visible
    | cons first rest =>
      rw [body] at split behind
      have later := marked_drop_tokenTail behind
      rw [link_cons]
      dsimp only
      generalize tokenTail ⟨first, reachOf first.char (link rest)⟩ (link rest) = tail at later ⊢
      have fewer : (rest.drop tail).length < values.length := by
        rw [← split, List.length_append, List.length_drop, List.length_cons]
        omega
      have parted : values = (values.takeWhile (isBlank ·.char) ++ first :: rest.take tail) ++
          rest.drop tail := by
        rw [List.append_assoc, List.cons_append, List.take_append_drop, split]
      have stays : ∀ mark ∈ (rest.drop tail).getLast?, mark.isLooseBlank = false := by
        intro mark last
        refine firm mark ?_
        rw [parted, List.getLast?_append, Option.mem_def.1 last]
        rfl
      obtain ⟨parts, whole, read, each⟩ := hypothesis _ fewer later stays rfl
      refine ⟨(Text.chars (values.takeWhile (isBlank ·.char)),
        Text.chars (first :: rest.take tail)) :: parts, ?_, ?_, ?_⟩
      · rw [glue_cons, ← whole, ← List.append_assoc, ← chars_append, ← chars_append, ← parted]
      · rw [List.map_cons, ← read, link_drop, cellChars_take_link]
        rfl
      · exact List.forall_mem_cons.2 ⟨⟨fun value => isBlank_of_mem_takeWhile, List.cons_ne_nil _ _⟩,
          each⟩

/-- The text of a sequence that is read is its tokens, one for each item, with blanks between
them. -/
theorem exists_parts_of_parse {pattern : List Char} {sequence : Sequence}
    (read : parse pattern = .ok sequence) :
    ∃ parts, cellChars (cellsOf pattern) = glue parts ∧
      tokens (cellsOf pattern) = parts.map Prod.snd ∧
      (∀ part ∈ parts.head?, part.1 = []) ∧
      (∀ part ∈ parts, (∀ value ∈ part.1, isBlank value = true) ∧ part.2 ≠ []) ∧
      List.Forall₂ (fun part item => Simple.parse part.2 = .ok item) parts sequence.items := by
  obtain ⟨parts, whole, split, each⟩ := exists_parts_of_tokens (marked_trimMarks pattern)
    (isLooseBlank_getLast?_trimMarks pattern)
  rw [parse, foldlM_appendToken_iff, cellsOf, split] at read
  obtain ⟨items, parsed, added⟩ := read
  obtain ⟨rfl, _⟩ := (ofItems_eq_ok_iff items sequence).1 added
  rw [cellsOf, cellChars_link]
  refine ⟨parts, whole, split, ?_, each, ?_⟩
  · intro part first
    cases parts with
    | nil => cases first
    | cons _ others =>
      cases first
      cases gap : part.1 with
      | nil => rfl
      | cons head tail =>
        -- a trimmed text does not start with a blank
        have blank := (each part List.mem_cons_self).1 head (gap ▸ List.mem_cons_self)
        rw [glue_cons, gap] at whole
        cases start : trimMarks (marks pattern) with
        | nil =>
          rw [start] at whole
          cases whole
        | cons mark rest =>
          have visible := isBlank_head_trimMarks pattern mark (start ▸ rfl)
          rw [start] at whole
          obtain ⟨rfl, _⟩ := List.cons.inj whole
          rw [blank] at visible
          cases visible
  · rw [List.map_map] at parsed
    have same : List.Forall₂ (· = ·) (parts.map (Simple.parse ∘ Prod.snd)) (items.map .ok) := by
      rw [parsed]
      exact List.forall₂_refl _
    rw [List.forall₂_map_left_iff, List.forall₂_map_right_iff] at same
    exact same

/-- A token is followed by those of a shorter end of the text. -/
theorem tokens_round (cells : List Cell) :
    tokens cells = [] ∨ ∃ token rest, tokens cells = token :: tokens rest ∧ rest <:+ cells ∧
      rest.length < cells.length := by
  rw [tokens_eq]
  have suffix : afterBlanks cells <:+ cells := List.dropWhile_suffix _
  cases body : afterBlanks cells with
  | nil => exact Or.inl rfl
  | cons first rest =>
    rw [body] at suffix
    have shorter := suffix.length_le
    rw [List.length_cons] at shorter
    refine Or.inr ⟨_, rest.drop (tokenTail first rest), rfl,
      ((List.drop_suffix _ rest).trans (List.suffix_cons first rest)).trans suffix, ?_⟩
    rw [List.length_drop]
    omega

end NodeQuery.Sequence

namespace NodeQuery.Selector

open Text

/-! ## The split -/

/-- What an explicit combinator leaves is an end of the text. -/
theorem readExplicit_suffix (implicit : Option Combinator) (cells : List Cell) :
    (readExplicit implicit cells).2 <:+ cells := by
  cases cells with
  | nil => exact List.suffix_refl _
  | cons cell rest =>
    have behind : afterBlanks rest <:+ rest := List.dropWhile_suffix _
    rw [readExplicit]
    split
    · exact List.suffix_refl _
    · exact List.suffix_refl _
    · exact behind.trans (List.suffix_cons cell rest)

/-- What stands before a sequence leaves an end of the text. -/
theorem readLead_suffix (first : Bool) (cells : List Cell) : (readLead first cells).2 <:+ cells :=
  (readExplicit_suffix _ _).trans (List.dropWhile_suffix _)

/-- A piece is the last one, or it is followed by those of a shorter end of the text. -/
theorem pieces_round (first : Bool) (position : Nat) (cells : List Cell) :
    ∃ piece later, pieces first position cells = piece :: later ∧
      (later = [] ∨ ∃ next rest, later = pieces false next rest ∧ rest <:+ cells ∧
        rest.length < cells.length) := by
  have suffix := readLead_suffix first cells
  rw [pieces_eq]
  cases body : (readLead first cells).2 with
  | nil => exact ⟨_, [], rfl, Or.inl rfl⟩
  | cons head rest =>
    rw [body] at suffix
    have shorter := suffix.length_le
    rw [List.length_cons] at shorter
    dsimp only
    split
    · exact ⟨_, [], rfl, Or.inl rfl⟩
    · exact ⟨_, [], rfl, Or.inl rfl⟩
    · rename_i tail _
      refine ⟨_, _, rfl, Or.inr ⟨_, rest.drop tail, rfl,
        ((List.drop_suffix _ rest).trans (List.suffix_cons head rest)).trans suffix, ?_⟩⟩
      rw [List.length_drop]
      omega

/-- A pattern that is read is, less the blanks around it, the text of its first sequence and then
for each later one a gap and a text. Each text is not empty, is read as its sequence on its own and
has no combinator character that is neither escaped nor hidden; each gap starts with a combinator
character and stands for the combinator of the sequence behind it. A text that is read as a
sequence is, less the blanks around it, its tokens with blanks between them, and each item is read
from its token. A round of either loop leaves a shorter end of its text to the next one. -/
theorem parse_splits :
    (∀ pattern selector, parse pattern = .ok selector →
      ∃ chain first parts, selector = ofChain chain ∧ selector.length = parts.length + 1 ∧
        cellChars (cellsOf pattern) = first ++ glue parts ∧ ReadsAs first chain.first ∧
        List.Forall₂ Follows parts chain.rest) ∧
    (∀ pattern sequence, Sequence.parse pattern = .ok sequence →
      ∃ parts, cellChars (cellsOf pattern) = glue parts ∧
        Sequence.tokens (cellsOf pattern) = parts.map Prod.snd ∧
        (∀ part ∈ parts.head?, part.1 = []) ∧
        (∀ part ∈ parts, (∀ value ∈ part.1, isBlank value = true) ∧ part.2 ≠ []) ∧
        List.Forall₂ (fun part item => Simple.parse part.2 = .ok item) parts sequence.items) ∧
    (∀ pattern, ∃ leading trailing,
      pattern = leading ++ (cellChars (cellsOf pattern) ++ trailing) ∧
        (∀ value ∈ leading, isBlank value = true) ∧ ∀ value ∈ trailing, isBlank value = true) ∧
    (∀ first position cells, ∃ piece later, pieces first position cells = piece :: later ∧
      (later = [] ∨ ∃ next rest, later = pieces false next rest ∧ rest <:+ cells ∧
        rest.length < cells.length)) ∧
    ∀ cells, Sequence.tokens cells = [] ∨ ∃ token rest,
      Sequence.tokens cells = token :: Sequence.tokens rest ∧ rest <:+ cells ∧
        rest.length < cells.length := by
  refine ⟨fun pattern selector read => ?_, fun pattern sequence => Sequence.exists_parts_of_parse,
    exists_blanks_around, pieces_round, Sequence.tokens_round⟩
  obtain ⟨chain, first, parts, rfl, whole, starts, follow⟩ := exists_parts_of_parse read
  refine ⟨chain, first, parts, rfl, ?_, whole, starts, follow⟩
  rw [length_ofChain, follow.length_eq]

/-- The quoted text hides a combinator, so that two sequences are read; the blanks on both sides of
the one between them belong to its gap. -/
theorem parse_splits_quotedChild :
    ∃ selector, parse "\t.news.top  > [title = '> a'] ".toList = .ok selector ∧
      selector.length = 2 ∧ ∃ first gap text,
        ".news.top  > [title = '> a']".toList = first ++ (gap ++ text) ∧
          ReadsAs first ⟨[.className "news", .className "top"]⟩ ∧ Joins gap .child ∧
          ReadsAs text ⟨[.attributeTest ⟨"title", some .equals, .text "> a"⟩]⟩ := by
  have read : parse "\t.news.top  > [title = '> a'] ".toList =
      .ok (ofChain ⟨⟨[.className "news", .className "top"]⟩,
        [(.child, ⟨[.attributeTest ⟨"title", some .equals, .text "> a"⟩]⟩)]⟩) := by cbv
  refine ⟨_, read, rfl, ?_⟩
  obtain ⟨chain, first, parts, same, _, whole, starts, follow⟩ := parse_splits.1 _ _ read
  have found := congrArg chain? same
  rw [chain?_ofChain, chain?_ofChain] at found
  obtain rfl := Option.some.inj found
  obtain ⟨⟨gap, text⟩, others, ⟨joins, readText⟩, rest, rfl⟩ := List.forall₂_cons_right_iff.1 follow
  obtain rfl := List.forall₂_nil_right_iff.1 rest
  have trimmed : cellChars (cellsOf "\t.news.top  > [title = '> a'] ".toList) =
      ".news.top  > [title = '> a']".toList := by cbv
  rw [trimmed, glue_cons, glue, List.flatMap_nil, List.append_nil] at whole
  exact ⟨first, gap, text, whole, starts, joins, readText⟩

end NodeQuery.Selector
