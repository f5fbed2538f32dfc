import NodeQuery.Proofs.Selector.Chain
import NodeQuery.Proofs.Selector.Cutting
import NodeQuery.Proofs.Selector.Shape

/-!
# Canonical texts of selectors

The text of a chain has the symbols of its combinators as gaps. So it is cut into the texts of its
sequences, and what is read from it is the chain of what is read from these texts. Whatever is
read is the selector of a chain of sequences that the canonical texts are made for.

Main statements: `parse_chars_eq_ok_iff`, `shaped_of_parse` and `reachable_of_parse`.
-/

namespace NodeQuery.Selector

open Text

/-! ## Texts of chains -/

/-- The gaps of a canonical text: the symbols of the combinators. -/
def symbolGaps (rest : List (Combinator × Sequence)) : List (List Char) :=
  rest.map fun pair => [pair.1.symbol]

/-- The text of a chain's selector. -/
theorem chars_ofChain (chain : Chain) :
    (ofChain chain).chars = spacedChars chain.first.chars chain.rest (symbolGaps chain.rest) := by
  obtain ⟨first, rest⟩ := chain
  have all : ∀ index, (Chain.nodesFrom index first rest).flatMap (fun node =>
      node.sequence.chars ++ (node.combinator.map Combinator.symbol).toList) =
        spacedChars first.chars rest (symbolGaps rest) := by
    induction rest generalizing first with
    | nil =>
      intro index
      simp [Chain.nodesFrom, spacedChars]
    | cons pair rest hypothesis =>
      intro index
      rw [Chain.nodesFrom, List.flatMap_cons, hypothesis pair.2 (index + 1), List.append_assoc]
      rfl
  exact all 0

/-- The symbols of the combinators stand for them. -/
theorem standing_symbolGaps (rest : List (Combinator × Sequence)) :
    List.Forall₂ StandsFor (rest.map Prod.fst) (symbolGaps rest) := by
  rw [symbolGaps, List.forall₂_map_left_iff, List.forall₂_map_right_iff, List.forall₂_same]
  exact fun pair _ => standsFor_symbol pair.1

/-- The piece of a later sequence. -/
def pieceOf (pair : Combinator × Sequence) : Piece := .joined (some pair.1) pair.2.chars

/-- A canonical text is cut into the texts of its sequences. -/
theorem cut_symbolGaps (combinator : Option Combinator) (front : List Char)
    (rest : List (Combinator × Sequence)) :
    cut combinator front rest (symbolGaps rest) =
      .joined combinator front :: rest.map pieceOf := by
  have alone : ∀ joining : Combinator,
      divides [joining.symbol] = true ∧ beforeSymbol [joining.symbol] = [] := by
    intro joining
    cases joining <;> decide
  induction rest generalizing combinator front with
  | nil => rfl
  | cons pair rest hypothesis =>
    obtain ⟨divided, nothing⟩ := alone pair.1
    have later := hypothesis (some pair.1) pair.2.chars
    rw [symbolGaps] at later ⊢
    rw [List.map_cons, cut, if_pos divided, nothing, List.append_nil, later]
    rfl

/-- A canonical text is read sequence by sequence. -/
theorem parse_chars_ofChain_eq {chain : Chain}
    (shaped : ∀ sequence ∈ chain.sequences, sequence.Shaped) :
    parse (ofChain chain).chars =
      (.joined none chain.first.chars :: chain.rest.map pieceOf).foldlM appendPiece empty := by
  have read := parse_spacedChars shaped (standing_symbolGaps chain.rest) (List.forall_mem_nil _)
    (List.forall_mem_nil _)
  rw [List.nil_append, List.append_nil, cut_symbolGaps] at read
  rw [chars_ofChain, read]

/-! ## Reading chains -/

/-- A piece is added to a chain if and only if it has a combinator and a sequence is read from
it. -/
theorem appendPiece_joined_iff (chain : Chain) (combinator : Combinator) (text : List Char)
    (next : Selector) :
    appendPiece (ofChain chain) (.joined (some combinator) text) = .ok next ↔
      ∃ sequence, Sequence.parse text = .ok sequence ∧
        next = ofChain { chain with rest := chain.rest ++ [(combinator, sequence)] } := by
  rw [appendPiece, bind_eq_ok_iff]
  simp only [mapError_eq_ok_iff, append_ofChain, Except.ok.injEq]
  constructor <;> rintro ⟨sequence, read, same⟩ <;> exact ⟨sequence, read, same.symm⟩

/-- A first piece is added if and only if it has no combinator and a sequence is read from it. -/
theorem appendPiece_empty_iff (combinator : Option Combinator) (text : List Char)
    (next : Selector) :
    appendPiece empty (.joined combinator text) = .ok next ↔
      combinator = none ∧
        ∃ sequence, Sequence.parse text = .ok sequence ∧ next = ofChain ⟨sequence, []⟩ := by
  rw [appendPiece, bind_eq_ok_iff]
  simp only [mapError_eq_ok_iff, append_empty]
  cases combinator with
  | none =>
    simp only [Except.ok.injEq, true_and]
    constructor <;> rintro ⟨sequence, read, same⟩ <;> exact ⟨sequence, read, same.symm⟩
  | some combinator => simp

/-- A piece is added to a chain exactly if it is one of a later sequence that is read. -/
theorem appendPiece_ofChain_eq_ok_iff (chain : Chain) (pair : Combinator × Sequence)
    (next : Selector) :
    appendPiece (ofChain chain) (pieceOf pair) = .ok next ↔
      ∃ sequence, Sequence.parse pair.2.chars = .ok sequence ∧
        next = ofChain { chain with rest := chain.rest ++ [(pair.1, sequence)] } :=
  appendPiece_joined_iff chain pair.1 pair.2.chars next

/-- Pieces are added to a chain exactly if each of them is read. -/
theorem foldlM_appendPiece_iff (chain : Chain) (rest : List (Combinator × Sequence))
    (after : Selector) :
    (rest.map pieceOf).foldlM appendPiece (ofChain chain) = .ok after ↔
      ∃ others : List Sequence, rest.map (Sequence.parse ·.2.chars) = others.map .ok ∧
        after = ofChain { chain with rest := chain.rest ++ (rest.map Prod.fst).zip others } := by
  induction rest generalizing chain with
  | nil =>
    constructor
    · intro same
      cases same
      exact ⟨[], rfl, by simp⟩
    · rintro ⟨others, read, rfl⟩
      obtain rfl : others = [] := List.map_eq_nil_iff.1 read.symm
      rw [List.map_nil, List.map_nil, List.zip_nil_left, List.append_nil]
      rfl
  | cons pair rest hypothesis =>
    rw [List.map_cons, List.foldlM_cons, bind_eq_ok_iff]
    constructor
    · rintro ⟨next, added, later⟩
      obtain ⟨sequence, read, rfl⟩ := (appendPiece_ofChain_eq_ok_iff chain pair next).1 added
      obtain ⟨others, readLater, rfl⟩ := (hypothesis _).1 later
      refine ⟨sequence :: others, by rw [List.map_cons, read, readLater, List.map_cons], ?_⟩
      simp
    · rintro ⟨others, read, rfl⟩
      cases others with
      | nil => cases read
      | cons sequence others =>
        obtain ⟨first, readLater⟩ := List.cons.inj read
        refine ⟨_, (appendPiece_ofChain_eq_ok_iff chain pair _).2 ⟨sequence, first, rfl⟩,
          (hypothesis _).2 ⟨others, readLater, ?_⟩⟩
        simp

/-- What is read from the text of a chain is the chain of what is read from the texts of its
sequences. -/
theorem parse_chars_eq_ok_iff {chain : Chain}
    (shaped : ∀ sequence ∈ chain.sequences, sequence.Shaped) (again : Selector) :
    parse (ofChain chain).chars = .ok again ↔
      ∃ (first : Sequence) (others : List Sequence),
        Sequence.parse chain.first.chars = .ok first ∧
        chain.rest.map (Sequence.parse ·.2.chars) = others.map .ok ∧
        again = ofChain ⟨first, (chain.rest.map Prod.fst).zip others⟩ := by
  rw [parse_chars_ofChain_eq shaped, List.foldlM_cons, bind_eq_ok_iff]
  constructor
  · rintro ⟨next, added, later⟩
    rw [appendPiece, bind_eq_ok_iff] at added
    obtain ⟨first, read, appended⟩ := added
    rw [mapError_eq_ok_iff, append_empty] at appended
    cases appended
    obtain ⟨others, readLater, rfl⟩ := (foldlM_appendPiece_iff _ chain.rest again).1 later
    exact ⟨first, others, read, readLater, by simp⟩
  · rintro ⟨first, others, read, readLater, rfl⟩
    refine ⟨ofChain ⟨first, []⟩, ?_, (foldlM_appendPiece_iff _ chain.rest _).2
      ⟨others, readLater, by simp⟩⟩
    rw [appendPiece, bind_eq_ok_iff]
    exact ⟨first, read, by rw [mapError_eq_ok_iff, append_empty]⟩

/-! ## What a reading yields -/

/-- A piece with a text that does not start with a blank. -/
def Piece.StartsVisible : Piece → Prop
  | .joined _ text => ∃ head rest, text = head :: rest ∧ isBlank head = false
  | .dangling _ => True

/-- What is left behind blanks does not start with one. -/
theorem isBlank_of_afterBlanks {cells rest : List Cell} {cell : Cell}
    (start : afterBlanks cells = cell :: rest) : isBlank cell.char = false := by
  have first := List.head?_dropWhile_not (fun cell : Cell => isBlank cell.char) cells
  rw [afterBlanks] at start
  rw [start] at first
  simpa using first

/-- What is left behind a combinator does not start with a blank. -/
theorem isBlank_of_readLead {first : Bool} {cells rest : List Cell} {cell : Cell}
    (lead : (readLead first cells).2 = cell :: rest) : isBlank cell.char = false := by
  rw [readLead] at lead
  unfold readExplicit at lead
  split at lead
  · cases lead
  · rename_i start
    split at lead
    · exact isBlank_of_afterBlanks (start.trans lead)
    · exact isBlank_of_afterBlanks (start.trans lead)
    · exact isBlank_of_afterBlanks lead

/-- No piece has a text that starts with a blank. -/
theorem startsVisible_of_mem_pieces {first : Bool} {position : Nat} {cells : List Cell}
    {piece : Piece} (member : piece ∈ pieces first position cells) : piece.StartsVisible := by
  -- each round leaves fewer cells than it was given
  induction size : cells.length using Nat.strongRecOn generalizing first position cells with
  | ind size hypothesis =>
    subst size
    have bound := readLead_length_le first cells
    rw [pieces_eq] at member
    split at member
    · obtain rfl := List.mem_singleton.1 member
      trivial
    · rename_i head rest body
      have visible := isBlank_of_readLead body
      rw [body, List.length_cons] at bound
      split at member
      · obtain rfl := List.mem_singleton.1 member
        exact ⟨head.char, cellChars rest, rfl, visible⟩
      · obtain rfl := List.mem_singleton.1 member
        trivial
      · rename_i tail _
        rcases List.mem_cons.1 member with rfl | later
        · exact ⟨head.char, cellChars (rest.take tail), rfl, visible⟩
        · have fewer : (rest.drop tail).length < cells.length := by
            rw [List.length_drop]
            omega
          exact hypothesis _ fewer later rfl

/-- A selector of a chain of sequences that the canonical texts are made for. -/
def Shaped (selector : Selector) : Prop :=
  ∃ chain, selector = ofChain chain ∧ ∀ sequence ∈ chain.sequences, sequence.Shaped

/-- A piece is added as a sequence that the canonical texts are made for, at the end of a chain
of such sequences or as the first one. -/
theorem shaped_of_appendPiece {before after : Selector} {piece : Piece}
    (shaped : before = Selector.empty ∨ before.Shaped) (visible : piece.StartsVisible)
    (added : appendPiece before piece = .ok after) : after.Shaped := by
  cases piece with
  | dangling position => cases added
  | joined combinator text =>
    obtain ⟨head, rest, rfl, headVisible⟩ := visible
    rw [appendPiece, bind_eq_ok_iff] at added
    obtain ⟨sequence, read, appended⟩ := added
    rw [mapError_eq_ok_iff] at appended
    have sequenceShaped := Sequence.shaped_of_parse headVisible read
    rcases shaped with rfl | ⟨chain, rfl, all⟩
    · rw [append_empty] at appended
      cases combinator with
      | some combinator => cases appended
      | none =>
        cases appended
        refine ⟨⟨sequence, []⟩, rfl, fun other member => ?_⟩
        obtain rfl := List.mem_singleton.1 member
        exact sequenceShaped
    · rw [append_ofChain] at appended
      cases combinator with
      | none => cases appended
      | some combinator =>
        cases appended
        refine ⟨_, rfl, fun other member => ?_⟩
        have split : other ∈ chain.sequences ∨ other = sequence := by
          simpa [Chain.sequences, or_assoc] using member
        rcases split with inside | rfl
        · exact all other inside
        · exact sequenceShaped

/-- Pieces are added as sequences that the canonical texts are made for. -/
theorem shaped_of_foldlM_appendPiece {texts : List Piece} {before after : Selector}
    (shaped : before.Shaped) (visible : ∀ piece ∈ texts, piece.StartsVisible)
    (read : texts.foldlM appendPiece before = .ok after) : after.Shaped := by
  induction texts generalizing before with
  | nil =>
    cases read
    exact shaped
  | cons piece rest hypothesis =>
    rw [List.foldlM_cons, bind_eq_ok_iff] at read
    obtain ⟨next, added, later⟩ := read
    have nextShaped :=
      shaped_of_appendPiece (Or.inr shaped) (visible piece (List.mem_cons_self ..)) added
    exact hypothesis nextShaped (fun other member => visible other (List.mem_cons_of_mem _ member))
      later

/-- There is always a piece. -/
theorem pieces_ne_nil (first : Bool) (position : Nat) (cells : List Cell) :
    pieces first position cells ≠ [] := by
  rw [pieces_eq]
  split
  · simp
  · split <;> simp

/-- A selector that is read is the selector of a chain of sequences that the canonical texts are
made for. -/
theorem shaped_of_parse {pattern : List Char} {selector : Selector}
    (read : parse pattern = .ok selector) : selector.Shaped := by
  rw [parse] at read
  split at read
  · cases read
  · rename_i cell cells _
    have visible : ∀ piece ∈ pieces true 0 (cell :: cells), piece.StartsVisible :=
      fun piece member => startsVisible_of_mem_pieces member
    obtain ⟨piece, rest, split⟩ := List.exists_cons_of_ne_nil (pieces_ne_nil true 0 (cell :: cells))
    rw [split] at read visible
    rw [List.foldlM_cons, bind_eq_ok_iff] at read
    obtain ⟨next, added, later⟩ := read
    have nextShaped :=
      shaped_of_appendPiece (Or.inl rfl) (visible piece (List.mem_cons_self ..)) added
    exact shaped_of_foldlM_appendPiece nextShaped
      (fun other member => visible other (List.mem_cons_of_mem _ member)) later

/-- Adding pieces keeps to selectors that can be reached. -/
theorem reachable_of_foldlM_appendPiece {texts : List Piece} {before after : Selector}
    (reachable : Reachable before) (read : texts.foldlM appendPiece before = .ok after) :
    Reachable after := by
  induction texts generalizing before with
  | nil =>
    cases read
    exact reachable
  | cons piece rest hypothesis =>
    rw [List.foldlM_cons, bind_eq_ok_iff] at read
    obtain ⟨next, added, later⟩ := read
    cases piece with
    | dangling position => cases added
    | joined combinator text =>
      rw [appendPiece, bind_eq_ok_iff] at added
      obtain ⟨sequence, _, appended⟩ := added
      exact hypothesis (reachable.append (mapError_eq_ok_iff.1 appended)) later

/-- A selector that is read can be reached. -/
theorem reachable_of_parse {pattern : List Char} {selector : Selector}
    (read : parse pattern = .ok selector) : Reachable selector := by
  rw [parse] at read
  split at read
  · cases read
  · exact reachable_of_foldlM_appendPiece .empty read

end NodeQuery.Selector
