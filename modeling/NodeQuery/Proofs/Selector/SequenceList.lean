import Mathlib.Data.List.Basic
import NodeQuery.Proofs.Selector.Chain
import NodeQuery.Selector.Reader

/-!
# Selectors as plain lists

A selector stands for a list of sequences and a list of the combinators between them. The links
in its nodes say nothing more: each sequence is linked to those at the indices before and after
it, and each operation on the nodes is the one on the two lists that does not know of links.

Main statements: `represents_toSelector`, `agrees_toSelector` and, for the operations,
`append_toSelector`, `pop_toSelector`, `shift_toSelector`, `modify_toSelector` and
`parse_toSelector`.
-/

namespace NodeQuery

open Selector (Link)

/-- A list of sequences with a combinator between each two neighbours. -/
@[ext]
structure SequenceList where
  /-- The sequences from first to last. -/
  sequences : List Sequence
  /-- The combinators, each between the sequence of the same index and the next one. -/
  combinators : List Combinator
  /-- There is one combinator less than there are sequences. -/
  between : combinators.length = sequences.length - 1

namespace SequenceList

/-! ## Operations -/

/-- The list to start from. -/
def empty : SequenceList := ⟨[], [], rfl⟩

/-- Behind a sequence there can be one more combinator and one more sequence. -/
theorem between_concat (list : SequenceList) (filled : ¬ list.sequences.isEmpty = true)
    (sequence : Sequence) (combinator : Combinator) :
    (list.combinators ++ [combinator]).length = (list.sequences ++ [sequence]).length - 1 := by
  have positive : 0 < list.sequences.length :=
    List.length_pos_iff.2 fun absent => filled (List.isEmpty_iff.2 absent)
  rw [List.length_append, List.length_append, list.between]
  exact (Nat.sub_add_comm positive).symm

/-- Adds a sequence at the end, and the combinator before it unless it is the first one. -/
def append (list : SequenceList) (sequence : Sequence) (combinator : Option Combinator) :
    Except StructureError SequenceList :=
  if start : list.sequences.isEmpty then
    match combinator with
    | none => .ok ⟨[sequence], [], rfl⟩
    | some _ => .error .combinatorOnFirstSequence
  else
    match combinator with
    | none => .error .missingCombinator
    | some combinator =>
      .ok ⟨list.sequences ++ [sequence], list.combinators ++ [combinator],
        list.between_concat start sequence combinator⟩

/-- Removes the last sequence and the combinator before it. -/
def pop (list : SequenceList) : Option Sequence × SequenceList :=
  (list.sequences.getLast?, ⟨list.sequences.dropLast, list.combinators.dropLast, by
    rw [List.length_dropLast, List.length_dropLast, list.between]⟩)

/-- Removes the first sequence and the combinator after it. -/
def shift (list : SequenceList) : Option Sequence × SequenceList :=
  (list.sequences.head?, ⟨list.sequences.tail, list.combinators.tail, by
    rw [List.length_tail, List.length_tail, list.between]⟩)

/-- Replaces the sequence at an index by what an edit makes of it. -/
def modify (list : SequenceList) (index : Nat) (edit : Sequence → Sequence) : SequenceList :=
  ⟨list.sequences.modify index edit, list.combinators, by rw [List.length_modify, list.between]⟩

/-- Adds the sequence of a piece of a pattern. -/
def appendPiece (list : SequenceList) : Selector.Piece → Except ParseError SequenceList
  | .dangling position => .error (.danglingCombinator position)
  | .joined combinator text => do
    let sequence ← Sequence.parse text
    (list.append sequence combinator).mapError ParseError.structural

/-- Reads a list of sequences: those of the pieces of the pattern, added one by one. -/
def parse (pattern : List Char) : Except ParseError SequenceList :=
  match Text.cellsOf pattern with
  | [] => .error .emptyPattern
  | cells@(_ :: _) => (Selector.pieces true 0 cells).foldlM appendPiece empty

/-- Equality up to numerical equality of floating point numbers. -/
def agrees (left right : SequenceList) : Bool :=
  left.sequences.length == right.sequences.length &&
    (left.sequences.zip right.sequences).all (fun (one, other) => one.agrees other) &&
    left.combinators == right.combinators

/-- Sequences and combinators by turns. -/
def interleave : List Sequence → List Combinator → List Link
  | [], _ => []
  | first :: rest, [] => .sequence first :: interleave rest []
  | first :: rest, combinator :: others =>
    .sequence first :: .combinator combinator :: interleave rest others

/-- The sequences with the combinators between them. -/
def links (list : SequenceList) : List Link := interleave list.sequences list.combinators

end SequenceList

/-- The text of a sequence or a combinator. -/
def Selector.Link.chars : Link → List Char
  | .sequence written => written.chars
  | .combinator joining => [joining.symbol]

/-- The text of a selector is that of its walk. -/
theorem Selector.chars_eq_links (selector : Selector) :
    selector.chars = selector.links.flatMap Link.chars := by
  rw [chars, links, List.flatMap_assoc]
  refine List.flatMap_congr fun node _ => ?_
  cases node.combinator <;> simp [Link.chars]

/-! ## The list behind a selector -/

/-- A selector is a list of sequences in every respect: each sequence is linked to its neighbours
in the list, by the combinators of the list, and walks and prints as the list does. -/
structure Selector.Represents (selector : Selector) (list : SequenceList) : Prop where
  /-- There are as many sequences as in the list. -/
  length : selector.length = list.sequences.length
  /-- At each index there is the sequence of the list. -/
  sequence? : ∀ index, selector.sequence? index = list.sequences[index]?
  /-- Before each sequence is the one with the index before, and none before the first. -/
  parent? : ∀ index, selector.parent? index =
    if index < list.sequences.length then Chain.indexBefore index else none
  /-- After each sequence is the one with the index after, and none after the last. -/
  child? : ∀ index, selector.child? index =
    if index + 1 < list.sequences.length then some (index + 1) else none
  /-- After each sequence is the combinator of the list. -/
  combinator? : ∀ index, selector.combinator? index = list.combinators[index]?
  /-- There is a combinator after each sequence but the last. -/
  isSome_combinator? : ∀ index,
    (selector.combinator? index).isSome = true ↔ index + 1 < list.sequences.length
  /-- A walk alternates between the sequences and the combinators. -/
  links : selector.links = list.links
  /-- The text is made of those of the sequences and the combinators in turn. -/
  chars : selector.chars = list.links.flatMap Link.chars

namespace SequenceList

/-- The list of a chain. -/
def ofChain (chain : Chain) : SequenceList :=
  ⟨chain.sequences, chain.rest.map Prod.fst, by simp [Chain.sequences]⟩

/-- The selector that a list stands for. -/
def toSelector (list : SequenceList) : Selector :=
  match list.sequences with
  | [] => .empty
  | first :: rest => .ofChain ⟨first, list.combinators.zip rest⟩

/-- The list of a chain stands for the chain's selector. -/
theorem toSelector_ofChain (chain : Chain) : (ofChain chain).toSelector = .ofChain chain := by
  simp only [toSelector, ofChain, Chain.sequences, Chain.zip_rest]

/-- A list without sequences has no combinators, and any other is that of a chain. -/
theorem eq_empty_or_ofChain (list : SequenceList) :
    list = empty ∨ ∃ chain, list = ofChain chain := by
  obtain ⟨sequences, combinators, between⟩ := list
  cases sequences with
  | nil => exact Or.inl (SequenceList.ext rfl (List.length_eq_zero_iff.1 between))
  | cons first rest =>
    have later := List.map_snd_zip (Nat.le_of_eq between.symm)
    have joining := List.map_fst_zip (Nat.le_of_eq between)
    exact Or.inr ⟨⟨first, combinators.zip rest⟩,
      SequenceList.ext (congrArg (List.cons first) later.symm) joining.symm⟩

/-! ## Operations on the list and on the selector -/

/-- Adding a sequence adds it to the list, or is refused alike. -/
theorem append_toSelector (list : SequenceList) (sequence : Sequence)
    (combinator : Option Combinator) :
    list.toSelector.append sequence combinator =
      (list.append sequence combinator).map toSelector := by
  rcases list.eq_empty_or_ofChain with rfl | ⟨⟨first, rest⟩, rfl⟩
  · cases combinator <;> rfl
  · rw [toSelector_ofChain, Selector.append_ofChain]
    cases combinator with
    | none => rfl
    | some combinator =>
      have longer : (ofChain ⟨first, rest⟩).append sequence (some combinator) =
          .ok (ofChain ⟨first, rest ++ [(combinator, sequence)]⟩) := by
        have filled : ¬ (ofChain ⟨first, rest⟩).sequences.isEmpty = true := nofun
        rw [append, dif_neg filled]
        refine congrArg Except.ok (SequenceList.ext ?_ ?_) <;> simp [ofChain, Chain.sequences]
      rw [longer]
      exact congrArg Except.ok (toSelector_ofChain _).symm

/-- Removing the last sequence removes it from the list. -/
theorem pop_toSelector (list : SequenceList) :
    list.toSelector.pop = (list.pop.1, list.pop.2.toSelector) := by
  rcases list.eq_empty_or_ofChain with rfl | ⟨⟨first, rest⟩, rfl⟩
  · rfl
  · rw [toSelector_ofChain]
    rcases List.eq_nil_or_concat rest with rfl | ⟨front, ⟨combinator, last⟩, rfl⟩
    · rfl
    · have shorter : (ofChain ⟨first, front ++ [(combinator, last)]⟩).pop =
          (some last, ofChain ⟨first, front⟩) := by
        have split : (ofChain ⟨first, front ++ [(combinator, last)]⟩).sequences =
            (ofChain ⟨first, front⟩).sequences ++ [last] := by simp [ofChain, Chain.sequences]
        refine Prod.ext ?_ (SequenceList.ext ?_ ?_)
        · exact (congrArg List.getLast? split).trans List.getLast?_concat
        · exact (congrArg List.dropLast split).trans List.dropLast_concat
        · simp [pop, ofChain]
      rw [List.concat_eq_append, Selector.pop_ofChain_concat, shorter, toSelector_ofChain]

/-- Removing the first sequence removes it from the list. -/
theorem shift_toSelector (list : SequenceList) :
    list.toSelector.shift = (list.shift.1, list.shift.2.toSelector) := by
  rcases list.eq_empty_or_ofChain with rfl | ⟨⟨first, rest⟩, rfl⟩
  · rfl
  · rw [toSelector_ofChain]
    cases rest with
    | nil => rfl
    | cons pair rest =>
      rw [Selector.shift_ofChain_cons, ← toSelector_ofChain]
      rfl

/-- Editing a sequence edits it in the list. -/
theorem modify_toSelector (list : SequenceList) (index : Nat) (edit : Sequence → Sequence) :
    list.toSelector.modify index edit = (list.modify index edit).toSelector := by
  rcases list.eq_empty_or_ofChain with rfl | ⟨chain, rfl⟩
  · cases index <;> rfl
  · have edited : (ofChain chain).modify index edit = ofChain (chain.modify index edit) :=
      SequenceList.ext (chain.sequences_modify index edit).symm
        (chain.combinators_modify index edit).symm
    rw [toSelector_ofChain, Selector.modify_ofChain, edited, toSelector_ofChain]

/-- A piece is added to the list, or refused alike. -/
theorem appendPiece_toSelector (list : SequenceList) (piece : Selector.Piece) :
    Selector.appendPiece list.toSelector piece = (list.appendPiece piece).map toSelector := by
  cases piece with
  | dangling position => rfl
  | joined combinator text =>
    rw [Selector.appendPiece, appendPiece]
    cases Sequence.parse text with
    | error failure => rfl
    | ok sequence =>
      change ((list.toSelector.append sequence combinator).mapError ParseError.structural) =
        ((list.append sequence combinator).mapError ParseError.structural).map toSelector
      rw [append_toSelector]
      cases list.append sequence combinator <;> rfl

/-- Pieces are added to the list, or the same one of them is refused. -/
theorem foldlM_appendPiece_toSelector (list : SequenceList) (texts : List Selector.Piece) :
    texts.foldlM Selector.appendPiece list.toSelector =
      (texts.foldlM appendPiece list).map toSelector := by
  induction texts generalizing list with
  | nil => rfl
  | cons piece rest hypothesis =>
    rw [List.foldlM_cons, List.foldlM_cons, appendPiece_toSelector]
    cases list.appendPiece piece with
    | error failure => rfl
    | ok next => exact hypothesis next

/-- What is read from a pattern is the list that is read from it. -/
theorem parse_toSelector (pattern : List Char) :
    Selector.parse pattern = (parse pattern).map toSelector := by
  rw [Selector.parse, parse]
  cases Text.cellsOf pattern with
  | nil => rfl
  | cons cell cells => exact foldlM_appendPiece_toSelector empty _

/-! ## Reading the selector of a list -/

/-- A walk along a chain. -/
theorem links_nodesFrom (index : Nat) (first : Sequence) (rest : List (Combinator × Sequence)) :
    (Selector.mk (Chain.nodesFrom index first rest)).links =
      interleave (first :: rest.map Prod.snd) (rest.map Prod.fst) := by
  induction rest generalizing index first with
  | nil => rfl
  | cons pair rest hypothesis =>
    have later := hypothesis (index + 1) pair.2
    rw [Selector.links] at later ⊢
    rw [Chain.nodesFrom, List.flatMap_cons, later]
    rfl

/-- A chain's selector is the list of the chain in every respect. -/
theorem represents_ofChain (chain : Chain) :
    (Selector.ofChain chain).Represents (ofChain chain) := by
  have count : (ofChain chain).sequences.length = chain.rest.length + 1 := by
    simp [ofChain, Chain.sequences]
  have walked : (Selector.ofChain chain).links = (ofChain chain).links :=
    links_nodesFrom 0 chain.first chain.rest
  have joined : ∀ index, (Selector.ofChain chain).combinator? index =
      (ofChain chain).combinators[index]? := by
    intro index
    rw [Selector.combinator?_ofChain, ofChain, List.getElem?_map]
  constructor
  case length => rw [count, Selector.length_ofChain]
  case sequence? => exact Selector.sequence?_ofChain chain
  case parent? =>
    intro index
    rw [Selector.parent?_ofChain, count]
    simp only [Nat.lt_succ_iff]
  case child? =>
    intro index
    rw [Selector.child?_ofChain, count]
    simp only [Nat.add_lt_add_iff_right]
  case combinator? => exact joined
  case isSome_combinator? =>
    intro index
    rw [joined, isSome_getElem?, (ofChain chain).between, count]
    omega
  case links => exact walked
  case chars => rw [Selector.chars_eq_links, walked]

/-- The selector that a list stands for is that list in every respect. -/
theorem represents_toSelector (list : SequenceList) : list.toSelector.Represents list := by
  rcases list.eq_empty_or_ofChain with rfl | ⟨chain, rfl⟩
  · constructor
    case isSome_combinator? => exact fun index => ⟨nofun, nofun⟩
    all_goals intros; rfl
  · rw [toSelector_ofChain]
    exact represents_ofChain chain

/-! ## Comparing selectors -/

/-- Selectors agree if their first nodes and the nodes after these do. -/
theorem agrees_cons_iff (node other : Node) (nodes others : List Node) :
    (Selector.mk (node :: nodes)).agrees ⟨other :: others⟩ = true ↔
      Selector.Node.agrees node other = true ∧ (Selector.mk nodes).agrees ⟨others⟩ = true := by
  simp [Selector.agrees, Selector.length, and_left_comm]

/-- Lists of chains agree if their first sequences and combinators do, and what is after them. -/
theorem agrees_ofChain_cons_iff (first other next otherNext : Sequence)
    (combinator otherCombinator : Combinator) (rest others : List (Combinator × Sequence)) :
    (ofChain ⟨first, (combinator, next) :: rest⟩).agrees
        (ofChain ⟨other, (otherCombinator, otherNext) :: others⟩) = true ↔
      first.agrees other = true ∧ combinator = otherCombinator ∧
        (ofChain ⟨next, rest⟩).agrees (ofChain ⟨otherNext, others⟩) = true := by
  simp [agrees, ofChain, Chain.sequences, and_assoc, and_left_comm]

/-- Chains agree in their nodes if and only if they agree in their sequences and have the same
combinators. -/
theorem agrees_nodesFrom_iff (index : Nat) (first other : Sequence)
    (rest others : List (Combinator × Sequence)) :
    (Selector.mk (Chain.nodesFrom index first rest)).agrees
        ⟨Chain.nodesFrom index other others⟩ = true ↔
      (ofChain ⟨first, rest⟩).agrees (ofChain ⟨other, others⟩) = true := by
  induction rest generalizing index first other others with
  | nil =>
    cases others with
    | nil => simp [Chain.nodesFrom, Selector.agrees, Selector.Node.agrees, Selector.length, agrees,
        ofChain, Chain.sequences]
    | cons pair others => simp [Chain.nodesFrom, Chain.nodesFrom_length, Selector.agrees,
        Selector.length, agrees, ofChain, Chain.sequences]
  | cons pair rest hypothesis =>
    cases others with
    | nil => simp [Chain.nodesFrom, Chain.nodesFrom_length, Selector.agrees, Selector.length,
        agrees, ofChain, Chain.sequences]
    | cons otherPair others =>
      rw [Chain.nodesFrom, Chain.nodesFrom, agrees_cons_iff, agrees_ofChain_cons_iff, hypothesis]
      simp [Selector.Node.agrees, and_assoc]

/-- Two selectors agree if and only if their lists do. -/
theorem agrees_toSelector (left right : SequenceList) :
    left.toSelector.agrees right.toSelector = left.agrees right := by
  rcases left.eq_empty_or_ofChain with rfl | ⟨chain, rfl⟩ <;>
    rcases right.eq_empty_or_ofChain with rfl | ⟨other, rfl⟩
  · rfl
  · rw [toSelector_ofChain, Selector.agrees, Selector.length_ofChain]
    rfl
  · rw [toSelector_ofChain, Selector.agrees, Selector.length_ofChain]
    rfl
  · rw [toSelector_ofChain, toSelector_ofChain]
    exact Bool.eq_iff_iff.2 (agrees_nodesFrom_iff 0 chain.first other.first chain.rest other.rest)

end SequenceList

end NodeQuery
