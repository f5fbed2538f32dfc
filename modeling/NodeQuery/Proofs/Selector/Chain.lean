import NodeQuery.Selector.Basic

/-!
# Selectors as chains

A chain is a first sequence and, for each later one, the combinator before it. The selector of a
chain has the links that the positions in the chain ask for. Every selector that the operations
can reach, from the empty one by adding, removing and editing sequences, is empty or the selector
of a chain.

Main statements: `Selector.append_ofChain`, `Selector.Reachable.empty_or_ofChain` and
`Selector.reachable_ofChain`.
-/

namespace NodeQuery

/-- A sequence and further ones, each with the combinator before it. -/
structure Chain where
  /-- The first sequence. -/
  first : Sequence
  /-- The later sequences, each with the combinator towards it. -/
  rest : List (Combinator × Sequence)
deriving DecidableEq, Repr

namespace Chain

/-- The sequences of a chain. -/
def sequences (chain : Chain) : List Sequence := chain.first :: chain.rest.map Prod.snd

/-- What a chain has after its first sequence is the list of its combinators beside that of its
later sequences. -/
theorem zip_rest (rest : List (Combinator × Sequence)) :
    (rest.map Prod.fst).zip (rest.map Prod.snd) = rest := by
  rw [List.zip_map']
  exact List.map_id' rest

/-- The index before another one. -/
def indexBefore : Nat → Option Nat
  | 0 => none
  | index + 1 => some index

/-- The nodes of a chain whose first sequence stands at an index. -/
def nodesFrom (index : Nat) (first : Sequence) : List (Combinator × Sequence) → List Node
  | [] => [⟨first, indexBefore index, none, none⟩]
  | (combinator, next) :: rest =>
    ⟨first, indexBefore index, some (index + 1), some combinator⟩ ::
      nodesFrom (index + 1) next rest

/-- There is a node for each sequence. -/
theorem nodesFrom_length (index : Nat) (first : Sequence) (rest : List (Combinator × Sequence)) :
    (nodesFrom index first rest).length = rest.length + 1 := by
  induction rest generalizing index first with
  | nil => rfl
  | cons pair rest hypothesis => rw [nodesFrom, List.length_cons, hypothesis, List.length_cons]

/-- The nodes hold the sequences. -/
theorem nodesFrom_sequences (index : Nat) (first : Sequence)
    (rest : List (Combinator × Sequence)) :
    (nodesFrom index first rest).map (·.sequence) = first :: rest.map Prod.snd := by
  induction rest generalizing index first with
  | nil => rfl
  | cons pair rest hypothesis => rw [nodesFrom, List.map_cons, hypothesis, List.map_cons]

/-- Each node holds its sequence, and its links are what its position asks for. -/
theorem getElem?_nodesFrom (base index : Nat) (first : Sequence)
    (rest : List (Combinator × Sequence)) :
    (nodesFrom base first rest)[index]? =
      ((first :: rest.map Prod.snd)[index]?).map fun sequence =>
        ⟨sequence, indexBefore (base + index),
          if index < rest.length then some (base + index + 1) else none,
          rest[index]?.map Prod.fst⟩ := by
  induction rest generalizing base index first with
  | nil => cases index <;> rfl
  | cons pair rest hypothesis =>
    cases index with
    | zero => simp [nodesFrom]
    | succ index =>
      have place : base + (index + 1) = base + 1 + index := by omega
      rw [nodesFrom, List.getElem?_cons_succ, hypothesis, List.map_cons, List.getElem?_cons_succ,
        place]
      simp only [List.length_cons, Nat.add_lt_add_iff_right, List.getElem?_cons_succ]

/-- The nodes hold the combinators. -/
theorem nodesFrom_combinators (index : Nat) (first : Sequence)
    (rest : List (Combinator × Sequence)) :
    (nodesFrom index first rest).filterMap (·.combinator) = rest.map Prod.fst := by
  induction rest generalizing index first with
  | nil => rfl
  | cons pair rest hypothesis =>
    simp only [nodesFrom, List.filterMap_cons, hypothesis, List.map_cons]

/-- A chain has a first node. -/
theorem exists_nodesFrom (index : Nat) (first : Sequence)
    (rest : List (Combinator × Sequence)) :
    ∃ node nodes, nodesFrom index first rest = node :: nodes := by
  cases rest with
  | nil => exact ⟨_, _, rfl⟩
  | cons pair rest => exact ⟨_, _, rfl⟩

/-- A sequence at the end is linked to the node before it, and that node to it. -/
theorem nodesFrom_concat (index : Nat) (first : Sequence)
    (rest : List (Combinator × Sequence)) (combinator : Combinator) (last : Sequence) :
    nodesFrom index first (rest ++ [(combinator, last)]) =
      (nodesFrom index first rest).modify rest.length (fun node =>
          { node with child := some (index + rest.length + 1), combinator := some combinator }) ++
        [⟨last, some (index + rest.length), none, none⟩] := by
  induction rest generalizing index first with
  | nil => rfl
  | cons pair rest hypothesis =>
    have length : index + (rest.length + 1) = index + 1 + rest.length := by omega
    rw [List.cons_append, nodesFrom, hypothesis, nodesFrom, List.length_cons, length,
      List.modify_succ_cons, List.cons_append]

/-- The nodes before the last one, the last of them cut off from it. -/
theorem nodesFrom_dropLast (index : Nat) (first : Sequence)
    (rest : List (Combinator × Sequence)) (combinator : Combinator) (last : Sequence) :
    (nodesFrom index first (rest ++ [(combinator, last)])).dropLast.modify rest.length
        Selector.Node.unlink = nodesFrom index first rest := by
  rw [nodesFrom_concat, List.dropLast_concat]
  induction rest generalizing index first with
  | nil => rfl
  | cons pair rest hypothesis =>
    have length : index + (rest.length + 1) = index + 1 + rest.length := by omega
    rw [nodesFrom, List.length_cons, List.modify_succ_cons, List.modify_succ_cons, length,
      hypothesis]

/-- The nodes of a chain moved to the index before. -/
theorem mapIdx_relink_nodesFrom (index : Nat) (first : Sequence)
    (rest : List (Combinator × Sequence)) :
    (nodesFrom (index + 1) first rest).mapIdx (fun offset node =>
      Selector.Node.relink node (index + offset)) = nodesFrom index first rest := by
  have before : (if index = 0 then none else some (index - 1)) = indexBefore index := by
    cases index <;> rfl
  induction rest generalizing index first with
  | nil => simp [nodesFrom, Selector.Node.relink, before]
  | cons pair rest hypothesis =>
    have later := hypothesis (index + 1) pair.2 rfl
    rw [nodesFrom, nodesFrom, List.mapIdx_cons, ← later]
    refine congr (congrArg List.cons ?_) (List.mapIdx_eq_mapIdx_iff.2 fun offset _ => ?_)
    · simp [Selector.Node.relink, before]
    · congr 1
      omega

/-- An edit of one sequence. -/
def modify (chain : Chain) (index : Nat) (edit : Sequence → Sequence) : Chain :=
  match index with
  | 0 => { chain with first := edit chain.first }
  | index + 1 =>
    { chain with rest := chain.rest.modify index fun (combinator, next) => (combinator, edit next) }

/-- An edit of one sequence of a chain is one of the list of its sequences. -/
theorem sequences_modify (chain : Chain) (index : Nat) (edit : Sequence → Sequence) :
    (chain.modify index edit).sequences = chain.sequences.modify index edit := by
  cases index with
  | zero => rfl
  | succ index =>
    rw [sequences, sequences, modify, List.modify_succ_cons]
    refine congrArg (List.cons chain.first) (List.ext_getElem? fun position => ?_)
    rw [List.getElem?_map, List.getElem?_modify, List.getElem?_modify, List.getElem?_map]
    cases chain.rest[position]? with
    | none => rfl
    | some pair => exact congrArg some (apply_ite Prod.snd ..)

/-- An edit of one sequence of a chain keeps the combinators. -/
theorem combinators_modify (chain : Chain) (index : Nat) (edit : Sequence → Sequence) :
    (chain.modify index edit).rest.map Prod.fst = chain.rest.map Prod.fst := by
  cases index with
  | zero => rfl
  | succ index =>
    refine List.ext_getElem? fun position => ?_
    rw [modify, List.getElem?_map, List.getElem?_modify, List.getElem?_map]
    cases chain.rest[position]? with
    | none => rfl
    | some pair => exact congrArg some ((apply_ite Prod.fst ..).trans (ite_self _))

/-- An edit of one node's sequence is one of the chain. -/
theorem nodesFrom_modify (index position : Nat) (first : Sequence)
    (rest : List (Combinator × Sequence)) (edit : Sequence → Sequence) :
    (nodesFrom index first rest).modify position
        (fun node => { node with sequence := edit node.sequence }) =
      nodesFrom index (modify ⟨first, rest⟩ position edit).first
        (modify ⟨first, rest⟩ position edit).rest := by
  induction rest generalizing index position first with
  | nil =>
    cases position with
    | zero => rfl
    | succ position => simp [nodesFrom, modify]
  | cons pair rest hypothesis =>
    cases position with
    | zero => rfl
    | succ position =>
      rw [nodesFrom, List.modify_succ_cons, hypothesis]
      cases position <;> rfl

end Chain

namespace Selector

/-- The selector of a chain. -/
def ofChain (chain : Chain) : Selector := ⟨Chain.nodesFrom 0 chain.first chain.rest⟩

/-- The sequences of a chain's selector. -/
theorem sequences_ofChain (chain : Chain) : (ofChain chain).sequences = chain.sequences :=
  Chain.nodesFrom_sequences 0 chain.first chain.rest

/-- The chain that the nodes of a selector hold, if there are any. -/
def chain? (selector : Selector) : Option Chain :=
  match selector.sequences with
  | [] => none
  | first :: rest => some ⟨first, (selector.nodes.filterMap (·.combinator)).zip rest⟩

/-- The nodes of a chain's selector hold that chain. -/
theorem chain?_ofChain (chain : Chain) : (ofChain chain).chain? = some chain := by
  have combinators := Chain.nodesFrom_combinators 0 chain.first chain.rest
  rw [chain?, sequences_ofChain, Chain.sequences]
  simp only [ofChain, combinators, Chain.zip_rest]

/-- The number of sequences of a chain's selector. -/
theorem length_ofChain (chain : Chain) : (ofChain chain).length = chain.rest.length + 1 :=
  Chain.nodesFrom_length 0 chain.first chain.rest

/-- The last sequence of a chain's selector has the last index. -/
theorem last?_ofChain (chain : Chain) : (ofChain chain).last? = some chain.rest.length := by
  obtain ⟨node, nodes, split⟩ := Chain.exists_nodesFrom 0 chain.first chain.rest
  have filled : (ofChain chain).isEmpty = false := by simp [isEmpty, ofChain, split]
  rw [last?, filled, length_ofChain]
  rfl

/-- The sequence at an index of a chain's selector. -/
theorem sequence?_ofChain (chain : Chain) (index : Nat) :
    (ofChain chain).sequence? index = chain.sequences[index]? := by
  rw [← sequences_ofChain, sequences, List.getElem?_map]
  rfl

/-- Before each sequence of a chain is the one with the index before. -/
theorem parent?_ofChain (chain : Chain) (index : Nat) :
    (ofChain chain).parent? index =
      if index ≤ chain.rest.length then Chain.indexBefore index else none := by
  have node := Chain.getElem?_nodesFrom 0 index chain.first chain.rest
  rw [parent?, ofChain, node]
  by_cases inside : index ≤ chain.rest.length
  · have found : index < (chain.first :: chain.rest.map Prod.snd).length := by
      simp only [List.length_cons, List.length_map]
      omega
    rw [if_pos inside, List.getElem?_eq_getElem found, Nat.zero_add]
    rfl
  · have missing : (chain.first :: chain.rest.map Prod.snd).length ≤ index := by
      simp only [List.length_cons, List.length_map]
      omega
    rw [if_neg inside, List.getElem?_eq_none missing]
    rfl

/-- After each sequence of a chain but the last is the one with the index after. -/
theorem child?_ofChain (chain : Chain) (index : Nat) :
    (ofChain chain).child? index =
      if index < chain.rest.length then some (index + 1) else none := by
  have node := Chain.getElem?_nodesFrom 0 index chain.first chain.rest
  rw [child?, ofChain, node]
  by_cases inside : index < chain.rest.length
  · have found : index < (chain.first :: chain.rest.map Prod.snd).length := by
      simp only [List.length_cons, List.length_map]
      omega
    rw [List.getElem?_eq_getElem found, Nat.zero_add]
    rfl
  · simp only [if_neg inside]
    cases (chain.first :: chain.rest.map Prod.snd)[index]? <;> rfl

/-- The combinator after each sequence of a chain but the last. -/
theorem combinator?_ofChain (chain : Chain) (index : Nat) :
    (ofChain chain).combinator? index = chain.rest[index]?.map Prod.fst := by
  have node := Chain.getElem?_nodesFrom 0 index chain.first chain.rest
  rw [combinator?, ofChain, node]
  by_cases inside : index < chain.rest.length
  · have found : index < (chain.first :: chain.rest.map Prod.snd).length := by
      simp only [List.length_cons, List.length_map]
      omega
    rw [List.getElem?_eq_getElem found]
    rfl
  · rw [List.getElem?_eq_none (Nat.not_lt.1 inside)]
    cases (chain.first :: chain.rest.map Prod.snd)[index]? <;> rfl

/-- The selectors that the operations can reach. -/
inductive Reachable : Selector → Prop where
  /-- The selector to start from. -/
  | empty : Reachable empty
  /-- A sequence is added. -/
  | append {selector next : Selector} {sequence : Sequence} {combinator : Option Combinator} :
    Reachable selector → selector.append sequence combinator = .ok next → Reachable next
  /-- The last sequence is removed. -/
  | pop {selector : Selector} : Reachable selector → Reachable selector.pop.2
  /-- The first sequence is removed. -/
  | shift {selector : Selector} : Reachable selector → Reachable selector.shift.2
  /-- One sequence is edited. -/
  | modify {selector : Selector} (index : Nat) (edit : Sequence → Sequence) :
    Reachable selector → Reachable (selector.modify index edit)

/-- The first sequence takes no combinator. -/
theorem append_empty (sequence : Sequence) (combinator : Option Combinator) :
    empty.append sequence combinator =
      match combinator with
      | none => .ok (ofChain ⟨sequence, []⟩)
      | some _ => .error .combinatorOnFirstSequence := by
  cases combinator <;> rfl

/-- A later sequence is joined to the end of the chain by its combinator. -/
theorem append_ofChain (chain : Chain) (sequence : Sequence) (combinator : Option Combinator) :
    (ofChain chain).append sequence combinator =
      match combinator with
      | none => .error .missingCombinator
      | some combinator =>
        .ok (ofChain { chain with rest := chain.rest ++ [(combinator, sequence)] }) := by
  obtain ⟨first, rest⟩ := chain
  obtain ⟨node, nodes, split⟩ := Chain.exists_nodesFrom 0 first rest
  have length := Chain.nodesFrom_length 0 first rest
  cases combinator with
  | none => simp only [append, ofChain, split]
  | some combinator =>
    have joined := Chain.nodesFrom_concat 0 first rest combinator sequence
    rw [split] at joined length
    simp only [append, ofChain, split, linkLast, joined, length, Nat.zero_add,
      Nat.add_sub_cancel]

/-- Removing the last of several sequences leaves the chain before it. -/
theorem pop_ofChain_concat (first last : Sequence) (front : List (Combinator × Sequence))
    (combinator : Combinator) :
    (ofChain ⟨first, front ++ [(combinator, last)]⟩).pop = (some last, ofChain ⟨first, front⟩) := by
  have kept := Chain.nodesFrom_dropLast 0 first front combinator last
  have length : (Chain.nodesFrom 0 first (front ++ [(combinator, last)])).dropLast.length - 1 =
      front.length := by
    rw [List.length_dropLast, Chain.nodesFrom_length, List.length_append]
    rfl
  have removed : (Chain.nodesFrom 0 first (front ++ [(combinator, last)])).getLast?.map
      (·.sequence) = some last := by
    rw [Chain.nodesFrom_concat, List.getLast?_concat]
    rfl
  simp only [pop, ofChain, length, kept, removed]

/-- Removing the last sequence leaves the chain before it, if any. -/
theorem pop_ofChain (chain : Chain) :
    (ofChain chain).pop.2 = empty ∨ ∃ kept, (ofChain chain).pop.2 = ofChain kept := by
  obtain ⟨first, rest⟩ := chain
  rcases List.eq_nil_or_concat rest with rfl | ⟨front, ⟨combinator, last⟩, rfl⟩
  · exact Or.inl rfl
  · refine Or.inr ⟨⟨first, front⟩, ?_⟩
    rw [List.concat_eq_append, pop_ofChain_concat]

/-- Removing the first of several sequences leaves the chain after it. -/
theorem shift_ofChain_cons (first next : Sequence) (combinator : Combinator)
    (rest : List (Combinator × Sequence)) :
    (ofChain ⟨first, (combinator, next) :: rest⟩).shift = (some first, ofChain ⟨next, rest⟩) := by
  have moved := Chain.mapIdx_relink_nodesFrom 0 next rest
  simp only [Nat.zero_add] at moved
  simp only [shift, ofChain, Chain.nodesFrom, List.tail_cons, Nat.zero_add, moved,
    List.head?_cons, Option.map_some]

/-- Removing the first sequence leaves the chain after it, if any. -/
theorem shift_ofChain (chain : Chain) :
    (ofChain chain).shift.2 = empty ∨ ∃ kept, (ofChain chain).shift.2 = ofChain kept := by
  obtain ⟨first, rest⟩ := chain
  cases rest with
  | nil => exact Or.inl rfl
  | cons pair rest => exact Or.inr ⟨⟨pair.2, rest⟩, congrArg Prod.snd (shift_ofChain_cons ..)⟩

/-- Editing a sequence edits the chain. -/
theorem modify_ofChain (chain : Chain) (index : Nat) (edit : Sequence → Sequence) :
    (ofChain chain).modify index edit = ofChain (chain.modify index edit) :=
  congrArg Selector.mk (Chain.nodesFrom_modify 0 index chain.first chain.rest edit)

/-- A selector that can be reached is empty or the selector of a chain. -/
theorem Reachable.empty_or_ofChain {selector : Selector} (reachable : Reachable selector) :
    selector = Selector.empty ∨ ∃ chain, selector = ofChain chain := by
  induction reachable with
  | empty => exact Or.inl rfl
  | @append selector next sequence combinator _ added hypothesis =>
    rcases hypothesis with rfl | ⟨chain, rfl⟩
    · rw [append_empty] at added
      cases combinator with
      | none => exact Or.inr ⟨_, (Except.ok.inj added).symm⟩
      | some combinator => cases added
    · rw [append_ofChain] at added
      cases combinator with
      | none => cases added
      | some combinator => exact Or.inr ⟨_, (Except.ok.inj added).symm⟩
  | pop _ hypothesis =>
    rcases hypothesis with rfl | ⟨chain, rfl⟩
    · exact Or.inl rfl
    · exact pop_ofChain chain
  | shift _ hypothesis =>
    rcases hypothesis with rfl | ⟨chain, rfl⟩
    · exact Or.inl rfl
    · exact shift_ofChain chain
  | modify index edit _ hypothesis =>
    rcases hypothesis with rfl | ⟨chain, rfl⟩
    · refine Or.inl ?_
      cases index <;> rfl
    · exact Or.inr ⟨_, modify_ofChain chain index edit⟩

/-- A chain that can be reached can be continued. -/
theorem Reachable.extend {first : Sequence} {front : List (Combinator × Sequence)}
    (reachable : Reachable (ofChain ⟨first, front⟩)) (back : List (Combinator × Sequence)) :
    Reachable (ofChain ⟨first, front ++ back⟩) := by
  induction back generalizing front with
  | nil => simpa using reachable
  | cons pair rest hypothesis =>
    have longer := hypothesis (reachable.append (append_ofChain ⟨first, front⟩ pair.2 (some pair.1)))
    simpa using longer

/-- The selector of every chain can be reached. -/
theorem reachable_ofChain (chain : Chain) : Reachable (ofChain chain) := by
  have start : Reachable (ofChain ⟨chain.first, []⟩) :=
    .append .empty (append_empty chain.first none)
  exact start.extend chain.rest

end Selector

end NodeQuery
