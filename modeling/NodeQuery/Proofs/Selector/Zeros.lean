import NodeQuery.Proofs.Selector.Chain

/-!
# Agreement and the signs of zeros

Two selectors agree if they are the same but for the signs of the zeros in their conditions. A
selector in which every zero has lost its sign is a normal form of agreement: as long as all
floating point numbers are finite, two selectors agree if and only if their normal forms are the
same.

Main statement: `Selector.agrees_iff_unsignedZeros_eq`.
-/

namespace NodeQuery

/-- Lists agree member by member if and only if they have the same image, as soon as agreement
with a member of the first one says that the images are the same. -/
theorem zip_all_iff_map_eq {Item Image : Type} {test : Item → Item → Bool} {image : Item → Image}
    {items : List Item}
    (each : ∀ item ∈ items, ∀ other, test item other = true ↔ image item = image other)
    (others : List Item) :
    (items.length == others.length && (items.zip others).all fun (one, other) => test one other) =
        true ↔ items.map image = others.map image := by
  induction items generalizing others with
  | nil => cases others <;> simp
  | cons item rest hypothesis =>
    cases others with
    | nil => simp
    | cons other otherRest =>
      obtain ⟨first, later⟩ := List.forall_mem_cons.1 each
      have rests := hypothesis later otherRest
      rw [List.map_cons, List.map_cons, List.cons.injEq, ← first, ← rests]
      simp [and_left_comm]

/-- What is told by one image of the members of lists is the same for lists of the same images. -/
theorem map_eq_of_map_eq {Item Image Part : Type} {image : Item → Image} {part : Item → Part}
    {items others : List Item}
    (told : ∀ item ∈ items, ∀ other ∈ others, image item = image other → part item = part other)
    (same : items.map image = others.map image) : items.map part = others.map part := by
  induction items generalizing others with
  | nil => rw [List.map_eq_nil_iff.1 same.symm]
  | cons item rest hypothesis =>
    cases others with
    | nil => cases same
    | cons other otherRest =>
      obtain ⟨first, later⟩ := List.cons.inj same
      have heads := told item List.mem_cons_self other List.mem_cons_self first
      have tails : rest.map part = otherRest.map part := by
        refine hypothesis (fun one member two otherMember => ?_) later
        exact told one (List.mem_cons_of_mem _ member) two (List.mem_cons_of_mem _ otherMember)
      rw [List.map_cons, List.map_cons, heads, tails]

namespace Number.Binary64

/-- The same number, a zero without its sign. -/
def unsignedZero : Binary64 → Binary64
  | finite negative rank => finite (negative && rank.val != 0) rank
  | value => value

/-- A finite number agrees with another one if and only if they differ in the sign of a zero at
most. -/
theorem agrees_iff_unsignedZero_eq {value : Binary64} (isFinite : value.isFinite = true)
    (other : Binary64) :
    value.agrees other = true ↔ value.unsignedZero = other.unsignedZero := by
  cases value with
  | nan => cases isFinite
  | infinity negative => cases isFinite
  | finite negative rank =>
    cases other with
    | nan => simp [agrees, unsignedZero]
    | infinity otherNegative => simp [agrees, unsignedZero]
    | finite otherNegative otherRank =>
      simp only [agrees, unsignedZero, finite.injEq, Bool.and_eq_true, beq_iff_eq]
      rw [and_comm]
      refine and_congr_left fun same => ?_
      subst same
      by_cases zero : rank.val = 0
      · simp [zero]
      · have shown : (rank.val != 0) = true := bne_iff_ne.2 zero
        simp [zero, shown]

end Number.Binary64

namespace Value

mutual

/-- Whether all floating point numbers in a value are finite. -/
def isFinite : Value → Bool
  | float value => value.isFinite
  | list items => areFinite items
  | _ => true

/-- Whether all floating point numbers in some values are finite. -/
def areFinite : List Value → Bool
  | [] => true
  | item :: rest => item.isFinite && areFinite rest

end

mutual

/-- The same value, every zero in it without its sign. -/
def unsignedZeros : Value → Value
  | float value => float value.unsignedZero
  | list items => list (unsignedZerosOfItems items)
  | value => value

/-- The same values, every zero in them without its sign. -/
def unsignedZerosOfItems : List Value → List Value
  | [] => []
  | item :: rest => item.unsignedZeros :: unsignedZerosOfItems rest

end

mutual

/-- Finite values agree if and only if they differ in the signs of zeros at most. -/
theorem agrees_iff_unsignedZeros_eq : (value : Value) → value.isFinite = true → (other : Value) →
    (value.agrees other = true ↔ value.unsignedZeros = other.unsignedZeros)
  | null, _, other => by cases other <;> simp [agrees, equalBy, unsignedZeros]
  | bool _, _, other => by cases other <;> simp [agrees, equalBy, unsignedZeros]
  | int _, _, other => by cases other <;> simp [agrees, equalBy, unsignedZeros]
  | text _, _, other => by cases other <;> simp [agrees, equalBy, unsignedZeros]
  | float number, finite, other => by
    cases other with
    | float otherNumber =>
      have numbers := Number.Binary64.agrees_iff_unsignedZero_eq finite otherNumber
      simpa [agrees, equalBy, unsignedZeros] using numbers
    | _ => simp [agrees, equalBy, unsignedZeros]
  | list items, finite, other => by
    cases other with
    | list others =>
      have lists := equalItemsBy_iff_unsignedZeros_eq items finite others
      simpa [agrees, equalBy, unsignedZeros] using lists
    | _ => simp [agrees, equalBy, unsignedZeros]

/-- Lists of finite values agree if and only if they differ in the signs of zeros at most. -/
theorem equalItemsBy_iff_unsignedZeros_eq :
    (items : List Value) → areFinite items = true → (others : List Value) →
      (equalItemsBy Number.Binary64.agrees items others = true ↔
        unsignedZerosOfItems items = unsignedZerosOfItems others)
  | [], _, others => by cases others <;> simp [equalItemsBy, unsignedZerosOfItems]
  | item :: rest, finite, others => by
    cases others with
    | nil => simp [equalItemsBy, unsignedZerosOfItems]
    | cons other otherRest =>
      obtain ⟨first, later⟩ := Bool.and_eq_true _ _ ▸ finite
      have heads := agrees_iff_unsignedZeros_eq item first other
      have tails := equalItemsBy_iff_unsignedZeros_eq rest later otherRest
      rw [agrees] at heads
      rw [equalItemsBy, Bool.and_eq_true, heads, tails, unsignedZerosOfItems,
        unsignedZerosOfItems, List.cons.injEq]

end

end Value

namespace Attribute

/-- The same test, every zero in its condition without its sign. -/
def unsignedZeros (test : Attribute) : Attribute :=
  { test with condition := test.condition.unsignedZeros }

/-- Tests with finite conditions agree if and only if they differ in the signs of zeros at most. -/
theorem agrees_iff_unsignedZeros_eq {test : Attribute} (finite : test.condition.isFinite = true)
    (other : Attribute) : test.agrees other = true ↔ test.unsignedZeros = other.unsignedZeros := by
  have conditions := Value.agrees_iff_unsignedZeros_eq test.condition finite other.condition
  simp [agrees, unsignedZeros, conditions, and_assoc]

end Attribute

namespace Simple

/-- Whether all floating point numbers in a simple selector are finite. -/
def isFinite : Simple → Bool
  | attributeTest test => test.condition.isFinite
  | _ => true

/-- The same simple selector, every zero in its condition without its sign. -/
def unsignedZeros : Simple → Simple
  | attributeTest test => attributeTest test.unsignedZeros
  | item => item

/-- Finite simple selectors agree if and only if they differ in the signs of zeros at most. -/
theorem agrees_iff_unsignedZeros_eq {item : Simple} (finite : item.isFinite = true)
    (other : Simple) : item.agrees other = true ↔ item.unsignedZeros = other.unsignedZeros := by
  cases item with
  | attributeTest test =>
    cases other with
    | attributeTest otherTest =>
      have tests := Attribute.agrees_iff_unsignedZeros_eq finite otherTest
      simpa [agrees, unsignedZeros] using tests
    | _ => simp [agrees, unsignedZeros]
  | _ => cases other <;> simp [agrees, unsignedZeros]

end Simple

namespace Sequence

/-- The sequence with a change made to each of its items. -/
def mapItems (change : Simple → Simple) (sequence : Sequence) : Sequence :=
  ⟨sequence.items.map change⟩

/-- Whether all floating point numbers in a sequence are finite. -/
def isFinite (sequence : Sequence) : Bool := sequence.items.all Simple.isFinite

/-- Finite sequences agree if and only if they differ in the signs of zeros at most. -/
theorem agrees_iff_unsignedZeros_eq {sequence : Sequence} (finite : sequence.isFinite = true)
    (other : Sequence) :
    sequence.agrees other = true ↔
      sequence.mapItems Simple.unsignedZeros = other.mapItems Simple.unsignedZeros := by
  have each : ∀ item ∈ sequence.items, ∀ other,
      item.agrees other = true ↔ item.unsignedZeros = other.unsignedZeros := fun item member =>
    Simple.agrees_iff_unsignedZeros_eq (List.all_eq_true.1 finite item member)
  have lists := zip_all_iff_map_eq each other.items
  rw [mapItems, mapItems, mk.injEq]
  exact lists

end Sequence

/-- The chain with a change made to each item of its sequences. -/
def Chain.mapItems (change : Simple → Simple) (chain : Chain) : Chain :=
  ⟨chain.first.mapItems change, chain.rest.map fun pair => (pair.1, pair.2.mapItems change)⟩

namespace Selector

/-- The node with a change made to each item of its sequence. -/
def Node.mapItems (change : Simple → Simple) (node : Node) : Node :=
  { node with sequence := node.sequence.mapItems change }

/-- The selector with a change made to each item of its sequences. -/
def mapItems (change : Simple → Simple) (selector : Selector) : Selector :=
  ⟨selector.nodes.map (Node.mapItems change)⟩

/-- A change to the items of a chain's selector is one to those of the chain. -/
theorem mapItems_ofChain (change : Simple → Simple) (chain : Chain) :
    (ofChain chain).mapItems change = ofChain (chain.mapItems change) := by
  have nodes : ∀ index first rest,
      (Chain.nodesFrom index first rest).map (Node.mapItems change) =
        Chain.nodesFrom index (first.mapItems change)
          (rest.map fun pair => (pair.1, pair.2.mapItems change)) := by
    intro index first rest
    induction rest generalizing index first with
    | nil => rfl
    | cons pair rest hypothesis =>
      rw [Chain.nodesFrom, List.map_cons, hypothesis, List.map_cons, Chain.nodesFrom]
      rfl
  exact congrArg mk (nodes 0 chain.first chain.rest)

/-- Whether all floating point numbers in a selector are finite. -/
def isFinite (selector : Selector) : Bool := selector.sequences.all Sequence.isFinite

/-- The same selector, every zero in its conditions without its sign. -/
def unsignedZeros (selector : Selector) : Selector := selector.mapItems Simple.unsignedZeros

/-- Nodes with finite sequences agree if and only if they differ in the signs of zeros at most. -/
theorem Node.agrees_iff_unsignedZeros_eq {node : Node} (finite : node.sequence.isFinite = true)
    (other : Node) :
    Node.agrees node other = true ↔
      Node.mapItems Simple.unsignedZeros node = Node.mapItems Simple.unsignedZeros other := by
  have sequences := Sequence.agrees_iff_unsignedZeros_eq finite other.sequence
  simp [Node.agrees, Node.mapItems, sequences, and_assoc]

/-- Finite selectors agree if and only if they differ in the signs of zeros at most. -/
theorem agrees_iff_unsignedZeros_eq {selector : Selector} (finite : selector.isFinite = true)
    (other : Selector) :
    selector.agrees other = true ↔ selector.unsignedZeros = other.unsignedZeros := by
  have each : ∀ node ∈ selector.nodes, ∀ other, Node.agrees node other = true ↔
      Node.mapItems Simple.unsignedZeros node = Node.mapItems Simple.unsignedZeros other := by
    intro node member
    apply Node.agrees_iff_unsignedZeros_eq
    exact List.all_eq_true.1 finite node.sequence (List.mem_map_of_mem member)
  have lists := zip_all_iff_map_eq each other.nodes
  rw [unsignedZeros, unsignedZeros, mapItems, mapItems, mk.injEq]
  exact lists

end Selector

end NodeQuery
