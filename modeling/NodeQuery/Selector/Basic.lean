import NodeQuery.Selector.Sequence

/-!
# Selectors

A selector is a chain of sequences with a combinator between each two neighbours. The
sequences are kept in chain order, each in a node that refers to its neighbours by index and
holds the combinator towards the next, so that the chain can be walked in either direction
and edited at both ends. A position in the chain names the same sequence as long as nothing
is removed before it.
-/

namespace NodeQuery

/-- A sequence and its links to its neighbours in the chain. -/
structure Node where
  /-- The sequence itself. -/
  sequence : Sequence
  /-- The index of the sequence before. -/
  parent : Option Nat
  /-- The index of the sequence after. -/
  child : Option Nat
  /-- The combinator towards the sequence after. -/
  combinator : Option Combinator
deriving DecidableEq, Repr, Inhabited

/-- A chain of sequences. -/
structure Selector where
  /-- The linked sequences in chain order. -/
  nodes : List Node
deriving DecidableEq, Repr, Inhabited

namespace Selector

/-- The selector without sequences. -/
def empty : Selector := ⟨[]⟩

/-- Links the last node of a list to the one that will be added after it. -/
def linkLast (combinator : Combinator) : List Node → List Node
  | [] => []
  | nodes@(_ :: _) =>
    nodes.modify (nodes.length - 1) fun last =>
      { last with child := some nodes.length, combinator := some combinator }

/-- Adds a sequence at the end. The first sequence takes no combinator, each later one needs
one. -/
def append (selector : Selector) (sequence : Sequence) (combinator : Option Combinator) :
    Except StructureError Selector :=
  match selector.nodes, combinator with
  | [], some _ => .error .combinatorOnFirstSequence
  | _ :: _, none => .error .missingCombinator
  | [], none => .ok ⟨[⟨sequence, none, none, none⟩]⟩
  | nodes@(_ :: _), some combinator =>
    .ok ⟨linkLast combinator nodes ++ [⟨sequence, some (nodes.length - 1), none, none⟩]⟩

/-- The number of sequences. -/
def length (selector : Selector) : Nat := selector.nodes.length

/-- Whether there are no sequences. -/
def isEmpty (selector : Selector) : Bool := selector.nodes.isEmpty

/-- The index of the first sequence. -/
def first? (selector : Selector) : Option Nat := if selector.isEmpty then none else some 0

/-- The index of the last sequence. -/
def last? (selector : Selector) : Option Nat :=
  if selector.isEmpty then none else some (selector.length - 1)

/-- The sequence at an index. -/
def sequence? (selector : Selector) (index : Nat) : Option Sequence :=
  selector.nodes[index]?.map (·.sequence)

/-- The index of the sequence after the one at an index. -/
def child? (selector : Selector) (index : Nat) : Option Nat :=
  selector.nodes[index]?.bind (·.child)

/-- The index of the sequence before the one at an index. -/
def parent? (selector : Selector) (index : Nat) : Option Nat :=
  selector.nodes[index]?.bind (·.parent)

/-- The combinator between the sequence at an index and the one after it. -/
def combinator? (selector : Selector) (index : Nat) : Option Combinator :=
  selector.nodes[index]?.bind (·.combinator)

/-- The first sequence. -/
def firstSequence? (selector : Selector) : Option Sequence :=
  selector.first?.bind selector.sequence?

/-- The last sequence. -/
def lastSequence? (selector : Selector) : Option Sequence :=
  selector.last?.bind selector.sequence?

/-- The sequences from first to last. -/
def sequences (selector : Selector) : List Sequence := selector.nodes.map (·.sequence)

/-- A sequence or the combinator between two of them. -/
inductive Link where
  /-- A sequence. -/
  | sequence (sequence : Sequence)
  /-- The combinator between the sequences around it. -/
  | combinator (combinator : Combinator)
deriving DecidableEq, Repr

/-- The sequences with the combinators between them. -/
def links (selector : Selector) : List Link :=
  selector.nodes.flatMap fun node =>
    .sequence node.sequence :: (node.combinator.map Link.combinator).toList

/-- Replaces the sequence at an index by what an edit makes of it. -/
def modify (selector : Selector) (index : Nat) (edit : Sequence → Sequence) : Selector :=
  ⟨selector.nodes.modify index fun node => { node with sequence := edit node.sequence }⟩

/-- Makes a node the last one of its chain. -/
def Node.unlink (node : Node) : Node := { node with child := none, combinator := none }

/-- Removes the last sequence. -/
def pop (selector : Selector) : Option Sequence × Selector :=
  let kept := selector.nodes.dropLast
  (selector.nodes.getLast?.map (·.sequence), ⟨kept.modify (kept.length - 1) Node.unlink⟩)

/-- Links a node to its neighbours anew after it has come to stand at an index. -/
def Node.relink (node : Node) (index : Nat) : Node :=
  { node with
    parent := if index = 0 then none else some (index - 1)
    child := node.child.map fun _ => index + 1 }

/-- Removes the first sequence; the next one becomes first. -/
def shift (selector : Selector) : Option Sequence × Selector :=
  (selector.nodes.head?.map (·.sequence),
    ⟨selector.nodes.tail.mapIdx fun index node => Node.relink node index⟩)

/-- Whether two nodes hold agreeing sequences and the same links. -/
def Node.agrees (left right : Node) : Bool :=
  left.sequence.agrees right.sequence && left.parent == right.parent &&
    left.child == right.child && left.combinator == right.combinator

/-- Equality up to numerical equality of floating point numbers. -/
def agrees (left right : Selector) : Bool :=
  left.length == right.length &&
    (left.nodes.zip right.nodes).all (fun (one, other) => Node.agrees one other)

/-- The canonical text of a selector: its sequences with the combinators' symbols between
them. -/
def chars (selector : Selector) : List Char :=
  selector.nodes.flatMap fun node =>
    node.sequence.chars ++ (node.combinator.map Combinator.symbol).toList

/-- The canonical text of a selector. -/
def text (selector : Selector) : String := String.ofList selector.chars

end Selector

end NodeQuery
