import NodeQuery.Selector.Basic

/-!
# Events

Building a query from a selector is a run of events, one for each node of the selector and
one at either end. An event carries the selector being built and what it is about; handlers
subscribe to a kind of event or to all of them.
-/

namespace NodeQuery

/-- The kind of an event. -/
inductive EventKind where
  /-- Before the first simple selector. -/
  | prepareQuery
  /-- For a simple selector of this kind. -/
  | applySimple (kind : Kind)
  /-- After the simple selectors of a sequence that has another one after it. -/
  | combineSequence
  /-- After everything else. -/
  | finalizeQuery
deriving DecidableEq, Repr

namespace EventKind

/-- All kinds of event. -/
def all : List EventKind :=
  prepareQuery :: (Kind.all.map applySimple ++ [combineSequence, finalizeQuery])

/-- The name of a kind of event. -/
def name : EventKind → String
  | prepareQuery => "prepare-query"
  | applySimple kind => "apply-" ++ kind.name ++ "-selector"
  | combineSequence => "combine-sequence"
  | finalizeQuery => "finalize-query"

/-- The kind of event with a name. -/
def ofName? (name : String) : Option EventKind := all.find? (·.name == name)

/-- Whether this kind of event applies a simple selector. -/
def isApply : EventKind → Bool
  | applySimple _ => true
  | _ => false

/-- Every kind of event is listed. -/
theorem mem_all (kind : EventKind) : kind ∈ all := by
  cases kind with
  | applySimple kind => cases kind <;> decide
  | _ => decide

end EventKind

/-- What an event is about. -/
inductive Target where
  /-- The start of the build. -/
  | prepare
  /-- A simple selector to be applied. -/
  | simple (simple : Simple)
  /-- A sequence, the one after it, and the combinator between them. -/
  | combine (sequence child : Sequence) (combinator : Combinator)
  /-- The end of the build. -/
  | finalize
deriving DecidableEq, Repr

/-- What handlers are told. -/
structure Event where
  /-- The selector being built. -/
  selector : Selector
  /-- What the event is about. -/
  target : Target
deriving DecidableEq, Repr

/-- The kind of an event follows from what it is about. -/
def Event.kind (event : Event) : EventKind :=
  match event.target with
  | .prepare => .prepareQuery
  | .simple simple => .applySimple simple.kind
  | .combine _ _ _ => .combineSequence
  | .finalize => .finalizeQuery

/-- What a handler did with an event. -/
inductive Response (Failure : Type) where
  /-- It applied the event. -/
  | handled
  /-- It ignored the event. -/
  | unhandled
  /-- It could not apply the event. -/
  | failed (failure : Failure)
deriving DecidableEq, Repr

/-- A handler answers an event and may change the query that is built. -/
def Handler (Query Failure : Type) : Type := Event → Query → Query × Response Failure

end NodeQuery
