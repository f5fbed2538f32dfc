import NodeQuery.Build.Registry
import NodeQuery.Json.Basic

/-!
# Building queries

A selector is folded into a query by dispatching events to the handlers of a registry. The
sequences are visited from the last to the first. For the selector `A>B` the events are:

1. the preparation of the query, which must leave a container;
2. each simple selector of `B`, left to right;
3. each simple selector of `A`, then the combination of `A` with `B`;
4. the completion of the query.

The first error ends the build. The query that the handlers left is returned even then,
since a handler may have recorded something in it.
-/

namespace NodeQuery

/-- Why a query could not be built. -/
inductive BuildError (Failure : Type) where
  /-- The prepared query cannot hold terms. -/
  | invalidAccumulator
  /-- No handler handled a simple selector of this kind, and none failed. -/
  | selectorNotSupported (kind : Kind)
  /-- A handler failed. -/
  | handler (failure : Failure)
deriving DecidableEq, Repr

/-- The message of a build error, given the messages of handler failures. -/
def BuildError.message {Failure : Type} (failureMessage : Failure → String) :
    BuildError Failure → String
  | invalidAccumulator => "query accumulator must be a container after prepare-query"
  | selectorNotSupported kind => kind.title ++ " selector is not supported"
  | handler failure => failureMessage failure

/-- Queries that can tell whether they can hold terms. -/
class Container (Query : Type) where
  /-- Whether a query can hold terms. -/
  isContainer : Query → Bool

/-- A JSON value can hold terms when it is an object or an array. -/
instance : Container Json := ⟨fun query => query.isObject || query.isArray⟩

/-- A list can always hold terms. -/
instance {Item : Type} : Container (List Item) := ⟨fun _ => true⟩

/-- A step of a build: it changes the query and may end the build. -/
def BuildStep (Query Failure : Type) : Type :=
  Query → Query × Except (BuildError Failure) Unit

namespace BuildStep

variable {Query Failure : Type}

/-- The step that does nothing. -/
def done : BuildStep Query Failure := fun query => (query, .ok ())

/-- One step and, unless it ends the build, another one after it. -/
def andThen (first second : BuildStep Query Failure) : BuildStep Query Failure := fun query =>
  match first query with
  | (changed, .ok ()) => second changed
  | (changed, .error error) => (changed, .error error)

/-- A list of steps, one after the other. -/
def sequence : List (BuildStep Query Failure) → BuildStep Query Failure
  | [] => done
  | first :: rest => andThen first (sequence rest)

end BuildStep

namespace Registry

variable {Query Failure : Type}

/-- Dispatches a structural event. -/
def structuralStep (registry : Registry Query Failure) (event : Event) :
    BuildStep Query Failure := fun query =>
  match registry.fire event query with
  | (changed, .ok ()) => (changed, .ok ())
  | (changed, .error failure) => (changed, .error (.handler failure))

/-- Dispatches a simple selector, which some handler must handle. -/
def simpleStep (registry : Registry Query Failure) (selector : Selector) (simple : Simple) :
    BuildStep Query Failure := fun query =>
  match registry.fireUntilHandled ⟨selector, .simple simple⟩ query with
  | (changed, .handled) => (changed, .ok ())
  | (changed, .failed failure) => (changed, .error (.handler failure))
  | (changed, .unhandled) => (changed, .error (.selectorNotSupported simple.kind))

/-- What a sequence is combined with: the one after it and the combinator between them. -/
def combination? (selector : Selector) (index : Nat) : Option (Sequence × Combinator) := do
  let child ← selector.child? index
  let combinator ← selector.combinator? index
  let sequence ← selector.sequence? child
  some (sequence, combinator)

/-- Dispatches the simple selectors of a sequence and then its combination with the one
after it, which has been built already. -/
def sequenceStep (registry : Registry Query Failure) (selector : Selector) (index : Nat) :
    BuildStep Query Failure :=
  match selector.sequence? index with
  | none => BuildStep.done
  | some sequence =>
    BuildStep.andThen
      (BuildStep.sequence (sequence.items.map (registry.simpleStep selector)))
      (match combination? selector index with
        | none => BuildStep.done
        | some (child, combinator) =>
          registry.structuralStep ⟨selector, .combine sequence child combinator⟩)

/-- The indices met by going from one sequence to the one before it, as often as given at
most. -/
def backwards (selector : Selector) : Nat → Option Nat → List Nat
  | 0, _ => []
  | _, none => []
  | count + 1, some index => index :: backwards selector count (selector.parent? index)

/-- The indices of the sequences from the last to the first. -/
def visitOrder (selector : Selector) : List Nat :=
  backwards selector selector.length selector.last?

/-- Checks that the prepared query is a container. -/
def containerStep [Container Query] : BuildStep Query Failure := fun query =>
  if Container.isContainer query then (query, .ok ()) else (query, .error .invalidAccumulator)

/-- All steps of the build of a selector. -/
def buildStep [Container Query] (registry : Registry Query Failure) (selector : Selector) :
    BuildStep Query Failure :=
  BuildStep.sequence
    [registry.structuralStep ⟨selector, .prepare⟩,
      containerStep,
      BuildStep.sequence ((visitOrder selector).map (registry.sequenceStep selector)),
      registry.structuralStep ⟨selector, .finalize⟩]

/-- Builds the query of a selector, starting from another query. -/
def build [Container Query] (registry : Registry Query Failure) (selector : Selector)
    (initial : Query) : Except (BuildError Failure) Query :=
  match registry.buildStep selector initial with
  | (query, .ok ()) => .ok query
  | (_, .error error) => .error error

end Registry

end NodeQuery
