import NodeQuery.Build.Event

/-!
# Registries of handlers

A registry keeps the attached handlers by descending priority; handlers of one priority stay
in the order in which they were attached. Each attachment gets an identifier that is never
used again, and is removed by it.

An event is dispatched to the handlers that accept its kind, in registry order. A structural
event goes to all of them until one fails. A simple selector goes to them until one handles
it; a failure is only the answer when none does.
-/

namespace NodeQuery

/-- A handler in its registry. -/
structure Registration (Query Failure : Type) where
  /-- The identifier of the attachment. -/
  id : Nat
  /-- The kind of event that the handler accepts; `none` stands for every kind. -/
  kind : Option EventKind
  /-- Handlers of higher priority are run first. -/
  priority : Int
  /-- The handler itself. -/
  handler : Handler Query Failure

/-- Whether a registered handler accepts a kind of event. -/
def Registration.accepts {Query Failure : Type} (registration : Registration Query Failure)
    (kind : EventKind) : Bool :=
  registration.kind.all (· == kind)

/-- The attached handlers. -/
structure Registry (Query Failure : Type) where
  /-- The attachments by descending priority. -/
  registrations : List (Registration Query Failure)
  /-- The identifier of the next attachment. -/
  nextId : Nat

namespace Registry

variable {Query Failure : Type}

/-- The registry without handlers. -/
def empty : Registry Query Failure := ⟨[], 0⟩

/-- Puts an attachment after all those of the same or a higher priority. -/
def insert (added : Registration Query Failure) :
    List (Registration Query Failure) → List (Registration Query Failure)
  | [] => [added]
  | first :: rest =>
    if added.priority ≤ first.priority then first :: insert added rest
    else added :: first :: rest

/-- Attaches a handler for a kind of event, or for every kind. The identifier of the
attachment is returned. -/
def register (registry : Registry Query Failure) (kind : Option EventKind) (priority : Int)
    (handler : Handler Query Failure) : Nat × Registry Query Failure :=
  (registry.nextId,
    ⟨insert ⟨registry.nextId, kind, priority, handler⟩ registry.registrations,
      registry.nextId + 1⟩)

/-- Attaches a handler for a kind of event. -/
def attach (registry : Registry Query Failure) (kind : EventKind) (priority : Int)
    (handler : Handler Query Failure) : Nat × Registry Query Failure :=
  registry.register (some kind) priority handler

/-- Attaches a handler for every kind of event. -/
def attachAll (registry : Registry Query Failure) (priority : Int)
    (handler : Handler Query Failure) : Nat × Registry Query Failure :=
  registry.register none priority handler

/-- Whether an attachment is in the registry. -/
def isAttached (registry : Registry Query Failure) (id : Nat) : Bool :=
  registry.registrations.any (·.id == id)

/-- Removes an attachment; also returned is whether it was there. -/
def detach (registry : Registry Query Failure) (id : Nat) : Bool × Registry Query Failure :=
  (registry.isAttached id,
    { registry with registrations := registry.registrations.filter (·.id != id) })

/-- The number of attachments. -/
def length (registry : Registry Query Failure) : Nat := registry.registrations.length

/-- Whether nothing is attached. -/
def isEmpty (registry : Registry Query Failure) : Bool := registry.registrations.isEmpty

/-- The handlers that accept a kind of event, in the order in which they are run. -/
def handlersFor (registry : Registry Query Failure) (kind : EventKind) :
    List (Handler Query Failure) :=
  (registry.registrations.filter (·.accepts kind)).map (·.handler)

/-- The number of handlers that accept a kind of event. -/
def listenerCount (registry : Registry Query Failure) (kind : EventKind) : Nat :=
  (registry.registrations.filter (·.accepts kind)).length

/-- Runs handlers up to and including the first that fails; its failure is returned. -/
def runAll (event : Event) :
    List (Handler Query Failure) → Query → Query × Except Failure Unit
  | [], query => (query, .ok ())
  | handler :: rest, query =>
    match handler event query with
    | (changed, .failed failure) => (changed, .error failure)
    | (changed, _) => runAll event rest changed

/-- Runs handlers up to and including the first that handles the event. If none does, the
first failure is returned; `failure` is the one met so far. -/
def runUntilHandled (event : Event) (failure : Option Failure) :
    List (Handler Query Failure) → Query → Query × Response Failure
  | [], query => (query, (failure.map Response.failed).getD .unhandled)
  | handler :: rest, query =>
    match handler event query with
    | (changed, .handled) => (changed, .handled)
    | (changed, .unhandled) => runUntilHandled event failure rest changed
    | (changed, .failed later) => runUntilHandled event (failure.or (some later)) rest changed

/-- Dispatches an event to every handler that accepts it; the first failure ends it. -/
def fire (registry : Registry Query Failure) (event : Event) (query : Query) :
    Query × Except Failure Unit :=
  runAll event (registry.handlersFor event.kind) query

/-- Dispatches an event to the handlers that accept it until one handles it. -/
def fireUntilHandled (registry : Registry Query Failure) (event : Event) (query : Query) :
    Query × Response Failure :=
  runUntilHandled event none (registry.handlersFor event.kind) query

end Registry

end NodeQuery
