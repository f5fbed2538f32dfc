import NodeQuery.Build.Builder
import NodeQuery.Filter.Plan

/-!
# Filter listeners

A filter listener attaches the handlers that build a filter document from a selector: one
for the preparation, one for each kind of simple selector and one for the combination, which
leaves the document as it is, since every sequence constrains the same documents. It
remembers its attachments and removes exactly those.
-/

namespace NodeQuery.Filter

open NodeQuery

/-- A registry of handlers that build filter documents. -/
abbrev FilterRegistry : Type := Registry Json Failure

/-- A source of handlers that build a filter document from a selector. -/
structure Listener where
  /-- The field names to be used. -/
  config : Config
  /-- The stored paths to be used. -/
  resolve : Resolver
  /-- The priority of the next attachments. -/
  priority : Int
  /-- The identifiers of the attachments made since the last detachment. -/
  attachments : List Nat

namespace Listener

/-- A listener that has attached nothing. -/
def new (config : Config) (resolve : Resolver) (priority : Int) : Listener :=
  ⟨config, resolve, priority, []⟩

/-- The handler of the preparation. -/
def prepareHandler : Handler Json Failure := fun _ document => (prepare document, .handled)

/-- The handler of simple selectors. -/
def simpleHandler (config : Config) (resolve : Resolver) : Handler Json Failure :=
  fun event document =>
    match event.target with
    | .simple simple => (planOf config resolve simple).perform document
    | _ => (document, .unhandled)

/-- The handler of the combination. -/
def combineHandler : Handler Json Failure := fun _ document => (document, .handled)

/-- The handlers of a listener with the kinds of event they accept. -/
def handlers (listener : Listener) : List (EventKind × Handler Json Failure) :=
  (.prepareQuery, prepareHandler) ::
    (Kind.all.map fun kind =>
      (.applySimple kind, simpleHandler listener.config listener.resolve)) ++
    [(.combineSequence, combineHandler)]

/-- Attaches handlers one after the other; their identifiers are returned. -/
def attachEach (priority : Int) :
    List (EventKind × Handler Json Failure) → FilterRegistry → List Nat × FilterRegistry
  | [], registry => ([], registry)
  | (kind, handler) :: rest, registry =>
    let (id, longer) := registry.attach kind priority handler
    let (ids, longest) := attachEach priority rest longer
    (id :: ids, longest)

/-- Attaches the handlers of a listener. -/
def attach (listener : Listener) (registry : FilterRegistry) : Listener × FilterRegistry :=
  let (ids, longer) := attachEach listener.priority listener.handlers registry
  ({ listener with attachments := listener.attachments ++ ids }, longer)

/-- Removes what a listener attached since it last did so. -/
def detach (listener : Listener) (registry : FilterRegistry) : Listener × FilterRegistry :=
  ({ listener with attachments := [] },
    listener.attachments.foldl (fun shorter id => (shorter.detach id).2) registry)

/-- Whether a listener attached handlers that it did not remove. -/
def isAttached (listener : Listener) : Bool := !listener.attachments.isEmpty

/-- The filter document of a selector, starting from another value. -/
def compile (listener : Listener) (selector : Selector) (initial : Json) :
    Except (BuildError Failure) Json :=
  (listener.attach Registry.empty).2.build selector initial

end Listener

end NodeQuery.Filter
