import NodeQuery.Filter.Listener
import NodeQuery.Proofs.Build.Compiler
import NodeQuery.Proofs.Build.History

/-!
# Filters are folds

A registry that holds the attachments of one filter listener has one handler for each kind of
event but the last. So a build with it prepares the document and applies the plans of the simple
selectors to it, one after the other: those of the last sequence first, in each sequence from
left to right. Combinators leave no trace, and the check of the prepared query always passes.

Main statements: `Listener.buildStep_attach` and `Listener.compile_eq_ok_iff`.
-/

namespace NodeQuery

/-! ## Attachments of one priority -/

namespace Registry

variable {Query Failure : Type}

/-- An attachment goes behind those of the same or a higher priority. -/
theorem insert_eq_concat {added : Registration Query Failure}
    {registrations : List (Registration Query Failure)}
    (higher : ∀ registration ∈ registrations, added.priority ≤ registration.priority) :
    insert added registrations = registrations ++ [added] := by
  have placed := insert_append_of_higher higher []
  rw [List.append_nil] at placed
  exact placed

/-- A handler is run after the attached ones of the same or a higher priority. -/
theorem handlersFor_attach {registry : Registry Query Failure} {priority : Int}
    (higher : ∀ registration ∈ registry.registrations, priority ≤ registration.priority)
    (kind : EventKind) (handler : Handler Query Failure) (asked : EventKind) :
    (registry.attach kind priority handler).2.handlersFor asked =
      registry.handlersFor asked ++ if kind == asked then [handler] else [] := by
  have behind : (registry.attach kind priority handler).2.registrations =
      registry.registrations ++ [⟨registry.nextId, some kind, priority, handler⟩] :=
    insert_eq_concat higher
  rw [handlersFor, behind, List.filter_append, List.map_append, handlersFor]
  cases accepted : kind == asked with
  | true => simp [Registration.accepts, accepted]
  | false => simp [Registration.accepts, accepted]

end Registry

/-- The simple selectors in the order in which a build applies them. -/
def Selector.applied (selector : Selector) : List Simple :=
  selector.sequences.reverse.flatMap (·.items)

namespace Filter

open NodeQuery

namespace Listener

/-- Handlers that are attached one after the other are run in that order. -/
theorem handlersFor_attachEach (priority : Int) (handlers : List (EventKind × Handler Json Failure))
    {registry : FilterRegistry}
    (higher : ∀ registration ∈ registry.registrations, priority ≤ registration.priority)
    (asked : EventKind) :
    (attachEach priority handlers registry).2.handlersFor asked =
      registry.handlersFor asked ++ (handlers.filter (·.1 == asked)).map Prod.snd := by
  induction handlers generalizing registry with
  | nil => simp [attachEach]
  | cons pair rest hypothesis =>
    obtain ⟨kind, handler⟩ := pair
    have longer : ∀ registration ∈ (registry.attach kind priority handler).2.registrations,
        priority ≤ registration.priority := by
      intro registration member
      rcases Registry.mem_register.1 member with rfl | earlier
      · exact Int.le_refl priority
      · exact higher registration earlier
    have later := hypothesis longer
    rw [Registry.handlersFor_attach higher] at later
    rw [attachEach]
    refine later.trans ?_
    rw [List.append_assoc, List.filter_cons]
    cases kind == asked <;> rfl

/-- The handlers that a listener alone has for a kind of event. -/
theorem handlersFor_attach_empty (listener : Listener) (kind : EventKind) :
    (listener.attach Registry.empty).2.handlersFor kind =
      match kind with
      | .prepareQuery => [prepareHandler]
      | .applySimple _ => [simpleHandler listener.config listener.resolve]
      | .combineSequence => [combineHandler]
      | .finalizeQuery => [] := by
  have none : ∀ registration ∈ (Registry.empty : FilterRegistry).registrations,
      listener.priority ≤ registration.priority := List.forall_mem_nil _
  refine (handlersFor_attachEach listener.priority listener.handlers none kind).trans ?_
  cases kind with
  | applySimple kind => cases kind <;> rfl
  | _ => rfl

end Listener

/-! ## Applying plans -/

/-- Applies a simple selector to a document, as its plan says. -/
def applySimple (config : Config) (resolve : Resolver) (simple : Simple) :
    BuildStep Json Failure := fun document =>
  match planOf config resolve simple with
  | .changes changes => (performAll changes document, .ok ())
  | .unsupported => (document, .error (.selectorNotSupported simple.kind))
  | .failed failure => (document, .error (.handler failure))

/-- Applies simple selectors to a document, one after the other. -/
def applyAll (config : Config) (resolve : Resolver) (simples : List Simple) :
    BuildStep Json Failure :=
  BuildStep.sequence (simples.map (applySimple config resolve))

/-- The changes that a simple selector makes; one that is not handled makes none. -/
def changesOf (config : Config) (resolve : Resolver) (simple : Simple) : List Change :=
  match planOf config resolve simple with
  | .changes changes => changes
  | _ => []

/-- Applying some selectors and then others is applying all of them. -/
theorem applyAll_append (config : Config) (resolve : Resolver) (front back : List Simple) :
    applyAll config resolve (front ++ back) =
      (applyAll config resolve front).andThen (applyAll config resolve back) := by
  rw [applyAll, List.map_append, BuildStep.sequence_append]
  rfl

/-- Changes made after others. -/
theorem performAll_append (front back : List Change) (document : Json) :
    performAll (front ++ back) document = performAll back (performAll front document) :=
  List.foldl_append

/-- A simple selector is applied if and only if it is handled; the document then has its
changes. -/
theorem applySimple_eq_ok_iff {config : Config} {resolve : Resolver} {simple : Simple}
    {document result : Json} :
    applySimple config resolve simple document = (result, .ok ()) ↔
      (∃ changes, planOf config resolve simple = .changes changes) ∧
        result = performAll (changesOf config resolve simple) document := by
  unfold applySimple changesOf
  cases planOf config resolve simple with
  | changes changes => simp [eq_comm]
  | unsupported => simp
  | failed failure => simp

/-- All simple selectors are applied if and only if each of them is handled; the document then
has all their changes. -/
theorem applyAll_eq_ok_iff (config : Config) (resolve : Resolver) (simples : List Simple)
    (document result : Json) :
    applyAll config resolve simples document = (result, .ok ()) ↔
      (∀ simple ∈ simples, ∃ changes, planOf config resolve simple = .changes changes) ∧
        result = performAll (simples.flatMap (changesOf config resolve)) document := by
  induction simples generalizing document with
  | nil =>
    constructor
    · intro same
      exact ⟨List.forall_mem_nil _, (Prod.mk.inj same).1.symm⟩
    · rintro ⟨_, rfl⟩
      rfl
  | cons simple rest hypothesis =>
    rw [applyAll, List.map_cons, BuildStep.sequence, BuildStep.andThen_eq_ok_iff,
      List.forall_mem_cons, List.flatMap_cons, performAll_append]
    constructor
    · rintro ⟨middle, first, later⟩
      obtain ⟨handled, rfl⟩ := applySimple_eq_ok_iff.1 first
      obtain ⟨others, rfl⟩ := (hypothesis _).1 later
      exact ⟨⟨handled, others⟩, rfl⟩
    · rintro ⟨⟨handled, others⟩, rfl⟩
      exact ⟨_, applySimple_eq_ok_iff.2 ⟨handled, rfl⟩, (hypothesis _).2 ⟨others, rfl⟩⟩

namespace Listener

/-! ## Building with one listener -/

variable (listener : Listener)

/-- A listener alone applies a simple selector as its plan says. -/
theorem simpleStep_attach (selector : Selector) :
    (listener.attach Registry.empty).2.simpleStep selector =
      applySimple listener.config listener.resolve := by
  funext simple document
  have handlers := handlersFor_attach_empty listener (.applySimple simple.kind)
  unfold Registry.simpleStep Registry.fireUntilHandled applySimple
  rw [Event.kind, handlers]
  simp only [Registry.runUntilHandled, simpleHandler]
  cases planOf listener.config listener.resolve simple <;> rfl

/-- A listener alone prepares a document. -/
theorem structuralStep_attach_prepare (selector : Selector) (document : Json) :
    (listener.attach Registry.empty).2.structuralStep ⟨selector, .prepare⟩ document =
      (Filter.prepare document, .ok ()) := by
  have handlers := handlersFor_attach_empty listener .prepareQuery
  unfold Registry.structuralStep Registry.fire
  rw [Event.kind, handlers]
  rfl

/-- A listener alone combines nothing. -/
theorem structuralStep_attach_combine (selector : Selector) (sequence child : Sequence)
    (combinator : Combinator) :
    (listener.attach Registry.empty).2.structuralStep
      ⟨selector, .combine sequence child combinator⟩ = BuildStep.done := by
  funext document
  have handlers := handlersFor_attach_empty listener .combineSequence
  unfold Registry.structuralStep Registry.fire
  rw [Event.kind, handlers]
  rfl

/-- A listener alone completes nothing. -/
theorem structuralStep_attach_finalize (selector : Selector) :
    (listener.attach Registry.empty).2.structuralStep ⟨selector, .finalize⟩ =
      BuildStep.done := by
  funext document
  have handlers := handlersFor_attach_empty listener .finalizeQuery
  unfold Registry.structuralStep Registry.fire
  rw [Event.kind, handlers]
  rfl

/-- Compiling the sequences of a chain applies the simple selectors of the last one first. -/
theorem compileFrom_attach (selector : Selector) (first : Sequence)
    (rest : List (Combinator × Sequence)) :
    (listener.attach Registry.empty).2.compileFrom selector first rest =
      applyAll listener.config listener.resolve
        ((first :: rest.map Prod.snd).reverse.flatMap (·.items)) := by
  have own : ∀ sequence, (listener.attach Registry.empty).2.applyStep selector sequence =
      applyAll listener.config listener.resolve sequence.items := by
    intro sequence
    rw [Registry.applyStep, simpleStep_attach]
    rfl
  induction rest generalizing first with
  | nil => simp [Registry.compileFrom, own]
  | cons pair rest hypothesis =>
    rw [Registry.compileFrom, hypothesis, own, structuralStep_attach_combine,
      BuildStep.andThen_done, ← applyAll_append]
    simp only [List.map_cons, List.reverse_cons, List.flatMap_append, List.flatMap_singleton]

/-- Compiling the sequences of a selector applies its simple selectors. -/
theorem compileSequences_attach {selector : Selector} (reachable : selector.Reachable) :
    (listener.attach Registry.empty).2.compileSequences selector =
      applyAll listener.config listener.resolve selector.applied := by
  rcases reachable.empty_or_ofChain with rfl | ⟨chain, rfl⟩
  · rfl
  · rw [Registry.compileSequences, Selector.chain?_ofChain, Selector.applied,
      Selector.sequences_ofChain]
    exact compileFrom_attach listener _ chain.first chain.rest

/-- A prepared document is a container. -/
theorem containerStep_prepare (document : Json) :
    (Registry.containerStep : BuildStep Json Failure) (Filter.prepare document) =
      (Filter.prepare document, .ok ()) := rfl

/-- A build with one listener prepares the document and applies the simple selectors to it. -/
theorem buildStep_attach {selector : Selector} (reachable : selector.Reachable)
    (initial : Json) :
    (listener.attach Registry.empty).2.buildStep selector initial =
      applyAll listener.config listener.resolve selector.applied (Filter.prepare initial) := by
  rw [Registry.buildStep_eq_compile reachable, Registry.compile, compileSequences_attach _ reachable,
    structuralStep_attach_finalize, BuildStep.andThen_done]
  simp only [BuildStep.andThen, structuralStep_attach_prepare, containerStep_prepare]

/-- A filter document is built if and only if each simple selector is handled; it is the prepared
document with all their changes. -/
theorem compile_eq_ok_iff {selector : Selector} (reachable : selector.Reachable)
    (initial document : Json) :
    listener.compile selector initial = .ok document ↔
      (∀ simple ∈ selector.applied,
        ∃ changes, planOf listener.config listener.resolve simple = .changes changes) ∧
        document = performAll
          (selector.applied.flatMap (changesOf listener.config listener.resolve))
          (Filter.prepare initial) := by
  rw [← applyAll_eq_ok_iff, ← buildStep_attach listener reachable, compile, Registry.build]
  rcases (listener.attach Registry.empty).2.buildStep selector initial with
    ⟨built, ⟨error⟩ | ⟨⟩⟩ <;> simp

end Listener

end Filter

end NodeQuery
