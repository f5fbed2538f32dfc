import NodeQuery.Proofs.Build.Dispatch
import NodeQuery.Proofs.Selector.Chain

/-!
# Building is recursive compilation

The builder walks the links backwards from the last sequence. The compiler that it stands for is
recursive: a sequence is compiled by compiling the one after it, applying its own simple
selectors from left to right and combining it with the one after it, if there is one. Both take
the same steps, whatever the handlers do.

What a build may do is a list of actions that depends on the selector alone. How an action ends is
what the registry answers, or whether the prepared query is a container. A run performs the actions
in order, hands the query that each one leaves to the next, and stops at the first that fails.
Building is the run of the actions of the selector.

Main statements: `Registry.buildStep_eq_compile` and `Registry.build_refines_compile`.
-/

namespace NodeQuery

/-! ## Steps -/

namespace BuildStep

variable {Query Failure : Type}

/-- Nothing is to be done after a step. -/
theorem andThen_done (step : BuildStep Query Failure) : andThen step done = step := by
  funext query
  unfold andThen
  split
  · rename_i changed outcome
    rw [outcome]
    rfl
  · rename_i changed error outcome
    exact outcome.symm

/-- Two steps pass if the first passes and the second does on what it leaves. -/
theorem andThen_eq_ok_iff {first second : BuildStep Query Failure} {before after : Query} :
    andThen first second before = (after, .ok ()) ↔
      ∃ middle, first before = (middle, .ok ()) ∧ second middle = (after, .ok ()) := by
  unfold andThen
  rcases first before with ⟨changed, ⟨error⟩ | ⟨⟩⟩ <;> simp

/-- Steps may be grouped either way. -/
theorem andThen_assoc (first second third : BuildStep Query Failure) :
    andThen (andThen first second) third = andThen first (andThen second third) := by
  funext query
  unfold andThen
  rcases first query with ⟨changed, ⟨error⟩ | ⟨⟩⟩ <;> rfl

/-- The steps of a list after those of another. -/
theorem sequence_append (front back : List (BuildStep Query Failure)) :
    sequence (front ++ back) = andThen (sequence front) (sequence back) := by
  induction front with
  | nil => rfl
  | cons first rest hypothesis =>
    rw [List.cons_append, sequence, hypothesis, sequence, andThen_assoc]

/-- A list of one step. -/
theorem sequence_singleton (step : BuildStep Query Failure) : sequence [step] = step :=
  andThen_done step

end BuildStep

/-! ## The walk over a chain -/

namespace Registry

/-- Going back from a sequence of a chain meets every one before it. -/
theorem backwards_ofChain (chain : Chain) {count : Nat} (bound : count ≤ chain.rest.length + 1) :
    backwards (Selector.ofChain chain) count (Chain.indexBefore count) =
      (List.range count).reverse := by
  induction count with
  | zero => rfl
  | succ count hypothesis =>
    have inside : count ≤ chain.rest.length := by omega
    have earlier := hypothesis (by omega)
    rw [Chain.indexBefore, backwards, Selector.parent?_ofChain, if_pos inside, earlier,
      List.range_succ, List.reverse_append]
    rfl

/-- The sequences of a chain are visited from the last to the first. -/
theorem visitOrder_ofChain (chain : Chain) :
    visitOrder (Selector.ofChain chain) = (List.range (chain.rest.length + 1)).reverse := by
  have walk := backwards_ofChain chain (Nat.le_refl (chain.rest.length + 1))
  rw [visitOrder, Selector.length_ofChain, Selector.last?_ofChain]
  exact walk

/-- A sequence of a chain is combined with what the chain has after it. -/
theorem combination?_ofChain (chain : Chain) (index : Nat) :
    combination? (Selector.ofChain chain) index =
      chain.rest[index]?.map fun (combinator, child) => (child, combinator) := by
  unfold combination?
  rw [Selector.child?_ofChain, Selector.combinator?_ofChain]
  by_cases inside : index < chain.rest.length
  · have child : (Selector.ofChain chain).sequence? (index + 1) =
        some chain.rest[index].2 := by
      rw [Selector.sequence?_ofChain, Chain.sequences, List.getElem?_cons_succ,
        List.getElem?_map, List.getElem?_eq_getElem inside]
      rfl
    rw [if_pos inside, List.getElem?_eq_getElem inside]
    simp only [Option.bind_eq_bind, Option.bind_some, Option.map_some, child]
  · rw [if_neg inside, List.getElem?_eq_none (Nat.not_lt.1 inside)]
    rfl

variable {Query Failure : Type}

/-- Applies the simple selectors of a sequence from left to right. -/
def applyStep (registry : Registry Query Failure) (selector : Selector) (sequence : Sequence) :
    BuildStep Query Failure :=
  BuildStep.sequence (sequence.items.map (registry.simpleStep selector))

/-- Builds a sequence of which the ones after it have been built. -/
def ownStep (registry : Registry Query Failure) (selector : Selector) (sequence : Sequence) :
    Option (Combinator × Sequence) → BuildStep Query Failure
  | none => registry.applyStep selector sequence
  | some (combinator, child) =>
    (registry.applyStep selector sequence).andThen
      (registry.structuralStep ⟨selector, .combine sequence child combinator⟩)

/-- What each sequence of a chain adds to the build, from the first to the last. -/
def ownSteps (registry : Registry Query Failure) (selector : Selector) (first : Sequence) :
    List (Combinator × Sequence) → List (BuildStep Query Failure)
  | [] => [registry.ownStep selector first none]
  | (combinator, child) :: rest =>
    registry.ownStep selector first (some (combinator, child)) ::
      registry.ownSteps selector child rest

/-- Visiting a sequence of a chain builds it. -/
theorem sequenceStep_ofChain (registry : Registry Query Failure) (chain : Chain) (index : Nat) :
    registry.sequenceStep (Selector.ofChain chain) index =
      match chain.sequences[index]? with
      | none => BuildStep.done
      | some sequence =>
        registry.ownStep (Selector.ofChain chain) sequence chain.rest[index]? := by
  rw [sequenceStep, Selector.sequence?_ofChain, combination?_ofChain]
  cases chain.sequences[index]? with
  | none => rfl
  | some sequence =>
    cases chain.rest[index]? with
    | none => exact BuildStep.andThen_done _
    | some pair => rfl

/-- The visits of all indices of a chain, from the first to the last. -/
theorem map_range_eq_ownSteps (registry : Registry Query Failure) (selector : Selector)
    (first : Sequence) (rest : List (Combinator × Sequence)) :
    ((List.range (rest.length + 1)).map fun index =>
      match (first :: rest.map Prod.snd)[index]? with
      | none => BuildStep.done
      | some sequence => registry.ownStep selector sequence rest[index]?) =
        registry.ownSteps selector first rest := by
  induction rest generalizing first with
  | nil => rfl
  | cons pair rest hypothesis =>
    have later := hypothesis pair.2
    rw [List.length_cons, List.range_succ_eq_map, List.map_cons, List.map_map, ownSteps, ← later]
    rfl

/-! ## The recursive compiler -/

/-- Compiles a sequence and those after it: first the one after it with all behind that one,
then its own simple selectors, then the combination of the two. -/
def compileFrom (registry : Registry Query Failure) (selector : Selector) (first : Sequence) :
    List (Combinator × Sequence) → BuildStep Query Failure
  | [] => registry.applyStep selector first
  | (combinator, child) :: rest =>
    (registry.compileFrom selector child rest).andThen
      ((registry.applyStep selector first).andThen
        (registry.structuralStep ⟨selector, .combine first child combinator⟩))

/-- Compiles the sequences of a selector, if there are any. -/
def compileSequences (registry : Registry Query Failure) (selector : Selector) :
    BuildStep Query Failure :=
  match selector.chain? with
  | none => BuildStep.done
  | some chain => registry.compileFrom selector chain.first chain.rest

/-- Compiles a selector: the preparation, the check of the prepared query, the first sequence
with all after it, and the completion. -/
def compile [Container Query] (registry : Registry Query Failure) (selector : Selector) :
    BuildStep Query Failure :=
  (registry.structuralStep ⟨selector, .prepare⟩).andThen
    (containerStep.andThen
      ((registry.compileSequences selector).andThen
        (registry.structuralStep ⟨selector, .finalize⟩)))

/-- Building the sequences from the last to the first is compiling the first with all after
it. -/
theorem sequence_ownSteps (registry : Registry Query Failure) (selector : Selector)
    (first : Sequence) (rest : List (Combinator × Sequence)) :
    BuildStep.sequence (registry.ownSteps selector first rest).reverse =
      registry.compileFrom selector first rest := by
  induction rest generalizing first with
  | nil => exact BuildStep.sequence_singleton _
  | cons pair rest hypothesis =>
    rw [ownSteps, List.reverse_cons, BuildStep.sequence_append, hypothesis,
      BuildStep.sequence_singleton, compileFrom, ownStep]

/-- The walk over the links takes the steps of the recursive compiler. -/
theorem sequence_visitOrder {selector : Selector} (reachable : selector.Reachable)
    (registry : Registry Query Failure) :
    BuildStep.sequence ((visitOrder selector).map (registry.sequenceStep selector)) =
      registry.compileSequences selector := by
  rcases reachable.empty_or_ofChain with rfl | ⟨chain, rfl⟩
  · rfl
  · have visits := map_range_eq_ownSteps registry (Selector.ofChain chain) chain.first chain.rest
    have steps : (List.range (chain.rest.length + 1)).map
        (registry.sequenceStep (Selector.ofChain chain)) =
          registry.ownSteps (Selector.ofChain chain) chain.first chain.rest := by
      rw [← visits]
      exact List.map_congr_left fun index _ => sequenceStep_ofChain registry chain index
    rw [visitOrder_ofChain, List.map_reverse, steps, sequence_ownSteps, compileSequences,
      Selector.chain?_ofChain]

/-- A build takes the steps of the recursive compiler. -/
theorem buildStep_eq_compile [Container Query] {selector : Selector}
    (reachable : selector.Reachable) (registry : Registry Query Failure) :
    registry.buildStep selector = registry.compile selector := by
  rw [buildStep, sequence_visitOrder reachable]
  simp only [BuildStep.sequence, BuildStep.andThen_done, compile]

end Registry

/-! ## Runs of actions -/

/-- What a build does next. -/
inductive Action where
  /-- It dispatches the event about a target. -/
  | dispatch (target : Target)
  /-- It checks that the query is a container. -/
  | check
deriving DecidableEq, Repr

namespace Chain

/-- What the events for a sequence and those after it are about, in the order of the recursive
compiler. -/
def targetsFrom (first : Sequence) : List (Combinator × Sequence) → List Target
  | [] => first.items.map Target.simple
  | (combinator, child) :: rest =>
    targetsFrom child rest ++
      (first.items.map Target.simple ++ [.combine first child combinator])

/-- What the events for the sequences of a chain are about. -/
def targets (chain : Chain) : List Target := targetsFrom chain.first chain.rest

end Chain

/-- What the events for the sequences of a selector are about. -/
def Selector.targets (selector : Selector) : List Target :=
  match selector.chain? with
  | none => []
  | some chain => chain.targets

/-- The actions of the build of a selector. -/
def Selector.actions (selector : Selector) : List Action :=
  .dispatch .prepare :: .check ::
    (selector.targets.map Action.dispatch ++ [.dispatch .finalize])

namespace Registry

variable {Query Failure : Type} [Container Query]

/-- Performs one action. -/
def actionStep (registry : Registry Query Failure) (selector : Selector) :
    Action → BuildStep Query Failure
  | .check => containerStep
  | .dispatch (.simple simple) => registry.simpleStep selector simple
  | .dispatch target => registry.structuralStep ⟨selector, target⟩

/-- How an action ends on a query: the query before, the query that it leaves, and the outcome. -/
inductive Performs (registry : Registry Query Failure) (selector : Selector) :
    Action → Query → Query → Except (BuildError Failure) Unit → Prop where
  /-- No handler fails on a structural event. -/
  | passed {target : Target} {before after : Query} :
    (Event.mk selector target).kind.isApply = false →
      registry.fire ⟨selector, target⟩ before = (after, .ok ()) →
        Performs registry selector (.dispatch target) before after (.ok ())
  /-- A handler fails on a structural event. -/
  | failed {target : Target} {before after : Query} {failure : Failure} :
    (Event.mk selector target).kind.isApply = false →
      registry.fire ⟨selector, target⟩ before = (after, .error failure) →
        Performs registry selector (.dispatch target) before after (.error (.handler failure))
  /-- A handler handles a simple selector. -/
  | handled {simple : Simple} {before after : Query} :
    registry.fireUntilHandled ⟨selector, .simple simple⟩ before = (after, .handled) →
      Performs registry selector (.dispatch (.simple simple)) before after (.ok ())
  /-- No handler handles a simple selector, and one fails on it. -/
  | refused {simple : Simple} {before after : Query} {failure : Failure} :
    registry.fireUntilHandled ⟨selector, .simple simple⟩ before = (after, .failed failure) →
      Performs registry selector (.dispatch (.simple simple)) before after
        (.error (.handler failure))
  /-- No handler handles a simple selector, and none fails on it. -/
  | unsupported {simple : Simple} {before after : Query} :
    registry.fireUntilHandled ⟨selector, .simple simple⟩ before = (after, .unhandled) →
      Performs registry selector (.dispatch (.simple simple)) before after
        (.error (.selectorNotSupported simple.kind))
  /-- The query is a container. -/
  | container {query : Query} : Container.isContainer query = true →
      Performs registry selector .check query query (.ok ())
  /-- The query is no container. -/
  | invalid {query : Query} : Container.isContainer query = false →
      Performs registry selector .check query query (.error .invalidAccumulator)

/-- The step of a structural event ends as its dispatch does. -/
theorem structuralStep_eq_iff_performs {registry : Registry Query Failure} {selector : Selector}
    {target : Target} (structural : (Event.mk selector target).kind.isApply = false)
    {before after : Query} {outcome : Except (BuildError Failure) Unit} :
    registry.structuralStep ⟨selector, target⟩ before = (after, outcome) ↔
      registry.Performs selector (.dispatch target) before after outcome := by
  unfold structuralStep
  constructor
  · intro same
    split at same
    · rename_i changed answer
      obtain ⟨rfl, rfl⟩ := Prod.mk.inj same
      exact .passed structural answer
    · rename_i changed failure answer
      obtain ⟨rfl, rfl⟩ := Prod.mk.inj same
      exact .failed structural answer
  · intro performed
    cases performed with
    | passed _ answer => rw [answer]
    | failed _ answer => rw [answer]
    | handled => cases structural
    | refused => cases structural
    | unsupported => cases structural

/-- The step of a simple selector ends as its dispatch does. -/
theorem simpleStep_eq_iff_performs {registry : Registry Query Failure} {selector : Selector}
    {simple : Simple} {before after : Query} {outcome : Except (BuildError Failure) Unit} :
    registry.simpleStep selector simple before = (after, outcome) ↔
      registry.Performs selector (.dispatch (.simple simple)) before after outcome := by
  unfold simpleStep
  constructor
  · intro same
    split at same
    · rename_i changed answer
      obtain ⟨rfl, rfl⟩ := Prod.mk.inj same
      exact .handled answer
    · rename_i changed failure answer
      obtain ⟨rfl, rfl⟩ := Prod.mk.inj same
      exact .refused answer
    · rename_i changed answer
      obtain ⟨rfl, rfl⟩ := Prod.mk.inj same
      exact .unsupported answer
  · intro performed
    cases performed with
    | passed structural => cases structural
    | failed structural => cases structural
    | handled answer => rw [answer]
    | refused answer => rw [answer]
    | unsupported answer => rw [answer]

/-- The check of the prepared query ends as the query is a container or not. -/
theorem containerStep_eq_iff_performs {registry : Registry Query Failure} {selector : Selector}
    {before after : Query} {outcome : Except (BuildError Failure) Unit} :
    containerStep before = (after, outcome) ↔
      registry.Performs selector .check before after outcome := by
  unfold containerStep
  constructor
  · intro same
    split at same
    · rename_i fit
      obtain ⟨rfl, rfl⟩ := Prod.mk.inj same
      exact .container fit
    · rename_i unfit
      obtain ⟨rfl, rfl⟩ := Prod.mk.inj same
      exact .invalid (Bool.eq_false_iff.2 unfit)
  · intro performed
    cases performed with
    | container fit => rw [if_pos fit]
    | invalid unfit => rw [if_neg (Bool.eq_false_iff.1 unfit)]

/-- The step of an action ends as the action does. -/
theorem actionStep_eq_iff_performs {registry : Registry Query Failure} {selector : Selector}
    {action : Action} {before after : Query} {outcome : Except (BuildError Failure) Unit} :
    registry.actionStep selector action before = (after, outcome) ↔
      registry.Performs selector action before after outcome := by
  cases action with
  | check => exact containerStep_eq_iff_performs
  | dispatch target =>
    cases target with
    | simple simple => exact simpleStep_eq_iff_performs
    | prepare => exact structuralStep_eq_iff_performs rfl
    | combine sequence child combinator => exact structuralStep_eq_iff_performs rfl
    | finalize => exact structuralStep_eq_iff_performs rfl

/-- A run of actions: the query before, the query that it leaves, and how it ends. -/
inductive Run (registry : Registry Query Failure) (selector : Selector) :
    List Action → Query → Query → Except (BuildError Failure) Unit → Prop where
  /-- No action is left. -/
  | done (query : Query) : Run registry selector [] query query (.ok ())
  /-- An action succeeds, and the later ones start from the query that it leaves. -/
  | next {action : Action} {rest : List Action} {before middle after : Query}
    {outcome : Except (BuildError Failure) Unit} :
    registry.Performs selector action before middle (.ok ()) →
      Run registry selector rest middle after outcome →
        Run registry selector (action :: rest) before after outcome
  /-- An action fails, and no later one is performed. -/
  | stop {action : Action} (rest : List Action) {before after : Query}
    {error : BuildError Failure} :
    registry.Performs selector action before after (.error error) →
      Run registry selector (action :: rest) before after (.error error)

/-- The steps of actions, one after the other, are a run of them. -/
theorem sequence_actionStep_iff_run (registry : Registry Query Failure) (selector : Selector)
    (actions : List Action) (before after : Query) (outcome : Except (BuildError Failure) Unit) :
    BuildStep.sequence (actions.map (registry.actionStep selector)) before = (after, outcome) ↔
      registry.Run selector actions before after outcome := by
  induction actions generalizing before with
  | nil =>
    constructor
    · intro same
      obtain ⟨rfl, rfl⟩ := Prod.mk.inj same
      exact Run.done before
    · intro run
      cases run
      rfl
  | cons action rest hypothesis =>
    rw [List.map_cons, BuildStep.sequence, BuildStep.andThen]
    constructor
    · intro same
      split at same
      · rename_i middle stepped
        exact Run.next (actionStep_eq_iff_performs.1 stepped) ((hypothesis middle).1 same)
      · rename_i middle error stepped
        obtain ⟨rfl, rfl⟩ := Prod.mk.inj same
        exact Run.stop rest (actionStep_eq_iff_performs.1 stepped)
    · intro run
      cases run with
      | next performed later =>
        simp only [actionStep_eq_iff_performs.2 performed, (hypothesis _).2 later]
      | stop rest performed => simp only [actionStep_eq_iff_performs.2 performed]

/-- Compiling the sequences of a chain dispatches their events. -/
theorem compileFrom_eq_sequence (registry : Registry Query Failure) (selector : Selector)
    (first : Sequence) (rest : List (Combinator × Sequence)) :
    registry.compileFrom selector first rest =
      BuildStep.sequence (((Chain.targetsFrom first rest).map Action.dispatch).map
        (registry.actionStep selector)) := by
  have own : ∀ sequence : Sequence, registry.applyStep selector sequence =
      BuildStep.sequence (((sequence.items.map Target.simple).map Action.dispatch).map
        (registry.actionStep selector)) := by
    intro sequence
    rw [applyStep, List.map_map, List.map_map]
    rfl
  induction rest generalizing first with
  | nil => exact own first
  | cons pair rest hypothesis =>
    rw [compileFrom, hypothesis, own, Chain.targetsFrom, List.map_append, List.map_append,
      List.map_append, List.map_append, BuildStep.sequence_append, BuildStep.sequence_append,
      List.map_singleton, List.map_singleton, BuildStep.sequence_singleton]
    rfl

/-- Compiling a selector performs its actions. -/
theorem compile_eq_sequence (registry : Registry Query Failure) (selector : Selector) :
    registry.compile selector =
      BuildStep.sequence (selector.actions.map (registry.actionStep selector)) := by
  have inner : registry.compileSequences selector =
      BuildStep.sequence ((selector.targets.map Action.dispatch).map
        (registry.actionStep selector)) := by
    unfold compileSequences Selector.targets
    cases selector.chain? with
    | none => rfl
    | some chain => exact compileFrom_eq_sequence registry selector chain.first chain.rest
  rw [Selector.actions, List.map_cons, List.map_cons, List.map_append, BuildStep.sequence,
    BuildStep.sequence, BuildStep.sequence_append, ← inner, List.map_singleton,
    BuildStep.sequence_singleton]
  rfl

/-- Only the check of the prepared query finds an invalid accumulator. -/
theorem Performs.ne_invalidAccumulator {registry : Registry Query Failure}
    {selector : Selector} {target : Target} {before after : Query}
    {outcome : Except (BuildError Failure) Unit}
    (performed : registry.Performs selector (.dispatch target) before after outcome) :
    outcome ≠ .error .invalidAccumulator := by
  intro same
  cases performed <;> cases same

/-- A run that dispatches events only finds no invalid accumulator. -/
theorem Run.ne_invalidAccumulator {registry : Registry Query Failure} {selector : Selector}
    {targets : List Target} {before after : Query} {outcome : Except (BuildError Failure) Unit}
    (run : registry.Run selector (targets.map Action.dispatch) before after outcome) :
    outcome ≠ .error .invalidAccumulator := by
  induction targets generalizing before with
  | nil =>
    cases run
    intro same
    cases same
  | cons target rest hypothesis =>
    cases run with
    | next performed later => exact hypothesis later
    | stop rest performed => exact performed.ne_invalidAccumulator

/-- The actions of a selector find an invalid accumulator if the query is prepared and is no
container then. -/
theorem exists_run_invalidAccumulator_iff (registry : Registry Query Failure)
    (selector : Selector) (initial : Query) :
    (∃ after, registry.Run selector selector.actions initial after
        (.error .invalidAccumulator)) ↔
      ∃ prepared, registry.fire ⟨selector, .prepare⟩ initial = (prepared, .ok ()) ∧
        Container.isContainer prepared = false := by
  constructor
  · rintro ⟨after, run⟩
    cases run with
    | stop rest performed => exact absurd rfl performed.ne_invalidAccumulator
    | @next _ _ _ prepared _ _ performed later =>
      cases performed with
      | passed _ answer =>
        refine ⟨prepared, answer, ?_⟩
        cases later with
        | stop rest checked =>
          cases checked with
          | invalid unfit => exact unfit
        | next checked dispatched =>
          rw [← List.map_singleton, ← List.map_append] at dispatched
          exact absurd rfl dispatched.ne_invalidAccumulator
  · rintro ⟨prepared, answer, unfit⟩
    exact ⟨prepared, Run.next (.passed rfl answer) (Run.stop _ (.invalid unfit))⟩

/-- A build gives the query of a run that ends well, and the error of one that does not. -/
theorem build_eq_of_run {selector : Selector} (reachable : selector.Reachable)
    {registry : Registry Query Failure} {initial after : Query}
    {outcome : Except (BuildError Failure) Unit}
    (run : registry.Run selector selector.actions initial after outcome) :
    registry.build selector initial = outcome.map fun _ => after := by
  have performed := (sequence_actionStep_iff_run registry selector _ initial after outcome).2 run
  rw [build, buildStep_eq_compile reachable, compile_eq_sequence, performed]
  cases outcome <;> rfl

/-- For every selector, all handlers and every initial query, building is the recursive compiler
of the selector. What that does is the run of the selector's actions: they are performed in
order on the query that the ones before left, the first that fails is the last one performed,
and its error is that of the build. The accumulator is invalid if and only if the prepared query
is no container. And each dispatch asks the handlers one after the other, none of them behind the
answer that ends it. -/
theorem build_refines_compile {selector : Selector} (reachable : selector.Reachable)
    (registry : Registry Query Failure) (initial : Query) :
    registry.buildStep selector initial = registry.compile selector initial ∧
      (∀ after outcome, registry.compile selector initial = (after, outcome) ↔
        registry.Run selector selector.actions initial after outcome) ∧
      (∀ after outcome, registry.Run selector selector.actions initial after outcome →
        registry.build selector initial = outcome.map fun _ => after) ∧
      (registry.build selector initial = .error .invalidAccumulator ↔
        ∃ prepared, registry.fire ⟨selector, .prepare⟩ initial = (prepared, .ok ()) ∧
          Container.isContainer prepared = false) ∧
      ∀ event before, registry.TakesCourse event before := by
  have ran : ∀ after outcome, registry.compile selector initial = (after, outcome) ↔
      registry.Run selector selector.actions initial after outcome := by
    intro after outcome
    rw [compile_eq_sequence]
    exact sequence_actionStep_iff_run registry selector _ initial after outcome
  refine ⟨congrFun (buildStep_eq_compile reachable registry) initial, ran,
    fun after outcome run => build_eq_of_run reachable run, ?_, registry.takesCourse⟩
  rw [← exists_run_invalidAccumulator_iff]
  constructor
  · intro invalid
    rcases compiled : registry.compile selector initial with ⟨after, outcome⟩
    have run := (ran after outcome).1 compiled
    rw [build_eq_of_run reachable run] at invalid
    cases outcome with
    | ok passed => cases invalid
    | error error =>
      obtain rfl := Except.error.inj invalid
      exact ⟨after, run⟩
  · rintro ⟨after, run⟩
    rw [build_eq_of_run reachable run]
    rfl

/-- A registry of one handler that writes down the kind of every event and handles it, unless it is
of a kind that gets another answer. -/
def recorder (kind : EventKind) (answer : Response String) : Registry (List EventKind) String :=
  (empty.attachAll 0 fun event kinds =>
    (kinds ++ [event.kind], if event.kind = kind then answer else .handled)).2

/-- The events of `page>.new`: from the preparation to the completion if all are handled, and else
up to the class that is refused, the element that is not supported, or the combination that
fails. -/
theorem build_refines_compile_newPage :
    let page : Selector :=
      .ofChain ⟨⟨[.element "page"]⟩, [(.child, ⟨[.className "new"]⟩)]⟩
    let handles := recorder .finalizeQuery .handled
    let refuses := recorder (.applySimple .className) (.failed "no class")
    let ignores := recorder (.applySimple .element) .unhandled
    let fails := recorder .combineSequence (.failed "no page")
    page.Reachable ∧
      handles.build page [] = .ok [.prepareQuery, .applySimple .className, .applySimple .element,
        .combineSequence, .finalizeQuery] ∧
      (refuses.Run page page.actions [] [.prepareQuery, .applySimple .className]
          (.error (.handler "no class")) ∧
        refuses.build page [] = .error (.handler "no class")) ∧
      (ignores.Run page page.actions []
          [.prepareQuery, .applySimple .className, .applySimple .element]
          (.error (.selectorNotSupported .element)) ∧
        ignores.build page [] = .error (.selectorNotSupported .element)) ∧
      fails.Run page page.actions []
          [.prepareQuery, .applySimple .className, .applySimple .element, .combineSequence]
          (.error (.handler "no page")) ∧
        fails.build page [] = .error (.handler "no page") := by
  intro page handles refuses ignores fails
  have reachable : page.Reachable := Selector.reachable_ofChain _
  obtain ⟨_, ran, built, _⟩ := build_refines_compile reachable handles []
  obtain ⟨_, ranRefused, builtRefused, _⟩ := build_refines_compile reachable refuses []
  obtain ⟨_, ranIgnored, builtIgnored, _⟩ := build_refines_compile reachable ignores []
  obtain ⟨_, ranFailed, builtFailed, _⟩ := build_refines_compile reachable fails []
  have handled := (ran _ (.ok ())).1 rfl
  have refused := (ranRefused _ (.error (.handler "no class"))).1 rfl
  have ignored := (ranIgnored _ (.error (.selectorNotSupported .element))).1 rfl
  have failed := (ranFailed _ (.error (.handler "no page"))).1 rfl
  exact ⟨reachable, built _ _ handled, ⟨refused, builtRefused _ _ refused⟩,
    ⟨ignored, builtIgnored _ _ ignored⟩, failed, builtFailed _ _ failed⟩

end Registry

end NodeQuery
