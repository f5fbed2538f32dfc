import NodeQuery.Proofs.Build.Dispatch
import NodeQuery.Proofs.Filter.Survival

/-!
# Repeated attachments of a filter listener

A listener looks at the document only after it has decided what to do: whether it handles a
simple selector follows from the selector, the field names and the stored paths, and one that it
does not handle leaves the document as it is. So whenever a second attachment of the listener is
asked about a simple selector, the first one has given the same answer before, and nothing comes
of it: a refusal changes no document, and a failure is not the first one. The preparation is made
once however often it is repeated. Attaching a listener again behind its first attachment
therefore changes no build, as long as other handlers keep out of the structural events.

Main statement: `Listener.refused_unchanged_and_build_repeated`.
-/

namespace NodeQuery

/-- A field that is written twice holds what is written last. -/
theorem Json.insert_insert (name : String) (value old : Json) (fields : List (String × Json)) :
    insert name value (insert name old fields) = insert name value fields := by
  induction fields with
  | nil => simp only [insert, if_true]
  | cons first rest hypothesis =>
    obtain ⟨key, before⟩ := first
    by_cases same : key = name
    · simp only [insert, if_pos same, if_true]
    · by_cases smaller : name < key
      · simp only [insert, if_neg same, if_pos smaller, if_true]
      · simp only [insert, if_neg same, if_neg smaller, hypothesis]

/-! ## Handlers that spare structural events -/

/-- A handler leaves the query alone on the structural events of the kinds that it is attached
for, and does not fail on them. -/
def SparesStructure {Query Failure : Type} (kind : Option EventKind)
    (handler : Handler Query Failure) : Prop :=
  ∀ event query, event.kind.isApply = false → kind.all (· == event.kind) = true →
    (handler event query).1 = query ∧ ∀ failure, (handler event query).2 ≠ .failed failure

namespace Registry

variable {Query Failure : Type}

/-- A structural event that some handlers spare and others answer with the same effect has that
effect once. -/
theorem runAll_of_effect {event : Event} {effect : Query → Query}
    (stable : ∀ query, effect (effect query) = effect query)
    {handlers : List (Handler Query Failure)}
    (each : ∀ handler ∈ handlers,
      (∀ query, (handler event query).1 = query ∧
        ∀ failure, (handler event query).2 ≠ .failed failure) ∨
      ∀ query, handler event query = (effect query, .handled))
    {query : Query} (reached : effect query = query ∨
      ∃ handler ∈ handlers, ∀ query, handler event query = (effect query, .handled)) :
    runAll event handlers query = (effect query, .ok ()) := by
  induction handlers generalizing query with
  | nil =>
    rcases reached with still | ⟨handler, member, _⟩
    · rw [still]
      rfl
    · cases member
  | cons first rest hypothesis =>
    obtain ⟨firstDoes, restDo⟩ := List.forall_mem_cons.1 each
    rcases firstDoes with spares | acts
    · have later : effect query = query ∨
          ∃ handler ∈ rest, ∀ query, handler event query = (effect query, .handled) := by
        rcases reached with still | ⟨handler, member, acts⟩
        · exact Or.inl still
        · rcases List.mem_cons.1 member with rfl | inside
          · have kept := (spares query).1
            rw [acts] at kept
            exact Or.inl kept
          · exact Or.inr ⟨handler, inside, acts⟩
      obtain ⟨kept, passes⟩ := spares query
      rw [runAll]
      rcases answered : first event query with ⟨changed, response⟩
      rw [answered] at kept passes
      cases kept
      cases response with
      | failed failure => exact absurd rfl (passes failure)
      | handled => exact hypothesis restDo later
      | unhandled => exact hypothesis restDo later
    · rw [runAll, acts]
      refine (hypothesis restDo (Or.inl (stable query))).trans ?_
      rw [stable]

end Registry

namespace Filter

open NodeQuery

/-! ## Answers of a listener -/

/-- Preparing a document twice is preparing it once. -/
theorem prepare_prepare (document : Json) : prepare (prepare document) = prepare document := by
  rw [prepare, prepare, terms_setTerms, setTerms, setEntryFields, setTerms, setEntryFields]
  exact congrArg Json.object (Json.insert_insert _ _ _ _)

/-- What a plan answers, whatever the document. -/
def Plan.answer : Plan → Response Failure
  | changes _ => .handled
  | unsupported => .unhandled
  | failed failure => .failed failure

/-- The answer does not depend on the document. -/
theorem Plan.perform_snd (plan : Plan) (document : Json) :
    (plan.perform document).2 = plan.answer := by
  cases plan <;> rfl

/-- A plan that is not handled answers and does nothing. -/
theorem Plan.perform_of_refused {plan : Plan} (refused : plan.answer ≠ .handled)
    (document : Json) : plan.perform document = (document, plan.answer) := by
  refine Prod.ext (perform_fst_of_not_handled ?_) (plan.perform_snd document)
  rw [perform_snd]
  exact refused

namespace Listener

/-- The handlers of a listener. -/
theorem mem_handlers {listener : Listener} {kind : EventKind} {handler : Handler Json Failure} :
    (kind, handler) ∈ listener.handlers ↔
      kind = .prepareQuery ∧ handler = prepareHandler ∨
        (∃ simple, kind = .applySimple simple ∧
          handler = simpleHandler listener.config listener.resolve) ∨
        kind = .combineSequence ∧ handler = combineHandler := by
  have listed : ∀ simple : Kind, simple ∈ Kind.all := by
    intro simple
    cases simple <;> decide
  simp only [handlers, List.cons_append, List.mem_cons, List.mem_append, List.mem_map,
    List.not_mem_nil, or_false, Prod.mk.injEq]
  constructor
  · rintro (prepares | ⟨simple, _, rfl, rfl⟩ | combines)
    · exact Or.inl prepares
    · exact Or.inr (Or.inl ⟨simple, rfl, rfl⟩)
    · exact Or.inr (Or.inr combines)
  · rintro (prepares | ⟨simple, rfl, rfl⟩ | combines)
    · exact Or.inl prepares
    · exact Or.inr (Or.inl ⟨simple, listed simple, rfl, rfl⟩)
    · exact Or.inr (Or.inr combines)

/-- What a listener does to a document on an event that is no simple selector. -/
def settle : EventKind → Json → Json
  | .prepareQuery, document => prepare document
  | _, document => document

/-- Doing it twice is doing it once. -/
theorem settle_settle (kind : EventKind) (document : Json) :
    settle kind (settle kind document) = settle kind document := by
  cases kind with
  | prepareQuery => exact prepare_prepare document
  | _ => rfl

/-- A listener answers the structural events of its handlers in this way. -/
theorem handler_of_structural {listener : Listener} {kind : EventKind}
    {handler : Handler Json Failure} (own : (kind, handler) ∈ listener.handlers)
    (structural : kind.isApply = false) (event : Event) (document : Json) :
    handler event document = (settle kind document, .handled) := by
  rcases mem_handlers.1 own with ⟨rfl, rfl⟩ | ⟨simple, rfl, _⟩ | ⟨rfl, rfl⟩
  · rfl
  · cases structural
  · rfl

/-- A handler of a listener that does not handle an event leaves the document as it is. -/
theorem handler_fst_of_refused {listener : Listener} {kind : EventKind}
    {handler : Handler Json Failure} (own : (kind, handler) ∈ listener.handlers) {event : Event}
    {document : Json} (refused : (handler event document).2 ≠ .handled) :
    (handler event document).1 = document := by
  rcases mem_handlers.1 own with ⟨_, rfl⟩ | ⟨_, _, rfl⟩ | ⟨_, rfl⟩
  · exact absurd rfl refused
  · unfold simpleHandler at refused ⊢
    split
    · rename_i simple target
      rw [target] at refused
      exact Plan.perform_fst_of_not_handled refused
    · rfl
  · rfl

/-- A handler of a listener for simple selectors performs their plans. -/
theorem handler_of_simple {listener : Listener} {kind : Kind} {handler : Handler Json Failure}
    (own : (.applySimple kind, handler) ∈ listener.handlers) (selector : Selector)
    (simple : Simple) (document : Json) :
    handler ⟨selector, .simple simple⟩ document =
      (planOf listener.config listener.resolve simple).perform document := by
  rcases mem_handlers.1 own with ⟨other, _⟩ | ⟨_, _, rfl⟩ | ⟨other, _⟩
  · cases other
  · rfl
  · cases other

/-! ## Registries that a listener is attached to -/

/-- A handler is attached as the listener attaches it: for a kind of event that it is the
listener's handler for. -/
def Owns (listener : Listener) (kind : Option EventKind) (handler : Handler Json Failure) : Prop :=
  ∃ pair ∈ listener.handlers, kind = some pair.1 ∧ handler = pair.2

/-- An own attachment that accepts a kind of event runs a handler of the listener for it. -/
theorem mem_handlers_of_owns {listener : Listener} {registration : Registration Json Failure}
    (own : listener.Owns registration.kind registration.handler) {kind : EventKind}
    (accepts : registration.accepts kind = true) :
    (kind, registration.handler) ∈ listener.handlers := by
  obtain ⟨⟨attached, handler⟩, member, same, rfl⟩ := own
  rw [Registration.accepts, same, Option.all_some, beq_iff_eq] at accepts
  rw [← accepts]
  exact member

/-- A listener is attached with a priority, and every attachment that is not one of the
listener's spares the structural events. -/
structure Hosts (listener : Listener) (priority : Int)
    (registrations : List (Registration Json Failure)) : Prop where
  /-- All handlers of the listener are attached. -/
  attached : ∀ pair ∈ listener.handlers, ∃ registration ∈ registrations,
    registration.kind = some pair.1 ∧ registration.handler = pair.2 ∧
      registration.priority = priority
  /-- Every other attachment spares the structural events. -/
  others : ∀ registration ∈ registrations,
    listener.Owns registration.kind registration.handler ∨
      SparesStructure registration.kind registration.handler

variable {listener : Listener} {priority : Int} {next : Nat}

/-- A structural event is settled once. -/
theorem Hosts.fire {registry : FilterRegistry}
    (hosts : listener.Hosts priority registry.registrations) {event : Event}
    (structural : event.kind.isApply = false) (document : Json) :
    registry.fire event document = (settle event.kind document, .ok ()) := by
  refine Registry.runAll_of_effect (settle_settle event.kind) ?_ ?_
  · intro handler member
    obtain ⟨registration, inside, rfl⟩ := List.mem_map.1 member
    obtain ⟨inside, accepts⟩ := List.mem_filter.1 inside
    rcases hosts.others registration inside with own | spares
    · exact Or.inr (handler_of_structural (mem_handlers_of_owns own accepts) structural event)
    · exact Or.inl fun query => spares event query structural accepts
  · cases asked : event.kind with
    | prepareQuery =>
      have own : (.prepareQuery, prepareHandler) ∈ listener.handlers := List.mem_cons_self
      obtain ⟨registration, inside, kind, same, _⟩ := hosts.attached _ own
      have accepts : registration.accepts .prepareQuery = true := by
        rw [Registration.accepts, kind]
        rfl
      refine Or.inr ⟨registration.handler,
        List.mem_map_of_mem (List.mem_filter.2 ⟨inside, accepts⟩), ?_⟩
      rw [same]
      exact handler_of_structural own rfl event
    | applySimple kind =>
      rw [asked] at structural
      cases structural
    | combineSequence => exact Or.inl rfl
    | finalizeQuery => exact Or.inl rfl

/-- Attaching handlers adds an attachment for each of them and nothing else. -/
theorem perm_attachEach (priority : Int) (pairs : List (EventKind × Handler Json Failure))
    (registry : FilterRegistry) :
    ∃ added, (attachEach priority pairs registry).2.registrations.Perm
        (added ++ registry.registrations) ∧
      (∀ pair ∈ pairs, ∃ registration ∈ added, registration.kind = some pair.1 ∧
        registration.handler = pair.2 ∧ registration.priority = priority) ∧
      ∀ registration ∈ added, ∃ pair ∈ pairs, registration.kind = some pair.1 ∧
        registration.handler = pair.2 := by
  induction pairs generalizing registry with
  | nil => exact ⟨[], List.Perm.refl _, List.forall_mem_nil _, List.forall_mem_nil _⟩
  | cons pair rest hypothesis =>
    obtain ⟨added, perm, each, own⟩ := hypothesis (registry.attach pair.1 priority pair.2).2
    refine ⟨⟨registry.nextId, some pair.1, priority, pair.2⟩ :: added, ?_,
      List.forall_mem_cons.2 ⟨⟨_, List.mem_cons_self, rfl, rfl, rfl⟩, fun other inside => ?_⟩,
      List.forall_mem_cons.2 ⟨⟨pair, List.mem_cons_self, rfl, rfl⟩, fun other inside => ?_⟩⟩
    · exact perm.trans (((Registry.insert_perm _ _).append_left added).trans List.perm_middle)
    · obtain ⟨registration, member, found⟩ := each other inside
      exact ⟨registration, List.mem_cons_of_mem _ member, found⟩
    · obtain ⟨source, member, found⟩ := own other inside
      exact ⟨source, List.mem_cons_of_mem _ member, found⟩

/-- Attaching a listener to a registry whose handlers spare the structural events makes it host
the listener. -/
theorem hosts_attach (listener : Listener) {registry : FilterRegistry}
    (spares : ∀ registration ∈ registry.registrations,
      SparesStructure registration.kind registration.handler) :
    listener.Hosts listener.priority (listener.attach registry).2.registrations := by
  obtain ⟨added, perm, each, own⟩ :=
    perm_attachEach listener.priority listener.handlers registry
  refine ⟨fun pair member => ?_, fun registration member => ?_⟩
  · obtain ⟨registration, inside, found⟩ := each pair member
    exact ⟨registration, perm.mem_iff.2 (List.mem_append_left _ inside), found⟩
  · rcases List.mem_append.1 (perm.mem_iff.1 member) with new | old
    · exact Or.inl (own registration new)
    · exact Or.inr (spares registration old)

/-- Attaching handlers is a history of calls. -/
theorem replay_attachEach (priority : Int) (pairs : List (EventKind × Handler Json Failure))
    (registry : FilterRegistry) :
    (registry.replay (pairs.map fun pair => .attach pair.1 priority pair.2)).2 =
      (attachEach priority pairs registry).2 := by
  induction pairs generalizing registry with
  | nil => rfl
  | cons pair rest hypothesis => exact hypothesis _

/-! ## Repetitions -/

/-- The first list holds the attachments of the second one and, between them, repetitions: more
attachments of a listener, of no higher priority than given and made later. -/
inductive Repeats (listener : Listener) (priority : Int) (next : Nat) :
    List (Registration Json Failure) → List (Registration Json Failure) → Prop where
  /-- Nothing is attached. -/
  | nil : Repeats listener priority next [] []
  /-- An attachment that stands in both, perhaps under another identifier. -/
  | keep (registration : Registration Json Failure) (id : Nat)
      {longer shorter : List (Registration Json Failure)} :
    Repeats listener priority next longer shorter →
      Repeats listener priority next (registration :: longer)
        ({ registration with id := id } :: shorter)
  /-- A repetition. -/
  | repeated {registration : Registration Json Failure}
      {longer shorter : List (Registration Json Failure)} :
    listener.Owns registration.kind registration.handler → registration.priority ≤ priority →
      next ≤ registration.id → Repeats listener priority next longer shorter →
        Repeats listener priority next (registration :: longer) shorter

namespace Repeats

variable {longer shorter : List (Registration Json Failure)}

/-- Without repetitions. -/
theorem refl (registrations : List (Registration Json Failure)) :
    Repeats listener priority next registrations registrations := by
  induction registrations with
  | nil => exact nil
  | cons first rest hypothesis => exact hypothesis.keep first first.id

/-- What stands in the shorter list stands in the longer one. -/
theorem exists_mem_longer (repeats : Repeats listener priority next longer shorter)
    {registration : Registration Json Failure} (member : registration ∈ shorter) :
    ∃ id, { registration with id := id } ∈ longer := by
  induction repeats with
  | nil => cases member
  | keep first id _ hypothesis =>
    rcases List.mem_cons.1 member with rfl | inside
    · exact ⟨first.id, List.mem_cons_self⟩
    · obtain ⟨id, found⟩ := hypothesis inside
      exact ⟨id, List.mem_cons_of_mem _ found⟩
  | repeated _ _ _ _ hypothesis =>
    obtain ⟨id, found⟩ := hypothesis member
    exact ⟨id, List.mem_cons_of_mem _ found⟩

/-- What stands in the longer list and was attached before stands in the shorter one. -/
theorem exists_mem_shorter (repeats : Repeats listener priority next longer shorter)
    {registration : Registration Json Failure} (member : registration ∈ longer)
    (before : registration.id < next) : ∃ id, { registration with id := id } ∈ shorter := by
  induction repeats with
  | nil => cases member
  | keep first id _ hypothesis =>
    rcases List.mem_cons.1 member with rfl | inside
    · exact ⟨id, List.mem_cons_self⟩
    · obtain ⟨id, found⟩ := hypothesis inside
      exact ⟨id, List.mem_cons_of_mem _ found⟩
  | repeated _ _ later _ hypothesis =>
    rcases List.mem_cons.1 member with rfl | inside
    · exact absurd before (Nat.not_lt.2 later)
    · exact hypothesis inside

/-- A repetition can be put anywhere. -/
theorem insert_repeated (repeats : Repeats listener priority next longer shorter)
    {added : Registration Json Failure} (own : listener.Owns added.kind added.handler)
    (behind : added.priority ≤ priority) (later : next ≤ added.id) :
    Repeats listener priority next (Registry.insert added longer) shorter := by
  induction repeats with
  | nil => exact nil.repeated own behind later
  | keep first id rest hypothesis =>
    rw [Registry.insert]
    split
    · exact hypothesis.keep first id
    · exact (rest.keep first id).repeated own behind later
  | repeated firstOwn firstBehind firstLater rest hypothesis =>
    rw [Registry.insert]
    split
    · exact hypothesis.repeated firstOwn firstBehind firstLater
    · exact (rest.repeated firstOwn firstBehind firstLater).repeated own behind later

/-- Another attachment is put before the same ones in both lists. -/
theorem insert_kept (repeats : Repeats listener priority next longer shorter)
    (sorted : longer.Pairwise fun first second => second.priority ≤ first.priority)
    (added : Registration Json Failure) (id : Nat) :
    Repeats listener priority next (Registry.insert added longer)
      (Registry.insert { added with id := id } shorter) := by
  induction repeats with
  | nil => exact nil.keep added id
  | keep first firstId rest hypothesis =>
    rw [Registry.insert, Registry.insert]
    split
    · exact (hypothesis sorted.of_cons).keep first firstId
    · exact (rest.keep first firstId).keep added id
  | @repeated first longer shorter own behind later rest hypothesis =>
    rw [Registry.insert]
    split
    · exact (hypothesis sorted.of_cons).repeated own behind later
    · rename_i passed
      -- all that follows has a lower priority, so the attachment comes first in both lists
      have head : Registry.insert { added with id := id } shorter =
          { added with id := id } :: shorter := by
        cases shorter with
        | nil => rfl
        | cons second others =>
          obtain ⟨other, inside⟩ := rest.exists_mem_longer List.mem_cons_self
          have lower := (List.pairwise_cons.1 sorted).1 _ inside
          exact if_neg fun reached => passed (Int.le_trans reached lower)
      rw [head]
      exact (rest.repeated own behind later).keep added id

end Repeats

/-! ## Dispatch with repetitions -/

/-- Dispatches a simple selector to attachments; `failure` is the one met so far. -/
def dispatch (selector : Selector) (simple : Simple)
    (registrations : List (Registration Json Failure)) (failure : Option Failure)
    (document : Json) : Json × Response Failure :=
  Registry.runUntilHandled ⟨selector, .simple simple⟩ failure
    ((registrations.filter (·.accepts (.applySimple simple.kind))).map (·.handler)) document

variable {selector : Selector} {simple : Simple}

/-- An attachment for something else is passed over. -/
theorem dispatch_cons_of_not_accepts (first : Registration Json Failure)
    (ignores : ¬first.accepts (.applySimple simple.kind) = true)
    (rest : List (Registration Json Failure)) :
    dispatch selector simple (first :: rest) = dispatch selector simple rest := by
  funext failure document
  have kept : (first :: rest).filter (·.accepts (.applySimple simple.kind)) =
      rest.filter (·.accepts (.applySimple simple.kind)) := List.filter_cons_of_neg ignores
  rw [dispatch, kept, dispatch]

/-- An attachment that accepts the selector is run, and the others unless it handles it. -/
theorem dispatch_cons_of_accepts (first : Registration Json Failure)
    (accepts : first.accepts (.applySimple simple.kind) = true)
    (rest : List (Registration Json Failure)) (failure : Option Failure) (document : Json) :
    dispatch selector simple (first :: rest) failure document =
      match first.handler ⟨selector, .simple simple⟩ document with
      | (changed, .handled) => (changed, .handled)
      | (changed, .unhandled) => dispatch selector simple rest failure changed
      | (changed, .failed later) =>
        dispatch selector simple rest (failure.or (some later)) changed := by
  have kept : (first :: rest).filter (·.accepts (.applySimple simple.kind)) =
      first :: rest.filter (·.accepts (.applySimple simple.kind)) :=
    List.filter_cons_of_pos accepts
  rw [dispatch, kept, List.map_cons, Registry.runUntilHandled]
  rcases first.handler ⟨selector, .simple simple⟩ document with ⟨changed, response⟩
  cases response <;> rfl

/-- An attachment that stands before both makes no difference. Failures that were met are not
forgotten. -/
theorem dispatch_keep (first : Registration Json Failure) (id : Nat)
    {longer shorter : List (Registration Json Failure)} {failure : Option Failure}
    (same : ∀ met, (failure.isSome = true → met.isSome = true) →
      dispatch selector simple longer met = dispatch selector simple shorter met)
    (document : Json) :
    dispatch selector simple (first :: longer) failure document =
      dispatch selector simple ({ first with id := id } :: shorter) failure document := by
  by_cases accepts : first.accepts (.applySimple simple.kind) = true
  · rw [dispatch_cons_of_accepts _ accepts,
      dispatch_cons_of_accepts { first with id := id } accepts]
    rcases first.handler ⟨selector, .simple simple⟩ document with ⟨changed, response⟩
    cases response with
    | handled => rfl
    | unhandled => exact congrFun (same failure fun met => met) changed
    | failed later =>
      refine congrFun (same (failure.or (some later)) fun _ => ?_) changed
      cases failure <;> rfl
  · rw [dispatch_cons_of_not_accepts _ accepts,
      dispatch_cons_of_not_accepts { first with id := id } accepts]
    exact congrFun (same failure fun met => met) document

namespace Repeats

variable {longer shorter : List (Registration Json Failure)}

/-- Once the listener has refused a simple selector, and its failure is known if it failed,
repetitions do nothing. -/
theorem dispatch_of_refused (repeats : Repeats listener priority next longer shorter)
    (refused : (planOf listener.config listener.resolve simple).answer ≠ .handled)
    {failure : Option Failure}
    (known : ∀ reason, (planOf listener.config listener.resolve simple).answer = .failed reason →
      failure.isSome = true) :
    dispatch selector simple longer failure = dispatch selector simple shorter failure := by
  funext document
  induction repeats generalizing failure document with
  | nil => rfl
  | keep first id _ hypothesis =>
    refine dispatch_keep first id (fun met grown => ?_) document
    funext changed
    exact hypothesis (fun reason failed => grown (known reason failed)) changed
  | @repeated first longer shorter own _ _ _ hypothesis =>
    by_cases accepts : first.accepts (.applySimple simple.kind) = true
    · rw [dispatch_cons_of_accepts _ accepts, handler_of_simple (mem_handlers_of_owns own accepts),
        Plan.perform_of_refused refused]
      cases answered : (planOf listener.config listener.resolve simple).answer with
      | handled => exact absurd answered refused
      | unhandled => exact hypothesis known document
      | failed reason =>
        obtain ⟨earlier, rfl⟩ := Option.isSome_iff_exists.1 (known reason answered)
        exact hypothesis known document
    · rw [dispatch_cons_of_not_accepts _ accepts]
      exact hypothesis known document

/-- Repetitions behind the attachment of a listener never make a difference to a simple
selector. -/
theorem dispatch_eq (repeats : Repeats listener priority next longer shorter)
    (ordered : longer.Pairwise Registry.RunsBefore)
    {registration : Registration Json Failure} (member : registration ∈ longer)
    (own : (.applySimple simple.kind, registration.handler) ∈ listener.handlers)
    (accepts : registration.accepts (.applySimple simple.kind) = true)
    (behind : registration.priority = priority) (before : registration.id < next)
    (failure : Option Failure) :
    dispatch selector simple longer failure = dispatch selector simple shorter failure := by
  funext document
  induction repeats generalizing failure document with
  | nil => cases member
  | @keep first id longer shorter rest hypothesis =>
    rcases List.mem_cons.1 member with rfl | inside
    · rw [dispatch_cons_of_accepts _ accepts,
        dispatch_cons_of_accepts { registration with id := id } accepts,
        handler_of_simple own]
      cases planned : planOf listener.config listener.resolve simple with
      | changes list => rfl
      | unsupported =>
        refine congrFun (rest.dispatch_of_refused ?_ ?_) document <;> rw [planned] <;> nofun
      | failed reason =>
        refine congrFun (rest.dispatch_of_refused ?_ fun _ _ => ?_) document
        · rw [planned]
          nofun
        · cases failure <;> rfl
    · refine dispatch_keep first id (fun met _ => ?_) document
      funext changed
      exact hypothesis ordered.of_cons inside met changed
  | repeated _ lower later _ hypothesis =>
    rcases List.mem_cons.1 member with rfl | inside
    · exact absurd before (Nat.not_lt.2 later)
    · -- a repetition does not run before what it repeats
      have runs := (List.pairwise_cons.1 ordered).1 registration inside
      unfold Registry.RunsBefore at runs
      omega

end Repeats

/-! ## Attaching again -/

/-- What can be attached to a registry that hosts a listener. -/
inductive Step where
  /-- The listener again, with a priority. -/
  | again (priority : Int)
  /-- Another handler, for a kind of event or for every kind. -/
  | other (kind : Option EventKind) (priority : Int) (handler : Handler Json Failure)

/-- Whether something else than the listener is attached. -/
def Step.isOther : Step → Bool
  | again _ => false
  | other .. => true

/-- The listener is attached again with no higher priority than before, and other handlers spare
the structural events. -/
def Step.Allowed (first : Int) : Step → Prop
  | again priority => priority ≤ first
  | other kind _ handler => SparesStructure kind handler

/-- Attaches what a step says. -/
def take (listener : Listener) (registry : FilterRegistry) : Step → FilterRegistry
  | .again priority => ({ listener with priority := priority }.attach registry).2
  | .other kind priority handler => (registry.register kind priority handler).2

/-- Attaches what some steps say, one after the other. -/
def takeAll (listener : Listener) (registry : FilterRegistry) (steps : List Step) :
    FilterRegistry :=
  steps.foldl listener.take registry

/-- A registry is the other one with repetitions of a listener that both host. The repetitions
were attached after an identifier was given out, and the listener before. -/
structure Extends (listener : Listener) (priority : Int) (next : Nat)
    (longer shorter : FilterRegistry) : Prop where
  /-- The registry was made by calls. -/
  holds : ∃ calls, longer.HoldsLive calls
  /-- What is attached now comes after the identifier. -/
  next_le : next ≤ longer.nextId
  /-- All handlers of the listener are attached before. -/
  before : ∀ pair ∈ listener.handlers, ∃ registration ∈ longer.registrations,
    registration.kind = some pair.1 ∧ registration.handler = pair.2 ∧
      registration.priority = priority ∧ registration.id < next
  /-- Every other attachment spares the structural events. -/
  others : ∀ registration ∈ longer.registrations,
    listener.Owns registration.kind registration.handler ∨
      SparesStructure registration.kind registration.handler
  /-- The other registry lacks nothing but repetitions. -/
  repeats : Repeats listener priority next longer.registrations shorter.registrations

namespace Extends

variable {longer shorter : FilterRegistry}

/-- A registry extends itself. -/
theorem refl {registry : FilterRegistry} {calls : List (Registry.Call Json Failure)}
    (holds : registry.HoldsLive calls)
    (hosts : listener.Hosts priority registry.registrations) :
    Extends listener priority registry.nextId registry registry := by
  refine ⟨⟨calls, holds⟩, Nat.le_refl _, fun pair own => ?_, hosts.others, .refl _⟩
  obtain ⟨registration, member, kind, handler, same⟩ := hosts.attached pair own
  exact ⟨registration, member, kind, handler, same, holds.id_lt member⟩

/-- One more attachment to the longer registry. -/
theorem register (extending : Extends listener priority next longer shorter)
    {kind : Option EventKind} {handler : Handler Json Failure}
    (allowed : listener.Owns kind handler ∨ SparesStructure kind handler) (added : Int)
    {after : FilterRegistry}
    (repeats : Repeats listener priority next (longer.register kind added handler).2.registrations
      after.registrations) :
    Extends listener priority next (longer.register kind added handler).2 after := by
  refine ⟨Registry.HoldsLive.exists_register extending.holds kind added handler,
    Nat.le_succ_of_le extending.next_le, fun pair own => ?_, fun registration inside => ?_, repeats⟩
  · obtain ⟨registration, inside, found⟩ := extending.before pair own
    exact ⟨registration, Registry.mem_register.2 (Or.inr inside), found⟩
  · rcases Registry.mem_register.1 inside with rfl | earlier
    · exact allowed
    · exact extending.others registration earlier

/-- Repetitions of handlers are attached to the longer registry. -/
theorem attachEach (extending : Extends listener priority next longer shorter) {again : Int}
    (behind : again ≤ priority) {pairs : List (EventKind × Handler Json Failure)}
    (own : ∀ pair ∈ pairs, pair ∈ listener.handlers) :
    Extends listener priority next (Listener.attachEach again pairs longer).2 shorter := by
  induction pairs generalizing longer with
  | nil => exact extending
  | cons pair rest hypothesis =>
    obtain ⟨first, others⟩ := List.forall_mem_cons.1 own
    have owned : listener.Owns (some pair.1) pair.2 := ⟨pair, first, rfl, rfl⟩
    refine hypothesis (extending.register (Or.inl owned) again ?_) others
    exact extending.repeats.insert_repeated owned behind extending.next_le

/-- A step that attaches the listener again is taken by the longer registry alone, any other one
by both. -/
theorem take (extending : Extends listener priority next longer shorter) {step : Step}
    (allowed : step.Allowed priority) :
    Extends listener priority next (listener.take longer step)
      (if step.isOther then listener.take shorter step else shorter) := by
  cases step with
  | again again => exact extending.attachEach allowed fun pair member => member
  | other kind added handler =>
    obtain ⟨calls, holds⟩ := extending.holds
    refine extending.register (Or.inr allowed) added ?_
    refine extending.repeats.insert_kept (holds.ordered.imp fun runs => ?_)
      ⟨longer.nextId, kind, added, handler⟩ shorter.nextId
    unfold Registry.RunsBefore at runs
    omega

/-- Steps are taken by the longer registry, and those that attach something else by both. -/
theorem takeAll (extending : Extends listener priority next longer shorter) {steps : List Step}
    (allowed : ∀ step ∈ steps, step.Allowed priority) :
    Extends listener priority next (listener.takeAll longer steps)
      (listener.takeAll shorter (steps.filter Step.isOther)) := by
  induction steps generalizing longer shorter with
  | nil => exact extending
  | cons step rest hypothesis =>
    obtain ⟨first, others⟩ := List.forall_mem_cons.1 allowed
    have later := hypothesis (extending.take first) others
    rw [List.filter_cons]
    cases other : step.isOther with
    | true =>
      rw [other] at later
      exact later
    | false =>
      rw [other] at later
      exact later

/-- Both registries host the listener. -/
theorem hosts (extending : Extends listener priority next longer shorter) :
    listener.Hosts priority longer.registrations ∧
      listener.Hosts priority shorter.registrations := by
  refine ⟨⟨fun pair own => ?_, extending.others⟩, fun pair own => ?_, fun registration inside => ?_⟩
  · obtain ⟨registration, member, kind, handler, same, _⟩ := extending.before pair own
    exact ⟨registration, member, kind, handler, same⟩
  · obtain ⟨registration, member, kind, handler, same, before⟩ := extending.before pair own
    obtain ⟨id, kept⟩ := extending.repeats.exists_mem_shorter member before
    exact ⟨_, kept, kind, handler, same⟩
  · obtain ⟨id, kept⟩ := extending.repeats.exists_mem_longer inside
    have allowed := extending.others _ kept
    exact allowed

/-- Both registries build alike. -/
theorem build_eq (extending : Extends listener priority next longer shorter)
    (selector : Selector) (initial : Json) :
    longer.build selector initial = shorter.build selector initial := by
  obtain ⟨hostsLonger, hostsShorter⟩ := extending.hosts
  obtain ⟨calls, holds⟩ := extending.holds
  refine Registry.build_congr (fun event structural => ?_) (fun selector simple => ?_) selector
    initial
  · funext document
    rw [hostsLonger.fire structural, hostsShorter.fire structural]
  · have own : (.applySimple simple.kind, simpleHandler listener.config listener.resolve) ∈
        listener.handlers := mem_handlers.2 (Or.inr (Or.inl ⟨simple.kind, rfl, rfl⟩))
    obtain ⟨registration, member, kind, handler, same, before⟩ := extending.before _ own
    have accepts : registration.accepts (.applySimple simple.kind) = true := by
      rw [Registration.accepts, kind, Option.all_some, beq_self_eq_true]
    have runs : (.applySimple simple.kind, registration.handler) ∈ listener.handlers := by
      rw [handler]
      exact own
    exact extending.repeats.dispatch_eq holds.ordered member runs accepts same before none

end Extends

/-- A handler of a listener that refuses an event leaves the document as it is: it checks a selector
before it writes, which is carried by the type of a `Plan`, where a refusal has no changes. Whether
it refuses a simple selector, and with which failure, follows from the selector, the field names and
the stored paths. So in a registry that hosts the listener and otherwise only handlers that spare
the structural events, no build shows whether the listener was attached again, however often and
between whatever else, with priorities that are not above its first one. -/
theorem refused_unchanged_and_build_repeated :
    (∀ (listener : Listener) (pair : EventKind × Handler Json Failure),
      pair ∈ listener.handlers → ∀ event document,
        (pair.2 event document).2 ≠ .handled → (pair.2 event document).1 = document) ∧
      (∃ answer : Config → Resolver → Simple → Response Failure,
        ∀ (listener : Listener) (kind : Kind) (handler : Handler Json Failure),
          (.applySimple kind, handler) ∈ listener.handlers → ∀ selector simple document,
            (handler ⟨selector, .simple simple⟩ document).2 =
              answer listener.config listener.resolve simple) ∧
      ∀ (listener : Listener) (first : Int) (calls : List (Registry.Call Json Failure)),
        let registry := (Registry.empty.replay calls).2
        listener.Hosts first registry.registrations →
          ∀ steps : List Step, (∀ step ∈ steps, step.Allowed first) →
            ∀ (selector : Selector) (initial : Json),
              (listener.takeAll registry steps).build selector initial =
                (listener.takeAll registry (steps.filter Step.isOther)).build selector initial := by
  refine ⟨?_, ⟨fun config resolve simple => (planOf config resolve simple).answer, ?_⟩, ?_⟩
  · intro listener pair own event document refused
    exact handler_fst_of_refused own refused
  · intro listener kind handler own selector simple document
    rw [handler_of_simple own]
    exact Plan.perform_snd _ document
  · intro listener first calls registry hosts steps allowed selector initial
    have start := Extends.refl (Registry.holdsLive_empty.replay calls) hosts
    exact (start.takeAll allowed).build_eq selector initial

/-- A handler that knows one class is attached in front of a listener and between its
repetitions. -/
theorem refused_unchanged_and_build_repeated_knownClass :
    let listener := Listener.new .usual (fun _ => none) 3
    let known : Handler Json Failure := fun event document =>
      if event.target = .simple (.className "news") then (.object [], .handled)
      else (document, .unhandled)
    let calls := listener.handlers.map fun pair => .attach pair.1 3 pair.2
    let registry := (Registry.empty.replay calls).2
    let steps := [.again 3, .other none 7 known, .again (-2), .other none 0 known]
    listener.Hosts 3 registry.registrations ∧ (∀ step ∈ steps, step.Allowed 3) ∧
      ∀ selector initial, (listener.takeAll registry steps).build selector initial =
        (listener.takeAll registry [.other none 7 known, .other none 0 known]).build selector
          initial := by
  intro listener known calls registry steps
  have attached : registry = (listener.attach Registry.empty).2 := replay_attachEach 3 _ _
  have hosts : listener.Hosts 3 registry.registrations := by
    rw [attached]
    exact listener.hosts_attach (List.forall_mem_nil _)
  have spares : SparesStructure none known := by
    intro event query structural _
    have other : event.target ≠ .simple (.className "news") := by
      intro same
      rw [Event.kind, same] at structural
      cases structural
    have ignored : known event query = (query, .unhandled) := if_neg other
    rw [ignored]
    refine ⟨rfl, fun failure same => ?_⟩
    cases same
  have allowed : ∀ step ∈ steps, step.Allowed 3 := by
    refine List.forall_mem_cons.2 ⟨Int.le_refl 3, List.forall_mem_cons.2 ⟨spares,
      List.forall_mem_cons.2 ⟨?_, List.forall_mem_singleton.2 spares⟩⟩⟩
    exact Int.le.intro 5 rfl
  exact ⟨hosts, allowed,
    refused_unchanged_and_build_repeated.2.2 listener 3 calls hosts steps allowed⟩

end Listener

end Filter

end NodeQuery
