import NodeQuery.Proofs.Build.Dispatch
import NodeQuery.Proofs.Build.Omission
import NodeQuery.Proofs.Selector.Chain

/-!
# Changes of a history that no build shows

Two changes of a history of attachments cannot be seen in any build. A handler that is attached
for every kind of event may be attached for each kind on its own: these attachments stand side by
side where the one stood, and every event meets exactly one of them. And a handler that ignores
every event and leaves the query alone may be attached at any time. After either change later
attachments get higher identifiers, and calls that remove them name them by those.

Main statement: `Registry.build_replay_transparent`.
-/

namespace NodeQuery

variable {Query Failure : Type}

/-- A handler ignores every event and leaves the query as it is. -/
def Handler.IsNeutral (handler : Handler Query Failure) : Prop :=
  ∀ event query, handler event query = (query, .unhandled)

namespace Registry

/-! ## Changed histories -/

/-- The identifiers that stand for one if attachments with identifiers from `first` on are made in
place of some others: those of the attachments, if it is one of the others, and otherwise the one
that counts the attachments instead of the others. -/
def renamedIds (first others made id : Nat) : List Nat :=
  if id < first then [id]
  else if id < first + others then List.range' first made
  else [id - others + made]

/-- What stands for an identifier. -/
theorem mem_renamedIds {first others made id given : Nat} :
    given ∈ renamedIds first others made id ↔
      id < first ∧ given = id ∨
        first ≤ id ∧ id < first + others ∧ first ≤ given ∧ given < first + made ∨
          first + others ≤ id ∧ given = id - others + made := by
  unfold renamedIds
  split
  · rw [List.mem_singleton]
    omega
  · split
    · rw [List.mem_range'_1]
      omega
    · rw [List.mem_singleton]
      omega

namespace Call

/-- The call that attaches a handler for a kind of event, or for every kind. -/
def attaching (kind : Option EventKind) (priority : Int) (handler : Handler Query Failure) :
    Call Query Failure :=
  match kind with
  | none => attachAll priority handler
  | some kind => attach kind priority handler

/-- The calls that do the same in a history in which attachments with identifiers from `first` on
are made in place of some others: what is removed is named by its identifiers there. -/
def renamed (first others made : Nat) : Call Query Failure → List (Call Query Failure)
  | detach id => (renamedIds first others made id).map detach
  | call => [call]

/-- A call attaches a handler or removes an attachment. -/
theorem eq_attaching_or_detach (call : Call Query Failure) :
    (∃ kind priority handler, call = attaching kind priority handler) ∨ ∃ id, call = detach id := by
  cases call with
  | attach kind priority handler => exact Or.inl ⟨some kind, priority, handler, rfl⟩
  | attachAll priority handler => exact Or.inl ⟨none, priority, handler, rfl⟩
  | detach id => exact Or.inr ⟨id, rfl⟩

variable (kind : Option EventKind) (priority : Int) (handler : Handler Query Failure)

/-- Such a call attaches the handler. -/
theorem perform_attaching (registry : Registry Query Failure) :
    ((attaching kind priority handler).perform registry).2 =
      (registry.register kind priority handler).2 := by
  cases kind <;> rfl

/-- A call that attaches a handler is the same under other identifiers. -/
theorem renamed_attaching (first others made : Nat) :
    (attaching kind priority handler).renamed first others made =
      [attaching kind priority handler] := by
  cases kind <;> rfl

end Call

/-- A call that attaches a handler and no other call. -/
theorem replay_attaching (registry : Registry Query Failure) (kind : Option EventKind)
    (priority : Int) (handler : Handler Query Failure) :
    (registry.replay [.attaching kind priority handler]).2 =
      (registry.register kind priority handler).2 :=
  Call.perform_attaching kind priority handler registry

/-- Calls that are performed after others. -/
theorem replay_append (registry : Registry Query Failure) (front back : List (Call Query Failure)) :
    (registry.replay (front ++ back)).2 = ((registry.replay front).2.replay back).2 := by
  induction front generalizing registry with
  | nil => rfl
  | cons call later hypothesis => exact hypothesis (call.perform registry).2

/-- Calls that remove attachments one after the other. -/
theorem replay_detach (registry : Registry Query Failure) (ids : List Nat) :
    (registry.replay (ids.map .detach)).2 = registry.detachEach ids := by
  induction ids generalizing registry with
  | nil => rfl
  | cons id rest hypothesis => exact hypothesis (registry.detach id).2

/-- What every call keeps between two registries holds after any calls. -/
theorem replay_renamed {first others made : Nat}
    {related : Registry Query Failure → Registry Query Failure → Prop}
    (step : ∀ (call : Call Query Failure) registry other, related registry other →
      related (call.perform registry).2 (other.replay (call.renamed first others made)).2)
    {registry other : Registry Query Failure} (start : related registry other)
    (calls : List (Call Query Failure)) :
    related (registry.replay calls).2
      (other.replay (calls.flatMap (Call.renamed first others made))).2 := by
  induction calls generalizing registry other with
  | nil => exact start
  | cons call later hypothesis =>
    rw [List.flatMap_cons, replay_append]
    exact hypothesis (step call registry other start)

/-! ## What is known of an attachment -/

/-- An identifier was given out, and its attachment has a property as long as it is there. -/
structure Knows (registry : Registry Query Failure) (id : Nat)
    (known : Registration Query Failure → Prop) : Prop where
  /-- It was given out. -/
  given : id < registry.nextId
  /-- Its attachment has the property. -/
  holds : ∀ registration ∈ registry.registrations, registration.id = id → known registration

namespace Knows

variable {registry : Registry Query Failure} {id : Nat} {known : Registration Query Failure → Prop}

/-- A new attachment has another identifier. -/
theorem register (knows : registry.Knows id known) (kind : Option EventKind) (priority : Int)
    (handler : Handler Query Failure) :
    (registry.register kind priority handler).2.Knows id known := by
  have given := knows.given
  refine ⟨Nat.lt_succ_of_lt given, fun registration member same => ?_⟩
  rcases mem_register.1 member with rfl | before
  · exact absurd same (Nat.ne_of_gt given)
  · exact knows.holds registration before same

/-- What is removed takes nothing else along. -/
theorem detach (knows : registry.Knows id known) (removed : Nat) :
    (registry.detach removed).2.Knows id known :=
  ⟨knows.given, fun registration member => knows.holds registration (List.mem_filter.1 member).1⟩

/-- The property of a new attachment is known. -/
theorem of_register {kind : Option EventKind} {priority : Int} {handler : Handler Query Failure}
    (older : ∀ registration ∈ registry.registrations, registration.id < registry.nextId)
    (new : known ⟨registry.nextId, kind, priority, handler⟩) :
    (registry.register kind priority handler).2.Knows registry.nextId known := by
  refine ⟨Nat.lt_succ_self _, fun registration member same => ?_⟩
  rcases mem_register.1 member with rfl | before
  · exact new
  · exact absurd same (Nat.ne_of_lt (older registration before))

end Knows

/-! ## A handler for every kind, spread over the kinds -/

/-- The attachments of a handler for several kinds of event, with identifiers from one on. -/
def attachmentsFor (priority : Int) (handler : Handler Query Failure) :
    Nat → List EventKind → List (Registration Query Failure)
  | _, [] => []
  | id, kind :: rest =>
    ⟨id, some kind, priority, handler⟩ :: attachmentsFor priority handler (id + 1) rest

/-- The attachments that stand for one if the attachment with the identifier `first` is spread
over some kinds of event. -/
def spread (first : Nat) (kinds : List EventKind) (registration : Registration Query Failure) :
    List (Registration Query Failure) :=
  if registration.id < first then [registration]
  else if registration.id = first then
    attachmentsFor registration.priority registration.handler first kinds
  else [{ registration with id := registration.id - 1 + kinds.length }]

/-- The identifiers follow each other. -/
theorem ids_attachmentsFor (priority : Int) (handler : Handler Query Failure) (id : Nat)
    (kinds : List EventKind) :
    (attachmentsFor priority handler id kinds).map (·.id) = List.range' id kinds.length := by
  induction kinds generalizing id with
  | nil => rfl
  | cons kind rest hypothesis =>
    rw [attachmentsFor, List.map_cons, hypothesis, List.length_cons, List.range'_succ]

/-- The attachments that stand for one have the identifiers that stand for its own. -/
theorem ids_spread (first : Nat) (kinds : List EventKind)
    (registration : Registration Query Failure) :
    (spread first kinds registration).map (·.id) =
      renamedIds first 1 kinds.length registration.id := by
  unfold spread renamedIds
  by_cases before : registration.id < first
  · rw [if_pos before, if_pos before]
    rfl
  · rw [if_neg before, if_neg before]
    by_cases same : registration.id = first
    · rw [if_pos same, if_pos (by omega), ids_attachmentsFor]
    · rw [if_neg same, if_neg (by omega)]
      rfl

/-- Attachments for several kinds are made with one priority. -/
theorem priority_of_mem_attachmentsFor {priority : Int} {handler : Handler Query Failure}
    {id : Nat} {kinds : List EventKind} {registration : Registration Query Failure}
    (member : registration ∈ attachmentsFor priority handler id kinds) :
    registration.priority = priority := by
  induction kinds generalizing id with
  | nil => cases member
  | cons kind rest hypothesis =>
    rcases List.mem_cons.1 member with rfl | later
    · rfl
    · exact hypothesis later

/-- The attachments that stand for one have its priority. -/
theorem priority_of_mem_spread {first : Nat} {kinds : List EventKind}
    {registration part : Registration Query Failure}
    (member : part ∈ spread first kinds registration) : part.priority = registration.priority := by
  unfold spread at member
  split at member
  · rw [List.mem_singleton.1 member]
  · split at member
    · exact priority_of_mem_attachmentsFor member
    · rw [List.mem_singleton.1 member]

/-- There is a place in every list behind which a priority is not reached. -/
theorem exists_place (priority : Int) (registrations : List (Registration Query Failure)) :
    ∃ front back, registrations = front ++ back ∧
      (∀ registration ∈ front, priority ≤ registration.priority) ∧
      ∀ added : Registration Query Failure, added.priority = priority →
        insert added back = added :: back := by
  induction registrations with
  | nil => exact ⟨[], [], rfl, List.forall_mem_nil _, fun added _ => rfl⟩
  | cons first rest hypothesis =>
    by_cases reached : priority ≤ first.priority
    · obtain ⟨front, back, split, higher, place⟩ := hypothesis
      refine ⟨first :: front, back, ?_, List.forall_mem_cons.2 ⟨reached, higher⟩, place⟩
      rw [split, List.cons_append]
    · refine ⟨[], first :: rest, rfl, List.forall_mem_nil _, fun added same => ?_⟩
      apply insert_cons_of_lower
      omega

/-- Attachments that are made one after the other with one priority stand side by side. -/
theorem replay_attach {priority : Int} (handler : Handler Query Failure)
    {back : List (Registration Query Failure)}
    (place : ∀ added : Registration Query Failure, added.priority = priority →
      insert added back = added :: back)
    {front : List (Registration Query Failure)}
    (higher : ∀ registration ∈ front, priority ≤ registration.priority) (id : Nat)
    (kinds : List EventKind) :
    (replay ⟨front ++ back, id⟩ (kinds.map (.attach · priority handler))).2 =
      ⟨front ++ (attachmentsFor priority handler id kinds ++ back), id + kinds.length⟩ := by
  induction kinds generalizing front id with
  | nil => rfl
  | cons kind rest hypothesis =>
    have inserted : insert ⟨id, some kind, priority, handler⟩ (front ++ back) =
        (front ++ [⟨id, some kind, priority, handler⟩]) ++ back := by
      rw [insert_append_of_higher higher, place _ rfl, List.append_assoc, List.singleton_append]
    have stillHigher : ∀ registration ∈ front ++ [⟨id, some kind, priority, handler⟩],
        priority ≤ registration.priority :=
      List.forall_mem_append.2 ⟨higher, List.forall_mem_singleton.2 (Int.le_refl priority)⟩
    have later := hypothesis stillHigher (id + 1)
    rw [← inserted, List.append_assoc, List.singleton_append] at later
    refine later.trans ?_
    rw [List.length_cons, Nat.add_assoc, Nat.add_comm 1]
    rfl

variable {first : Nat} {kinds : List EventKind}

/-- An attachment that was made before is not spread. -/
theorem spread_of_lt {registration : Registration Query Failure}
    (before : registration.id < first) : spread first kinds registration = [registration] :=
  if_pos before

/-- An attachment that is made later gets a higher identifier. -/
theorem spread_of_gt {registration : Registration Query Failure}
    (after : first < registration.id) :
    spread first kinds registration =
      [{ registration with id := registration.id - 1 + kinds.length }] := by
  rw [spread, if_neg (by omega), if_neg (by omega)]

/-- Attachments that were made before are not spread. -/
theorem flatMap_spread_of_lt {registrations : List (Registration Query Failure)}
    (before : ∀ registration ∈ registrations, registration.id < first) :
    registrations.flatMap (spread first kinds) = registrations := by
  induction registrations with
  | nil => rfl
  | cons registration rest hypothesis =>
    obtain ⟨firstBefore, restBefore⟩ := List.forall_mem_cons.1 before
    rw [List.flatMap_cons, spread_of_lt firstBefore, hypothesis restBefore, List.singleton_append]

/-- Something stands for every attachment. -/
theorem spread_ne_nil (some : kinds ≠ []) (registration : Registration Query Failure) :
    spread first kinds registration ≠ [] := by
  unfold spread
  split
  · exact List.cons_ne_nil _ _
  · split
    · cases kinds with
      | nil => exact absurd rfl some
      | cons kind rest => exact List.cons_ne_nil _ _
    · exact List.cons_ne_nil _ _

/-- An attachment that is not spread is put in the same place before and after the spreading of
others. -/
theorem insert_flatMap_spread (some : kinds ≠ []) {added moved : Registration Query Failure}
    (alone : spread first kinds added = [moved])
    (registrations : List (Registration Query Failure)) :
    insert moved (registrations.flatMap (spread first kinds)) =
      (insert added registrations).flatMap (spread first kinds) := by
  have same : moved.priority = added.priority :=
    priority_of_mem_spread (alone ▸ List.mem_singleton_self moved)
  induction registrations with
  | nil =>
    rw [insert, List.flatMap_cons, alone]
    rfl
  | cons head rest hypothesis =>
    rw [List.flatMap_cons, insert]
    by_cases reached : added.priority ≤ head.priority
    · have higher : ∀ part ∈ spread first kinds head, moved.priority ≤ part.priority := by
        intro part member
        rw [priority_of_mem_spread member, same]
        exact reached
      rw [if_pos reached, List.flatMap_cons, insert_append_of_higher higher, hypothesis]
    · -- it stops at the first of the attachments that stand for the head, so there must be one
      rw [if_neg reached, List.flatMap_cons, List.flatMap_cons, alone]
      cases parts : spread first kinds head with
      | nil => exact absurd parts (spread_ne_nil some head)
      | cons part others =>
        have lower : part.priority < moved.priority := by
          rw [priority_of_mem_spread (parts ▸ List.mem_cons_self), same]
          exact Int.not_le.1 reached
        exact insert_cons_of_lower lower _

/-- Different identifiers stand for different ones. -/
theorem mem_renamedIds_iff {made id other given : Nat} (member : given ∈ renamedIds first 1 made id) :
    given ∈ renamedIds first 1 made other ↔ id = other := by
  rw [mem_renamedIds] at member ⊢
  omega

/-- Removing what stands for an attachment is removing it before the spreading. -/
theorem filter_flatMap_spread (removed : Nat)
    (registrations : List (Registration Query Failure)) :
    (registrations.flatMap (spread first kinds)).filter
        (fun part => decide (part.id ∉ renamedIds first 1 kinds.length removed)) =
      (registrations.filter (·.id != removed)).flatMap (spread first kinds) := by
  have own : ∀ (registration part : Registration Query Failure),
      part ∈ spread first kinds registration →
        (part.id ∈ renamedIds first 1 kinds.length removed ↔ registration.id = removed) := by
    intro registration part member
    apply mem_renamedIds_iff
    rw [← ids_spread]
    exact List.mem_map_of_mem member
  induction registrations with
  | nil => rfl
  | cons registration rest hypothesis =>
    rw [List.flatMap_cons, List.filter_append, hypothesis]
    by_cases same : registration.id = removed
    · have nothing : (spread first kinds registration).filter
          (fun part => decide (part.id ∉ renamedIds first 1 kinds.length removed)) = [] := by
        refine List.filter_eq_nil_iff.2 fun part member => ?_
        simpa using (own registration part member).2 same
      rw [nothing, List.filter_cons_of_neg (by simpa using same), List.nil_append]
    · have all : (spread first kinds registration).filter
          (fun part => decide (part.id ∉ renamedIds first 1 kinds.length removed)) =
            spread first kinds registration := by
        refine List.filter_eq_self.2 fun part member => ?_
        have kept := mt (own registration part member).1 same
        simpa using kept
      rw [all, List.filter_cons_of_pos (by simpa using same), List.flatMap_cons]

/-- A kind of event meets exactly one of the attachments for all kinds. -/
theorem handlers_attachmentsFor (priority : Int) (handler : Handler Query Failure) (id : Nat)
    (kinds : List EventKind) (kind : EventKind) :
    ((attachmentsFor priority handler id kinds).filter (·.accepts kind)).map (·.handler) =
      (kinds.filter (· == kind)).map fun _ => handler := by
  induction kinds generalizing id with
  | nil => rfl
  | cons first rest hypothesis =>
    rw [attachmentsFor, List.filter_cons, List.filter_cons]
    have accepts : Registration.accepts
        (⟨id, some first, priority, handler⟩ : Registration Query Failure) kind =
          (first == kind) := rfl
    rw [accepts]
    by_cases same : (first == kind) = true
    · rw [if_pos same, if_pos same, List.map_cons, List.map_cons, hypothesis]
    · rw [if_neg same, if_neg same, hypothesis]

/-- Each kind of event is listed once. -/
theorem filter_kinds (complete : kinds.Perm EventKind.all) (kind : EventKind) :
    kinds.filter (· == kind) = [kind] := by
  have listed : EventKind.all.filter (· == kind) = [kind] := by
    cases kind with
    | applySimple kind => cases kind <;> rfl
    | _ => rfl
  have perm := complete.filter (· == kind)
  rw [listed] at perm
  exact List.perm_singleton.1 perm

/-- What stands for an attachment answers a kind of event with the same handlers. -/
theorem handlers_spread (complete : kinds.Perm EventKind.all)
    {registration : Registration Query Failure}
    (wildcard : registration.id = first → registration.kind = none) (kind : EventKind) :
    ((spread first kinds registration).filter (·.accepts kind)).map (·.handler) =
      ([registration].filter (·.accepts kind)).map (·.handler) := by
  unfold spread
  split
  · rfl
  · split
    · rename_i same
      have accepts : registration.accepts kind = true := by
        rw [Registration.accepts, wildcard same]
        rfl
      rw [handlers_attachmentsFor, filter_kinds complete, List.filter_cons, if_pos accepts]
      rfl
    · have alike : Registration.accepts
          { registration with id := registration.id - 1 + kinds.length } kind =
            registration.accepts kind := rfl
      rw [List.filter_cons, List.filter_cons, alike]
      split <;> rfl

/-! ## Registries of spread handlers -/

/-- The second registry is the first one with the attachment of an identifier spread over some
kinds of event. -/
structure Spreads (first : Nat) (kinds : List EventKind) (registry other : Registry Query Failure) :
    Prop where
  /-- Each attachment is replaced where it stands. -/
  registrations : other.registrations = registry.registrations.flatMap (spread first kinds)
  /-- The next identifier counts the attachments that were made instead. -/
  nextId : other.nextId = registry.nextId - 1 + kinds.length
  /-- What is spread was attached for every kind. -/
  wildcard : registry.Knows first fun registration => registration.kind = none

namespace Spreads

variable {registry other : Registry Query Failure}

/-- A handler that is attached for every kind can be attached for each kind instead. -/
theorem start (older : ∀ registration ∈ registry.registrations, registration.id < registry.nextId)
    (kinds : List EventKind) (priority : Int) (handler : Handler Query Failure) :
    Spreads registry.nextId kinds (registry.register none priority handler).2
      (registry.replay (kinds.map (.attach · priority handler))).2 := by
  -- the one attachment and those for each kind are made at the same place of the list
  obtain ⟨front, back, split, higher, place⟩ := exists_place priority registry.registrations
  obtain ⟨frontOlder, backOlder⟩ := List.forall_mem_append.1 (split ▸ older)
  have made := replay_attach handler place higher registry.nextId kinds
  rw [← split] at made
  refine ⟨?_, ?_, .of_register older rfl⟩
  · have inserted : (registry.register none priority handler).2.registrations =
        front ++ ⟨registry.nextId, none, priority, handler⟩ :: back := by
      rw [register, split, insert_append_of_higher higher, place _ rfl]
    rw [made, inserted, List.flatMap_append, List.flatMap_cons, flatMap_spread_of_lt frontOlder,
      flatMap_spread_of_lt backOlder, spread, if_neg (Nat.lt_irrefl _), if_pos rfl]
  · rw [made]
    rfl

/-- A handler that is attached to both goes to the same place. -/
theorem attach (spreads : Spreads first kinds registry other) (some : kinds ≠ [])
    (kind : Option EventKind) (priority : Int) (handler : Handler Query Failure) :
    Spreads first kinds (registry.register kind priority handler).2
      (other.register kind priority handler).2 := by
  have given := spreads.wildcard.given
  have alone : spread first kinds ⟨registry.nextId, kind, priority, handler⟩ =
      [⟨other.nextId, kind, priority, handler⟩] := by
    rw [spread_of_gt given, spreads.nextId]
  refine ⟨?_, ?_, spreads.wildcard.register kind priority handler⟩
  · have placed := insert_flatMap_spread some alone registry.registrations
    rw [← spreads.registrations] at placed
    exact placed
  · have next := spreads.nextId
    show other.nextId + 1 = registry.nextId + 1 - 1 + kinds.length
    omega

/-- What is removed from the one is removed from the other under the identifiers that stand for
its own. -/
theorem detach (spreads : Spreads first kinds registry other) (id : Nat) :
    Spreads first kinds (registry.detach id).2
      (other.detachEach (renamedIds first 1 kinds.length id)) := by
  rw [detachEach_eq]
  refine ⟨?_, spreads.nextId, spreads.wildcard.detach id⟩
  rw [spreads.registrations, filter_flatMap_spread]
  rfl

/-- Every call keeps the two registries together. -/
theorem perform (spreads : Spreads first kinds registry other) (some : kinds ≠ [])
    (call : Call Query Failure) :
    Spreads first kinds (call.perform registry).2
      (other.replay (call.renamed first 1 kinds.length)).2 := by
  rcases call.eq_attaching_or_detach with ⟨kind, priority, handler, rfl⟩ | ⟨id, rfl⟩
  · rw [Call.renamed_attaching, Call.perform_attaching, replay_attaching]
    exact spreads.attach some kind priority handler
  · rw [Call.renamed, replay_detach]
    exact spreads.detach id

/-- So do any calls. -/
theorem replay (spreads : Spreads first kinds registry other) (some : kinds ≠ [])
    (calls : List (Call Query Failure)) :
    Spreads first kinds (registry.replay calls).2
      (other.replay (calls.flatMap (Call.renamed first 1 kinds.length))).2 :=
  replay_renamed (fun call _ _ together => together.perform some call) spreads calls

/-- Each kind of event is met with the same handlers before and after the spreading. -/
theorem handlersFor_eq (spreads : Spreads first kinds registry other)
    (complete : kinds.Perm EventKind.all) (kind : EventKind) :
    other.handlersFor kind = registry.handlersFor kind := by
  have wildcards := spreads.wildcard.holds
  rw [handlersFor, handlersFor, spreads.registrations]
  generalize registry.registrations = registrations at wildcards ⊢
  induction registrations with
  | nil => rfl
  | cons registration rest hypothesis =>
    obtain ⟨wildcard, others⟩ := List.forall_mem_cons.1 wildcards
    rw [List.flatMap_cons, List.filter_append, List.map_append, hypothesis others,
      handlers_spread complete wildcard, ← List.map_append, ← List.filter_append,
      List.singleton_append]

/-- The spreading makes no difference to any build. -/
theorem build_eq [Container Query] (spreads : Spreads first kinds registry other)
    (complete : kinds.Perm EventKind.all) (selector : Selector) (initial : Query) :
    other.build selector initial = registry.build selector initial := by
  apply build_congr
  · intro event structural
    funext query
    rw [fire, fire, spreads.handlersFor_eq complete]
  · intro selector simple
    funext query
    rw [fireUntilHandled, fireUntilHandled, spreads.handlersFor_eq complete]

end Spreads

/-! ## Neutral handlers -/

/-- A structural event passes by neutral handlers. -/
theorem runAll_filter {event : Event} {keep : Registration Query Failure → Bool}
    {audience : List (Registration Query Failure)}
    (neutral : ∀ registration ∈ audience, keep registration = false →
      registration.handler.IsNeutral) (query : Query) :
    runAll event ((audience.filter keep).map (·.handler)) query =
      runAll event (audience.map (·.handler)) query := by
  induction audience generalizing query with
  | nil => rfl
  | cons first rest hypothesis =>
    obtain ⟨firstNeutral, restNeutral⟩ := List.forall_mem_cons.1 neutral
    by_cases kept : keep first = true
    · rw [List.filter_cons_of_pos kept, List.map_cons, List.map_cons, runAll, runAll]
      rcases first.handler event query with ⟨changed, response⟩
      cases response with
      | failed failure => rfl
      | handled => exact hypothesis restNeutral changed
      | unhandled => exact hypothesis restNeutral changed
    · have ignores := firstNeutral (Bool.eq_false_iff.2 kept) event query
      rw [List.filter_cons_of_neg kept, List.map_cons, runAll, ignores]
      exact hypothesis restNeutral query

/-- So does a simple selector. -/
theorem runUntilHandled_filter {event : Event} {keep : Registration Query Failure → Bool}
    {audience : List (Registration Query Failure)}
    (neutral : ∀ registration ∈ audience, keep registration = false →
      registration.handler.IsNeutral) (failure : Option Failure) (query : Query) :
    runUntilHandled event failure ((audience.filter keep).map (·.handler)) query =
      runUntilHandled event failure (audience.map (·.handler)) query := by
  induction audience generalizing failure query with
  | nil => rfl
  | cons first rest hypothesis =>
    obtain ⟨firstNeutral, restNeutral⟩ := List.forall_mem_cons.1 neutral
    by_cases kept : keep first = true
    · rw [List.filter_cons_of_pos kept, List.map_cons, List.map_cons, runUntilHandled,
        runUntilHandled]
      rcases first.handler event query with ⟨changed, response⟩
      cases response with
      | handled => rfl
      | unhandled => exact hypothesis restNeutral failure changed
      | failed later => exact hypothesis restNeutral (failure.or (some later)) changed
    · have ignores := firstNeutral (Bool.eq_false_iff.2 kept) event query
      rw [List.filter_cons_of_neg kept, List.map_cons, runUntilHandled, ignores]
      exact hypothesis restNeutral failure query

/-- The number of other identifiers below one. -/
theorem keptBelow_singleton (first id : Nat) :
    keptBelow [first] id = if id ≤ first then id else id - 1 := by
  induction id with
  | zero => rw [if_pos (Nat.zero_le first)]; rfl
  | succ id hypothesis =>
    rw [keptBelow_succ, hypothesis]
    simp only [List.mem_singleton]
    split_ifs <;> omega

/-- An identifier stands for one that is not new and has as many other ones below it. -/
theorem exists_renamedIds_eq (first id : Nat) :
    ∃ given, renamedIds first 0 1 id = [given] ∧ given ≠ first ∧ keptBelow [first] given = id := by
  by_cases before : id < first
  · refine ⟨id, if_pos before, Nat.ne_of_lt before, ?_⟩
    rw [keptBelow_singleton, if_pos (Nat.le_of_lt before)]
  · refine ⟨id + 1, ?_, by omega, ?_⟩
    · rw [renamedIds, if_neg before, if_neg (by omega)]
      rfl
    · rw [keptBelow_singleton, if_neg (by omega)]
      rfl

/-- The second registry is the first one with a neutral handler that was attached under an
identifier. -/
structure Ignores (first : Nat) (registry other : Registry Query Failure) : Prop where
  /-- The first registry is the second one without that attachment. -/
  omits : other.Omits registry [first]
  /-- The attachment is one of a neutral handler. -/
  neutral : other.Knows first fun registration => registration.handler.IsNeutral
  /-- The second registry was made by calls. -/
  live : ∃ calls, other.HoldsLive calls

namespace Ignores

variable {registry other : Registry Query Failure}

/-- A neutral handler can be attached at any time. -/
theorem start {calls : List (Call Query Failure)} (holds : registry.HoldsLive calls)
    {handler : Handler Query Failure} (neutral : handler.IsNeutral) (kind : Option EventKind)
    (priority : Int) :
    Ignores registry.nextId registry (registry.register kind priority handler).2 := by
  have older : ∀ registration ∈ registry.registrations, registration.id < registry.nextId :=
    fun registration => holds.id_lt
  exact ⟨registry.omits_nil.register_omitted older kind priority handler,
    .of_register older neutral, HoldsLive.exists_register ⟨calls, holds⟩ kind priority handler⟩

/-- Every call keeps the two registries together. -/
theorem perform (ignores : Ignores first registry other) (call : Call Query Failure) :
    Ignores first (call.perform registry).2 (other.replay (call.renamed first 0 1)).2 := by
  obtain ⟨calls, holds⟩ := ignores.live
  rcases call.eq_attaching_or_detach with ⟨kind, priority, handler, rfl⟩ | ⟨id, rfl⟩
  · rw [Call.renamed_attaching, Call.perform_attaching, replay_attaching]
    have kept : other.nextId ∉ [first] := by
      have given := ignores.neutral.given
      rw [List.mem_singleton]
      omega
    have both := ignores.omits.register holds.ordered kept kind priority handler
    exact ⟨both.1, ignores.neutral.register kind priority handler,
      HoldsLive.exists_register ignores.live kind priority handler⟩
  · obtain ⟨given, renamed, distinct, same⟩ := exists_renamedIds_eq first id
    have kept : given ∉ [first] := by
      rw [List.mem_singleton]
      exact distinct
    have both := ignores.omits.detach kept
    rw [same] at both
    rw [Call.renamed, renamed]
    exact ⟨both, ignores.neutral.detach given, _, holds.perform (.detach given)⟩

/-- So do any calls. -/
theorem replay (ignores : Ignores first registry other) (calls : List (Call Query Failure)) :
    Ignores first (registry.replay calls).2
      (other.replay (calls.flatMap (Call.renamed first 0 1))).2 :=
  replay_renamed (fun call _ _ together => together.perform call) ignores calls

/-- The handlers of the first registry are those of the second one without the neutral one. -/
theorem handlersFor_eq (ignores : Ignores first registry other) (kind : EventKind) :
    registry.handlersFor kind =
      ((other.audience kind).filter fun registration => decide (registration.id ∉ [first])).map
        (·.handler) := by
  -- removing the neutral attachment leaves what the first registry dispatches to
  have removed := ignores.omits.handlersFor_detachEach kind
  rw [detachEach_eq] at removed
  rw [← removed, handlersFor, audience, List.filter_filter, List.filter_filter]
  simp only [Bool.and_comm]

/-- The neutral handler makes no difference to any build. -/
theorem build_eq [Container Query] (ignores : Ignores first registry other) (selector : Selector)
    (initial : Query) : other.build selector initial = registry.build selector initial := by
  have neutral : ∀ kind, ∀ registration ∈ other.audience kind,
      decide (registration.id ∉ [first]) = false → registration.handler.IsNeutral := by
    intro kind registration member dropped
    apply ignores.neutral.holds registration (List.mem_filter.1 member).1
    simpa using dropped
  apply build_congr
  · intro event structural
    funext query
    rw [fire, fire, ignores.handlersFor_eq, runAll_filter (neutral event.kind)]
    rfl
  · intro selector simple
    funext query
    rw [fireUntilHandled, fireUntilHandled, ignores.handlersFor_eq,
      runUntilHandled_filter (neutral _)]
    rfl

end Ignores

/-! ## Histories -/

/-- Attaching a handler for every kind of event is attaching it for each kind, one after the other
in any order, and a handler that ignores everything is of no consequence. Whatever was attached and
removed before and is attached and removed afterwards, no build of a selector from any query shows
which of the two histories the registry has. -/
theorem build_replay_transparent [Container Query] {kinds : List EventKind}
    (complete : kinds.Perm EventKind.all) (before after : List (Call Query Failure))
    (priority : Int) (handler : Handler Query Failure) (selector : Selector) (initial : Query) :
    (empty.replay (before ++ (kinds.map (.attach · priority handler) ++
        after.flatMap (Call.renamed (attachCount before) 1 kinds.length)))).2.build selector initial =
      (empty.replay (before ++ .attachAll priority handler :: after)).2.build selector initial ∧
    (handler.IsNeutral → ∀ kind : Option EventKind,
      (empty.replay (before ++ .attaching kind priority handler ::
          after.flatMap (Call.renamed (attachCount before) 0 1))).2.build selector initial =
        (empty.replay (before ++ after)).2.build selector initial) := by
  have holds : (empty.replay before).2.HoldsLive ([] ++ before) := holdsLive_empty.replay before
  have older : ∀ registration ∈ (empty.replay before).2.registrations,
      registration.id < (empty.replay before).2.nextId := fun registration => holds.id_lt
  have count : attachCount before = (empty.replay before).2.nextId := holds.nextId.symm
  rw [count]
  constructor
  · have some : kinds ≠ [] := by
      rintro rfl
      cases complete.length_eq
    have start := Spreads.start older kinds priority handler
    rw [replay_append, replay_append, replay_append]
    exact (start.replay some after).build_eq complete selector initial
  · intro neutral kind
    have start := Ignores.start holds neutral kind priority
    rw [replay_append, replay_append, ← List.singleton_append, replay_append, replay_attaching]
    exact (start.replay after).build_eq selector initial

/-- A handler that is attached for each kind in turn and removed in eleven calls leaves the log as
one that is attached and removed at once, and a quiet handler leaves it as it is. -/
theorem build_replay_transparent_replacedLog :
    let page : Selector :=
      .ofChain ⟨⟨[.element "page"]⟩, [(.child, ⟨[.className "new"]⟩)]⟩
    let mark (text : String) : Handler (List String) String := fun _ log => (log ++ [text], .handled)
    let quiet : Handler (List String) String := fun _ log => (log, .unhandled)
    let before := [.attach .prepareQuery 0 (mark "first"), .attach .finalizeQuery 0 (mark "last")]
    EventKind.all.Perm EventKind.all ∧ quiet.IsNeutral ∧
      (empty.replay (before ++ (EventKind.all.map (.attach · 2 (mark "old")) ++
        .attachAll 1 (mark "new") :: (List.range' 2 11).map .detach))).2.build page [] =
          .ok ["new", "first", "new", "new", "new", "new", "last"] ∧
      (empty.replay (before ++ [.attachAll 9 quiet, .attachAll 2 (mark "old"),
        .attachAll 1 (mark "new"), .detach 3])).2.build page [] =
          .ok ["new", "first", "new", "new", "new", "new", "last"] := by
  intro page mark quiet before
  have complete : EventKind.all.Perm EventKind.all := List.Perm.refl _
  have neutral : quiet.IsNeutral := fun event log => rfl
  have replaced := (build_replay_transparent complete before
    [.attachAll 1 (mark "new"), .detach 2] 2 (mark "old") page []).1
  have ignored := (build_replay_transparent complete before
    [.attachAll 2 (mark "old"), .attachAll 1 (mark "new"), .detach 2] 9 quiet page []).2 neutral none
  exact ⟨complete, neutral, replaced.trans rfl, ignored.trans rfl⟩

end Registry

end NodeQuery
