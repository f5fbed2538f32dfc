import Mathlib.Data.List.Induction
import NodeQuery.Proofs.Build.Dispatch

/-!
# Histories of registries

A registry is what a history of calls made of the empty one. Each call that attaches a handler
gets the number of such calls before it as its identifier. An attachment is live until its
identifier is detached. At any time the registry holds the live attachments, each once, in
running order: by descending priority, and for one priority by identifier. So the sorting that
follows every call never moves an attachment past one that was made earlier with the same
priority.

Main statements: `Registry.insert_eq_mergeSort` and `Registry.replay_holds_live`.
-/

namespace NodeQuery

namespace Registry

variable {Query Failure : Type}

/-! ## Calls and live attachments -/

/-- A call that changes a registry. -/
inductive Call (Query Failure : Type) where
  /-- Attaches a handler for a kind of event. -/
  | attach (kind : EventKind) (priority : Int) (handler : Handler Query Failure)
  /-- Attaches a handler for every kind of event. -/
  | attachAll (priority : Int) (handler : Handler Query Failure)
  /-- Removes an attachment. -/
  | detach (id : Nat)

/-- What a call gives back. -/
inductive Reply where
  /-- The identifier of a new attachment. -/
  | attached (id : Nat)
  /-- Whether the attachment was there. -/
  | detached (found : Bool)
deriving DecidableEq, Repr

/-- The identifier that a reply gives out. -/
def Reply.issued? : Reply → Option Nat
  | attached id => some id
  | detached _ => none

namespace Call

/-- Performs a call. -/
def perform (registry : Registry Query Failure) :
    Call Query Failure → Reply × Registry Query Failure
  | attach kind priority handler =>
    let (id, next) := registry.attach kind priority handler
    (.attached id, next)
  | attachAll priority handler =>
    let (id, next) := registry.attachAll priority handler
    (.attached id, next)
  | detach id =>
    let (found, next) := registry.detach id
    (.detached found, next)

/-- The attachment that a call makes under an identifier. -/
def attachment? (id : Nat) : Call Query Failure → Option (Registration Query Failure)
  | attach kind priority handler => some ⟨id, some kind, priority, handler⟩
  | attachAll priority handler => some ⟨id, none, priority, handler⟩
  | detach _ => none

/-- Whether a call makes an attachment. -/
def attaches : Call Query Failure → Bool
  | attach .. | attachAll .. => true
  | detach _ => false

/-- Whether a call removes the attachment with an identifier. -/
def removes (id : Nat) : Call Query Failure → Bool
  | attach .. | attachAll .. => false
  | detach removed => removed == id

end Call

/-- Performs calls one after the other. -/
def replay (registry : Registry Query Failure) :
    List (Call Query Failure) → List Reply × Registry Query Failure
  | [] => ([], registry)
  | call :: later =>
    let (reply, next) := call.perform registry
    let (replies, last) := next.replay later
    (reply :: replies, last)

/-- The attachments that calls make and none of them removes afterwards, in the order in which
they are made; the first of them gets an identifier. -/
def liveFrom (id : Nat) : List (Call Query Failure) → List (Registration Query Failure)
  | [] => []
  | call :: later =>
    match call.attachment? id with
    | none => liveFrom id later
    | some registration =>
      if later.any (·.removes id) then liveFrom (id + 1) later
      else registration :: liveFrom (id + 1) later

/-- The live attachments after a history, in the order in which they were made. -/
def live (calls : List (Call Query Failure)) : List (Registration Query Failure) :=
  liveFrom 0 calls

/-- The number of attachments that calls make. -/
def attachCount (calls : List (Call Query Failure)) : Nat := calls.countP Call.attaches

/-- The first call counts if it makes an attachment. -/
theorem attachCount_cons (call : Call Query Failure) (later : List (Call Query Failure)) :
    attachCount (call :: later) = attachCount later + if call.attaches then 1 else 0 :=
  List.countP_cons

/-- The last call counts if it makes an attachment. -/
theorem attachCount_concat (calls : List (Call Query Failure)) (call : Call Query Failure) :
    attachCount (calls ++ [call]) = attachCount calls + if call.attaches then 1 else 0 :=
  List.countP_append.trans (congrArg _ List.countP_singleton)

/-- An attachment accepts the events of its kind, or all events. -/
theorem accepts_eq (registration : Registration Query Failure) (kind : EventKind) :
    registration.accepts kind =
      decide (registration.kind = none ∨ registration.kind = some kind) := by
  rw [Registration.accepts]
  cases registration.kind with
  | none => rfl
  | some own => simp [Bool.beq_eq_decide_eq]

/-! ## Running order -/

/-- An attachment runs before those of lower priority and before those of its own priority that
were made later. -/
def RunsBefore (first second : Registration Query Failure) : Prop :=
  second.priority < first.priority ∨ first.priority = second.priority ∧ first.id < second.id

/-- What runs before another attachment has no lower priority. -/
theorem RunsBefore.priority_le {first second : Registration Query Failure}
    (before : RunsBefore first second) : second.priority ≤ first.priority := by
  unfold RunsBefore at before
  omega

/-- What is put into a list is there beside what was there before. -/
theorem insert_perm (added : Registration Query Failure)
    (registrations : List (Registration Query Failure)) :
    (insert added registrations).Perm (added :: registrations) := by
  induction registrations with
  | nil => exact List.Perm.refl _
  | cons first rest hypothesis =>
    rw [insert]
    split
    · exact (hypothesis.cons first).trans (List.Perm.swap added first rest)
    · exact List.Perm.refl _

/-- A new attachment joins those that a registry held before. -/
theorem mem_register {registry : Registry Query Failure} {kind : Option EventKind} {priority : Int}
    {handler : Handler Query Failure} {registration : Registration Query Failure} :
    registration ∈ (registry.register kind priority handler).2.registrations ↔
      registration = ⟨registry.nextId, kind, priority, handler⟩ ∨
        registration ∈ registry.registrations :=
  (insert_perm _ _).mem_iff.trans List.mem_cons

/-- An attachment goes behind those of the same or a higher priority, wherever it goes among the
others. -/
theorem insert_append_of_higher {added : Registration Query Failure}
    {front : List (Registration Query Failure)}
    (higher : ∀ registration ∈ front, added.priority ≤ registration.priority)
    (back : List (Registration Query Failure)) :
    insert added (front ++ back) = front ++ insert added back := by
  induction front with
  | nil => rfl
  | cons first rest hypothesis =>
    obtain ⟨firstHigher, restHigher⟩ := List.forall_mem_cons.1 higher
    rw [List.cons_append, insert, if_pos firstHigher, hypothesis restHigher, List.cons_append]

/-- An attachment goes before one of a lower priority. -/
theorem insert_cons_of_lower {added first : Registration Query Failure}
    (lower : first.priority < added.priority) (rest : List (Registration Query Failure)) :
    insert added (first :: rest) = added :: first :: rest := by
  rw [insert, if_neg (Int.not_le.2 lower)]

/-- An attachment of a higher priority than all others is put first. -/
theorem insert_of_lower {added : Registration Query Failure}
    {registrations : List (Registration Query Failure)}
    (lower : ∀ registration ∈ registrations, registration.priority < added.priority) :
    insert added registrations = added :: registrations := by
  cases registrations with
  | nil => rfl
  | cons first rest => exact insert_cons_of_lower (lower first List.mem_cons_self) rest

/-- Whether an attachment may stand before another one by their priorities alone. -/
def outranks (first second : Registration Query Failure) : Bool :=
  decide (second.priority ≤ first.priority)

/-- Outranking is transitive. -/
theorem outranks_trans (one other third : Registration Query Failure)
    (first : outranks one other = true) (second : outranks other third = true) :
    outranks one third = true := by
  simp only [outranks, decide_eq_true_eq] at *
  omega

/-- One of two attachments outranks the other. -/
theorem outranks_total (one other : Registration Query Failure) :
    (outranks one other || outranks other one) = true := by
  simp only [outranks, Bool.or_eq_true, decide_eq_true_eq]
  omega

/-- Nothing ranks above an attachment that outranks it. -/
theorem eq_nil_of_outranked {first : Registration Query Failure}
    {higher : List (Registration Query Failure)}
    (above : ∀ registration ∈ higher, first.priority < registration.priority)
    (below : ∀ registration ∈ higher, registration.priority ≤ first.priority) : higher = [] :=
  List.eq_nil_iff_forall_not_mem.2 fun registration member =>
    absurd (above registration member) (Int.not_lt.2 (below registration member))

/-- Among attachments by descending priority a new one is put where adding it at the end and sorting
them stably by priority puts it. -/
theorem insert_eq_mergeSort {added : Registration Query Failure}
    {registrations : List (Registration Query Failure)}
    (ordered : registrations.Pairwise fun first second => second.priority ≤ first.priority) :
    insert added registrations = (registrations ++ [added]).mergeSort outranks := by
  induction registrations with
  | nil => rw [List.nil_append, List.mergeSort_singleton, insert]
  | cons first rest hypothesis =>
    obtain ⟨firstHigher, restOrdered⟩ := List.pairwise_cons.1 ordered
    -- the sort puts before the first one only those that it does not outrank
    obtain ⟨higher, others, sorted, sortedRest, unranked⟩ :=
      List.mergeSort_cons outranks_trans outranks_total first (rest ++ [added])
    rw [← hypothesis restOrdered] at sortedRest
    have above : ∀ registration ∈ higher, first.priority < registration.priority := by
      intro registration member
      simpa [outranks] using unranked registration member
    rw [List.cons_append, sorted]
    by_cases reached : added.priority ≤ first.priority
    · have outranked : ∀ registration ∈ insert added rest,
          registration.priority ≤ first.priority := by
        intro registration member
        rcases List.mem_cons.1 ((insert_perm added rest).mem_iff.1 member) with rfl | older
        · exact reached
        · exact firstHigher registration older
      have nothing : higher = [] := by
        rw [sortedRest] at outranked
        exact eq_nil_of_outranked above (List.forall_mem_append.1 outranked).1
      rw [insert, if_pos reached, sortedRest, nothing]
      rfl
    · have passed := Int.not_le.1 reached
      rw [insert_of_lower fun registration member =>
        Int.lt_of_le_of_lt (firstHigher registration member) passed] at sortedRest
      rw [insert_cons_of_lower passed]
      cases higher with
      | nil =>
        -- the new one would stand behind the first one, which does not outrank it
        have runs :=
          List.pairwise_mergeSort outranks_trans outranks_total (first :: (rest ++ [added]))
        rw [sorted, List.nil_append, ← List.nil_append others, ← sortedRest] at runs
        have outranked := (List.pairwise_cons.1 runs).1 added List.mem_cons_self
        exact absurd (of_decide_eq_true outranked) reached
      | cons highest more =>
        obtain ⟨rfl, behind⟩ := List.cons.inj sortedRest
        have nothing : more = [] := by
          rw [behind] at firstHigher
          exact eq_nil_of_outranked (List.forall_mem_cons.1 above).2
            (List.forall_mem_append.1 firstHigher).1
        rw [behind, nothing]
        rfl

/-- A new attachment is put where the running order wants it. -/
theorem pairwise_insert {added : Registration Query Failure}
    {registrations : List (Registration Query Failure)}
    (ordered : registrations.Pairwise RunsBefore)
    (older : ∀ registration ∈ registrations, registration.id < added.id) :
    (insert added registrations).Pairwise RunsBefore := by
  induction registrations with
  | nil => exact List.pairwise_singleton _ _
  | cons first rest hypothesis =>
    obtain ⟨firstRuns, restOrdered⟩ := List.pairwise_cons.1 ordered
    obtain ⟨firstOlder, restOlder⟩ := List.forall_mem_cons.1 older
    rw [insert]
    split
    · rename_i reached
      refine List.pairwise_cons.2 ⟨fun later member => ?_, hypothesis restOrdered restOlder⟩
      rcases List.mem_cons.1 ((insert_perm added rest).mem_iff.1 member) with rfl | inside
      · unfold RunsBefore
        omega
      · exact firstRuns later inside
    · rename_i passed
      refine List.pairwise_cons.2 ⟨fun later member => ?_, ordered⟩
      rcases List.mem_cons.1 member with rfl | inside
      · exact Or.inl (Int.not_le.1 passed)
      · have behind := firstRuns later inside
        unfold RunsBefore at behind ⊢
        omega

/-! ## Live attachments, call by call -/

/-- A call attaches under the identifier that it is given. -/
theorem Call.of_attachment?_eq_some {call : Call Query Failure} {id : Nat}
    {registration : Registration Query Failure}
    (made : call.attachment? id = some registration) :
    registration.id = id ∧ call.attaches = true := by
  cases call <;> cases made <;> exact ⟨rfl, rfl⟩

/-- A call attaches nothing if it removes an attachment. -/
theorem Call.attaches_of_attachment?_eq_none {call : Call Query Failure} {id : Nat}
    (made : call.attachment? id = none) : call.attaches = false := by
  cases call <;> cases made
  rfl

/-- One more call removes at most one live attachment and adds at most one. -/
theorem liveFrom_concat (id : Nat) (calls : List (Call Query Failure))
    (call : Call Query Failure) :
    liveFrom id (calls ++ [call]) =
      (liveFrom id calls).filter (fun registration => !call.removes registration.id) ++
        (call.attachment? (id + attachCount calls)).toList := by
  induction calls generalizing id with
  | nil => cases call <;> rfl
  | cons first rest hypothesis =>
    rw [List.cons_append, liveFrom, liveFrom, attachCount_cons]
    cases made : first.attachment? id with
    | none =>
      rw [Call.attaches_of_attachment?_eq_none made]
      exact hypothesis id
    | some registration =>
      obtain ⟨same, attaches⟩ := Call.of_attachment?_eq_some made
      have count : id + (attachCount rest + 1) = id + 1 + attachCount rest := by omega
      simp only [List.any_append, List.any_cons, List.any_nil, Bool.or_false, attaches,
        if_true, hypothesis, count]
      cases rest.any (·.removes id) with
      | true => rfl
      | false =>
        rw [← same]
        cases removed : call.removes registration.id <;> simp [removed]

/-- The identifiers of live attachments are those that the calls gave out. -/
theorem id_of_mem_liveFrom {id : Nat} {calls : List (Call Query Failure)}
    {registration : Registration Query Failure} (member : registration ∈ liveFrom id calls) :
    id ≤ registration.id ∧ registration.id < id + attachCount calls := by
  induction calls using List.reverseRecOn with
  | nil => cases member
  | append_singleton front last hypothesis =>
    rw [attachCount_concat]
    rw [liveFrom_concat, List.mem_append] at member
    rcases member with earlier | new
    · have bounds := hypothesis (List.mem_filter.1 earlier).1
      omega
    · obtain ⟨same, attaches⟩ := Call.of_attachment?_eq_some (Option.mem_toList.1 new)
      rw [if_pos attaches]
      omega

/-- Live attachments stand in the order in which they were made. -/
theorem pairwise_liveFrom (id : Nat) (calls : List (Call Query Failure)) :
    (liveFrom id calls).Pairwise fun first second => first.id < second.id := by
  induction calls generalizing id with
  | nil => exact List.Pairwise.nil
  | cons call later hypothesis =>
    rw [liveFrom]
    cases made : call.attachment? id with
    | none => exact hypothesis id
    | some registration =>
      obtain ⟨same, _⟩ := Call.of_attachment?_eq_some made
      cases later.any (·.removes id) with
      | true => exact hypothesis (id + 1)
      | false =>
        refine List.pairwise_cons.2 ⟨fun second member => ?_, hypothesis (id + 1)⟩
        have bounds := id_of_mem_liveFrom member
        omega

/-! ## The state after a history -/

/-- A registry holds the live attachments of a history in running order, and gives the next
attachment the number of those made so far. -/
structure HoldsLive (registry : Registry Query Failure) (calls : List (Call Query Failure)) :
    Prop where
  /-- Identifiers count attachments. -/
  nextId : registry.nextId = attachCount calls
  /-- The registry holds what is live. -/
  perm : registry.registrations.Perm (live calls)
  /-- It holds it in running order. -/
  ordered : registry.registrations.Pairwise RunsBefore

namespace HoldsLive

variable {registry : Registry Query Failure} {calls : List (Call Query Failure)}

/-- What the registry holds was given its identifier before. -/
theorem id_lt (holds : registry.HoldsLive calls) {registration : Registration Query Failure}
    (member : registration ∈ registry.registrations) : registration.id < registry.nextId := by
  have bounds := id_of_mem_liveFrom (holds.perm.mem_iff.1 member)
  rw [holds.nextId]
  omega

/-- The registry holds no identifier twice. -/
theorem nodup_ids (holds : registry.HoldsLive calls) :
    (registry.registrations.map (·.id)).Nodup := by
  have distinct : ((live calls).map (·.id)).Nodup :=
    List.pairwise_map.2 ((pairwise_liveFrom 0 calls).imp fun earlier => Nat.ne_of_lt earlier)
  exact (holds.perm.map _).nodup_iff.2 distinct

/-- A new attachment joins the live ones. -/
theorem register (holds : registry.HoldsLive calls) {call : Call Query Failure}
    {kind : Option EventKind} {priority : Int} {handler : Handler Query Failure}
    (attachment : ∀ id, call.attachment? id = some ⟨id, kind, priority, handler⟩) :
    (registry.register kind priority handler).2.HoldsLive (calls ++ [call]) := by
  have count : attachCount (calls ++ [call]) = attachCount calls + 1 := by
    rw [attachCount_concat, if_pos (Call.of_attachment?_eq_some (attachment 0)).2]
  have kept : ∀ id, call.removes id = false := by
    intro id
    cases call with
    | detach removed => cases attachment 0
    | _ => rfl
  have grown : live (calls ++ [call]) =
      live calls ++ [⟨registry.nextId, kind, priority, handler⟩] := by
    rw [live, liveFrom_concat, attachment, Nat.zero_add, ← holds.nextId]
    simp [kept, live]
  refine ⟨?_, ?_, pairwise_insert holds.ordered fun registration => holds.id_lt⟩
  · rw [count, ← holds.nextId]
    rfl
  · rw [grown]
    exact (insert_perm _ _).trans
      ((holds.perm.cons _).trans (List.perm_append_singleton _ _).symm)

/-- A removed attachment leaves the live ones. -/
theorem detach (holds : registry.HoldsLive calls) (id : Nat) :
    (registry.detach id).2.HoldsLive (calls ++ [.detach id]) := by
  have count : attachCount (calls ++ [.detach id]) = attachCount calls :=
    attachCount_concat calls (.detach id)
  have shrunk : live (calls ++ [.detach id]) = (live calls).filter (·.id != id) := by
    rw [live, liveFrom_concat, ← live]
    refine (List.append_nil _).trans (List.filter_congr fun registration _ => ?_)
    exact congrArg not (Bool.beq_comm ..)
  refine ⟨holds.nextId.trans count.symm, ?_, holds.ordered.sublist List.filter_sublist⟩
  rw [shrunk]
  exact holds.perm.filter _

/-- Every call keeps the registry in step with its history. -/
theorem perform (holds : registry.HoldsLive calls) (call : Call Query Failure) :
    (call.perform registry).2.HoldsLive (calls ++ [call]) := by
  cases call with
  | attach kind priority handler => exact holds.register fun _ => rfl
  | attachAll priority handler => exact holds.register fun _ => rfl
  | detach id => exact holds.detach id

/-- So does attaching a handler for a kind of event or for every kind. -/
theorem exists_register (live : ∃ calls, registry.HoldsLive calls) (kind : Option EventKind)
    (priority : Int) (handler : Handler Query Failure) :
    ∃ calls, (registry.register kind priority handler).2.HoldsLive calls := by
  obtain ⟨calls, holds⟩ := live
  cases kind with
  | none => exact ⟨_, holds.perform (.attachAll priority handler)⟩
  | some kind => exact ⟨_, holds.perform (.attach kind priority handler)⟩

/-- Any calls keep the registry in step with its history. -/
theorem replay (holds : registry.HoldsLive calls) (later : List (Call Query Failure)) :
    (registry.replay later).2.HoldsLive (calls ++ later) := by
  induction later generalizing registry calls with
  | nil =>
    rw [List.append_nil]
    exact holds
  | cons call rest hypothesis =>
    have next := hypothesis (holds.perform call)
    rw [List.append_assoc, List.singleton_append] at next
    exact next

end HoldsLive

/-- The empty registry holds what is live before any call. -/
theorem holdsLive_empty : (empty : Registry Query Failure).HoldsLive [] :=
  ⟨rfl, List.Perm.refl _, List.Pairwise.nil⟩

/-- Attachments get the identifiers from the next one on, one after the other. -/
theorem issued_replay (registry : Registry Query Failure) (calls : List (Call Query Failure)) :
    (registry.replay calls).1.filterMap Reply.issued? =
      List.range' registry.nextId (attachCount calls) := by
  induction calls generalizing registry with
  | nil => rfl
  | cons call later hypothesis =>
    rw [replay, List.filterMap_cons, hypothesis, attachCount_cons]
    cases call <;> rfl

/-! ## Removal -/

/-- An attachment that is there is removed, and the others stay as they are. -/
theorem detach_of_split {registry : Registry Query Failure}
    (distinct : (registry.registrations.map (·.id)).Nodup)
    {front back : List (Registration Query Failure)} {registration : Registration Query Failure}
    (split : registry.registrations = front ++ registration :: back) :
    registry.detach registration.id = (true, ⟨front ++ back, registry.nextId⟩) := by
  have others : ∀ other ∈ front ++ back, (other.id != registration.id) = true := by
    rw [split, List.map_append, List.map_cons, List.perm_middle.nodup_iff, List.nodup_cons,
      ← List.map_append] at distinct
    intro other member
    refine bne_iff_ne.2 fun same => distinct.1 ?_
    rw [← same]
    exact List.mem_map_of_mem member
  obtain ⟨frontOthers, backOthers⟩ := List.forall_mem_append.1 others
  rw [detach, isAttached, split]
  refine Prod.ext ?_ (congrArg (Registry.mk · registry.nextId) ?_)
  · simp
  · rw [List.filter_append, List.filter_cons_of_neg (by simp), List.filter_eq_self.2 frontOthers,
      List.filter_eq_self.2 backOthers]

/-- Removing what is not there changes nothing. -/
theorem detach_of_not_isAttached {registry : Registry Query Failure} {id : Nat}
    (missing : registry.isAttached id = false) : registry.detach id = (false, registry) := by
  have others : registry.registrations.filter (·.id != id) = registry.registrations := by
    refine List.filter_eq_self.2 fun registration member => ?_
    have different := List.any_eq_false.1 missing registration member
    simpa using different
  rw [detach, missing, others]

/-! ## Visits -/

/-- A dispatch asks attachments of its audience, from the first one on and each once, on the query
that those before left. Either the last one gives an answer that ends the dispatch, and no other one
does, or all of them are asked and no answer does. The traced dispatch writes down those that are
asked and nothing else. -/
def Visits {Outcome : Type} (ends : Response Failure → Prop) (event : Event)
    (audience : List (Registration Query Failure)) (before : Query) (outcome : Query × Outcome)
    (traced : (Query × List Nat) × Outcome) : Prop :=
  ∃ visited responses, Asks event audience before outcome traced visited responses ∧
    ((∃ earlier last, responses = earlier ++ [last] ∧ (∀ response ∈ earlier, ¬ends response) ∧
        ends last) ∨
      visited = audience ∧ ∀ response ∈ responses, ¬ends response)

/-- A structural event visits handlers up to the first that fails. -/
theorem visits_fire (registry : Registry Query Failure) (event : Event) (before : Query) :
    Visits (fun response => response.failure? ≠ none) event (registry.audience event.kind) before
      (registry.fire event before) (registry.traced.fire event (before, [])) := by
  obtain ⟨asked, responses, after, course⟩ :=
    exists_course (fun response => response.failure? ≠ none) event (registry.audience event.kind)
      before
  exact ⟨asked, responses, asks_fire course, course.ended_or_through⟩

/-- A simple selector visits handlers up to the first that handles it. -/
theorem visits_fireUntilHandled (registry : Registry Query Failure) (event : Event)
    (before : Query) :
    Visits (· = .handled) event (registry.audience event.kind) before
      (registry.fireUntilHandled event before)
      (registry.traced.fireUntilHandled event (before, [])) := by
  obtain ⟨asked, responses, after, course⟩ :=
    exists_course (· = .handled) event (registry.audience event.kind) before
  exact ⟨asked, responses, asks_fireUntilHandled course, course.ended_or_through⟩

/-! ## Histories -/

/-- After every history the registry holds the live attachments, each once, by descending
priority and for one priority in the order in which they were made: one more is put where adding it
at the end and sorting stably by priority puts it. No identifier is given out twice. Removing an
attachment succeeds exactly if it is live, takes out that one alone and leaves the others in their
order. Those for a kind of event or for every event are counted, and its dispatch visits them in
their order, up to the first that fails or, for a simple selector, that handles it. -/
theorem replay_holds_live (calls : List (Call Query Failure)) :
    let registry := (empty.replay calls).2
    registry.registrations.Perm (live calls) ∧ registry.registrations.Pairwise RunsBefore ∧
      (∀ (kind : Option EventKind) (priority : Int) (handler : Handler Query Failure),
        (registry.register kind priority handler).2.registrations =
          (registry.registrations ++
            [Registration.mk registry.nextId kind priority handler]).mergeSort outranks) ∧
      (registry.registrations.map (·.id)).Nodup ∧
      (empty.replay calls).1.filterMap Reply.issued? = List.range (attachCount calls) ∧
      (∀ id, ((registry.detach id).1 = true ↔ ∃ registration ∈ live calls, registration.id = id) ∧
        ((registry.detach id).1 = false → (registry.detach id).2 = registry)) ∧
      (∀ front registration back, registry.registrations = front ++ registration :: back →
        (registry.detach registration.id).2.registrations = front ++ back) ∧
      (∀ kind, registry.listenerCount kind = (live calls).countP fun registration =>
        registration.kind = none ∨ registration.kind = some kind) ∧
      (∀ kind, registry.audience kind = registry.registrations.filter fun registration =>
        registration.kind = none ∨ registration.kind = some kind) ∧
      ∀ event query,
        Visits (fun response => response.failure? ≠ none) event (registry.audience event.kind) query
            (registry.fire event query) (registry.traced.fire event (query, [])) ∧
          Visits (· = .handled) event (registry.audience event.kind) query
            (registry.fireUntilHandled event query)
            (registry.traced.fireUntilHandled event (query, [])) := by
  intro registry
  have holds : registry.HoldsLive calls := holdsLive_empty.replay calls
  have found : ∀ id, (registry.detach id).1 = true ↔
      ∃ registration ∈ live calls, registration.id = id := by
    intro id
    have member : registry.isAttached id = (live calls).any (·.id == id) :=
      Bool.eq_iff_iff.2 (by simp [isAttached, holds.perm.mem_iff])
    rw [detach, member, List.any_eq_true]
    simp only [beq_iff_eq]
  refine ⟨holds.perm, holds.ordered, fun kind priority handler => ?_, holds.nodup_ids, ?_,
    fun id => ⟨found id, ?_⟩, ?_, fun kind => ?_, fun kind => ?_, ?_⟩
  · exact insert_eq_mergeSort (holds.ordered.imp RunsBefore.priority_le)
  · rw [issued_replay]
    exact List.range_eq_range'.symm
  · intro missing
    rw [detach_of_not_isAttached missing]
  · intro front registration back split
    rw [detach_of_split holds.nodup_ids split]
  · rw [listenerCount, ← List.countP_eq_length_filter, ← funext (accepts_eq · kind)]
    exact holds.perm.countP_eq _
  · rw [audience, ← funext (accepts_eq · kind)]
  · exact fun event query =>
      ⟨registry.visits_fire event query, registry.visits_fireUntilHandled event query⟩

/-- Attachments of a higher priority come first, those of one priority in the order in which they
were made, and a removed one leaves no gap. A simple selector is refused by the first of those for
it, ignored by the second and handled by the third, so that the last one is not asked; a completion
ends at the first of them. -/
theorem replay_holds_live_refusal :
    let refuse : Handler Nat String := fun _ count => (count + 1, .failed "refused")
    let ignore : Handler Nat String := fun _ count => (count + 1, .unhandled)
    let handle : Handler Nat String := fun _ count => (count + 1, .handled)
    let calls : List (Call Nat String) := [.attachAll 0 ignore, .attachAll 7 refuse,
      .attachAll 0 handle, .detach 0, .attachAll 7 ignore,
      .attach (.applySimple .className) 9 handle, .attachAll 0 refuse]
    let registry := (empty.replay calls).2
    let applied : Event := ⟨.empty, .simple .universal⟩
    let completed : Event := ⟨.empty, .finalize⟩
    registry.registrations.map (·.id) = [4, 1, 3, 2, 5] ∧
      registry.listenerCount applied.kind = 4 ∧
      Visits (· = .handled) applied (registry.audience applied.kind) 0
        (3, (.handled : Response String)) ((3, [1, 3, 2]), .handled) ∧
      Visits (fun response => response.failure? ≠ none) completed
        (registry.audience completed.kind) 0 (1, (.error "refused" : Except String Unit))
        ((1, [1]), .error "refused") := by
  intro refuse ignore handle calls registry applied completed
  obtain ⟨_, _, _, _, _, _, _, counted, _, visits⟩ := replay_holds_live calls
  exact ⟨by decide, (counted applied.kind).trans (by decide), (visits applied 0).2,
    (visits completed 0).1⟩

end Registry

end NodeQuery
