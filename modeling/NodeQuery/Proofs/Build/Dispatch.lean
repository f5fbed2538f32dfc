import NodeQuery.Build.Builder

/-!
# The law of dispatch

A dispatch asks attachments one after the other, each on the query that its predecessors left.
The two kinds of dispatch differ in the answer that ends them: a structural event stops at the
first failure, whatever was handled before, and a simple selector stops at the first attachment
that handles it, whatever failed before. Apart from that both take the same course, and what they
come to follows from the answers on it alone.

Main statement: `Registry.dispatch_asks`.
-/

namespace NodeQuery

variable {Query Failure : Type}

namespace Response

/-- The failure that an answer reports. -/
def failure? : Response Failure → Option Failure
  | failed failure => some failure
  | _ => none

/-- Whether an answer is that the event was handled. -/
def isHandled : Response Failure → Bool
  | handled => true
  | _ => false

/-- What answers come to that handle nothing: the first failure among them, if there is one. -/
def ofRefusals (responses : List (Response Failure)) : Response Failure :=
  ((responses.findSome? failure?).map failed).getD unhandled

/-- An answer either reports one failure or none. -/
theorem failure?_eq_some_iff {response : Response Failure} {failure : Failure} :
    response.failure? = some failure ↔ response = .failed failure := by
  cases response <;> simp [failure?]

/-- An event is among the handled ones if one of the answers says so. -/
theorem any_isHandled_iff {responses : List (Response Failure)} :
    responses.any isHandled = true ↔ .handled ∈ responses := by
  rw [List.any_eq_true]
  constructor
  · rintro ⟨response, member, handles⟩
    cases response with
    | handled => exact member
    | unhandled => cases handles
    | failed failure => cases handles
  · intro member
    exact ⟨.handled, member, rfl⟩

/-- Refusals handle nothing. -/
theorem ofRefusals_ne_handled (responses : List (Response Failure)) :
    ofRefusals responses ≠ .handled := by
  unfold ofRefusals
  cases responses.findSome? failure? <;> nofun

end Response

/-! ## Traces -/

/-- The attachment whose handler also writes down that it is run. -/
def Registration.traced (registration : Registration Query Failure) :
    Registration (Query × List Nat) Failure :=
  { id := registration.id
    kind := registration.kind
    priority := registration.priority
    handler := fun event (query, visited) =>
      let (changed, response) := registration.handler event query
      ((changed, visited ++ [registration.id]), response) }

namespace Registry

/-- The registry whose handlers also write down that they are run. -/
def traced (registry : Registry Query Failure) : Registry (Query × List Nat) Failure :=
  ⟨registry.registrations.map Registration.traced, registry.nextId⟩

/-- The attachments that accept a kind of event, in the order in which they are run. -/
def audience (registry : Registry Query Failure) (kind : EventKind) :
    List (Registration Query Failure) :=
  registry.registrations.filter (·.accepts kind)

/-- A traced handler writes its identifier behind those written before. -/
theorem handler_traced (registration : Registration Query Failure) (event : Event) (query : Query)
    (log : List Nat) :
    registration.traced.handler event (query, log) =
      (((registration.handler event query).1, log ++ [registration.id]),
        (registration.handler event query).2) := rfl

/-! ## Asking attachments -/

/-- Asks each attachment once, on the query that those before it left: the query that the last
one leaves, and all answers in order. -/
def askEach (event : Event) :
    List (Registration Query Failure) → Query → Query × List (Response Failure)
  | [], query => (query, [])
  | first :: rest, query =>
    let (middle, response) := first.handler event query
    let (last, responses) := askEach event rest middle
    (last, response :: responses)

/-- Attachments that are asked behind others give their answers behind those of the others. -/
theorem askEach_append (event : Event) (front back : List (Registration Query Failure))
    (query : Query) :
    (askEach event (front ++ back) query).2 =
      (askEach event front query).2 ++ (askEach event back (askEach event front query).1).2 := by
  induction front generalizing query with
  | nil => rfl
  | cons first rest hypothesis =>
    have later := hypothesis (first.handler event query).1
    rw [List.cons_append]
    simp only [askEach, List.cons_append, later]

/-- The course of a dispatch that the first answer of a kind ends: the audience, the query before,
the attachments that are asked, their answers, and the query after. -/
inductive Course (ends : Response Failure → Prop) (event : Event) :
    List (Registration Query Failure) → Query →
      List (Registration Query Failure) → List (Response Failure) → Query → Prop where
  /-- Nobody is left to be asked. -/
  | done (query : Query) : Course ends event [] query [] [] query
  /-- An answer ends the dispatch. -/
  | stop {first : Registration Query Failure} (rest : List (Registration Query Failure))
    {before after : Query} {response : Response Failure} :
    first.handler event before = (after, response) → ends response →
      Course ends event (first :: rest) before [first] [response] after
  /-- An answer does not end the dispatch. -/
  | next {first : Registration Query Failure} {rest asked : List (Registration Query Failure)}
    {before middle after : Query} {response : Response Failure}
    {responses : List (Response Failure)} :
    first.handler event before = (middle, response) → ¬ends response →
      Course ends event rest middle asked responses after →
        Course ends event (first :: rest) before (first :: asked) (response :: responses) after

/-- Every dispatch takes a course. -/
theorem exists_course (ends : Response Failure → Prop) (event : Event)
    (audience : List (Registration Query Failure)) (before : Query) :
    ∃ asked responses after, Course ends event audience before asked responses after := by
  induction audience generalizing before with
  | nil => exact ⟨[], [], before, .done before⟩
  | cons first rest hypothesis =>
    rcases answered : first.handler event before with ⟨middle, response⟩
    by_cases ended : ends response
    · exact ⟨[first], [response], middle, .stop rest answered ended⟩
    · obtain ⟨asked, responses, after, course⟩ := hypothesis middle
      exact ⟨first :: asked, response :: responses, after, .next answered ended course⟩

namespace Course

variable {ends : Response Failure → Prop} {event : Event}
  {audience asked : List (Registration Query Failure)} {before after : Query}
  {responses : List (Response Failure)}

/-- The first of the audience are asked. -/
theorem isPrefix (course : Course ends event audience before asked responses after) :
    asked <+: audience := by
  induction course with
  | done query => exact List.nil_prefix
  | stop rest answered ended => exact ⟨rest, rfl⟩
  | next answered continued later hypothesis => exact List.cons_prefix_cons.2 ⟨rfl, hypothesis⟩

/-- Each of them is asked once, on the query that those before it left. -/
theorem askEach_eq (course : Course ends event audience before asked responses after) :
    askEach event asked before = (after, responses) := by
  induction course with
  | done query => rfl
  | stop rest answered ended =>
    rw [askEach, answered]
    rfl
  | next answered continued later hypothesis =>
    rw [askEach, answered]
    simp only [hypothesis]

/-- The last answer ends the dispatch and no other one does, or all of the audience are asked and
no answer does. -/
theorem ended_or_through (course : Course ends event audience before asked responses after) :
    (∃ earlier last, responses = earlier ++ [last] ∧ (∀ response ∈ earlier, ¬ends response) ∧
      ends last) ∨
    (asked = audience ∧ ∀ response ∈ responses, ¬ends response) := by
  induction course with
  | done query => exact Or.inr ⟨rfl, List.forall_mem_nil _⟩
  | @stop first rest before after response answered ended =>
    exact Or.inl ⟨[], response, rfl, List.forall_mem_nil _, ended⟩
  | @next first rest asked before middle after response responses answered continued later
      hypothesis =>
    rcases hypothesis with ⟨earlier, last, split, none, ended⟩ | ⟨all, none⟩
    · apply Or.inl
      refine ⟨response :: earlier, last, ?_, List.forall_mem_cons.2 ⟨continued, none⟩, ended⟩
      rw [split, List.cons_append]
    · apply Or.inr
      exact ⟨by rw [all], List.forall_mem_cons.2 ⟨continued, none⟩⟩

/-- An answer ends the dispatch if and only if one would when all of the audience were asked. -/
theorem exists_ends_iff (course : Course ends event audience before asked responses after) :
    (∃ response ∈ responses, ends response) ↔
      ∃ response ∈ (askEach event audience before).2, ends response := by
  obtain ⟨skipped, split⟩ := course.isPrefix
  have given := course.askEach_eq
  constructor
  · rintro ⟨response, member, ended⟩
    refine ⟨response, ?_, ended⟩
    rw [← split, askEach_append, given]
    exact List.mem_append_left _ member
  · rintro ⟨response, member, ended⟩
    rcases course.ended_or_through with ⟨earlier, last, parts, _, lastEnds⟩ | ⟨all, _⟩
    · exact ⟨last, by rw [parts]; exact List.mem_concat_self, lastEnds⟩
    · rw [← all, given] at member
      exact ⟨response, member, ended⟩

/-- With handlers that also write down that they are run, the course is the same, and the
identifiers of those that were asked are written behind a log. -/
theorem traced (course : Course ends event audience before asked responses after)
    (log : List Nat) :
    Course ends event (audience.map Registration.traced) (before, log)
      (asked.map Registration.traced) responses (after, log ++ asked.map (·.id)) := by
  induction course generalizing log with
  | done query =>
    rw [List.map_nil, List.map_nil, List.append_nil]
    exact .done _
  | @stop first rest before after response answered ended =>
    refine .stop _ ?_ ended
    rw [handler_traced, answered]
    rfl
  | @next first rest asked before middle after response responses answered continued later
      hypothesis =>
    have written := hypothesis (log ++ [first.id])
    rw [List.append_assoc, List.singleton_append] at written
    refine .next ?_ continued written
    rw [handler_traced, answered]

/-- A structural event comes to the first failure, if there is one. -/
theorem runAll_eq
    (course : Course (fun response => response.failure? ≠ none) event audience before asked
      responses after) :
    runAll event (audience.map (·.handler)) before =
      (after, match responses.findSome? Response.failure? with
        | some failure => .error failure
        | none => .ok ()) := by
  induction course with
  | done query => rfl
  | @stop first rest before after response answered ended =>
    obtain ⟨failure, failed⟩ := Option.ne_none_iff_exists'.1 ended
    obtain rfl := Response.failure?_eq_some_iff.1 failed
    rw [List.map_cons, runAll, answered]
    rfl
  | @next first rest asked before middle after response responses answered continued later
      hypothesis =>
    have passes : response.failure? = none := Decidable.not_not.1 continued
    rw [List.map_cons, runAll, answered, List.findSome?_cons, passes]
    cases response with
    | handled => exact hypothesis
    | unhandled => exact hypothesis
    | failed failure => cases passes

/-- A simple selector comes to the answer that handles it; if there is none, to the failure that
was met before or else to the first one. -/
theorem runUntilHandled_eq
    (course : Course (· = .handled) event audience before asked responses after)
    (failure : Option Failure) :
    runUntilHandled event failure (audience.map (·.handler)) before =
      (after, if responses.any Response.isHandled then .handled
        else ((failure.or (responses.findSome? Response.failure?)).map Response.failed).getD
          .unhandled) := by
  induction course generalizing failure with
  | done query =>
    rw [List.findSome?_nil, Option.or_none]
    rfl
  | @stop first rest before after response answered ended =>
    subst ended
    rw [List.map_cons, runUntilHandled, answered]
    rfl
  | @next first rest asked before middle after response responses answered continued later
      hypothesis =>
    rw [List.map_cons, runUntilHandled, answered, List.findSome?_cons, List.any_cons]
    cases response with
    | handled => exact absurd rfl continued
    | unhandled => exact hypothesis failure
    | failed latest =>
      have kept := hypothesis (failure.or (some latest))
      rw [Option.or_assoc, Option.some_or] at kept
      exact kept

end Course

/-! ## The law -/

/-- A dispatch asks the first of its audience, each once and on the query that its predecessors
left. The traced dispatch writes down those and nothing else. -/
structure Asks {Outcome : Type} (event : Event) (audience : List (Registration Query Failure))
    (before : Query) (outcome : Query × Outcome) (traced : (Query × List Nat) × Outcome)
    (asked : List (Registration Query Failure)) (responses : List (Response Failure)) : Prop where
  /-- They are the first ones. -/
  first : asked <+: audience
  /-- They leave the query and give the answers. -/
  answers : askEach event asked before = (outcome.1, responses)
  /-- Their identifiers are written down in order. -/
  visits : traced = ((outcome.1, asked.map (·.id)), outcome.2)

/-- A dispatch asks those that are asked on its course. -/
theorem Course.asks {Outcome : Type} {ends : Response Failure → Prop} {event : Event}
    {audience asked : List (Registration Query Failure)} {before after : Query}
    {responses : List (Response Failure)}
    (course : Course ends event audience before asked responses after) (outcome : Outcome) :
    Asks event audience before (after, outcome) ((after, asked.map (·.id)), outcome) asked
      responses :=
  ⟨course.isPrefix, course.askEach_eq, rfl⟩

/-- The traced registry has the same audience. -/
theorem audience_traced (registry : Registry Query Failure) (kind : EventKind) :
    registry.traced.audience kind = (registry.audience kind).map Registration.traced := by
  rw [audience, traced, audience, List.filter_map]
  rfl

/-- What the dispatch of a simple selector comes to. -/
theorem fireUntilHandled_of_course {registry : Registry Query Failure} {event : Event}
    {asked : List (Registration Query Failure)} {before after : Query}
    {responses : List (Response Failure)}
    (course : Course (· = .handled) event (registry.audience event.kind) before asked responses
      after) :
    registry.fireUntilHandled event before =
      (after, if responses.any Response.isHandled then .handled else .ofRefusals responses) := by
  have dispatched := course.runUntilHandled_eq none
  rw [Option.none_or] at dispatched
  exact dispatched

/-- What the dispatch of a structural event comes to. -/
theorem fire_of_course {registry : Registry Query Failure} {event : Event}
    {asked : List (Registration Query Failure)} {before after : Query}
    {responses : List (Response Failure)}
    (course : Course (fun response => response.failure? ≠ none) event
      (registry.audience event.kind) before asked responses after) :
    registry.fire event before =
      (after, match responses.findSome? Response.failure? with
        | some failure => .error failure
        | none => .ok ()) :=
  course.runAll_eq

/-- The dispatch of a simple selector asks those on its course, with traced handlers or without. -/
theorem asks_fireUntilHandled {registry : Registry Query Failure} {event : Event}
    {asked : List (Registration Query Failure)} {before after : Query}
    {responses : List (Response Failure)}
    (course : Course (· = .handled) event (registry.audience event.kind) before asked responses
      after) :
    Asks event (registry.audience event.kind) before (registry.fireUntilHandled event before)
      (registry.traced.fireUntilHandled event (before, [])) asked responses := by
  have dispatchedTraced : registry.traced.fireUntilHandled event (before, []) = _ :=
    fireUntilHandled_of_course (audience_traced registry event.kind ▸ course.traced [])
  rw [fireUntilHandled_of_course course, dispatchedTraced]
  exact course.asks _

/-- The dispatch of a structural event asks those on its course, with traced handlers or without. -/
theorem asks_fire {registry : Registry Query Failure} {event : Event}
    {asked : List (Registration Query Failure)} {before after : Query}
    {responses : List (Response Failure)}
    (course : Course (fun response => response.failure? ≠ none) event
      (registry.audience event.kind) before asked responses after) :
    Asks event (registry.audience event.kind) before (registry.fire event before)
      (registry.traced.fire event (before, [])) asked responses := by
  have dispatchedTraced : registry.traced.fire event (before, []) = _ :=
    fire_of_course (audience_traced registry event.kind ▸ course.traced [])
  rw [fire_of_course course, dispatchedTraced]
  exact course.asks _

/-- Both dispatches of an event ask its audience one after the other, each on the query that those
before it left, and nobody behind the answer that ends them. They come to what the answers say. -/
structure TakesCourse (registry : Registry Query Failure) (event : Event) (before : Query) :
    Prop where
  /-- The first failure ends a structural event and is its error. -/
  structural : ∃ asked responses,
    Course (fun response => response.failure? ≠ none) event (registry.audience event.kind) before
      asked responses (registry.fire event before).1 ∧
    (registry.fire event before).2 = match responses.findSome? Response.failure? with
      | some failure => .error failure
      | none => .ok ()
  /-- Whoever handles a simple selector ends it; if nobody does, the first failure is the answer. -/
  simple : ∃ asked responses,
    Course (· = .handled) event (registry.audience event.kind) before asked responses
      (registry.fireUntilHandled event before).1 ∧
    (registry.fireUntilHandled event before).2 =
      if responses.any Response.isHandled then .handled else .ofRefusals responses

/-- Every registry dispatches every event so. -/
theorem takesCourse (registry : Registry Query Failure) (event : Event) (before : Query) :
    registry.TakesCourse event before := by
  constructor
  · obtain ⟨asked, responses, after, course⟩ :=
      exists_course (fun response => response.failure? ≠ none) event (registry.audience event.kind)
        before
    refine ⟨asked, responses, ?_⟩
    rw [fire_of_course course]
    exact ⟨course, rfl⟩
  · obtain ⟨asked, responses, after, course⟩ :=
      exists_course (· = .handled) event (registry.audience event.kind) before
    refine ⟨asked, responses, ?_⟩
    rw [fireUntilHandled_of_course course]
    exact ⟨course, rfl⟩

/-- The answers on the course of a simple selector: the last one handles it, or none does. -/
theorem Course.handled_or_refused {event : Event}
    {audience asked : List (Registration Query Failure)} {before after : Query}
    {responses : List (Response Failure)}
    (course : Course (· = .handled) event audience before asked responses after) :
    (∃ earlier, responses = earlier ++ [.handled] ∧ .handled ∉ earlier ∧
        responses.any Response.isHandled = true) ∨
      (asked = audience ∧ .handled ∉ responses ∧ ¬responses.any Response.isHandled = true) := by
  rcases course.ended_or_through with ⟨earlier, last, split, none, ended⟩ | ⟨all, none⟩
  · subst ended
    have handles : responses.any Response.isHandled = true := by
      rw [Response.any_isHandled_iff, split]
      exact List.mem_concat_self
    exact Or.inl ⟨earlier, split, fun member => none _ member rfl, handles⟩
  · have refused : .handled ∉ responses := fun member => none _ member rfl
    exact Or.inr ⟨all, refused, mt Response.any_isHandled_iff.1 refused⟩

/-- The answers on the course of a structural event: the last one is a failure, or none is. -/
theorem Course.failed_or_passed {event : Event}
    {audience asked : List (Registration Query Failure)} {before after : Query}
    {responses : List (Response Failure)}
    (course : Course (fun response => response.failure? ≠ none) event audience before asked
      responses after) :
    (∃ earlier failure, responses = earlier ++ [.failed failure] ∧
        (∀ response ∈ earlier, response.failure? = none) ∧
        responses.findSome? Response.failure? = some failure) ∨
      (asked = audience ∧ (∀ response ∈ responses, response.failure? = none) ∧
        responses.findSome? Response.failure? = none) := by
  rcases course.ended_or_through with ⟨earlier, last, split, none, ended⟩ | ⟨all, none⟩
  · have passed : ∀ response ∈ earlier, response.failure? = Option.none :=
      fun response member => Decidable.not_not.1 (none response member)
    obtain ⟨failure, reported⟩ := Option.ne_none_iff_exists'.1 ended
    obtain rfl := Response.failure?_eq_some_iff.1 reported
    refine Or.inl ⟨earlier, failure, split, passed, ?_⟩
    rw [split, List.findSome?_append, List.findSome?_eq_none_iff.2 passed]
    rfl
  · have passed : ∀ response ∈ responses, response.failure? = Option.none :=
      fun response member => Decidable.not_not.1 (none response member)
    exact Or.inr ⟨all, passed, List.findSome?_eq_none_iff.2 passed⟩

/-- A simple selector is dispatched up to and including the first attachment that handles it; if
none does, each is asked once and the answer is the first failure, or that nobody handled it. A
structural event is dispatched up to and including the first attachment that fails, with its
failure; if none does, each is asked once and the dispatch succeeds. So a simple selector is
handled if and only if one of all attachments would handle it when each were asked: no failure
hides that. -/
theorem dispatch_asks (registry : Registry Query Failure) (event : Event) (before : Query) :
    (∃ asked responses,
      Asks event (registry.audience event.kind) before (registry.fireUntilHandled event before)
          (registry.traced.fireUntilHandled event (before, [])) asked responses ∧
        ((∃ earlier, responses = earlier ++ [.handled] ∧ .handled ∉ earlier ∧
            (registry.fireUntilHandled event before).2 = .handled) ∨
          (asked = registry.audience event.kind ∧ .handled ∉ responses ∧
            (registry.fireUntilHandled event before).2 = .ofRefusals responses))) ∧
      (∃ asked responses,
        Asks event (registry.audience event.kind) before (registry.fire event before)
            (registry.traced.fire event (before, [])) asked responses ∧
          ((∃ earlier failure, responses = earlier ++ [.failed failure] ∧
              (∀ response ∈ earlier, response.failure? = none) ∧
              (registry.fire event before).2 = .error failure) ∨
            (asked = registry.audience event.kind ∧
              (∀ response ∈ responses, response.failure? = none) ∧
              (registry.fire event before).2 = .ok ()))) ∧
      ((registry.fireUntilHandled event before).2 = .handled ↔
        .handled ∈ (askEach event (registry.audience event.kind) before).2) := by
  obtain ⟨asked, responses, after, course⟩ :=
    exists_course (· = .handled) event (registry.audience event.kind) before
  obtain ⟨informed, told, left, spread⟩ :=
    exists_course (fun response => response.failure? ≠ none) event
      (registry.audience event.kind) before
  have handling := asks_fireUntilHandled course
  have firing := asks_fire spread
  -- both outcomes are known from the answers on the course
  rw [fireUntilHandled_of_course course] at handling ⊢
  rw [fire_of_course spread] at firing ⊢
  refine ⟨⟨asked, responses, handling, ?_⟩, ⟨informed, told, firing, ?_⟩, ?_⟩
  · rcases course.handled_or_refused with ⟨earlier, split, refused, handles⟩ | ⟨all, refused, none⟩
    · exact Or.inl ⟨earlier, split, refused, if_pos handles⟩
    · exact Or.inr ⟨all, refused, if_neg none⟩
  · rcases spread.failed_or_passed with
      ⟨earlier, failure, split, passed, found⟩ | ⟨all, passed, found⟩
    · exact Or.inl ⟨earlier, failure, split, passed, by rw [found]⟩
    · exact Or.inr ⟨all, passed, by rw [found]⟩
  · have asking := course.exists_ends_iff
    simp only [exists_eq_right] at asking
    rw [← asking, ← Response.any_isHandled_iff]
    by_cases handles : responses.any Response.isHandled = true
    · rw [if_pos handles]
      exact iff_of_true rfl handles
    · rw [if_neg handles]
      exact iff_of_false (Response.ofRefusals_ne_handled responses) handles

/-- A failure ends a structural event and is passed over for a later attachment that handles a
simple selector. -/
example :
    let refuse : Handler (List Nat) String := fun _ log => (log ++ [1], .failed "refused")
    let handle : Handler (List Nat) String := fun _ log => (log ++ [2], .handled)
    let registry := ((empty.attachAll 7 refuse).2.attachAll 0 handle).2
    registry.fire ⟨.empty, .finalize⟩ [] = ([1], .error "refused") ∧
      registry.fireUntilHandled ⟨.empty, .simple .universal⟩ [] = ([1, 2], .handled) :=
  ⟨rfl, rfl⟩

/-! ## Builds -/

/-- Registries that dispatch every event alike build alike. -/
theorem build_congr [Container Query] {one other : Registry Query Failure}
    (structural : ∀ event, event.kind.isApply = false → one.fire event = other.fire event)
    (simple : ∀ selector simple, one.fireUntilHandled ⟨selector, .simple simple⟩ =
      other.fireUntilHandled ⟨selector, .simple simple⟩)
    (selector : Selector) (initial : Query) :
    one.build selector initial = other.build selector initial := by
  have structuralSteps : ∀ event, event.kind.isApply = false →
      one.structuralStep event = other.structuralStep event := by
    intro event kind
    unfold structuralStep
    rw [structural event kind]
  have simpleSteps : one.simpleStep selector = other.simpleStep selector := by
    funext item query
    unfold simpleStep
    rw [simple]
  have sequenceSteps : one.sequenceStep selector = other.sequenceStep selector := by
    funext index
    unfold sequenceStep
    rw [simpleSteps]
    cases selector.sequence? index with
    | none => rfl
    | some sequence =>
      cases combination? selector index with
      | none => rfl
      | some pair =>
        obtain ⟨child, combinator⟩ := pair
        simp only [structuralSteps ⟨selector, .combine sequence child combinator⟩ rfl]
  rw [build, build, buildStep, buildStep, structuralSteps ⟨selector, .prepare⟩ rfl,
    structuralSteps ⟨selector, .finalize⟩ rfl, sequenceSteps]

end Registry

end NodeQuery
