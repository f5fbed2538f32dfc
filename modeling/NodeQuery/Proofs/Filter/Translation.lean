import NodeQuery.Proofs.Filter.Fold

/-!
# Filters without a registry

With one filter listener attached a build is a plain fold. The initial value is made a document
with an object of terms, and the simple selectors are translated into changes of it, those of the
last sequence first and in each sequence from left to right. A simple selector that is not
supported or fails ends the fold, whatever the document holds at that point. So the first such
one in the order of the fold decides the error, the combinators decide nothing, and no initial
value is refused.

Main statement: `Listener.compile_eq_foldlM_translate`.
-/

namespace NodeQuery.Filter

open NodeQuery

/-! ## Translation of simple selectors -/

/-- Why a simple selector ends a build, if it does. -/
def refusal? (config : Config) (resolve : Resolver) (simple : Simple) :
    Option (BuildError Failure) :=
  match planOf config resolve simple with
  | .changes _ => none
  | .unsupported => some (.selectorNotSupported simple.kind)
  | .failed failure => some (.handler failure)

/-- The document that a simple selector makes of another one, unless it ends the build. -/
def translate (config : Config) (resolve : Resolver) (document : Json) (simple : Simple) :
    Except (BuildError Failure) Json :=
  match (planOf config resolve simple).perform document with
  | (changed, .handled) => .ok changed
  | (_, .unhandled) => .error (.selectorNotSupported simple.kind)
  | (_, .failed failure) => .error (.handler failure)

/-- A simple selector ends a build for a reason of its own, on every document alike. -/
theorem translate_eq (config : Config) (resolve : Resolver) (document : Json) (simple : Simple) :
    translate config resolve document simple =
      match refusal? config resolve simple with
      | some error => .error error
      | none => .ok (performAll (changesOf config resolve simple) document) := by
  unfold translate refusal? changesOf
  cases planOf config resolve simple <;> rfl

/-- No simple selector finds an invalid accumulator. -/
theorem refusal?_ne_invalidAccumulator (config : Config) (resolve : Resolver) (simple : Simple) :
    refusal? config resolve simple ≠ some .invalidAccumulator := by
  unfold refusal?
  cases planOf config resolve simple <;> simp

/-- A fold of translations ends with the reason of the first simple selector that has one. -/
theorem foldlM_translate_eq_error_iff (config : Config) (resolve : Resolver)
    (simples : List Simple) (document : Json) (error : BuildError Failure) :
    simples.foldlM (translate config resolve) document = .error error ↔
      simples.findSome? (refusal? config resolve) = some error := by
  induction simples generalizing document with
  | nil =>
    rw [List.foldlM_nil, List.findSome?_nil]
    constructor <;> intro same <;> cases same
  | cons simple rest hypothesis =>
    rw [List.foldlM_cons, translate_eq, List.findSome?_cons]
    cases refusal? config resolve simple with
    | some reason =>
      constructor <;> intro same <;> cases same <;> rfl
    | none => exact hypothesis _

/-- Applying simple selectors step by step is the fold of their translations. -/
theorem foldlM_translate_of_applyAll {config : Config} {resolve : Resolver}
    {simples : List Simple} {document after : Json}
    {outcome : Except (BuildError Failure) Unit}
    (applied : applyAll config resolve simples document = (after, outcome)) :
    simples.foldlM (translate config resolve) document = outcome.map fun _ => after := by
  induction simples generalizing document with
  | nil =>
    obtain ⟨rfl, rfl⟩ := Prod.mk.inj applied
    rfl
  | cons simple rest hypothesis =>
    rw [applyAll, List.map_cons, BuildStep.sequence, BuildStep.andThen, applySimple] at applied
    rw [List.foldlM_cons, translate]
    cases plan : planOf config resolve simple with
    | changes changes =>
      rw [plan] at applied
      exact hypothesis applied
    | unsupported =>
      rw [plan] at applied
      obtain ⟨rfl, rfl⟩ := Prod.mk.inj applied
      rfl
    | failed failure =>
      rw [plan] at applied
      obtain ⟨rfl, rfl⟩ := Prod.mk.inj applied
      rfl

/-! ## The fold -/

/-- A prepared document has an object of terms, and its other entries are those of the value that
it was made of. -/
theorem field?_prepare (document : Json) (name : String) :
    (prepare document).field? name =
      if name = queryEntry then some (.object (terms document)) else document.field? name := by
  rw [prepare, setTerms, setEntryFields, Json.field?]
  by_cases same : name = queryEntry
  · rw [if_pos same, same, Json.lookup_insert_self]
  · rw [if_neg same, Json.lookup_insert_of_ne same]
    cases document <;> rfl

/-- With one listener attached a build prepares the initial value and folds the translations of
the simple selectors over it. It fails if and only if one of them is not supported or fails, with
the error of the first such one. Selectors of the same sequences give the same result, whatever
their combinators are, and no initial value is an invalid accumulator. -/
theorem Listener.compile_eq_foldlM_translate (listener : Listener) {selector : Selector}
    (reachable : selector.Reachable) (initial : Json) :
    listener.compile selector initial =
        selector.applied.foldlM (translate listener.config listener.resolve) (prepare initial) ∧
      (∀ name, (prepare initial).field? name =
        if name = queryEntry then some (.object (terms initial)) else initial.field? name) ∧
      (∀ error, listener.compile selector initial = .error error ↔
        selector.applied.findSome? (refusal? listener.config listener.resolve) = some error) ∧
      (∀ other : Selector, other.Reachable → other.sequences = selector.sequences →
        listener.compile other initial = listener.compile selector initial) ∧
      listener.compile selector initial ≠ .error .invalidAccumulator := by
  have folded : ∀ other : Selector, other.Reachable → listener.compile other initial =
      other.applied.foldlM (translate listener.config listener.resolve) (prepare initial) := by
    intro other otherReachable
    rw [compile, Registry.build, buildStep_attach listener otherReachable]
    rcases applied : applyAll listener.config listener.resolve other.applied (prepare initial) with
      ⟨after, outcome⟩
    rw [foldlM_translate_of_applyAll applied]
    cases outcome <;> rfl
  have failed : ∀ error, listener.compile selector initial = .error error ↔
      selector.applied.findSome? (refusal? listener.config listener.resolve) = some error := by
    intro error
    rw [folded selector reachable]
    exact foldlM_translate_eq_error_iff _ _ _ _ error
  refine ⟨folded selector reachable, field?_prepare initial, failed, ?_, ?_⟩
  · intro other otherReachable same
    rw [folded other otherReachable, folded selector reachable, Selector.applied, same,
      ← Selector.applied]
  · intro invalid
    obtain ⟨simple, _, refused⟩ := List.exists_of_findSome?_eq_some ((failed _).1 invalid)
    exact refusal?_ne_invalidAccumulator _ _ simple refused

/-- The last sequence is translated first: its limit ends the build before the element, which is
not supported, is met, and if both sequences have a limit that is a count, the one of the first
sequence is written last. -/
theorem Listener.compile_eq_foldlM_translate_limitedNews :
    let listener := Listener.new .usual (fun _ => none) 0
    let selector : Selector := .ofChain ⟨⟨[.element "page"]⟩,
      [(.child, ⟨[.className "news", .pseudo (.named "limit" (some "ten"))]⟩)]⟩
    let counted : Selector := .ofChain
      ⟨⟨[.className "page", .pseudo (.named "limit" (some "2"))]⟩,
        [(.child, ⟨[.className "news", .pseudo (.named "limit" (some "7"))]⟩)]⟩
    selector.Reachable ∧ listener.compile selector (.int 3) =
      .error (.handler (.invalidCount "limit" (some "ten"))) ∧
    counted.Reachable ∧ listener.compile counted (.int 3) =
      .ok (.object [("limit", .int 2), ("query", .object [("classes",
        .object [("$in", .array [.string "news", .string "page"])])])]) := by
  intro listener selector counted
  have reachable : selector.Reachable := Selector.reachable_ofChain _
  have countedReachable : counted.Reachable := Selector.reachable_ofChain _
  obtain ⟨_, _, failed, _⟩ := listener.compile_eq_foldlM_translate reachable (.int 3)
  obtain ⟨folded, _⟩ := listener.compile_eq_foldlM_translate countedReachable (.int 3)
  refine ⟨reachable, (failed _).2 (by decide +kernel), countedReachable, ?_⟩
  rw [folded]
  decide +kernel

end NodeQuery.Filter
