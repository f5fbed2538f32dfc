import NodeQuery.Proofs.Selector.WellFormed

/-!
# Editing sequences

A sequence is extended at its end, shortened at both ends, given another leading selector, or made
anew of some items. Only adding an item checks the rules of order, and it looks at no item but the
last. The rules hold after every run of edits all the same: no item but the first one leads, so what
comes to stand first is no path, unless it is put there as the first item of all.

Main statements: `ofItems_eq_ok_iff_inOrder`, `effect_perform`, `Effect.inOrder` and
`performAll_inOrder_effect`.
-/

namespace NodeQuery

namespace Kind

/-- The kinds that may only stand first. -/
theorem isLeading_iff (kind : Kind) :
    kind.isLeading = true ↔ kind = .universal ∨ kind = .element ∨ kind = .path := by
  cases kind <;> simp [isLeading]

/-- The kinds that may stand right after a path. -/
theorem followsPath_iff (kind : Kind) :
    kind.followsPath = true ↔ kind = .attributeTest ∨ kind = .pseudo := by
  cases kind <;> simp [followsPath]

end Kind

namespace Sequence

/-! ## The rules of order -/

/-- The rules that the items of a sequence keep. -/
structure InOrder (items : List Simple) : Prop where
  /-- A universal, element or path selector is the first item. -/
  leading : ∀ (index : Nat) (item : Simple), items[index]? = some item →
    item.kind = .universal ∨ item.kind = .element ∨ item.kind = .path → index = 0
  /-- If the first item is a path, the second one is an attribute or pseudo selector. -/
  behindPath : ∀ first next : Simple, items[0]? = some first → first.kind = .path →
    items[1]? = some next → next.kind = .attributeTest ∨ next.kind = .pseudo

/-- The rules for a first item and the items after it. -/
theorem inOrder_cons_iff (first : Simple) (rest : List Simple) :
    InOrder (first :: rest) ↔ (∀ item ∈ rest, item.kind.isLeading = false) ∧
      (first.kind = .path → ∀ next ∈ rest.head?, next.kind.followsPath = true) := by
  constructor
  · intro order
    refine ⟨fun item member => Bool.eq_false_iff.2 fun leads => ?_, fun path next follows => ?_⟩
    · obtain ⟨index, place⟩ := List.getElem?_of_mem member
      have kinds := (Kind.isLeading_iff item.kind).1 leads
      exact absurd (order.leading (index + 1) item place kinds) (Nat.succ_ne_zero index)
    · rw [Option.mem_def, List.head?_eq_getElem?] at follows
      exact (Kind.followsPath_iff next.kind).2 (order.behindPath first next rfl path follows)
  · rintro ⟨inner, behind⟩
    constructor
    case leading =>
      intro index item place kinds
      cases index with
      | zero => rfl
      | succ position =>
        have leads := (Kind.isLeading_iff item.kind).2 kinds
        rw [inner item (List.mem_of_getElem? place)] at leads
        cases leads
    case behindPath =>
      intro start next place path after
      obtain rfl : first = start := Option.some.inj place
      have follows : next ∈ rest.head? := List.head?_eq_getElem?.trans after
      exact (Kind.followsPath_iff next.kind).1 (behind path next follows)

/-- No rule speaks of the empty sequence. -/
theorem inOrder_nil : InOrder [] := by
  constructor <;> simp

/-- Items obey the rules exactly if each of them may stand after the one before it. -/
theorem isOrdered_iff_inOrder (items : List Simple) : isOrdered items = true ↔ InOrder items := by
  cases items with
  | nil => exact ⟨fun _ => inOrder_nil, fun _ => rfl⟩
  | cons first rest =>
    rw [inOrder_cons_iff]
    induction rest generalizing first with
    | nil => simp [isOrdered]
    | cons next others hypothesis =>
      rw [isOrdered, Bool.and_eq_true, hypothesis, mayFollow, Bool.and_eq_true,
        List.forall_mem_cons]
      -- the second item is none that leads, so that nothing is asked of the third one
      have inner : next.kind.isLeading = false → next.kind ≠ .path := by
        rintro plain path
        rw [path] at plain
        cases plain
      simp only [Bool.not_eq_true', Bool.or_eq_true, bne_iff_ne, List.head?_cons,
        Option.mem_some_iff, forall_eq']
      tauto

/-- The first of some items in order are in order. -/
theorem InOrder.front {front back : List Simple} (order : InOrder (front ++ back)) :
    InOrder front := by
  have carried : ∀ {index : Nat} {item : Simple}, front[index]? = some item →
      (front ++ back)[index]? = some item := fun place =>
    (List.getElem?_append_left (List.getElem?_eq_some_iff.1 place).1).trans place
  constructor
  case leading => exact fun index item place => order.leading index item (carried place)
  case behindPath =>
    exact fun first next place path after =>
      order.behindPath first next (carried place) path (carried after)

/-- The items after the first one are in order. -/
theorem InOrder.tail {first : Simple} {rest : List Simple} (order : InOrder (first :: rest)) :
    InOrder rest :=
  (isOrdered_iff_inOrder rest).1 (isOrdered_tail ((isOrdered_iff_inOrder _).2 order))

/-- The rules are what making a sequence of items checks. -/
theorem ofItems_eq_ok_iff_inOrder (items : List Simple) (sequence : Sequence) :
    ofItems items = .ok sequence ↔ sequence.items = items ∧ InOrder items := by
  rw [ofItems_eq_ok_iff, isOrdered_iff_inOrder]
  refine and_congr_left fun _ => ⟨fun same => congrArg Sequence.items same, fun same => ?_⟩
  rw [← same]

/-! ## Edits -/

/-- The edits of a sequence. -/
inductive Edit where
  /-- Adds an item at the end. -/
  | append (item : Simple)
  /-- Removes the last item. -/
  | pop
  /-- Removes the first item. -/
  | shift
  /-- Makes the sequence start with an element selector. -/
  | setElement (name : String)
  /-- Makes the sequence start with the universal selector. -/
  | setUniversal
  /-- Makes the sequence anew of some items. -/
  | ofItems (items : List Simple)

/-- What an edit gives back. -/
inductive Reply where
  /-- The edit is done. -/
  | done
  /-- The edit would break a rule and is not done. -/
  | refused (failure : StructureError)
  /-- The edit is done and took this item away, if there was one. -/
  | removed (item : Option Simple)

/-- The leading selector that an edit puts at the start. -/
def Edit.leading? : Edit → Option Simple
  | setElement name => some (.element name)
  | setUniversal => some .universal
  | _ => none

/-- The reply to an edit that gives back an item and a sequence. -/
def removing (result : Option Simple × Sequence) : Reply × Sequence :=
  (.removed result.1, result.2)

/-- The reply to an edit that can be refused. An append refuses before it writes, and items are made
into a sequence of their own first, so that a refusal leaves the sequence as it is. -/
def checking (sequence : Sequence) : Except StructureError Sequence → Reply × Sequence
  | .ok next => (.done, next)
  | .error failure => (.refused failure, sequence)

/-- Performs an edit. -/
def perform (sequence : Sequence) : Edit → Reply × Sequence
  | .append item => sequence.checking (sequence.append item)
  | .pop => removing sequence.pop
  | .shift => removing sequence.shift
  | .setElement name => removing (sequence.setElement name)
  | .setUniversal => removing sequence.setUniversal
  | .ofItems items => sequence.checking (Sequence.ofItems items)

/-- Performs edits one after the other. -/
def performAll (sequence : Sequence) (edits : List Edit) : Sequence :=
  edits.foldl (fun reached edit => (reached.perform edit).2) sequence

/-! ## What edits do -/

/-- Why an item cannot be added behind others. -/
inductive Refusal (items : List Simple) (item : Simple) : StructureError → Prop where
  /-- The item could only be the first one. -/
  | notFirst (behind : items ≠ []) (leads : item.kind.isLeading = true) :
    Refusal items item (.notFirstInSequence item.kind)
  /-- The only item is a path, and the item added is no attribute or pseudo selector. -/
  | notAfterPath {path : Simple} (only : items = [path]) (kind : path.kind = .path)
    (bars : item.kind.isLeading = false ∧ item.kind.followsPath = false) :
    Refusal items item (.notAfterPath item.kind)

/-- What an edit does to the items of a sequence, and what it gives back. -/
inductive Effect (items : List Simple) : Edit → Reply → List Simple → Prop where
  /-- An item that may stand there is added at the end. -/
  | appended {item : Simple} (order : InOrder (items ++ [item])) :
    Effect items (.append item) .done (items ++ [item])
  /-- An item that may not stand there is refused, and the items are left as they are. -/
  | refused {item : Simple} {failure : StructureError} (refusal : Refusal items item failure) :
    Effect items (.append item) (.refused failure) items
  /-- The last item is removed. -/
  | popped {front : List Simple} {last : Simple} (split : items = front ++ [last]) :
    Effect items .pop (.removed (some last)) front
  /-- There is no last item. -/
  | nothingPopped (empty : items = []) : Effect items .pop (.removed none) []
  /-- The first item is removed. -/
  | shifted {first : Simple} {rest : List Simple} (split : items = first :: rest) :
    Effect items .shift (.removed (some first)) rest
  /-- There is no first item. -/
  | nothingShifted (empty : items = []) : Effect items .shift (.removed none) []
  /-- The leading selector, which is the first item, is replaced, and no other item is one. -/
  | replaced {edit : Edit} {leading first : Simple} {rest : List Simple}
    (sets : edit.leading? = some leading) (split : items = first :: rest)
    (leads : first.kind.isLeading = true) (inner : ∀ item ∈ rest, item.kind.isLeading = false) :
    Effect items edit (.removed (some first)) (leading :: rest)
  /-- A leading selector is put before the items, none of which is one. -/
  | inserted {edit : Edit} {leading : Simple} (sets : edit.leading? = some leading)
    (plain : ∀ item ∈ items, item.kind.isLeading = false) :
    Effect items edit (.removed none) (leading :: items)
  /-- Items in order make up the sequence anew. -/
  | made {others : List Simple} (order : InOrder others) :
    Effect items (.ofItems others) .done others
  /-- The first of the items that cannot be added behind those before it is refused, and the
  sequence is left as it is. -/
  | notMade {front rest : List Simple} {item : Simple} {failure : StructureError}
    (order : InOrder front) (refusal : Refusal front item failure) :
    Effect items (.ofItems (front ++ item :: rest)) (.refused failure) items

variable {sequence : Sequence}

/-- Items in order have no path behind the first one. -/
theorem InOrder.eq_singleton_of_getLast? {items : List Simple} (order : InOrder items)
    {last : Simple} (final : items.getLast? = some last) (path : last.kind = .path) :
    items = [last] := by
  rw [List.getLast?_eq_getElem?] at final
  have start := order.leading (items.length - 1) last final (Or.inr (Or.inr path))
  have inside := (List.getElem?_eq_some_iff.1 final).1
  have single : items.length = 1 := by omega
  obtain ⟨only, rfl⟩ := List.length_eq_one_iff.1 single
  rw [Option.some.inj final]

/-- Adding an item behind items in order is making a sequence of all of them. -/
theorem append_eq_ofItems (order : InOrder sequence.items) (item : Simple) :
    sequence.append item = ofItems (sequence.items ++ [item]) := by
  have made := (ofItems_eq_ok_iff_inOrder sequence.items sequence).2 ⟨rfl, order⟩
  rw [ofItems] at made ⊢
  rw [List.foldlM_append, made]
  exact (bind_pure _).symm

/-- An item that is refused behind items in order breaks a rule. -/
theorem refusal_of_append (order : InOrder sequence.items) {item : Simple}
    {failure : StructureError} (refused : sequence.append item = .error failure) :
    Refusal sequence.items item failure := by
  rw [append] at refused
  split at refused
  · rename_i late
    cases refused
    rw [Bool.and_eq_true, Bool.not_eq_true', List.isEmpty_eq_false_iff] at late
    exact .notFirst late.2 late.1
  · rename_i early
    split at refused
    · rename_i behind
      cases refused
      rw [Bool.and_eq_true, Option.any_eq_true, Bool.not_eq_true'] at behind
      obtain ⟨⟨last, final, path⟩, bars⟩ := behind
      have kind : last.kind = .path := eq_of_beq path
      have only := order.eq_singleton_of_getLast? final kind
      refine .notAfterPath only kind ⟨?_, bars⟩
      simpa [only] using early
    · cases refused

/-- The first of some items that is refused behind those before it breaks a rule. -/
theorem exists_refusal_of_foldlM (order : InOrder sequence.items) {items : List Simple}
    {failure : StructureError} (refused : items.foldlM append sequence = .error failure) :
    ∃ front item rest, items = front ++ item :: rest ∧ InOrder (sequence.items ++ front) ∧
      Refusal (sequence.items ++ front) item failure := by
  induction items generalizing sequence with
  | nil => cases refused
  | cons item rest hypothesis =>
    rw [List.foldlM_cons] at refused
    cases added : sequence.append item with
    | error other =>
      rw [added] at refused
      cases refused
      refine ⟨[], item, rest, rfl, ?_, ?_⟩
      · rwa [List.append_nil]
      · rw [List.append_nil]
        exact refusal_of_append order added
    | ok next =>
      rw [added] at refused
      have made := append_eq_ofItems order item
      rw [added] at made
      obtain ⟨items, longer⟩ := (ofItems_eq_ok_iff_inOrder _ next).1 made.symm
      rw [← items] at longer
      obtain ⟨front, other, others, rfl, inOrder, refusal⟩ := hypothesis longer refused
      rw [items, List.append_assoc] at inOrder refusal
      exact ⟨item :: front, other, others, rfl, inOrder, refusal⟩

/-- Putting a leading selector at the start replaces the one that is there, if there is one. -/
theorem effect_replaceLeading (order : InOrder sequence.items) {edit : Edit} {leading : Simple}
    (sets : edit.leading? = some leading) :
    Effect sequence.items edit (removing (sequence.replaceLeading leading)).1
      (removing (sequence.replaceLeading leading)).2.items := by
  obtain ⟨items⟩ := sequence
  cases items with
  | nil => exact .inserted sets (List.forall_mem_nil _)
  | cons first rest =>
    have inner := ((inOrder_cons_iff first rest).1 order).1
    by_cases leads : first.kind.isLeading = true
    · simp only [replaceLeading, if_pos leads]
      exact .replaced sets rfl leads inner
    · simp only [replaceLeading, if_neg leads]
      exact .inserted sets (List.forall_mem_cons.2 ⟨Bool.eq_false_iff.2 leads, inner⟩)

/-- On items in order each edit has its effect and gives its reply. -/
theorem effect_perform (order : InOrder sequence.items) (edit : Edit) :
    Effect sequence.items edit (sequence.perform edit).1 (sequence.perform edit).2.items := by
  cases edit with
  | append item =>
    rw [perform]
    cases added : sequence.append item with
    | error failure => exact .refused (refusal_of_append order added)
    | ok next =>
      rw [append_eq_ofItems order, ofItems_eq_ok_iff_inOrder] at added
      rw [checking, added.1]
      exact .appended added.2
  | pop =>
    obtain ⟨items⟩ := sequence
    rcases List.eq_nil_or_concat items with rfl | ⟨front, last, rfl⟩
    · exact .nothingPopped rfl
    · rw [List.concat_eq_append]
      simp only [perform, removing, pop, List.getLast?_concat, List.dropLast_concat]
      exact .popped rfl
  | shift =>
    obtain ⟨items⟩ := sequence
    cases items with
    | nil => exact .nothingShifted rfl
    | cons first rest => exact .shifted rfl
  | setElement name => exact effect_replaceLeading order rfl
  | setUniversal => exact effect_replaceLeading order rfl
  | ofItems items =>
    rw [perform]
    cases made : ofItems items with
    | error failure =>
      obtain ⟨front, item, rest, rfl, inOrder, refusal⟩ :=
        exists_refusal_of_foldlM inOrder_nil made
      exact .notMade inOrder refusal
    | ok next =>
      rw [ofItems_eq_ok_iff_inOrder] at made
      rw [checking, made.1]
      exact .made made.2

/-- The leading selector that an edit puts at the start is no path. -/
theorem Edit.kind_ne_path {edit : Edit} {leading : Simple}
    (sets : edit.leading? = some leading) : leading.kind ≠ .path := by
  cases edit <;> cases sets <;> exact Kind.noConfusion

/-- Every edit leaves items in order. -/
theorem Effect.inOrder {items after : List Simple} {edit : Edit} {reply : Reply}
    (effect : Effect items edit reply after) (order : InOrder items) : InOrder after := by
  cases effect with
  | appended longer => exact longer
  | refused refusal => exact order
  | popped split => exact (split ▸ order).front
  | nothingPopped empty => exact inOrder_nil
  | shifted split => exact (split ▸ order).tail
  | nothingShifted empty => exact inOrder_nil
  | replaced sets split leads inner =>
    rw [inOrder_cons_iff]
    exact ⟨inner, fun path => absurd path (Edit.kind_ne_path sets)⟩
  | inserted sets plain =>
    rw [inOrder_cons_iff]
    exact ⟨plain, fun path => absurd path (Edit.kind_ne_path sets)⟩
  | made longer => exact longer
  | notMade longer refusal => exact order

/-- Edits leave items in order. -/
theorem inOrder_performAll (order : InOrder sequence.items) (edits : List Edit) :
    InOrder (sequence.performAll edits).items := by
  induction edits generalizing sequence with
  | nil => exact order
  | cons edit rest hypothesis => exact hypothesis ((effect_perform order edit).inOrder order)

/-- The rules are exactly what making a sequence of items checks; after every run of edits the
items are in order; and the next edit then has exactly its effect: an item that is refused changes
nothing, a leading selector takes the place of the one that is there and of no other item, and
removing takes away one item at its end. -/
theorem performAll_inOrder_effect :
    (∀ items sequence, ofItems items = .ok sequence ↔ sequence.items = items ∧ InOrder items) ∧
      ∀ edits edit, let reached := empty.performAll edits
        InOrder reached.items ∧
          Effect reached.items edit (reached.perform edit).1 (reached.perform edit).2.items := by
  refine ⟨ofItems_eq_ok_iff_inOrder, fun edits edit => ?_⟩
  have order : InOrder (empty.performAll edits).items := inOrder_performAll inOrder_nil edits
  exact ⟨order, effect_perform order edit⟩

end Sequence

end NodeQuery
