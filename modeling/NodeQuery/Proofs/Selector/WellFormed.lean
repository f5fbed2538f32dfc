import Mathlib
import NodeQuery.Proofs.Selector.Agreement
import NodeQuery.Proofs.Selector.Splitting
import NodeQuery.Proofs.Selector.Zeros

/-!
# The form of what is read

Whoever uses a selector that was read relies on more than its types say: a sequence has items and
they stand in an order that the rules allow, a name is written, a condition suits its operator, and
only the start of a path is a selector. All this holds of every selector that is read, however the
text spells it: the checks are made on what is left after unescaping.

A path is read in one step, but it could as well be read in two: the pieces as items, and then the
items as what a path may be built of. `Path.ofPieces_eq` says that this is the same, errors
included, so that the rules for building a path hold of what is read.

Main statement: `Selector.sequences_wellFormed_of_parse`.
-/

namespace NodeQuery

open Text

/-! ## Conditions -/

/-- A single condition is finite and no list. -/
theorem Value.isFinite_of_isScalar {value : Value} (scalar : value.isScalar = true) :
    value.isFinite = true ∧ value.isList = false := by
  cases value with
  | float number => exact ⟨scalar, rfl⟩
  | list items => cases scalar
  | _ => exact ⟨rfl, rfl⟩

/-- A list of single conditions is finite. -/
theorem Value.areFinite_of_isScalar {items : List Value}
    (scalars : ∀ item ∈ items, item.isScalar = true) : areFinite items = true := by
  induction items with
  | nil => rfl
  | cons item rest hypothesis =>
    obtain ⟨first, later⟩ := List.forall_mem_cons.1 scalars
    rw [areFinite, (isFinite_of_isScalar first).1, hypothesis later]
    rfl

/-- An attribute selector whose condition suits its operator. -/
structure Attribute.WellFormed (test : Attribute) : Prop where
  /-- A presence test has the absent condition. -/
  presence : test.operator = none → test.condition = .null
  /-- A membership test has a list, and none of its items is a list. -/
  membership : test.operator = some .inList →
    ∃ items, test.condition = .list items ∧ ∀ item ∈ items, item.isList = false
  /-- Any other comparison has a condition that is no list. -/
  comparison : ∀ operator, test.operator = some operator → operator ≠ .inList →
    test.condition.isList = false
  /-- Every floating point number in the condition is finite. -/
  finite : test.condition.isFinite = true

/-- A condition that a reading can yield suits its operator. -/
theorem Attribute.wellFormed_of_isShaped {test : Attribute} (shaped : test.isShaped = true) :
    test.WellFormed := by
  obtain ⟨name, operator, condition⟩ := test
  cases operator with
  | none =>
    have absent : condition = .null := by
      cases condition with
      | null => rfl
      | _ => cases shaped
    subst absent
    exact { presence := fun _ => rfl, membership := nofun, comparison := nofun, finite := rfl }
  | some operator =>
    rcases Operator.accepts_cases shaped with ⟨rfl, items, rfl, scalars⟩ | ⟨single, scalar⟩
    · have plain : ∀ item ∈ items, item.isList = false := fun item member =>
        (Value.isFinite_of_isScalar (scalars item member)).2
      exact
        { presence := nofun
          membership := fun _ => ⟨items, rfl, plain⟩
          comparison := fun operator same other => absurd (Option.some.inj same).symm other
          finite := Value.areFinite_of_isScalar scalars }
    · obtain ⟨finite, plain⟩ := Value.isFinite_of_isScalar scalar
      exact
        { presence := nofun
          membership := fun same => absurd (Option.some.inj same) single
          comparison := fun _ _ _ => plain
          finite := finite }

/-! ## Names and values of pseudo selectors -/

/-- A pseudo selector with a name and a value of its own, or the order of one word. -/
def Pseudo.WellFormed : Pseudo → Prop
  | named name value => name ≠ "" ∧ name ≠ sortName ∧ value ≠ some ""
  | sort attributeName _ =>
    attributeName ≠ "" ∧ (∀ value ∈ attributeName.toList, isSpace value = false) ∧
      attributeName.toList.head? ≠ some '"' ∧ attributeName.toList.getLast? ≠ some '"'

/-- What is trimmed of double quotes has none at its ends. -/
theorem Pseudo.ends_trimQuotes (text : List Char) :
    (trimQuotes text).head? ≠ some '"' ∧ (trimQuotes text).getLast? ≠ some '"' := by
  constructor
  · intro starts
    obtain ⟨run, split, _⟩ := dropTrailing_append_run (· == '"') (text.dropWhile (· == '"'))
    have front := List.head?_dropWhile_not (· == '"') text
    have kept : (text.dropWhile (· == '"')).head? = some '"' := by
      rw [split, List.head?_append, show (dropTrailing _ _).head? = some '"' from starts]
      rfl
    rw [kept] at front
    simp at front
  · intro stops
    have back := getLast?_dropTrailing (· == '"') (text.dropWhile (· == '"')) '"' stops
    simp at back

/-- A pseudo selector that a reading can yield has its form. -/
theorem Pseudo.wellFormed_of_isShaped {change : Pseudo} (shaped : change.isShaped = true) :
    change.WellFormed := by
  cases change with
  | named name value =>
    simp only [isShaped, Bool.and_eq_true, bne_iff_ne] at shaped
    exact ⟨shaped.1.1, shaped.1.2, shaped.2⟩
  | sort attributeName order =>
    simp only [isShaped, Bool.and_eq_true, bne_iff_ne, beq_iff_eq] at shaped
    obtain ⟨⟨written, spaceless⟩, trimmed⟩ := shaped
    have ends := ends_trimQuotes attributeName.toList
    rw [trimmed] at ends
    refine ⟨written, fun value member => ?_, ends⟩
    simpa using List.all_eq_true.1 spaceless value member

/-- A name that spells the reserved one in part with escapes is read as that of a sort. -/
example : Pseudo.parse ['s', '\\', 'o', 'r', 't', '(', '"', 'n', '"', ' ', 'd', 'e', 's', 'c', ')'] =
    .ok (.sort "n" .descending) := rfl

/-! ## Items of paths -/

/-- A simple selector that is read is of the kind that its first character tells. -/
theorem Simple.kindOf?_of_parse {sign : Char} {body : List Char} {item : Simple}
    (read : parse (sign :: body) = .ok item) : kindOf? sign = some item.kind := by
  rw [parse] at read
  cases kind : kindOf? sign with
  | none =>
    rw [kind] at read
    cases read
  | some found =>
    rw [kind] at read
    cases found with
    | universal =>
      simp only at read
      split at read <;> cases read
      rfl
    | element =>
      cases read
      rfl
    | id | role | className =>
      simp only [parseValue] at read
      split at read <;> cases read
      rfl
    | path | pseudo =>
      obtain ⟨part, _, rfl⟩ := map_eq_ok_iff.1 read
      rfl
    | attributeTest =>
      simp only at read
      split at read
      · cases read
      · obtain ⟨test, _, rfl⟩ := map_eq_ok_iff.1 read
        rfl

namespace Path

/-- The items of a path: the selector that stands for its root, if any, and its segments. -/
def steps (path : Path) : List Step :=
  (path.root.map (Step.selector ·.toSimple)).toList ++ path.segments.map Step.segment

/-- Only the first of some items may be a selector, and it is an id or a role. -/
def RootedAtStart (steps : List Step) : Prop :=
  ∀ (index : Nat) (simple : Simple), steps[index]? = some (.selector simple) →
    index = 0 ∧ (simple.kind = .id ∨ simple.kind = .role)

/-- Reads pieces as items: a first piece with the sign of an id or role as a simple selector, any
other piece as a segment. -/
def stepsOf : List (List Char) → Except ParseError (List Step)
  | [] => .ok []
  | first :: rest =>
    let later := rest.map fun piece => Step.segment (String.ofList (unescape piece))
    if first.head? = some '#' ∨ first.head? = some '$' then
      (Simple.parse first).map (Step.selector · :: later)
    else .ok (.segment (String.ofList (unescape first)) :: later)

/-- Segments alone make up the segments of a path. -/
theorem segmentsOfSteps_map {Item : Type} (name : Item → String) (items : List Item) :
    segmentsOfSteps (items.map fun item => .segment (name item)) = .ok (items.map name) := by
  induction items with
  | nil => rfl
  | cons item rest hypothesis =>
    rw [List.map_cons, segmentsOfSteps, hypothesis]
    rfl

/-- Items without a selector are segments. -/
theorem eq_map_of_segmentsOfSteps {steps : List Step} {segments : List String}
    (built : segmentsOfSteps steps = .ok segments) : steps = segments.map Step.segment := by
  induction steps generalizing segments with
  | nil =>
    cases built
    rfl
  | cons step rest hypothesis =>
    cases step with
    | selector simple => cases built
    | segment text =>
      obtain ⟨others, builtOthers, rfl⟩ := map_eq_ok_iff.1 built
      rw [List.map_cons, hypothesis builtOthers]

/-- A path that items make up has these items. -/
theorem steps_of_ofSteps {items : List Step} {path : Path} (built : ofSteps items = .ok path) :
    items = path.steps := by
  cases items with
  | nil =>
    cases built
    rfl
  | cons step rest =>
    cases step with
    | segment text =>
      obtain ⟨segments, builtSegments, rfl⟩ := map_eq_ok_iff.1 built
      exact eq_map_of_segmentsOfSteps builtSegments
    | selector simple =>
      rw [ofSteps] at built
      cases rooted : simple.toRoot? with
      | none =>
        rw [rooted] at built
        cases built
      | some root =>
        rw [rooted] at built
        obtain ⟨segments, builtSegments, rfl⟩ := map_eq_ok_iff.1 built
        have same : root.toSimple = simple := by
          cases simple <;> cases rooted <;> rfl
        rw [eq_map_of_segmentsOfSteps builtSegments, ← same]
        rfl

/-- The items of a path make it up. -/
theorem ofSteps_steps (path : Path) : ofSteps path.steps = .ok path := by
  obtain ⟨root, segments⟩ := path
  have later : segmentsOfSteps (segments.map Step.segment) = .ok segments :=
    (segmentsOfSteps_map id segments).trans (congrArg Except.ok (List.map_id segments))
  cases root with
  | some root =>
    have rooted : root.toSimple.toRoot? = some root := by cases root <;> rfl
    change ofSteps (.selector root.toSimple :: segments.map Step.segment) = _
    rw [ofSteps, rooted, later]
    rfl
  | none =>
    change ofSteps (segments.map Step.segment) = _
    rw [ofSteps, later]
    · rfl
    · cases segments <;> nofun

/-- A piece that starts with the sign of a root is that sign and a body. -/
theorem exists_sign_of_head? {piece : List Char}
    (signed : piece.head? = some '#' ∨ piece.head? = some '$') :
    ∃ sign body, piece = sign :: body ∧ (sign = '#' ∨ sign = '$') := by
  cases piece with
  | nil => simp at signed
  | cons sign body => exact ⟨sign, body, rfl, by simpa using signed⟩

/-- A piece with the sign of a root is read as the root that the simple selector of it is. -/
theorem parse?_of_head {sign : Char} (signs : sign = '#' ∨ sign = '$') (body : List Char) :
    ∃ root : Root, root.toSimple.toRoot? = some root ∧
      (Root.parse? (sign :: body) = some (.ok root) ∧
          Simple.parse (sign :: body) = .ok root.toSimple ∨
        Root.parse? (sign :: body) = some (.error (.missingValue root.kind)) ∧
          Simple.parse (sign :: body) = .error (.missingValue root.kind)) := by
  have number : Simple.kindOf? '#' = some .id := Simple.kindOf?_sign (by decide)
  have dollar : Simple.kindOf? '$' = some .role := Simple.kindOf?_sign (by decide)
  rcases signs with rfl | rfl
  · refine ⟨.id (String.ofList (unescape body)), rfl, ?_⟩
    simp only [Root.parse?, Simple.parse, number, Simple.parseValue]
    cases body with
    | nil => exact Or.inr ⟨rfl, rfl⟩
    | cons head rest => exact Or.inl ⟨rfl, rfl⟩
  · refine ⟨.role (String.ofList (unescape body)), rfl, ?_⟩
    simp only [Root.parse?, Simple.parse, dollar, Simple.parseValue]
    cases body with
    | nil => exact Or.inr ⟨rfl, rfl⟩
    | cons head rest => exact Or.inl ⟨rfl, rfl⟩

/-- Reading pieces as a path is reading them as items and making up a path of these. -/
theorem ofPieces_eq (texts : List (List Char)) :
    ofPieces texts = stepsOf texts >>= fun steps => (ofSteps steps).mapError .structural := by
  cases texts with
  | nil => rfl
  | cons first rest =>
    have later := segmentsOfSteps_map (fun piece => String.ofList (unescape piece)) rest
    by_cases signed : first.head? = some '#' ∨ first.head? = some '$'
    · obtain ⟨sign, body, rfl, signs⟩ := exists_sign_of_head? signed
      obtain ⟨root, same, ⟨found, parsed⟩ | ⟨refused, failed⟩⟩ := parse?_of_head signs body
      · simp only [ofPieces, found, stepsOf, if_pos signed, parsed]
        change _ = (ofSteps (.selector root.toSimple :: _)).mapError _
        rw [ofSteps, same]
        simp only [later]
        rfl
      · simp only [ofPieces, refused, stepsOf, if_pos signed, failed]
        rfl
    · have segment : Root.parse? first = none := by
        rw [Root.parse?] <;> rintro body rfl <;> exact signed (by simp)
      simp only [ofPieces, segment, stepsOf, if_neg signed]
      change _ = (ofSteps (.segment _ :: _)).mapError _
      rw [ofSteps, segmentsOfSteps, later]
      · rfl
      · intro simple rest equal
        cases equal

/-- Items that are read from pieces have a selector at most at the start, an id or a role. -/
theorem rootedAtStart_of_stepsOf {texts : List (List Char)} {steps : List Step}
    (read : stepsOf texts = .ok steps) : RootedAtStart steps := by
  have segments : ∀ (rest : List (List Char)) (index : Nat) (simple : Simple),
      (rest.map fun piece => Step.segment (String.ofList (unescape piece)))[index]? ≠
        some (Step.selector simple) := by
    intro rest index simple
    simp
  intro index simple place
  cases texts with
  | nil =>
    cases read
    cases place
  | cons first rest =>
    simp only [stepsOf] at read
    split at read
    · rename_i signed
      obtain ⟨item, parsed, rfl⟩ := map_eq_ok_iff.1 read
      cases index with
      | succ position => exact absurd place (segments rest position simple)
      | zero =>
        obtain rfl : item = simple := Step.selector.inj (Option.some.inj place)
        cases first with
        | nil => simp at signed
        | cons sign body =>
          have kind := Simple.kindOf?_of_parse parsed
          have number : Simple.kindOf? '#' = some .id := Simple.kindOf?_sign (by decide)
          have dollar : Simple.kindOf? '$' = some .role := Simple.kindOf?_sign (by decide)
          rcases signed with starts | starts
          · rw [Option.some.inj starts, number] at kind
            exact ⟨rfl, Or.inl (Option.some.inj kind).symm⟩
          · rw [Option.some.inj starts, dollar] at kind
            exact ⟨rfl, Or.inr (Option.some.inj kind).symm⟩
    · cases read
      cases index with
      | succ position => exact absurd place (segments rest position simple)
      | zero => cases Option.some.inj place

/-- A path that is read has a selector at most at its start, an id or a role. -/
theorem rootedAtStart_of_parse {body : List Char} {path : Path} (read : parse body = .ok path) :
    RootedAtStart path.steps := by
  rw [parse, ofPieces_eq] at read
  obtain ⟨items, readItems, built⟩ := bind_eq_ok_iff.1 read
  rw [mapError_eq_ok_iff] at built
  rw [← steps_of_ofSteps built]
  exact rootedAtStart_of_stepsOf readItems

end Path

/-! ## Items of sequences -/

/-- A simple selector in the form that whoever uses it relies on. -/
def Simple.WellFormed : Simple → Prop
  | element name =>
    ∃ head rest, name.toList = head :: rest ∧ (isAlphanumeric head = true ∨ head = '_')
  | path value => Path.RootedAtStart value.steps
  | attributeTest test => test.WellFormed
  | pseudo change => change.WellFormed
  | universal | id _ | role _ | className _ => True

/-- A simple selector that is read has its form. -/
theorem Simple.wellFormed_of_parse {token : List Char} {item : Simple}
    (read : parse token = .ok item) : item.WellFormed := by
  have shaped := isShaped_of_parse read
  cases item with
  | element name =>
    obtain ⟨head, rest, split, starts, _⟩ := exists_elementChars shaped
    rw [startsName, Bool.or_eq_true, beq_iff_eq] at starts
    exact ⟨head, rest, split, starts⟩
  | path value =>
    cases token with
    | nil => cases read
    | cons sign body =>
      have kind := kindOf?_of_parse read
      rw [parse, kind] at read
      obtain ⟨part, readPart, same⟩ := map_eq_ok_iff.1 read
      rw [← path.inj same]
      exact Path.rootedAtStart_of_parse readPart
  | attributeTest test => exact Attribute.wellFormed_of_isShaped shaped
  | pseudo change => exact Pseudo.wellFormed_of_isShaped shaped
  | universal | id value | role value | className value => trivial

namespace Sequence

/-- Items are in order if and only if each one but the first may follow the one before it. -/
theorem isOrdered_iff (items : List Simple) :
    isOrdered items = true ↔ ∀ index before item, items[index]? = some before →
      items[index + 1]? = some item → mayFollow before item = true := by
  induction items with
  | nil => simp [isOrdered]
  | cons first rest hypothesis =>
    cases rest with
    | nil => simp [isOrdered]
    | cons next others =>
      rw [isOrdered, Bool.and_eq_true, hypothesis]
      constructor
      · rintro ⟨start, later⟩ index before item place after
        cases index with
        | zero =>
          cases place
          cases after
          exact start
        | succ position => exact later position before item place after
      · intro all
        exact ⟨all 0 first next rfl rfl, fun index before item place after =>
          all (index + 1) before item place after⟩

/-- A sequence in the form that whoever uses it relies on. -/
structure WellFormed (sequence : Sequence) : Prop where
  /-- There is an item. -/
  nonempty : sequence.items ≠ []
  /-- A universal, element or path selector is the first item. -/
  leading : ∀ (index : Nat) (item : Simple), sequence.items[index]? = some item →
    item.kind = .universal ∨ item.kind = .element ∨ item.kind = .path → index = 0
  /-- The item right after a path is an attribute or pseudo selector. -/
  behindPath : ∀ (index : Nat) (item next : Simple), sequence.items[index]? = some item →
    item.kind = .path → sequence.items[index + 1]? = some next →
      next.kind = .attributeTest ∨ next.kind = .pseudo
  /-- Each item has its form. -/
  items : ∀ item ∈ sequence.items, item.WellFormed

/-- Items in order, each in its form, make up a well-formed sequence. -/
theorem wellFormed_of_isOrdered {sequence : Sequence} (nonempty : sequence.items ≠ [])
    (ordered : isOrdered sequence.items = true)
    (items : ∀ item ∈ sequence.items, item.WellFormed) : sequence.WellFormed := by
  have follows := (isOrdered_iff sequence.items).1 ordered
  refine ⟨nonempty, fun index item place kind => ?_, fun index item next place kind after => ?_,
    items⟩
  · cases index with
    | zero => rfl
    | succ position =>
      have inside : position < sequence.items.length :=
        Nat.lt_of_succ_lt (List.getElem?_eq_some_iff.1 place).1
      have allowed := follows position _ item (List.getElem?_eq_getElem inside) place
      have inner : item.kind.isLeading = false := by
        rw [mayFollow, Bool.and_eq_true] at allowed
        simpa using allowed.1
      rcases kind with same | same | same <;> rw [same] at inner <;> cases inner
  · have allowed := follows index item next place after
    have behind : next.kind.followsPath = true := by
      rw [mayFollow, Bool.and_eq_true] at allowed
      simpa [kind] using allowed.2
    cases found : next.kind with
    | attributeTest => exact Or.inl rfl
    | pseudo => exact Or.inr rfl
    | _ =>
      rw [found] at behind
      cases behind

/-- Every item of a sequence that is read has its form. -/
theorem items_wellFormed_of_parse {pattern : List Char} {sequence : Sequence}
    (read : parse pattern = .ok sequence) : ∀ item ∈ sequence.items, item.WellFormed := by
  obtain ⟨parts, _, _, _, _, each⟩ := exists_parts_of_parse read
  have carried : ∀ (part : List Char × List Char) item, Simple.parse part.2 = .ok item →
      True → item.WellFormed := fun part item readPart _ => Simple.wellFormed_of_parse readPart
  exact forall_mem_of_forall₂ carried (fun _ _ => trivial) each

end Sequence

namespace Selector

/-- Every sequence of a selector that is read is read from a text of its own. -/
theorem exists_parse_of_mem_sequences {pattern : List Char} {selector : Selector}
    (read : parse pattern = .ok selector) :
    ∀ sequence ∈ selector.sequences, ∃ text, Sequence.parse text = .ok sequence := by
  obtain ⟨chain, first, parts, rfl, _, starts, follow⟩ := exists_parts_of_parse read
  have carried : ∀ part pair, Follows part pair → True →
      ∃ text, Sequence.parse text = .ok pair.2 := fun part pair follows _ =>
    ⟨part.2, follows.2.read⟩
  have later := forall_mem_of_forall₂ carried (fun _ _ => trivial) follow
  rw [sequences_ofChain, Chain.sequences, List.forall_mem_cons, List.forall_mem_map]
  exact ⟨⟨first, starts.read⟩, later⟩

/-- Every sequence of a selector that is read has an item, obeys the rules of order, and each of
its items has the form that whoever uses it relies on. -/
theorem sequences_wellFormed_of_parse {pattern : List Char} {selector : Selector}
    (read : parse pattern = .ok selector) :
    ∀ sequence ∈ selector.sequences, sequence.WellFormed := by
  have texts := exists_parse_of_mem_sequences read
  obtain ⟨chain, rfl, shaped⟩ := shaped_of_parse read
  rw [sequences_ofChain] at texts ⊢
  intro sequence member
  obtain ⟨text, readText⟩ := texts sequence member
  have form := shaped sequence member
  exact Sequence.wellFormed_of_isOrdered form.nonempty form.ordered
    (Sequence.items_wellFormed_of_parse readText)

/-- A path with a root and a list of tags, and an element below it. -/
theorem sequences_wellFormed_of_parse_taggedPath :
    ∃ selector, parse "/#root/a[tag ~= 'x' 0.0] > _page[title]".toList = .ok selector ∧
      selector.length = 2 ∧ ∀ sequence ∈ selector.sequences, sequence.WellFormed := by
  have read : parse "/#root/a[tag ~= 'x' 0.0] > _page[title]".toList =
      .ok (ofChain ⟨⟨[.path ⟨some (.id "root"), ["a"]⟩,
          .attributeTest ⟨"tag", some .inList, .list [.text "x", .float (.zero false)]⟩]⟩,
        [(.child, ⟨[.element "_page", .attributeTest ⟨"title", none, .null⟩]⟩)]⟩) := by cbv
  exact ⟨_, read, rfl, sequences_wellFormed_of_parse read⟩

end Selector

end NodeQuery
