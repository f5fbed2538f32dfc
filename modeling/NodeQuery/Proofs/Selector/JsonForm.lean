import Mathlib
import NodeQuery.Proofs.Selector.Editing
import NodeQuery.Proofs.Selector.Zeros
import NodeQuery.Selector.Tree

/-!
# The JSON form of a selector loses nothing

What is absent is written as the absent value, values and items of paths are written without their
kind, and the last sequence has no combinator field. Still no two selectors that a history of
readings and edits leaves have the same JSON form, as long as their floating point numbers are
finite: each form tells which of its kind it is by a field or by what stands in its place.

JSON values are compared without regard to the order of their fields, once exactly and once with the
two zeros as one number.

Main statement: `Selector.toJson_lossless`.
-/

namespace NodeQuery

namespace Json

/-! ## Fields in any order -/

/-- The values of an array are sorted one by one. -/
theorem sortedItems_eq (items : List Json) : sortedItems items = items.map sorted := by
  induction items with
  | nil => rfl
  | cons item rest hypothesis => rw [sortedItems, hypothesis, List.map_cons]

/-- Sorting fields into others keeps the last value of each name. -/
theorem lookup_sortedFields (name : String) (fields done : List (String × Json)) :
    lookup name (sortedFields fields done) =
      ((lookup name fields.reverse).map sorted).or (lookup name done) := by
  have lookupAppend : ∀ front back : List (String × Json),
      lookup name (front ++ back) = (lookup name front).or (lookup name back) := by
    intro front back
    induction front with
    | nil => rfl
    | cons field rest hypothesis =>
      rw [List.cons_append, lookup, lookup, hypothesis]
      split <;> rfl
  induction fields generalizing done with
  | nil => rfl
  | cons field rest hypothesis =>
    obtain ⟨key, value⟩ := field
    rw [sortedFields, hypothesis, List.reverse_cons, lookupAppend]
    by_cases same : key = name
    · subst same
      rw [lookup_insert_self, lookup, if_pos rfl]
      cases lookup key rest.reverse <;> rfl
    · rw [lookup_insert_of_ne (Ne.symm same), lookup, if_neg same, lookup, Option.or_none]

/-- Objects that are the same up to the order of their fields have the same fields. -/
theorem lookup_eq_of_sorted_eq {fields others : List (String × Json)}
    (same : (object fields).sorted = (object others).sorted) (name : String) :
    (lookup name fields.reverse).map sorted = (lookup name others.reverse).map sorted := by
  have found := congrArg (lookup name) (object.inj same)
  rwa [lookup_sortedFields, lookup_sortedFields, lookup, Option.or_none, Option.or_none] at found

/-- A text that may be absent keeps its form. -/
theorem sorted_ofText? (value : Option String) : (ofText? value).sorted = ofText? value := by
  cases value <;> rfl

/-- A text that may be absent is told by its form. -/
theorem ofText?_injective {value other : Option String} (same : ofText? value = ofText? other) :
    value = other := by
  cases value <;> cases other <;> cases same <;> rfl

/-- A kind and the form of its value are told by their form. -/
theorem ofKind_sorted_inj {kind otherKind : Kind} {value otherValue : Json}
    (same : (ofKind kind value).sorted = (ofKind otherKind otherValue).sorted) :
    kind = otherKind ∧ value.sorted = otherValue.sorted := by
  have kinds := lookup_eq_of_sorted_eq same "kind"
  have values := lookup_eq_of_sorted_eq same "value"
  simp [lookup, sorted] at kinds values
  exact ⟨Kind.name_injective kinds, values⟩

end Json

/-! ## Values and their parts -/

namespace Value

mutual

/-- A finite value is told by its form. -/
theorem eq_of_toJson_eq : (value : Value) → value.isFinite = true → (other : Value) →
    other.isFinite = true → value.toJson.sorted = other.toJson.sorted → value = other
  | null, _, other, finite, same => by
    cases other <;> simp_all [toJson, Json.sorted, isFinite]
  | bool _, _, other, finite, same => by
    cases other <;> simp_all [toJson, Json.sorted, isFinite]
  | int _, _, other, finite, same => by
    cases other <;> simp_all [toJson, Json.sorted, isFinite, Int64.toInt_inj]
  | text _, _, other, finite, same => by
    cases other <;> simp_all [toJson, Json.sorted, isFinite]
  | float _, finite, other, otherFinite, same => by
    cases other <;> simp_all [toJson, Json.sorted, isFinite]
  | list items, finite, other, otherFinite, same => by
    cases other with
    | list others =>
      have forms := Json.array.inj same
      rw [eq_of_toJsonItems_eq items finite others otherFinite forms]
    | _ => simp_all [toJson, Json.sorted, isFinite]

/-- Finite values are told by their forms. -/
theorem eq_of_toJsonItems_eq : (items : List Value) → areFinite items = true →
    (others : List Value) → areFinite others = true →
    Json.sortedItems (toJsonItems items) = Json.sortedItems (toJsonItems others) → items = others
  | [], _, others, _, same => by
    cases others with
    | nil => rfl
    | cons other rest => cases same
  | item :: rest, finite, others, otherFinite, same => by
    cases others with
    | nil => cases same
    | cons other otherRest =>
      obtain ⟨first, later⟩ := Bool.and_eq_true _ _ ▸ finite
      obtain ⟨otherFirst, otherLater⟩ := Bool.and_eq_true _ _ ▸ otherFinite
      obtain ⟨heads, tails⟩ := List.cons.inj same
      rw [eq_of_toJson_eq item first other otherFirst heads,
        eq_of_toJsonItems_eq rest later otherRest otherLater tails]

end

end Value

/-- An operator is told by its symbol. -/
theorem Operator.symbol_injective {operator other : Operator}
    (same : operator.symbol = other.symbol) : operator = other := by
  have found := ofSymbol?_symbol operator
  rw [same, ofSymbol?_symbol] at found
  exact (Option.some.inj found).symm

/-- A test with a finite condition is told by its form. -/
theorem Attribute.eq_of_toJson_eq {test other : Attribute} (finite : test.condition.isFinite = true)
    (otherFinite : other.condition.isFinite = true)
    (same : test.toJson.sorted = other.toJson.sorted) : test = other := by
  obtain ⟨name, operator, condition⟩ := test
  obtain ⟨otherName, otherOperator, otherCondition⟩ := other
  have names := Json.lookup_eq_of_sorted_eq same "name"
  have operators := Json.lookup_eq_of_sorted_eq same "operator"
  have conditions := Json.lookup_eq_of_sorted_eq same "condition"
  simp [Json.lookup, Json.sorted] at names
  simp [Json.lookup, Json.sorted_ofText?] at operators
  simp [Json.lookup] at conditions
  have symbols := Json.ofText?_injective operators
  have written : Function.Injective fun operator : Operator => String.ofList operator.symbol :=
    fun one two equal => Operator.symbol_injective (String.ofList_injective equal)
  rw [names, Option.map_injective written symbols,
    Value.eq_of_toJson_eq condition finite otherCondition otherFinite conditions]

/-- A pseudo selector is told by its form. -/
theorem Pseudo.eq_of_toJson_eq {change other : Pseudo}
    (same : change.toJson.sorted = other.toJson.sorted) : change = other := by
  cases change with
  | named name value =>
    cases other with
    | named otherName otherValue =>
      have names := Json.lookup_eq_of_sorted_eq same "name"
      have values := Json.lookup_eq_of_sorted_eq same "value"
      simp [Json.lookup, Json.sorted] at names
      simp [Json.lookup, Json.sorted_ofText?] at values
      rw [names, Json.ofText?_injective values]
    | sort otherName order =>
      have types := Json.lookup_eq_of_sorted_eq same "type"
      simp [Json.lookup, Json.sorted] at types
  | sort attributeName order =>
    cases other with
    | named otherName value =>
      have types := Json.lookup_eq_of_sorted_eq same "type"
      simp [Json.lookup, Json.sorted] at types
    | sort otherName otherOrder =>
      have names := Json.lookup_eq_of_sorted_eq same "attribute"
      have orders := Json.lookup_eq_of_sorted_eq same "order"
      simp [Json.lookup, Json.sorted] at names orders
      cases order <;> cases otherOrder <;> simp_all [SortOrder.name]

/-! ## Paths -/

/-- A root is told by its form. -/
theorem Root.eq_of_toJson_eq {root other : Root} (same : root.toJson.sorted = other.toJson.sorted) :
    root = other := by
  obtain ⟨kinds, values⟩ := Json.ofKind_sorted_inj same
  have texts := Json.string.inj values
  cases root <;> cases other <;> cases kinds <;> cases texts <;> rfl

/-- A path is told by its form: a root is written as an object, a segment as a text. -/
theorem Path.eq_of_toJson_eq {path other : Path} (same : path.toJson.sorted = other.toJson.sorted) :
    path = other := by
  obtain ⟨root, segments⟩ := path
  obtain ⟨otherRoot, otherSegments⟩ := other
  have forms := Json.array.inj same
  rw [Json.sortedItems_eq, Json.sortedItems_eq, List.map_append, List.map_append, List.map_map,
    List.map_map] at forms
  have plain : Function.Injective (Json.sorted ∘ Json.string) := fun one two equal =>
    Json.string.inj equal
  cases root with
  | none =>
    cases otherRoot with
    | none => exact congrArg (Path.mk none) (plain.list_map forms)
    | some otherRoot =>
      cases segments with
      | nil => cases forms
      | cons segment rest => cases (List.cons.inj forms).1
  | some root =>
    cases otherRoot with
    | none =>
      cases otherSegments with
      | nil => cases forms
      | cons segment rest => cases (List.cons.inj forms).1
    | some otherRoot =>
      obtain ⟨roots, texts⟩ := List.cons.inj forms
      have tails : segments = otherSegments := plain.list_map texts
      rw [Root.eq_of_toJson_eq roots, tails]

/-! ## Simple selectors and sequences -/

namespace Simple

/-- The kind of a simple selector is told by its form. -/
theorem kind_eq_of_toJson_eq {item other : Simple} (same : item.toJson.sorted = other.toJson.sorted) :
    item.kind = other.kind := by
  have shown : ∀ item : Simple, ∃ fields, item.toJson = .object fields ∧
      Json.lookup "kind" fields.reverse = some (.string item.kind.name) := by
    intro item
    cases item <;> exact ⟨_, rfl, by simp [Json.lookup]⟩
  obtain ⟨fields, form, found⟩ := shown item
  obtain ⟨otherFields, otherForm, otherFound⟩ := shown other
  rw [form, otherForm] at same
  have kinds := Json.lookup_eq_of_sorted_eq same "kind"
  rw [found, otherFound] at kinds
  exact Kind.name_injective (Json.string.inj (Option.some.inj kinds))

/-- A finite simple selector is told by its form. -/
theorem eq_of_toJson_eq {item other : Simple} (finite : item.isFinite = true)
    (otherFinite : other.isFinite = true) (same : item.toJson.sorted = other.toJson.sorted) :
    item = other := by
  have kinds := kind_eq_of_toJson_eq same
  cases item with
  | universal =>
    cases other <;> cases kinds
    rfl
  | element value | id value | role value | className value =>
    cases other <;> cases kinds
    rw [Json.string.inj (Json.ofKind_sorted_inj same).2]
  | path value =>
    cases other <;> cases kinds
    rw [Path.eq_of_toJson_eq (Json.ofKind_sorted_inj same).2]
  | attributeTest test =>
    cases other <;> cases kinds
    rw [Attribute.eq_of_toJson_eq finite otherFinite (Json.ofKind_sorted_inj same).2]
  | pseudo change =>
    cases other <;> cases kinds
    rw [Pseudo.eq_of_toJson_eq (Json.ofKind_sorted_inj same).2]

end Simple

/-- A finite sequence is told by its form. -/
theorem Sequence.eq_of_toJson_eq {sequence other : Sequence} (finite : sequence.isFinite = true)
    (otherFinite : other.isFinite = true)
    (same : sequence.toJson.sorted = other.toJson.sorted) : sequence = other := by
  obtain ⟨items⟩ := sequence
  obtain ⟨others⟩ := other
  have forms := Json.array.inj same
  rw [Json.sortedItems_eq, Json.sortedItems_eq, List.map_map, List.map_map] at forms
  have told : ∀ item ∈ items, ∀ other ∈ others,
      item.toJson.sorted = other.toJson.sorted → id item = id other := by
    intro item member other otherMember
    exact Simple.eq_of_toJson_eq (List.all_eq_true.1 finite item member)
      (List.all_eq_true.1 otherFinite other otherMember)
  have members := map_eq_of_map_eq told forms
  rw [List.map_id, List.map_id] at members
  rw [members]

/-! ## Chains -/

/-- Distinct combinators have distinct names. -/
theorem Combinator.name_injective {combinator other : Combinator}
    (same : combinator.name = other.name) : combinator = other := by
  cases combinator <;> cases other <;> simp_all [name]

namespace Selector

/-- The combinator of a node is told by its form, and so is its sequence if that is finite. -/
theorem Node.eq_of_toJson_eq {node other : Node} (finite : node.sequence.isFinite = true)
    (otherFinite : other.sequence.isFinite = true)
    (same : node.toJson.sorted = other.toJson.sorted) :
    node.sequence = other.sequence ∧ node.combinator = other.combinator := by
  obtain ⟨sequence, parent, child, combinator⟩ := node
  obtain ⟨otherSequence, otherParent, otherChild, otherCombinator⟩ := other
  have sequences := Json.lookup_eq_of_sorted_eq same "sequence"
  have combinators := Json.lookup_eq_of_sorted_eq same "combinator"
  have found : ∀ (sequence : Json) (combinator : Option Combinator),
      Json.lookup "sequence" (("sequence", sequence) :: (combinator.map fun combinator =>
          ("combinator", Json.string combinator.name)).toList).reverse = some sequence ∧
        Json.lookup "combinator" (("sequence", sequence) :: (combinator.map fun combinator =>
          ("combinator", Json.string combinator.name)).toList).reverse =
            combinator.map (Json.string ·.name) := by
    intro sequence combinator
    cases combinator <;> simp [Json.lookup]
  rw [(found _ _).1, (found _ _).1] at sequences
  rw [(found _ _).2, (found _ _).2] at combinators
  refine ⟨Sequence.eq_of_toJson_eq finite otherFinite (Option.some.inj sequences), ?_⟩
  cases combinator with
  | none =>
    cases otherCombinator with
    | none => rfl
    | some otherCombinator => cases combinators
  | some combinator =>
    cases otherCombinator with
    | none => cases combinators
    | some otherCombinator =>
      have names := Json.string.inj (Option.some.inj combinators)
      exact congrArg some (Combinator.name_injective names)

/-- The selectors of two chains are the same if their nodes hold the same sequences and
combinators. -/
theorem ofChain_eq_of_nodes {chain other : Chain}
    (same : (ofChain chain).nodes.map (fun node => (node.sequence, node.combinator)) =
      (ofChain other).nodes.map fun node => (node.sequence, node.combinator)) :
    ofChain chain = ofChain other := by
  have sequences := congrArg (List.map Prod.fst) same
  have combinators := congrArg (List.filterMap Prod.snd) same
  rw [List.map_map, List.map_map] at sequences
  rw [List.filterMap_map, List.filterMap_map] at combinators
  have chains : (ofChain chain).chain? = (ofChain other).chain? := by
    rw [chain?, chain?, show (ofChain chain).sequences = (ofChain other).sequences from sequences,
      show (ofChain chain).nodes.filterMap (·.combinator) = _ from combinators]
    rfl
  rw [chain?_ofChain, chain?_ofChain] at chains
  rw [Option.some.inj chains]

/-- Finite selectors, each empty or that of a chain, are told by their form. -/
theorem eq_of_toJson_eq {one other : Selector} (shape : one = empty ∨ ∃ chain, one = ofChain chain)
    (otherShape : other = empty ∨ ∃ chain, other = ofChain chain) (finite : one.isFinite = true)
    (otherFinite : other.isFinite = true) (same : one.toJson.sorted = other.toJson.sorted) :
    one = other := by
  have forms := Json.array.inj same
  rw [Json.sortedItems_eq, Json.sortedItems_eq, List.map_map, List.map_map] at forms
  have filled : ∀ chain : Chain, (ofChain chain).nodes.map (Json.sorted ∘ Node.toJson) ≠ [] := by
    intro chain none
    have lengths := congrArg List.length none
    rw [List.length_map] at lengths
    have size : (ofChain chain).nodes.length = chain.rest.length + 1 := length_ofChain chain
    rw [size] at lengths
    cases lengths
  rcases shape with rfl | ⟨chain, rfl⟩
  · rcases otherShape with rfl | ⟨otherChain, rfl⟩
    · rfl
    · exact absurd forms.symm (filled otherChain)
  · rcases otherShape with rfl | ⟨otherChain, rfl⟩
    · exact absurd forms (filled chain)
    · refine ofChain_eq_of_nodes (map_eq_of_map_eq (fun node member other otherMember equal => ?_) forms)
      have finiteNode := List.all_eq_true.1 finite _ (List.mem_map_of_mem member)
      have otherFiniteNode := List.all_eq_true.1 otherFinite _ (List.mem_map_of_mem otherMember)
      obtain ⟨sequences, combinators⟩ := Node.eq_of_toJson_eq finiteNode otherFiniteNode equal
      rw [sequences, combinators]

end Selector

/-! ## Zeros in JSON values -/

namespace Json

mutual

/-- The same value, every zero in it without its sign. -/
def unsignedZeros : Json → Json
  | float value => float value.unsignedZero
  | array items => array (unsignedZerosOfItems items)
  | object fields => object (unsignedZerosOfFields fields)
  | value => value

/-- The same values, every zero in them without its sign. -/
def unsignedZerosOfItems : List Json → List Json
  | [] => []
  | item :: rest => item.unsignedZeros :: unsignedZerosOfItems rest

/-- The same fields, every zero in them without its sign. -/
def unsignedZerosOfFields : List (String × Json) → List (String × Json)
  | [] => []
  | (name, value) :: rest => (name, value.unsignedZeros) :: unsignedZerosOfFields rest

end

/-- Equality of JSON values with the two zeros as one number, fields standing in any order. -/
def Agree (one other : Json) : Prop := one.unsignedZeros.sorted = other.unsignedZeros.sorted

/-- The zeros in an array lose their signs one by one. -/
theorem unsignedZerosOfItems_eq (items : List Json) :
    unsignedZerosOfItems items = items.map unsignedZeros := by
  induction items with
  | nil => rfl
  | cons item rest hypothesis => rw [unsignedZerosOfItems, hypothesis, List.map_cons]

/-- A text that may be absent holds no zero. -/
theorem unsignedZeros_ofText? (value : Option String) :
    (ofText? value).unsignedZeros = ofText? value := by
  cases value <;> rfl

/-- A text holds no zero. -/
theorem map_unsignedZeros_string (texts : List String) :
    (texts.map string).map unsignedZeros = texts.map string := by
  rw [List.map_map]
  rfl

end Json

/-- A zero without its sign is as finite as with it. -/
theorem Number.Binary64.isFinite_unsignedZero (value : Binary64) :
    value.unsignedZero.isFinite = value.isFinite := by
  cases value <;> rfl

namespace Value

mutual

/-- Zeros may lose their signs before a value is written or after. -/
theorem toJson_unsignedZeros : (value : Value) →
    value.unsignedZeros.toJson = value.toJson.unsignedZeros
  | null => rfl
  | bool _ => rfl
  | int _ => rfl
  | text _ => rfl
  | float number => by
    rw [unsignedZeros, toJson, toJson, Number.Binary64.isFinite_unsignedZero]
    cases number.isFinite <;> rfl
  | list items => congrArg Json.array (toJsonItems_unsignedZeros items)

/-- Zeros may lose their signs before values are written or after. -/
theorem toJsonItems_unsignedZeros : (items : List Value) →
    toJsonItems (unsignedZerosOfItems items) = Json.unsignedZerosOfItems (toJsonItems items)
  | [] => rfl
  | item :: rest =>
    congrArg₂ List.cons (toJson_unsignedZeros item) (toJsonItems_unsignedZeros rest)

end

mutual

/-- A value is as finite with the signs of its zeros as without. -/
theorem isFinite_unsignedZeros : (value : Value) → value.unsignedZeros.isFinite = value.isFinite
  | null => rfl
  | bool _ => rfl
  | int _ => rfl
  | text _ => rfl
  | float number => number.isFinite_unsignedZero
  | list items => areFinite_unsignedZeros items

/-- Values are as finite with the signs of their zeros as without. -/
theorem areFinite_unsignedZeros : (items : List Value) →
    areFinite (unsignedZerosOfItems items) = areFinite items
  | [] => rfl
  | item :: rest =>
    congrArg₂ and (isFinite_unsignedZeros item) (areFinite_unsignedZeros rest)

end

end Value

namespace Simple

/-- Zeros may lose their signs before a simple selector is written or after. -/
theorem toJson_unsignedZeros (item : Simple) :
    item.unsignedZeros.toJson = item.toJson.unsignedZeros := by
  cases item with
  | attributeTest test =>
    have condition := Value.toJson_unsignedZeros test.condition
    have operator := Json.unsignedZeros_ofText? (test.operator.map (String.ofList ·.symbol))
    simp [unsignedZeros, toJson, Attribute.toJson, Attribute.unsignedZeros, Json.ofKind,
      Json.unsignedZeros, Json.unsignedZerosOfFields, condition, operator, kind]
  | path value =>
    have segments := Json.map_unsignedZeros_string value.segments
    have roots : (value.root.map Root.toJson).toList.map Json.unsignedZeros =
        (value.root.map Root.toJson).toList := by
      cases value.root <;> rfl
    simp [unsignedZeros, toJson, Path.toJson, Json.ofKind, Json.unsignedZeros,
      Json.unsignedZerosOfFields, Json.unsignedZerosOfItems_eq, List.map_append, segments, roots]
  | pseudo change =>
    cases change with
    | named name value =>
      have texts := Json.unsignedZeros_ofText? value
      simp [unsignedZeros, toJson, Pseudo.toJson, Json.ofKind, Json.unsignedZeros,
        Json.unsignedZerosOfFields, texts]
    | sort attributeName order => rfl
  | universal | element value | id value | role value | className value => rfl

/-- A simple selector is as finite with the signs of its zeros as without. -/
theorem isFinite_unsignedZeros (item : Simple) : item.unsignedZeros.isFinite = item.isFinite := by
  cases item with
  | attributeTest test => exact test.condition.isFinite_unsignedZeros
  | _ => rfl

end Simple

namespace Sequence

/-- Zeros may lose their signs before a sequence is written or after. -/
theorem toJson_unsignedZeros (sequence : Sequence) :
    (sequence.mapItems Simple.unsignedZeros).toJson = sequence.toJson.unsignedZeros := by
  have each : Simple.toJson ∘ Simple.unsignedZeros = Json.unsignedZeros ∘ Simple.toJson :=
    funext Simple.toJson_unsignedZeros
  rw [toJson, toJson, mapItems, Json.unsignedZeros, Json.unsignedZerosOfItems_eq, List.map_map,
    List.map_map, each]

/-- A sequence is as finite with the signs of its zeros as without. -/
theorem isFinite_unsignedZeros (sequence : Sequence) :
    (sequence.mapItems Simple.unsignedZeros).isFinite = sequence.isFinite := by
  have each : Simple.isFinite ∘ Simple.unsignedZeros = Simple.isFinite :=
    funext Simple.isFinite_unsignedZeros
  rw [isFinite, mapItems, List.all_map, each]
  rfl

end Sequence

namespace Selector

/-- Zeros may lose their signs before a node is written or after. -/
theorem Node.toJson_unsignedZeros (node : Node) :
    (Node.mapItems Simple.unsignedZeros node).toJson = node.toJson.unsignedZeros := by
  obtain ⟨sequence, parent, child, combinator⟩ := node
  have written := sequence.toJson_unsignedZeros
  cases combinator <;>
    simp [Node.mapItems, NodeQuery.Node.toJson, written, Json.unsignedZeros,
      Json.unsignedZerosOfFields]

/-- Zeros may lose their signs before a selector is written or after. -/
theorem toJson_unsignedZeros (selector : Selector) :
    selector.unsignedZeros.toJson = selector.toJson.unsignedZeros := by
  have each : NodeQuery.Node.toJson ∘ Node.mapItems Simple.unsignedZeros =
      Json.unsignedZeros ∘ NodeQuery.Node.toJson := funext Node.toJson_unsignedZeros
  rw [toJson, toJson, unsignedZeros, mapItems, Json.unsignedZeros, Json.unsignedZerosOfItems_eq,
    List.map_map, List.map_map, each]

/-- A selector is as finite with the signs of its zeros as without. -/
theorem isFinite_unsignedZeros (selector : Selector) :
    selector.unsignedZeros.isFinite = selector.isFinite := by
  have each : Sequence.isFinite ∘ (·.sequence) ∘ Node.mapItems Simple.unsignedZeros =
      Sequence.isFinite ∘ (·.sequence) :=
    funext fun node => node.sequence.isFinite_unsignedZeros
  rw [isFinite, isFinite, sequences, sequences, unsignedZeros, mapItems, List.all_map,
    List.all_map, List.all_map]
  exact congrArg selector.nodes.all each

/-! ## Selectors that histories leave -/

/-- A selector that some history of readings and edits leaves in some slot. -/
def IsMade (selector : Selector) : Prop :=
  ∃ operations slot, (Selector.editor.run (fun _ => .empty) operations).2 slot = selector

/-- A selector that a history leaves is empty or that of a chain. -/
theorem IsMade.empty_or_ofChain {selector : Selector} (made : selector.IsMade) :
    selector = empty ∨ ∃ chain, selector = ofChain chain := by
  obtain ⟨operations, slot, rfl⟩ := made
  have same := Selector.editor_refines.run (fun _ => .empty) operations
  have slots := congrFun (congrArg Prod.snd same) slot
  rw [show (Selector.editor.run (fun _ => .empty) operations).2 slot = _ from slots]
  rcases SequenceList.eq_empty_or_ofChain
    ((SequenceList.editor.run (fun _ => .empty) operations).2 slot) with list | ⟨chain, list⟩
  · exact Or.inl (congrArg SequenceList.toSelector list)
  · exact Or.inr ⟨chain, (congrArg SequenceList.toSelector list).trans
      (SequenceList.toSelector_ofChain chain)⟩

/-- Selectors that histories leave and that are finite have the same JSON form, whatever the order
of its fields, if and only if they are the same, and forms that agree if and only if they agree. -/
theorem toJson_lossless {one other : Selector} (made : one.IsMade) (otherMade : other.IsMade)
    (finite : one.isFinite = true) (otherFinite : other.isFinite = true) :
    (one.toJson.sorted = other.toJson.sorted ↔ one = other) ∧
      (one.toJson.Agree other.toJson ↔ one.agrees other = true) := by
  have shape := made.empty_or_ofChain
  have otherShape := otherMade.empty_or_ofChain
  have unsigned : ∀ {selector : Selector},
      (selector = empty ∨ ∃ chain, selector = ofChain chain) →
        selector.unsignedZeros = empty ∨ ∃ chain, selector.unsignedZeros = ofChain chain := by
    rintro selector (rfl | ⟨chain, rfl⟩)
    · exact Or.inl rfl
    · exact Or.inr ⟨_, mapItems_ofChain Simple.unsignedZeros chain⟩
  constructor
  · constructor
    · exact eq_of_toJson_eq shape otherShape finite otherFinite
    · rintro rfl
      rfl
  · rw [agrees_iff_unsignedZeros_eq finite, Json.Agree, ← toJson_unsignedZeros,
      ← toJson_unsignedZeros]
    constructor
    · refine eq_of_toJson_eq (unsigned shape) (unsigned otherShape) ?_ ?_
      · rwa [isFinite_unsignedZeros]
      · rwa [isFinite_unsignedZeros]
    · intro same
      rw [same]

/-- A zero that is read and its negative that is added have forms that differ and agree. -/
theorem toJson_lossless_zeros :
    let read := ofChain ⟨⟨[.attributeTest ⟨"a", some .equals, .float (.zero false)⟩]⟩, []⟩
    let built := ofChain ⟨⟨[.attributeTest ⟨"a", some .equals, .float (.zero true)⟩]⟩, []⟩
    read.IsMade ∧ built.IsMade ∧ read.isFinite = true ∧ built.isFinite = true ∧ read ≠ built ∧
      read.toJson.sorted ≠ built.toJson.sorted ∧ read.toJson.Agree built.toJson := by
  intro read built
  have made : read.IsMade := ⟨[.parse 0 "[a=0.0]".toList], 0, by cbv⟩
  have otherMade : built.IsMade :=
    ⟨[.append 0 ⟨[.attributeTest ⟨"a", some .equals, .float (.zero true)⟩]⟩ none], 0, by cbv⟩
  have differ : read ≠ built := by decide
  have agree : read.agrees built = true := by decide
  obtain ⟨forms, agreeing⟩ := toJson_lossless made otherMade rfl rfl
  exact ⟨made, otherMade, rfl, rfl, differ, mt forms.1 differ, agreeing.2 agree⟩

end Selector

end NodeQuery
