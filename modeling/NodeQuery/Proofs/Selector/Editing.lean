import Mathlib.Logic.Function.Basic
import NodeQuery.Proofs.Selector.SequenceList

/-!
# Histories of edits

Selectors are read, extended, shortened at both ends, edited in place, cloned and swapped. A
history of such operations over numbered slots gives an answer for each operation. With plain
lists in the slots it gives the same answers, and each slot keeps the selector that its list
stands for, so that no history leaves a trace in the links.

Main statement: `Selector.run_represents`.
-/

namespace NodeQuery

/-- The operations that selectors are made and edited with. -/
structure Editor (Item : Type) where
  /-- The item without sequences. -/
  empty : Item
  /-- Reads an item. -/
  parse : List Char → Except ParseError Item
  /-- The number of sequences. -/
  length : Item → Nat
  /-- The sequence at an index. -/
  sequence? : Item → Nat → Option Sequence
  /-- Adds a sequence at the end. -/
  append : Item → Sequence → Option Combinator → Except StructureError Item
  /-- Removes the last sequence. -/
  pop : Item → Option Sequence × Item
  /-- Removes the first sequence. -/
  shift : Item → Option Sequence × Item
  /-- Edits the sequence at an index. -/
  modify : Item → Nat → (Sequence → Sequence) → Item

/-- The operations on selectors. -/
def Selector.editor : Editor Selector :=
  { empty, parse, length, sequence?, append, pop, shift, modify }

/-- The operations on plain lists. -/
def SequenceList.editor : Editor SequenceList :=
  { empty, parse, append, pop, shift, modify
    length := fun list => list.sequences.length
    sequence? := fun list index => list.sequences[index]? }

/-- An operation on the items in numbered slots. -/
inductive Operation where
  /-- Puts the empty item into a slot. -/
  | new (slot : Nat)
  /-- Puts what is read from a pattern into a slot. -/
  | parse (slot : Nat) (pattern : List Char)
  /-- Adds a sequence at the end of the item in a slot. -/
  | append (slot : Nat) (sequence : Sequence) (combinator : Option Combinator)
  /-- Removes the last sequence of the item in a slot. -/
  | pop (slot : Nat)
  /-- Removes the first sequence of the item in a slot. -/
  | shift (slot : Nat)
  /-- Edits one sequence of the item in a slot. -/
  | edit (slot index : Nat) (edit : Sequence → Sequence)
  /-- Copies the item in one slot to another. -/
  | clone (source target : Nat)
  /-- Exchanges the items in two slots. -/
  | swap (one other : Nat)

/-- What an operation gives back. -/
inductive Answer where
  /-- The operation is done. -/
  | done
  /-- A sequence was added at this index. -/
  | appended (index : Nat)
  /-- This sequence was removed, if there was one. -/
  | removed (sequence : Option Sequence)
  /-- This sequence was edited, if there was one. -/
  | edited (sequence : Option Sequence)
  /-- A sequence was refused. -/
  | refused (failure : StructureError)
  /-- A pattern could not be read. -/
  | unread (failure : ParseError)

/-- Whether an operation failed. -/
def Answer.isFailure : Answer → Bool
  | refused _ | unread _ => true
  | _ => false

namespace Editor

variable {Item Other : Type}

/-- Performs one operation. One that fails changes no slot: an append refuses before it writes, and
what cannot be read is stored nowhere. -/
def step (editor : Editor Item) (slots : Nat → Item) : Operation → Answer × (Nat → Item)
  | .new slot => (.done, Function.update slots slot editor.empty)
  | .parse slot pattern =>
    match editor.parse pattern with
    | .ok item => (.done, Function.update slots slot item)
    | .error failure => (.unread failure, slots)
  | .append slot sequence combinator =>
    match editor.append (slots slot) sequence combinator with
    | .ok item => (.appended (editor.length (slots slot)), Function.update slots slot item)
    | .error failure => (.refused failure, slots)
  | .pop slot =>
    let (sequence, item) := editor.pop (slots slot)
    (.removed sequence, Function.update slots slot item)
  | .shift slot =>
    let (sequence, item) := editor.shift (slots slot)
    (.removed sequence, Function.update slots slot item)
  | .edit slot index edit =>
    (.edited (editor.sequence? (slots slot) index),
      Function.update slots slot (editor.modify (slots slot) index edit))
  | .clone source target => (.done, Function.update slots target (slots source))
  | .swap one other =>
    (.done, Function.update (Function.update slots one (slots other)) other (slots one))

/-- Performs operations one after the other. -/
def run (editor : Editor Item) (slots : Nat → Item) : List Operation → List Answer × (Nat → Item)
  | [] => ([], slots)
  | operation :: rest =>
    let (answer, next) := editor.step slots operation
    let (answers, last) := editor.run next rest
    (answer :: answers, last)

/-- An operation that fails changes no slot. -/
theorem step_of_isFailure (editor : Editor Item) (slots : Nat → Item) (operation : Operation)
    (failed : (editor.step slots operation).1.isFailure = true) :
    (editor.step slots operation).2 = slots := by
  cases operation with
  | parse slot pattern =>
    rw [step] at failed ⊢
    cases read : editor.parse pattern with
    | ok item =>
      rw [read] at failed
      cases failed
    | error failure => rfl
  | append slot sequence combinator =>
    rw [step] at failed ⊢
    cases added : editor.append (slots slot) sequence combinator with
    | ok item =>
      rw [added] at failed
      cases failed
    | error failure => rfl
  | _ => cases failed

/-- An editor refines another one if each of its operations on the image of an item is the
operation of the other one on the item. -/
structure Refines (editor : Editor Item) (plain : Editor Other) (image : Other → Item) : Prop where
  /-- The empty item is the image of the empty item. -/
  empty : editor.empty = image plain.empty
  /-- What is read is the image of what is read. -/
  parse : ∀ pattern, editor.parse pattern = (plain.parse pattern).map image
  /-- The number of sequences is the same. -/
  length : ∀ item, editor.length (image item) = plain.length item
  /-- The sequences are the same. -/
  sequence? : ∀ item index, editor.sequence? (image item) index = plain.sequence? item index
  /-- A sequence is added alike or refused alike. -/
  append : ∀ item sequence combinator,
    editor.append (image item) sequence combinator =
      (plain.append item sequence combinator).map image
  /-- The last sequence is removed alike. -/
  pop : ∀ item, editor.pop (image item) = ((plain.pop item).1, image (plain.pop item).2)
  /-- The first sequence is removed alike. -/
  shift : ∀ item, editor.shift (image item) = ((plain.shift item).1, image (plain.shift item).2)
  /-- A sequence is edited alike. -/
  modify : ∀ item index edit,
    editor.modify (image item) index edit = image (plain.modify item index edit)

variable {editor : Editor Item} {plain : Editor Other} {image : Other → Item}

/-- An operation on images gives the answer of the operation on the items, and their images. -/
theorem Refines.step (refines : editor.Refines plain image) (slots : Nat → Other)
    (operation : Operation) :
    editor.step (image ∘ slots) operation =
      ((plain.step slots operation).1, image ∘ (plain.step slots operation).2) := by
  cases operation with
  | new slot => simp only [Editor.step, refines.empty, Function.comp_update]
  | parse slot pattern =>
    simp only [Editor.step, refines.parse]
    cases plain.parse pattern with
    | ok item => exact congrArg _ (Function.comp_update ..).symm
    | error failure => rfl
  | append slot sequence combinator =>
    simp only [Editor.step, Function.comp_apply, refines.append, refines.length]
    cases plain.append (slots slot) sequence combinator with
    | ok item => exact congrArg _ (Function.comp_update ..).symm
    | error failure => rfl
  | pop slot => simp only [Editor.step, Function.comp_apply, refines.pop, Function.comp_update]
  | shift slot => simp only [Editor.step, Function.comp_apply, refines.shift, Function.comp_update]
  | edit slot index edit =>
    simp only [Editor.step, Function.comp_apply, refines.sequence?, refines.modify,
      Function.comp_update]
  | clone source target => simp only [Editor.step, Function.comp_apply, Function.comp_update]
  | swap one other => simp only [Editor.step, Function.comp_apply, Function.comp_update]

/-- A history over images gives the answers of the history over the items, and their images. -/
theorem Refines.run (refines : editor.Refines plain image) (slots : Nat → Other)
    (operations : List Operation) :
    editor.run (image ∘ slots) operations =
      ((plain.run slots operations).1, image ∘ (plain.run slots operations).2) := by
  induction operations generalizing slots with
  | nil => rfl
  | cons operation rest hypothesis =>
    simp only [Editor.run, refines.step, hypothesis]

end Editor

/-- The operations on selectors refine those on plain lists. -/
theorem Selector.editor_refines :
    Selector.editor.Refines SequenceList.editor SequenceList.toSelector where
  empty := rfl
  parse := SequenceList.parse_toSelector
  length list := list.represents_toSelector.length
  sequence? list := list.represents_toSelector.sequence?
  append := SequenceList.append_toSelector
  pop := SequenceList.pop_toSelector
  shift := SequenceList.shift_toSelector
  modify := SequenceList.modify_toSelector

/-- Every history of operations on selectors gives the answers of the same history of operations
on plain lists, and leaves selectors that are these lists in every respect: two of them agree if
and only if the lists do, whatever their histories are. An operation that fails afterwards
changes nothing. -/
theorem Selector.run_represents (operations : List Operation) :
    let linked := Selector.editor.run (fun _ => .empty) operations
    let listed := SequenceList.editor.run (fun _ => .empty) operations
    linked.1 = listed.1 ∧ (∀ slot, (linked.2 slot).Represents (listed.2 slot)) ∧
      (∀ one other, (linked.2 one).agrees (linked.2 other) =
        (listed.2 one).agrees (listed.2 other)) ∧
      ∀ operation, (Selector.editor.step linked.2 operation).1.isFailure = true →
        (Selector.editor.step linked.2 operation).2 = linked.2 := by
  intro linked listed
  have same : linked = (listed.1, SequenceList.toSelector ∘ listed.2) :=
    Selector.editor_refines.run (fun _ => .empty) operations
  rw [same]
  refine ⟨rfl, fun slot => SequenceList.represents_toSelector _, fun one other => ?_, ?_⟩
  · exact SequenceList.agrees_toSelector _ _
  · exact Selector.editor.step_of_isFailure _

end NodeQuery
