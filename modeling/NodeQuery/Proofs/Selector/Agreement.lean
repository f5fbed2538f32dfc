import Mathlib.Data.List.Forall2
import NodeQuery.Proofs.Selector.Reader
import NodeQuery.Proofs.Selector.SequenceList

/-!
# Agreement keeps shapes

Whether a reading can yield a selector does not depend on what two agreeing selectors may differ
in, the signs of zeros. So whatever agrees with a selector that is read consists of sequences that
the canonical texts are made for.

Main statement: `Selector.shaped_of_agrees`.
-/

namespace NodeQuery

/-- Conditions that agree are single ones alike. -/
theorem Value.isScalar_eq_of_agrees {value other : Value} (agree : value.agrees other = true) :
    other.isScalar = value.isScalar := by
  cases value with
  | float number =>
    cases other with
    | float otherNumber =>
      change number.agrees otherNumber = true at agree
      change otherNumber.isFinite = number.isFinite
      cases number <;> cases otherNumber <;> first | rfl | cases agree
    | _ => cases agree
  | _ => cases other <;> first | rfl | cases agree

/-- Lists of conditions that agree hold single ones alike. -/
theorem Value.all_isScalar_eq_of_agrees {items others : List Value}
    (agree : (list items).agrees (list others) = true) :
    others.all isScalar = items.all isScalar := by
  rw [agrees, equalBy] at agree
  induction items generalizing others with
  | nil =>
    cases others with
    | nil => rfl
    | cons other rest => cases agree
  | cons item rest hypothesis =>
    cases others with
    | nil => cases agree
    | cons other otherRest =>
      rw [equalItemsBy, Bool.and_eq_true] at agree
      rw [List.all_cons, List.all_cons, hypothesis agree.2, isScalar_eq_of_agrees agree.1]

/-- Conditions that agree fit an operator alike. -/
theorem Operator.accepts_eq_of_agrees (operator : Operator) {value other : Value}
    (agree : value.agrees other = true) : operator.accepts other = operator.accepts value := by
  have scalar := Value.isScalar_eq_of_agrees agree
  cases operator with
  | inList =>
    cases value with
    | list items =>
      cases other with
      | list others => exact Value.all_isScalar_eq_of_agrees agree
      | _ => cases agree
    | _ => cases other <;> first | rfl | cases agree
  | _ => exact scalar

/-- Attributes that agree are alike in whether a reading can yield them. -/
theorem Attribute.isShaped_eq_of_agrees {test other : Attribute}
    (agree : test.agrees other = true) : other.isShaped = test.isShaped := by
  simp only [agrees, Bool.and_eq_true, beq_iff_eq] at agree
  obtain ⟨⟨_, operator⟩, condition⟩ := agree
  rw [isShaped, isShaped, operator]
  cases other.operator with
  | some operator => exact operator.accepts_eq_of_agrees condition
  | none =>
    cases written : test.condition <;> cases otherWritten : other.condition <;>
      rw [written, otherWritten] at condition <;> first | rfl | cases condition

/-- Simple selectors that agree are of one kind, and alike in whether a reading can yield them. -/
theorem Simple.kind_isShaped_of_agrees {item other : Simple} (agree : item.agrees other = true) :
    other.kind = item.kind ∧ other.isShaped = item.isShaped := by
  cases item with
  | attributeTest test =>
    cases other with
    | attributeTest otherTest => exact ⟨rfl, Attribute.isShaped_eq_of_agrees agree⟩
    | _ => cases agree
  | universal =>
    cases other with
    | universal => exact ⟨rfl, rfl⟩
    | _ => cases agree
  | _ =>
    cases other <;> first
      | cases agree
      | obtain rfl := beq_iff_eq.1 agree
        exact ⟨rfl, rfl⟩

/-! ## Sequences -/

/-- Lists of one length whose members agree in pairs agree member by member. -/
theorem forall₂_of_zip {Item : Type} {test : Item → Item → Bool} {items others : List Item}
    (agree : (items.length == others.length &&
      (items.zip others).all fun (one, other) => test one other) = true) :
    List.Forall₂ (fun one other => test one other = true) items others := by
  obtain ⟨length, pairs⟩ := Bool.and_eq_true _ _ ▸ agree
  exact List.forall₂_iff_zip.2 ⟨beq_iff_eq.1 length, fun member => List.all_eq_true.1 pairs _ member⟩

/-- If something holds of the members of a list, then whatever each of them passes on to its partner
holds of the members of a related list. -/
theorem forall_mem_of_forall₂ {Item Other : Type} {related : Item → Other → Prop}
    {holds : Item → Prop} {passed : Other → Prop}
    (carried : ∀ one other, related one other → holds one → passed other)
    {items : List Item} {others : List Other} (all : ∀ item ∈ items, holds item)
    (pairs : List.Forall₂ related items others) : ∀ other ∈ others, passed other := by
  induction pairs with
  | nil => exact List.forall_mem_nil _
  | cons first _ hypothesis =>
    obtain ⟨holdsFirst, holdsRest⟩ := List.forall_mem_cons.1 all
    exact List.forall_mem_cons.2 ⟨carried _ _ first holdsFirst, hypothesis holdsRest⟩

namespace Sequence

/-- Items that agree are in order alike. -/
theorem isOrdered_eq_of_agrees {items others : List Simple}
    (agree : List.Forall₂ (fun one other => one.agrees other = true) items others) :
    isOrdered others = isOrdered items := by
  apply isOrdered_eq_of_kinds
  induction agree with
  | nil => rfl
  | cons first _ hypothesis =>
    rw [List.map_cons, List.map_cons, (Simple.kind_isShaped_of_agrees first).1, hypothesis]

/-- What agrees with a sequence that a reading can yield is one itself. -/
theorem Shaped.of_agrees {sequence other : Sequence} (agree : sequence.agrees other = true)
    (shaped : sequence.Shaped) : other.Shaped := by
  have pairs := forall₂_of_zip agree
  have ordered : isOrdered other.items = true := by
    rw [isOrdered_eq_of_agrees pairs]
    exact shaped.ordered
  constructor
  case nonempty =>
    intro none
    rw [none] at pairs
    exact shaped.nonempty (List.forall₂_nil_right_iff.1 pairs)
  case built => exact (ofItems_eq_ok_iff other.items other).2 ⟨rfl, ordered⟩
  case items =>
    refine forall_mem_of_forall₂ (fun one other agreeing holds => ?_) shaped.items pairs
    rw [(Simple.kind_isShaped_of_agrees agreeing).2]
    exact holds

end Sequence

/-! ## Selectors -/

/-- What agrees with a selector that is read has sequences that the canonical texts are made
for. -/
theorem Selector.shaped_of_agrees {pattern : List Char} {read : Selector}
    (parsed : parse pattern = .ok read) {chain : Chain}
    (agree : read.agrees (ofChain chain) = true) :
    ∀ sequence ∈ chain.sequences, sequence.Shaped := by
  obtain ⟨other, rfl, shaped⟩ := shaped_of_parse parsed
  have lists := (SequenceList.agrees_nodesFrom_iff 0 other.first chain.first other.rest
    chain.rest).1 agree
  rw [SequenceList.agrees, Bool.and_eq_true] at lists
  have pairs : List.Forall₂ (fun one other => Sequence.agrees one other = true) other.sequences
      chain.sequences := forall₂_of_zip lists.1
  refine forall_mem_of_forall₂ ?_ shaped pairs
  exact fun _ _ agreeing holds => holds.of_agrees agreeing

end NodeQuery
