import Mathlib
import NodeQuery.Proofs.Selector.Reader

/-!
# Canonical texts are read back

Every chain of sequences of the shapes that a reading can yield is read back from its canonical
text if all its simple selectors are restorable. Of the selectors that are read, those with a
simple selector that is not restorable are not read back: an empty plain value or root is
refused, an empty first segment without a root is left out, and blanks at the ends of an
attribute name or a pseudo selector's value are trimmed.

Main statements: `parse_chars_of_isRestorable` and `agrees_parse_chars_iff_isRestorable`.
-/

namespace NodeQuery.Selector

/-- Whether every simple selector is restorable. -/
def isRestorable (selector : Selector) : Bool :=
  selector.sequences.all Sequence.isRestorable

/-- The chain of sequences that the canonical texts are made for is read back if all its simple
selectors are restorable. -/
theorem parse_chars_ofChain {chain : Chain}
    (shaped : ∀ sequence ∈ chain.sequences, sequence.Shaped)
    (restorable : chain.sequences.all Sequence.isRestorable = true) :
    parse (ofChain chain).chars = .ok (ofChain chain) := by
  have each : ∀ sequence ∈ chain.sequences, Sequence.parse sequence.chars = .ok sequence :=
    fun sequence member =>
      (shaped sequence member).parse_chars (List.all_eq_true.1 restorable sequence member)
  refine (parse_chars_eq_ok_iff shaped _).2 ⟨chain.first, chain.rest.map Prod.snd, ?_, ?_, ?_⟩
  · exact each chain.first (List.mem_cons_self ..)
  · rw [List.map_map]
    refine List.map_congr_left fun pair member => ?_
    exact each pair.2 (List.mem_cons_of_mem _ (List.mem_map_of_mem member))
  · rw [Chain.zip_rest]

/-- Nodes that agree hold sequences that agree. -/
theorem Node.sequence_agrees {one other : Node} (agree : Node.agrees one other = true) :
    one.sequence.agrees other.sequence = true := by
  simp only [Node.agrees, Bool.and_eq_true] at agree
  exact agree.1.1.1

/-- Nodes that agree with those of a chain restore its sequences. -/
theorem restorable_of_agreeing_nodes {index : Nat} {first again : Sequence}
    {rest : List (Combinator × Sequence)} {others : List Sequence}
    (shaped : ∀ sequence ∈ first :: rest.map Prod.snd, sequence.Shaped)
    (read : Sequence.parse first.chars = .ok again)
    (readLater : rest.map (Sequence.parse ·.2.chars) = others.map .ok)
    (agree : ((Chain.nodesFrom index again ((rest.map Prod.fst).zip others)).zip
      (Chain.nodesFrom index first rest)).all (fun (one, other) => Node.agrees one other) = true) :
    (first :: rest.map Prod.snd).all Sequence.isRestorable = true := by
  induction rest generalizing index first again others with
  | nil =>
    obtain rfl : others = [] := List.map_eq_nil_iff.1 readLater.symm
    simp only [List.map_nil, List.zip_nil_left, Chain.nodesFrom, List.zip_cons_cons,
      List.all_cons, List.all_nil, Bool.and_true] at agree
    have restored := (shaped first (List.mem_cons_self ..)).restorable_of_parse_chars read
      (Node.sequence_agrees agree)
    rw [List.map_nil, List.all_cons, restored]
    rfl
  | cons pair rest hypothesis =>
    cases others with
    | nil => cases readLater
    | cons next others =>
      obtain ⟨readNext, readRest⟩ := List.cons.inj readLater
      simp only [List.map_cons, List.zip_cons_cons, Chain.nodesFrom, List.all_cons,
        Bool.and_eq_true] at agree
      obtain ⟨firstShaped, laterShaped⟩ := List.forall_mem_cons.1 shaped
      have restored := firstShaped.restorable_of_parse_chars read (Node.sequence_agrees agree.1)
      rw [List.all_cons, restored, List.map_cons, hypothesis laterShaped readNext readRest agree.2]
      rfl

/-- Nodes of a chain agree with themselves. -/
theorem agrees_self_nodesFrom {index : Nat} {first : Sequence}
    {rest : List (Combinator × Sequence)}
    (shaped : ∀ sequence ∈ first :: rest.map Prod.snd, sequence.Shaped) :
    ((Chain.nodesFrom index first rest).zip (Chain.nodesFrom index first rest)).all
      (fun (one, other) => Node.agrees one other) = true := by
  have firstAgrees := (shaped first (List.mem_cons_self ..)).agrees_self
  induction rest generalizing index first with
  | nil => simp [Chain.nodesFrom, Node.agrees, firstAgrees]
  | cons pair rest hypothesis =>
    have laterShaped := (List.forall_mem_cons.1 shaped).2
    have nextAgrees := (laterShaped pair.2 (List.mem_cons_self ..)).agrees_self
    have later := @hypothesis (index + 1) pair.2 laterShaped nextAgrees
    simp only [Chain.nodesFrom, List.zip_cons_cons, List.all_cons, later, Bool.and_true]
    simp [Node.agrees, firstAgrees]

/-- A selector that can be reached is read back from its canonical text if it has a sequence and
each of its sequences is made of restorable simple selectors of the shapes that a reading can
yield. -/
theorem parse_chars_of_isRestorable {selector : Selector} (reachable : Reachable selector)
    (nonempty : selector.isEmpty = false)
    (shaped : ∀ sequence ∈ selector.sequences, sequence.Shaped)
    (restorable : selector.isRestorable = true) :
    parse selector.chars = .ok selector := by
  rcases reachable.empty_or_ofChain with rfl | ⟨chain, rfl⟩
  · cases nonempty
  · rw [sequences_ofChain] at shaped
    rw [isRestorable, sequences_ofChain] at restorable
    exact parse_chars_ofChain shaped restorable

/-- A page with a title of its own is read back from its canonical text. -/
theorem parse_chars_titledPage :
    let page : Selector := ofChain ⟨⟨[.element "page", .id "a b"]⟩,
      [(.child, ⟨[.attributeTest ⟨"title", some .equals, .text "[x] > y"⟩]⟩)]⟩
    Reachable page ∧ page.isEmpty = false ∧ (∀ sequence ∈ page.sequences, sequence.Shaped) ∧
      page.isRestorable = true ∧ parse page.chars = .ok page := by
  intro page
  have reachable : Reachable page := reachable_ofChain _
  have shaped : ∀ sequence ∈ page.sequences, sequence.Shaped := by
    intro sequence member
    rcases List.mem_cons.1 member with rfl | later
    · exact ⟨by decide, rfl, by decide⟩
    · obtain rfl := List.mem_singleton.1 later
      exact ⟨by decide, rfl, by decide⟩
  exact ⟨reachable, rfl, shaped, by decide,
    parse_chars_of_isRestorable reachable rfl shaped (by decide)⟩

/-- A selector that is read from any text is read from its canonical text again, up to numerical
equality of floating point numbers, exactly if all its simple selectors are restorable. -/
theorem agrees_parse_chars_iff_isRestorable {pattern : List Char} {selector : Selector}
    (read : parse pattern = .ok selector) :
    (∃ again, parse selector.chars = .ok again ∧ again.agrees selector = true) ↔
      selector.isRestorable = true := by
  obtain ⟨chain, rfl, shaped⟩ := shaped_of_parse read
  rw [isRestorable, sequences_ofChain]
  constructor
  · rintro ⟨again, readAgain, agree⟩
    obtain ⟨first, others, readFirst, readOthers, rfl⟩ :=
      (parse_chars_eq_ok_iff shaped again).1 readAgain
    exact restorable_of_agreeing_nodes shaped readFirst readOthers
      (Bool.and_eq_true _ _ ▸ agree).2
  · intro restorable
    refine ⟨ofChain chain, parse_chars_ofChain shaped restorable, ?_⟩
    rw [agrees, beq_self_eq_true, Bool.true_and]
    exact agrees_self_nodesFrom shaped

/-- A child compared with a word is read back although it was written without quotes. -/
theorem agrees_parse_chars_comparedChild :
    ∃ selector again, parse "page > [kind = x]".toList = .ok selector ∧
      parse selector.chars = .ok again ∧ again.agrees selector = true := by
  have read : parse "page > [kind = x]".toList = .ok (ofChain ⟨⟨[.element "page"]⟩,
      [(.child, ⟨[.attributeTest ⟨"kind", some .equals, .text "x"⟩]⟩)]⟩) := by cbv
  obtain ⟨again, readAgain, agree⟩ := (agrees_parse_chars_iff_isRestorable read).2 (by decide)
  exact ⟨_, again, read, readAgain, agree⟩

/-- The path of one empty segment is written as the empty path, and read back as that. -/
theorem not_agrees_parse_chars_emptySegment :
    ∃ selector, parse "//".toList = .ok selector ∧
      ¬ ∃ again, parse selector.chars = .ok again ∧ again.agrees selector = true := by
  refine ⟨ofChain ⟨⟨[.path ⟨none, [""]⟩]⟩, []⟩, by cbv, ?_⟩
  rintro ⟨again, read, agree⟩
  have lost : parse (ofChain ⟨⟨[.path ⟨none, [""]⟩]⟩, []⟩).chars =
      .ok (ofChain ⟨⟨[.path ⟨none, []⟩]⟩, []⟩) := by cbv
  rw [lost] at read
  obtain rfl := Except.ok.inj read
  revert agree
  decide

end NodeQuery.Selector
