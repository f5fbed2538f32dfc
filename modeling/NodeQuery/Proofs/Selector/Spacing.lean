import Mathlib
import NodeQuery.Proofs.Selector.Agreement

/-!
# Selectors with other blanks

A selector may be written with any blanks around it and around its explicit combinators, and with
any run of blanks for a combinator that means any depth below. Such a text is read as the
canonical one if each of its gaps divides it, that is, if each run of blanks between two sequences
holds a space. Two sequences with other blanks alone between them are read as one.

Main statement: `agrees_parse_respacing_iff`.
-/

namespace NodeQuery.Selector

open Text

/-! ## Texts with other blanks -/

/-- A way to write a selector: blanks at both ends, and a gap for each combinator. -/
structure Respacing (selector : Selector) where
  /-- What stands before the first sequence. -/
  leading : List Char
  /-- What stands between the sequences. -/
  gaps : List (List Char)
  /-- What stands behind the last sequence. -/
  trailing : List Char
  /-- Only blanks stand before the first sequence. -/
  blankLeading : ∀ value ∈ leading, isBlank value = true
  /-- Only blanks stand behind the last sequence. -/
  blankTrailing : ∀ value ∈ trailing, isBlank value = true
  /-- Each gap stands for the combinator between its sequences. -/
  standing : List.Forall₂ StandsFor (selector.nodes.filterMap (·.combinator)) gaps

/-- The text that is written. -/
def Respacing.text {selector : Selector} (respacing : Respacing selector) : List Char :=
  match selector.chain? with
  | none => respacing.leading ++ respacing.trailing
  | some chain =>
    respacing.leading ++
      (spacedChars chain.first.chars chain.rest respacing.gaps ++ respacing.trailing)

/-! ## Gaps that divide -/

/-- Blanks behind the text of a sequence do not matter. -/
theorem appendPiece_blanks (before : Selector) (combinator : Option Combinator)
    {sequence : Sequence} (shaped : sequence.Shaped) {run : List Char}
    (blank : ∀ value ∈ run, isBlank value = true) :
    appendPiece before (.joined combinator (sequence.chars ++ run)) =
      appendPiece before (.joined combinator sequence.chars) := by
  obtain ⟨head, rest, split, _⟩ := shaped.exists_head_chars
  have same : cellsOf (sequence.chars ++ run) = cellsOf sequence.chars :=
    cellsOf_blanks_around (List.forall_mem_nil _) blank (by simp [split]) shaped.settled_chars
      shaped.firm_chars
  rw [appendPiece, appendPiece, Sequence.parse, Sequence.parse, same]

/-- Where every gap divides, the pieces are those of the canonical text, up to blanks behind
them. -/
theorem foldlM_cut_of_divides {first : Sequence} {rest : List (Combinator × Sequence)}
    (shaped : ∀ sequence ∈ first :: rest.map Prod.snd, sequence.Shaped)
    {gaps : List (List Char)} (standing : List.Forall₂ StandsFor (rest.map Prod.fst) gaps)
    (divided : ∀ gap ∈ gaps, divides gap = true) (combinator : Option Combinator)
    (before : Selector) :
    (cut combinator first.chars rest gaps).foldlM appendPiece before =
      (.joined combinator first.chars :: rest.map pieceOf).foldlM appendPiece before := by
  induction rest generalizing first gaps combinator before with
  | nil => rfl
  | cons pair rest hypothesis =>
    obtain ⟨gap, others, stands, later, rfl⟩ := List.forall₂_cons_left_iff.1 standing
    obtain ⟨gapDivides, othersDivide⟩ := List.forall_mem_cons.1 divided
    obtain ⟨_, _, _, _, blanks⟩ := stands.exists_symbol gapDivides
    obtain ⟨firstShaped, laterShaped⟩ := List.forall_mem_cons.1 shaped
    have trimmed := appendPiece_blanks before combinator firstShaped
      fun value member => (blanks value member).1
    rw [cut, if_pos gapDivides, List.foldlM_cons, List.foldlM_cons, trimmed]
    exact bind_congr fun next => hypothesis laterShaped later othersDivide (some pair.1) next

/-- All gaps divide if and only if each run of blanks that stands for a combinator holds a
space. -/
theorem forall_divides_iff {combinators : List Combinator} {gaps : List (List Char)}
    (standing : List.Forall₂ StandsFor combinators gaps) :
    (∀ gap ∈ gaps, divides gap = true) ↔
      List.Forall₂ (fun combinator gap => combinator = .descendant → ' ' ∈ gap) combinators
        gaps := by
  induction standing with
  | nil => exact iff_of_true (List.forall_mem_nil _) .nil
  | cons stands _ hypothesis =>
    rw [List.forall_mem_cons, List.forall₂_cons, stands.divides_iff, hypothesis]

/-! ## Gaps that do not divide -/

/-- Adding a sequence makes a selector longer by one. -/
theorem length_of_append {selector next : Selector} {sequence : Sequence}
    {combinator : Option Combinator} (added : selector.append sequence combinator = .ok next) :
    next.length = selector.length + 1 := by
  obtain ⟨nodes⟩ := selector
  cases nodes with
  | nil =>
    cases combinator with
    | none =>
      cases added
      rfl
    | some combinator => cases added
  | cons node nodes =>
    cases combinator with
    | none => cases added
    | some combinator =>
      cases added
      simp [length, linkLast]

/-- A selector that is read from pieces has a sequence for each of them. -/
theorem length_of_foldlM_appendPiece {texts : List Piece} {before after : Selector}
    (read : texts.foldlM appendPiece before = .ok after) :
    after.length = before.length + texts.length := by
  induction texts generalizing before with
  | nil =>
    cases read
    rfl
  | cons piece rest hypothesis =>
    rw [List.foldlM_cons, bind_eq_ok_iff] at read
    obtain ⟨next, added, later⟩ := read
    cases piece with
    | dangling position => cases added
    | joined combinator text =>
      rw [appendPiece, bind_eq_ok_iff] at added
      obtain ⟨sequence, _, appended⟩ := added
      have longer := length_of_append (mapError_eq_ok_iff.1 appended)
      rw [hypothesis later, longer, List.length_cons]
      omega

/-- There is one piece more than there are gaps that divide. -/
theorem length_cut (combinator : Option Combinator) (front : List Char)
    {rest : List (Combinator × Sequence)} {gaps : List (List Char)}
    (length : rest.length = gaps.length) :
    (cut combinator front rest gaps).length = gaps.countP divides + 1 := by
  induction rest generalizing combinator front gaps with
  | nil =>
    obtain rfl : gaps = [] := List.length_eq_zero_iff.1 length.symm
    rfl
  | cons pair rest hypothesis =>
    cases gaps with
    | nil => cases length
    | cons gap gaps =>
      have shorter : rest.length = gaps.length := Nat.succ.inj length
      rw [cut]
      cases divided : divides gap with
      | true =>
        rw [if_pos rfl, List.length_cons, hypothesis _ _ shorter, List.countP_cons_of_pos divided]
      | false =>
        rw [if_neg Bool.false_ne_true, hypothesis _ _ shorter,
          List.countP_cons_of_neg (by simp [divided])]

/-! ## Reading texts with other blanks -/

/-- A selector that is read back from its canonical text is read from a text with other blanks if
and only if each run of blanks that stands for a combinator holds a space. -/
theorem agrees_parse_respacing_iff {selector again : Selector} (reachable : Reachable selector)
    (read : parse selector.chars = .ok again) (same : again.agrees selector = true)
    (respacing : Respacing selector) :
    (∃ other, parse respacing.text = .ok other ∧ other.agrees selector = true) ↔
      List.Forall₂ (fun combinator gap => combinator = .descendant → ' ' ∈ gap)
        (selector.nodes.filterMap (·.combinator)) respacing.gaps := by
  rw [← forall_divides_iff respacing.standing]
  rcases reachable.empty_or_ofChain with rfl | ⟨chain, rfl⟩
  · cases read
  · have shaped := shaped_of_agrees read same
    have standing : List.Forall₂ StandsFor (chain.rest.map Prod.fst) respacing.gaps := by
      have combinators := Chain.nodesFrom_combinators 0 chain.first chain.rest
      rw [← combinators]
      exact respacing.standing
    have count : chain.rest.length = respacing.gaps.length := by
      rw [← standing.length_eq, List.length_map]
    have pieces : parse respacing.text =
        (cut none chain.first.chars chain.rest respacing.gaps).foldlM appendPiece empty := by
      rw [Respacing.text, chain?_ofChain]
      exact parse_spacedChars shaped standing respacing.blankLeading respacing.blankTrailing
    constructor
    · rintro ⟨other, parsed, agree⟩
      rw [pieces] at parsed
      have length := length_of_foldlM_appendPiece parsed
      have sameLength := beq_iff_eq.1 (Bool.and_eq_true _ _ ▸ agree).1
      rw [sameLength, length_ofChain, length_cut none chain.first.chars count, count] at length
      refine List.countP_eq_length.1 ?_
      change respacing.gaps.length + 1 = 0 + (respacing.gaps.countP divides + 1) at length
      omega
    · intro divided
      have canonical : parse respacing.text = parse (ofChain chain).chars := by
        rw [pieces, foldlM_cut_of_divides shaped standing divided, parse_chars_ofChain_eq shaped]
      exact ⟨again, canonical.trans read, same⟩

/-- A page is read with other blanks: each run of them between two sequences holds a space, or an
explicit combinator stands there. -/
theorem agrees_parse_respacing_spacedPage :
    let page : Selector := ofChain ⟨⟨[.element "page"]⟩,
      [(.child, ⟨[.attributeTest ⟨"kind", some .equals, .text "x"⟩]⟩),
        (.descendant, ⟨[.className "news"]⟩)]⟩
    ∃ respacing : Respacing page,
      respacing.text = "\n page\t>\r\n[kind=\"x\"]\t \x0c.news\t".toList ∧
        ∃ other, parse respacing.text = .ok other ∧ other.agrees page = true := by
  intro page
  have reachable : Reachable page := reachable_ofChain _
  have read : parse page.chars = .ok page := by cbv
  let respacing : Respacing page :=
    { leading := ['\n', ' ']
      gaps := [['\t'] ++ Combinator.child.symbol :: ['\r', '\n'], ['\t', ' ', '\x0c']]
      trailing := ['\t']
      blankLeading := forall_mem_of_all (by decide)
      blankTrailing := forall_mem_of_all (by decide)
      standing := .cons (.explicit (by decide) (forall_mem_of_all (by decide))
        (forall_mem_of_all (by decide)))
        (.cons (.blanks (List.cons_ne_nil _ _) (forall_mem_of_all (by decide))) .nil) }
  refine ⟨respacing, by decide, ?_⟩
  have explicit : Combinator.child ≠ .descendant := by decide
  exact (agrees_parse_respacing_iff reachable read (by decide) respacing).2
    (.cons (fun same => absurd same explicit) (.cons (fun _ => by decide) .nil))

/-- Two elements with nothing but a tab between them are read as one. -/
theorem not_agrees_parse_respacing_tab :
    let nested : Selector := ofChain ⟨⟨[.element "a"]⟩, [(.descendant, ⟨[.element "b"]⟩)]⟩
    parse nested.chars = .ok nested ∧ nested.agrees nested = true ∧
      ∃ respacing : Respacing nested, respacing.text = "a\tb".toList ∧
        ¬ ∃ other, parse respacing.text = .ok other ∧ other.agrees nested = true := by
  intro nested
  let respacing : Respacing nested :=
    { leading := []
      gaps := [['\t']]
      trailing := []
      blankLeading := List.forall_mem_nil _
      blankTrailing := List.forall_mem_nil _
      standing := .cons (.blanks (List.cons_ne_nil _ _) (forall_mem_of_all (by decide))) .nil }
  have written : respacing.text = "a\tb".toList := by decide
  refine ⟨by cbv, by decide, respacing, written, ?_⟩
  rintro ⟨other, parsed, agree⟩
  have joined : parse "a\tb".toList = .ok (ofChain ⟨⟨[.element "a\tb"]⟩, []⟩) := by cbv
  rw [written, joined] at parsed
  obtain rfl := Except.ok.inj parsed
  revert agree
  decide

end NodeQuery.Selector
