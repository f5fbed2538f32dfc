import NodeQuery.Proofs.Selector.WellFormed

/-!
# Grammars and their own texts

Paths, attribute and pseudo selectors have grammars of their own, and each can be given the text
that was printed for a result of it. What comes back differs from the result in little: a path
without a root loses an empty first segment, and a name or value loses the blanks at its ends. Each
grammar restores exactly the results that have nothing of the kind.

Main statements: `Path.parse_tail_chars_iff_head`, `Attribute.parse_chars_eq_trimmed` and
`Pseudo.parse_tail_chars_eq_trimmed`.
-/

namespace NodeQuery

open Text

/-! ## Paths -/

namespace Path

/-- Segments alone are built to a path without a root. -/
theorem ofSteps_segments (segments : List String) :
    ofSteps (segments.map Step.segment) = .ok (ofSegments segments) := by
  have built := segmentsOfSteps_map (fun segment : String => segment) segments
  rw [List.map_id'] at built
  cases segments with
  | nil => rfl
  | cons first rest =>
    rw [List.map_cons, ofSteps]
    · rw [← List.map_cons, built]
      rfl
    · intro simple others same
      cases same

/-- A path whose root, if any, has a value is restorable exactly if it does not start with an empty
segment. -/
theorem isRestorable_iff_head {path : Path} (valued : ∀ root ∈ path.root, root.value ≠ "") :
    path.isRestorable = true ↔ path.steps.head? ≠ some (.segment "") := by
  obtain ⟨root, segments⟩ := path
  cases root with
  | some root =>
    have written : root.value ≠ "" := valued root rfl
    simp [isRestorable, steps, written]
  | none => cases segments <;> simp [isRestorable, steps]

/-- The text of a path that items make up, without its first separator, is read as the path exactly
if its first item is not an empty segment. A root, if any, must have a value. In particular a path
of segments is read back exactly if the first of them is not empty; where it is, the others are
read. -/
theorem parse_tail_chars_iff_head {items : List Step} {path : Path}
    (built : ofSteps items = .ok path) (valued : ∀ root ∈ path.root, root.value ≠ "") :
    (parse path.chars.tail = .ok path ↔ items.head? ≠ some (.segment "")) ∧
    (∀ segments, parse (ofSegments segments).chars.tail = .ok (ofSegments segments) ↔
      segments.head? ≠ some "") ∧
    (∀ rest, parse (ofSegments ("" :: rest)).chars.tail = ofPieces (rest.map segmentChars)) := by
  have reads : ∀ {path : Path}, (∀ root ∈ path.root, root.value ≠ "") →
      (parse path.chars.tail = .ok path ↔ path.steps.head? ≠ some (.segment "")) := by
    intro path valued
    rw [← isRestorable_iff_head valued]
    exact ⟨restorable_of_parse_body, parse_body⟩
  refine ⟨?_, fun segments => ?_, parse_body_of_emptyFirst⟩
  · rw [steps_of_ofSteps built]
    exact reads valued
  · have rootless : ∀ root ∈ (ofSegments segments).root, root.value ≠ "" := by
      intro root member
      cases member
    rw [reads rootless, ← steps_of_ofSteps (ofSteps_segments segments)]
    cases segments <;> simp

/-- A path that starts at an identifier is read back with its empty segments. -/
theorem parse_tail_chars_rootedPath :
    let items : List Step := [.selector (.id "a b"), .segment "", .segment "c/d#"]
    let path : Path := ⟨some (.id "a b"), ["", "c/d#"]⟩
    ofSteps items = .ok path ∧ (∀ root ∈ path.root, root.value ≠ "") ∧
      parse path.chars.tail = .ok path := by
  intro items path
  have made : ofSteps items = .ok path := rfl
  have valued : ∀ root ∈ path.root, root.value ≠ "" := by
    rintro root member
    cases member
    decide
  exact ⟨made, valued, (parse_tail_chars_iff_head made valued).1.2 (by simp [items])⟩

/-- The path of an empty segment and another one is read back as the path of the other one. -/
theorem not_parse_tail_chars_emptyFirst :
    let path := ofSegments ["", "a"]
    parse path.chars.tail = .ok (ofSegments ["a"]) ∧ parse path.chars.tail ≠ .ok path := by
  have read : parse (ofSegments ["", "a"]).chars.tail = .ok (ofSegments ["a"]) := by cbv
  refine ⟨read, ?_⟩
  rw [read]
  decide

end Path

/-! ## Attribute selectors -/

namespace Attribute

/-- The text of an attribute selector that was read is read as one with the same operator and the
same condition, of the name less the blanks at its ends, if this is not empty. It is read as the
attribute selector itself, up to numerical equality of floating point numbers, exactly if the name
is not empty and has no blank at an end. -/
theorem parse_chars_eq_trimmed {pattern : List Char} {test : Attribute}
    (read : parse pattern = .ok test) :
    (test.trimmed.name ≠ "" → Simple.parse test.chars = .ok (.attributeTest test.trimmed)) ∧
    ((∃ again, Simple.parse test.chars = .ok again ∧
        again.agrees (.attributeTest test) = true) ↔
      test.name ≠ "" ∧ hasVisibleEnds test.name.toList = true) := by
  have shaped : test.isShaped = true := isShaped_of_parse read
  have itemShaped : (Simple.attributeTest test).isShaped = true := shaped
  have reread : Simple.parse test.chars = (parse test.body).map .attributeTest :=
    Simple.parse_chars_eq itemShaped
  have kept : test.trimmed.name ≠ "" →
      Simple.parse test.chars = .ok (.attributeTest test.trimmed) := by
    intro written
    have named : test.keptName ≠ [] := by
      intro nothing
      apply written
      rw [trimmed, ← trimBlanks_keptName, nothing]
      rfl
    rw [reread, parse_body_of_kept shaped named]
    rfl
  refine ⟨kept, ?_, ?_⟩
  · rintro ⟨again, found, agree⟩
    have restorable : test.isRestorable = true :=
      Simple.restorable_of_parse_chars itemShaped found agree
    rw [isRestorable, Bool.and_eq_true, bne_iff_ne] at restorable
    exact restorable
  · rintro ⟨written, visible⟩
    rw [trimmed_of_hasVisibleEnds visible] at kept
    exact ⟨_, kept written, agrees_self shaped⟩

/-- A membership test with a quote and a bracket in its name is read back. -/
theorem parse_chars_quotedMembership :
    ∃ test again, parse "a\\]\\\"b~=\"x y\" null".toList = .ok test ∧
      Simple.parse test.chars = .ok again ∧ again.agrees (.attributeTest test) = true := by
  let test : Attribute := ⟨"a]\"b", some .inList, .list [.text "x y", .null]⟩
  have written : test.body = "a\\]\\\"b~=\"x y\" null".toList := by decide
  have shaped : test.isShaped = true := by decide
  have read := parse_body shaped (by decide)
  rw [written] at read
  obtain ⟨again, found, agree⟩ := (parse_chars_eq_trimmed read).2.2 (by decide)
  exact ⟨test, again, read, found, agree⟩

/-- A name that ends in a blank is read back without it. -/
theorem not_parse_chars_blankName :
    ∃ test, parse "a\\ ".toList = .ok test ∧
      Simple.parse test.chars = .ok (.attributeTest (present "a")) ∧
      ¬ ∃ again, Simple.parse test.chars = .ok again ∧
        again.agrees (.attributeTest test) = true := by
  have lost : Simple.parse (present "a ").chars = .ok (.attributeTest (present "a")) := rfl
  refine ⟨present "a ", rfl, lost, ?_⟩
  rintro ⟨again, found, agree⟩
  rw [lost] at found
  obtain rfl := Except.ok.inj found
  revert agree
  decide

end Attribute

/-! ## Pseudo selectors -/

namespace Pseudo

/-- The text of a pseudo selector that was read, without its colon, is read as the same name and
the value less the blanks at its ends. So it is read as the pseudo selector itself exactly if the
value, if any, has no blank at an end. -/
theorem parse_tail_chars_eq_trimmed {pattern : List Char} {change : Pseudo}
    (read : parse pattern = .ok change) :
    parse change.chars.tail = .ok change.trimmed ∧
    (parse change.chars.tail = .ok change ↔
      ∀ value ∈ change.value?, hasVisibleEnds value.toList = true) := by
  have shaped := isShaped_of_parse read
  have reread := parse_body_eq_trimmed shaped
  refine ⟨reread, ?_⟩
  change parse change.body = .ok change ↔ _
  rw [reread, Except.ok.injEq, trimmed_eq_iff shaped, isRestorable, Option.all_eq_true]
  rfl

/-- A value with parentheses is read back although it was written among blanks. -/
theorem parse_tail_chars_nestedValue :
    ∃ change, parse "a( (b) )".toList = .ok change ∧
      parse change.chars.tail = .ok change := by
  have read : parse "a( (b) )".toList = .ok (named "a" (some "(b)")) := rfl
  exact ⟨_, read, (parse_tail_chars_eq_trimmed read).2.2 (by decide)⟩

/-- A value that starts with a blank is read back without it. -/
theorem not_parse_tail_chars_blankValue :
    ∃ change, parse "a(\\ b)".toList = .ok change ∧
      parse change.chars.tail = .ok (named "a" (some "b")) ∧
      parse change.chars.tail ≠ .ok change := by
  have lost : parse (named "a" (some " b")).chars.tail = .ok (named "a" (some "b")) := rfl
  refine ⟨named "a" (some " b"), rfl, lost, ?_⟩
  rw [lost]
  decide

end Pseudo

end NodeQuery
