import NodeQuery.Proofs.Selector.Simple
import NodeQuery.Proofs.Text.Slicing

/-!
# What escaping guards

A text that is escaped for some characters is put between others. The backslashes written for it
escape what they were written for whatever stands around: the run of backslashes before a character
is counted from the start of the whole text, but neither the text in front nor the escaped text
ends inside an escape, so that each part is marked as if it stood alone.

Main statement: `Scan.unescape_and_guard`.
-/

namespace NodeQuery.Text

/-- A text is settled exactly if it does not end in an odd run of backslashes. -/
theorem settled_iff_endsInEscape (text : List Char) :
    Settled text ↔ Simple.endsInEscape text = false := by
  constructor
  · exact Simple.endsInEscape_of_settled
  · intro ends rest
    rw [marks, Simple.marksFrom_append, Simple.leavesEscape_eq_endsInEscape, ends]
    rfl

/-- What stands before something that stays at the end of a list stays. -/
theorem dropTrailing_append {Item : Type} {test : Item → Bool} (front : List Item)
    {back : List Item} (stays : dropTrailing test back ≠ []) :
    dropTrailing test (front ++ back) = front ++ dropTrailing test back := by
  induction front with
  | nil => rfl
  | cons head rest hypothesis =>
    have filled : rest ++ dropTrailing test back ≠ [] := List.append_ne_nil_of_right_ne_nil _ stays
    rw [List.cons_append, dropTrailing_cons, hypothesis, if_neg fun gone => filled gone.1]
    rfl

/-- Of a text between a character that is no blank and another one nothing is trimmed. -/
theorem trimMarks_between (first last : Mark) (starts : isBlank first.char = false)
    (stops : isBlank last.char = false) (between back : List Mark) :
    ∃ kept, trimMarks (first :: (between ++ last :: back)) =
      first :: (between ++ last :: kept) := by
  have firm : last.isLooseBlank = false := by
    rw [Mark.isLooseBlank, stops, Bool.false_and]
  have stays : dropTrailing Mark.isLooseBlank (last :: back) =
      last :: dropTrailing Mark.isLooseBlank back := by
    rw [dropTrailing_cons, firm, if_neg (by simp)]
  refine ⟨dropTrailing Mark.isLooseBlank back, ?_⟩
  rw [trimMarks, ← List.cons_append, dropTrailing_append _ (by rw [stays]; exact List.cons_ne_nil _ _),
    stays, List.cons_append, List.dropWhile_cons_of_neg (by simp [starts])]

/-- Between such characters, settled texts are scanned as they are marked on their own. -/
theorem exists_cells_between (specials text : List Char) {first last : Char} {front : List Char}
    (back : List Char) (starts : isBlank first = false)
    (ends : Simple.endsInEscape (first :: front) = false) (stops : isBlank last = false) :
    ∃ kept, cellsOf (first :: front ++ (escape specials text ++ last :: back)) =
      link (marks (first :: front) ++
        (marks (escape specials text) ++ ⟨last, false⟩ :: kept)) := by
  have whole : marks (first :: front ++ (escape specials text ++ last :: back)) =
      marks (first :: front) ++ (marks (escape specials text) ++ marks (last :: back)) := by
    rw [(settled_iff_endsInEscape _).2 ends, settled_escape]
  have opening : marks (first :: front) =
      ⟨first, false⟩ :: marksFrom (Mark.escapesNext ⟨first, false⟩) front := rfl
  have closing : marks (last :: back) =
      ⟨last, false⟩ :: marksFrom (Mark.escapesNext ⟨last, false⟩) back := rfl
  obtain ⟨kept, trimmed⟩ := trimMarks_between ⟨first, false⟩ ⟨last, false⟩ starts stops
    (marksFrom (Mark.escapesNext ⟨first, false⟩) front ++ marks (escape specials text))
    (marksFrom (Mark.escapesNext ⟨last, false⟩) back)
  refine ⟨kept, ?_⟩
  rw [cellsOf, whole, opening, closing, List.cons_append, ← List.append_assoc, trimmed,
    List.cons_append, List.append_assoc]

namespace Scan

/-- Unescaping restores an escaped text. And where an escaped text stands behind one that starts
with no blank and does not end in an odd run of backslashes, and before one that starts with no
blank, a scan shows all its characters; each special one but the backslash is escaped, and the first
character behind it is not. -/
theorem unescape_and_guard (specials text : List Char) :
    unescape (escape specials text) = text ∧
      ∀ (first : Char) (front : List Char) (last : Char) (back : List Char),
        isBlank first = false → Simple.endsInEscape (first :: front) = false →
        isBlank last = false →
        let scan := ofText (first :: front ++ (escape specials text ++ last :: back))
        let start := (first :: front).length
        (∀ offset < (escape specials text).length,
          scan.char? (start + offset) = (escape specials text)[offset]? ∧
            ∀ value ∈ scan.char? (start + offset), value ∈ specials → value ≠ escapeMark →
              scan.isEscaped (start + offset) = true) ∧
          scan.char? (start + (escape specials text).length) = some last ∧
          scan.isEscaped (start + (escape specials text).length) = false := by
  refine ⟨unescape_escape specials text, fun first front last back starts ends stops => ?_⟩
  intro scan start
  obtain ⟨kept, cells⟩ := exists_cells_between specials text back starts ends stops
  have shape : scan = ⟨link (marks (first :: front) ++
      (marks (escape specials text) ++ ⟨last, false⟩ :: kept))⟩ := congrArg Scan.mk cells
  have size : (marks (escape specials text)).length = (escape specials text).length :=
    marks_length _
  have behind : ∀ offset, (marks (first :: front) ++
      (marks (escape specials text) ++ ⟨last, false⟩ :: kept))[start + offset]? =
        (marks (escape specials text) ++ ⟨last, false⟩ :: kept)[offset]? := by
    intro offset
    rw [show start = (marks (first :: front)).length from (marks_length _).symm,
      List.getElem?_append_right (Nat.le_add_right _ _), Nat.add_sub_cancel_left]
  refine ⟨fun offset inside => ?_, ?_, ?_⟩
  · have place : (marks (escape specials text) ++ ⟨last, false⟩ :: kept)[offset]? =
        (marks (escape specials text))[offset]? :=
      List.getElem?_append_left (by rw [size]; exact inside)
    have shown : scan.char? (start + offset) = (escape specials text)[offset]? := by
      rw [shape, char?_link, behind, place, ← List.getElem?_map]
      exact congrArg (·[offset]?) (chars_marks _)
    refine ⟨shown, fun value found special visible => ?_⟩
    rw [shape, char?_link, behind, place] at found
    obtain ⟨mark, here, rfl⟩ := Option.map_eq_some_iff.1 (Option.mem_def.1 found)
    rw [shape, isEscaped_link, behind, place, here, Option.any_some]
    refine Bool.of_not_eq_false fun unescaped => ?_
    rcases plain_of_mem_marks_escape (List.mem_of_getElem? here) unescaped with same | plain
    · exact visible same
    · exact plain special
  · rw [shape, char?_link, behind, ← size, List.getElem?_append_right (Nat.le_refl _), Nat.sub_self]
    rfl
  · rw [shape, isEscaped_link, behind, ← size, List.getElem?_append_right (Nat.le_refl _),
      Nat.sub_self]
    rfl

/-- A class behind two backslashes, with a blank, a backslash and a colon in its name, and a pseudo
selector behind it. -/
theorem unescape_and_guard_spacedClass :
    isBlank '.' = false ∧ Simple.endsInEscape ".a\\\\".toList = false ∧ isBlank ':' = false ∧
      let scan := ofText (".a\\\\".toList ++ (escape [' ', ':'] "\\ b:".toList ++ ":c ".toList))
      scan.char? 7 = some ' ' ∧ scan.isEscaped 7 = true ∧
        scan.char? 11 = some ':' ∧ scan.isEscaped 11 = false := by
  have starts : isBlank '.' = false := by decide
  have ends : Simple.endsInEscape ".a\\\\".toList = false := by decide
  have stops : isBlank ':' = false := by decide
  refine ⟨starts, ends, stops, ?_⟩
  intro scan
  obtain ⟨guarded, follows, plain⟩ := (unescape_and_guard [' ', ':'] "\\ b:".toList).2
    '.' "a\\\\".toList ':' "c ".toList starts ends stops
  obtain ⟨shown, escaped⟩ := guarded 3 (by decide)
  exact ⟨shown, escaped ' ' shown (by decide) (by decide), follows, plain⟩

end Scan

end NodeQuery.Text
