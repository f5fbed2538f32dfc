import NodeQuery.Proofs.Selector.Path
import NodeQuery.Selector.Pseudo

/-!
# Canonical texts of pseudo selectors

The value of a pseudo selector is escaped for everything but blanks, so that the blanks at its
ends are lost when it is trimmed. The value of a sort has visible ends, since its attribute has
no spaces and an order ends it. Of the pseudo selectors that a reading can yield, exactly those
whose value has visible ends are read back.

Main statements: `parse_body_eq_trimmed`, `parse_body` and `restorable_of_parse_body`.
-/

namespace NodeQuery.Pseudo

open Text

/-- Whether a pseudo selector is one that a reading can yield: a named one has a name of its own
and no empty value, the attribute of a sort is a word that keeps no double quote at its ends. -/
def isShaped : Pseudo → Bool
  | named name value => name != "" && name != sortName && value != some ""
  | sort attributeName _ =>
    attributeName != "" && attributeName.toList.all (!isSpace ·) &&
      trimQuotes attributeName.toList == attributeName.toList

/-- Whether the value neither starts nor ends with a blank. -/
def isRestorable (pseudo : Pseudo) : Bool :=
  pseudo.value?.all (hasVisibleEnds ·.toList)

/-- The text of the value between its parentheses. -/
def valueChars : Option String → List Char
  | some value => '(' :: (escape specials value.toList ++ [')'])
  | none => []

/-- The body is the escaped name and the value between parentheses. -/
theorem body_eq (pseudo : Pseudo) :
    pseudo.body = escape valueSpecials pseudo.name.toList ++ valueChars pseudo.value? := by
  rw [body]
  cases pseudo.value? <;> rfl

/-- No blank has a meaning between the parentheses. -/
theorem isBlank_specials : ∀ special ∈ specials, isBlank special = false :=
  forall_mem_of_all (by decide)

/-- A pseudo selector that a reading can yield has a name. -/
theorem name_ne_empty {pseudo : Pseudo} (shaped : pseudo.isShaped = true) : pseudo.name ≠ "" := by
  cases pseudo with
  | named name value =>
    simp only [isShaped, Bool.and_eq_true, bne_iff_ne] at shaped
    exact shaped.1.1
  | sort attributeName order =>
    change sortName ≠ ""
    decide

/-! ## Bodies -/

/-- Nothing in a value escapes what follows it. -/
theorem settled_valueChars (value : Option String) : Settled (valueChars value) := by
  cases value with
  | none => exact settled_nil
  | some value =>
    exact (settled_char (show '(' ≠ escapeMark by decide)).append
      ((settled_escape _ _).append (settled_char (by decide)))

/-- The searches for anything but a parenthesis step over a value. -/
theorem skipped_valueChars {targets : List Char} (other : '(' ∉ targets) (value : Option String) :
    Skipped targets (valueChars value) := by
  cases value with
  | none => exact skipped_nil targets
  | some value =>
    exact skipped_bracketed (by decide) (by decide) (by decide) (by decide) other
      (settled_escape _ _) (skipped_escape (forall_mem_of_all (by decide)) (by decide) _)

/-- Nothing in a body escapes what follows it. -/
theorem settled_body (pseudo : Pseudo) : Settled pseudo.body := by
  rw [body_eq]
  exact (settled_escape _ _).append (settled_valueChars _)

/-- The searches that step over a plain value step over a body, but for those for a
parenthesis. -/
theorem skipped_body {targets : List Char} (guarded : ∀ value ∈ targets, value ∈ valueSpecials)
    (other : '(' ∉ targets) (pseudo : Pseudo) : Skipped targets pseudo.body := by
  have openersGuarded : ∀ value ∈ openers, value ∈ valueSpecials := forall_mem_of_all (by decide)
  rw [body_eq]
  refine (skipped_escape (fun value member => ?_) (fun target => ?_) _).append
    (skipped_valueChars other _)
  · exact (List.mem_append.1 member).elim (guarded value) (openersGuarded value)
  · exact absurd (guarded escapeMark target) (by decide)

/-- A body does not end in an unescaped blank. -/
theorem firm_body (pseudo : Pseudo) : Firm pseudo.body := by
  have firmName := firm_escape (fun _ => mem_valueSpecials_of_isBlank) pseudo.name.toList
  rw [body_eq]
  cases pseudo.value? with
  | none => rwa [valueChars, List.append_nil]
  | some value =>
    refine Firm.append (settled_escape _ _) (by simp [valueChars]) ?_
    have opened : Settled ('(' :: escape specials value.toList) :=
      (settled_char (show '(' ≠ escapeMark by decide)).append (settled_escape _ _)
    exact Firm.append opened (by simp) (firm_char (show isBlank ')' = false by decide))

/-- A body is searched as it stands. -/
theorem cellsOf_body {pseudo : Pseudo} (named : pseudo.name ≠ "") :
    cellsOf pseudo.body = link (marks pseudo.body) := by
  refine cellsOf_of_firm ?_ (firm_body pseudo)
  have written := escape_ne_nil valueSpecials (mt String.toList_eq_nil_iff.1 named)
  obtain ⟨head, rest, split⟩ := List.exists_cons_of_ne_nil written
  have visible := isBlank_head_escape (fun _ => mem_valueSpecials_of_isBlank) pseudo.name.toList
  rw [split] at visible
  rw [body_eq, split]
  simpa using visible

/-! ## Reading a body -/

/-- The value that is read from the text of a value. -/
def readBack (value : Option String) : Option (List Char) :=
  (value.map (trimBlanks ·.toList)).filter (!·.isEmpty)

/-- A value between parentheses is read less the blanks at its ends. -/
theorem readValue_valueChars (value : String) (pattern : List Char) :
    readValue (link (marks (escape specials value.toList ++ [')']))) pattern =
      .ok (readBack (some value)) := by
  have skipped : Skipped [')'] (escape specials value.toList) :=
    skipped_escape (forall_mem_of_all (by decide)) (by decide) _
  have place := skipped.findTarget_eq_some (show ')' ≠ escapeMark by decide)
    (List.mem_singleton_self ')') []
  have trimmed := trimmedChars_take_link_marks (settled_escape specials value.toList) [')']
  have content := unescape_trimmedChars_escape isBlank_specials value.toList
  rw [readValue, place]
  simp only [trimmed, content]
  rw [readBack, Option.map_some]
  cases trimBlanks value.toList <;> rfl

/-- The body of a pseudo selector with a name is read as its name and its value less the blanks
at its ends. -/
theorem parse_body_eq {pseudo : Pseudo} (named : pseudo.name ≠ "") :
    parse pseudo.body = ofParts pseudo.name.toList (readBack pseudo.value?) pseudo.body := by
  have settled := settled_escape valueSpecials pseudo.name.toList
  have skipped : Skipped ['('] (escape valueSpecials pseudo.name.toList) :=
    skipped_escape (forall_mem_of_all (by decide)) (by decide) _
  have firm := firm_escape (fun _ => mem_valueSpecials_of_isBlank) pseudo.name.toList
  have visible := isBlank_head_escape (fun _ => mem_valueSpecials_of_isBlank) pseudo.name.toList
  have name : unescape (trimmedChars (link (marks (escape valueSpecials pseudo.name.toList)))) =
      pseudo.name.toList := by
    rw [trimmedChars, link_marks, trimMarks_marks_of_firm visible firm, chars_marks,
      unescape_escape]
  have written : pseudo.name.toList.isEmpty = false :=
    List.isEmpty_eq_false_iff.2 (mt String.toList_eq_nil_iff.1 named)
  simp only [parse, cellsOf_body named]
  rw [body_eq]
  cases pseudo.value? with
  | none =>
    rw [valueChars, List.append_nil, skipped.findTarget_eq_none]
    simp only [Option.getD_none, List.take_length, name, written, Bool.false_eq_true, if_false]
    rfl
  | some value =>
    have place := skipped.findTarget_eq_some (show '(' ≠ escapeMark by decide)
      (List.mem_singleton_self '(') (escape specials value.toList ++ [')'])
    have front := trimmedChars_take_link_marks settled
      ('(' :: (escape specials value.toList ++ [')']))
    have opened : Settled (escape valueSpecials pseudo.name.toList ++ ['(']) :=
      settled.append (settled_char (by decide))
    have behind := drop_link_marks opened (escape specials value.toList ++ [')'])
    rw [List.length_append, List.length_singleton, List.append_assoc, List.singleton_append]
      at behind
    rw [valueChars, place]
    simp only [Option.getD_some, front, name, written, behind, readValue_valueChars,
      Bool.false_eq_true, if_false]
    rfl

/-! ## Reading back -/

/-- A value with visible ends that is not empty is read back. -/
theorem readBack_of_hasVisibleEnds {value : String} (written : value ≠ "")
    (visible : hasVisibleEnds value.toList = true) :
    readBack (some value) = some value.toList := by
  have nonempty : value.toList.isEmpty = false :=
    List.isEmpty_eq_false_iff.2 (mt String.toList_eq_nil_iff.1 written)
  rw [readBack, Option.map_some, trimBlanks_of_hasVisibleEnds visible]
  simp [Option.filter, nonempty]

/-- The value of a sort: its attribute, a space and its order. -/
theorem toList_sortValue (attributeName : String) (order : SortOrder) :
    (attributeName ++ " " ++ order.name).toList =
      attributeName.toList ++ ' ' :: order.name.toList := by
  simp

/-- The value of a sort that a reading can yield has visible ends. -/
theorem hasVisibleEnds_sort {attributeName : String} {order : SortOrder}
    (shaped : (sort attributeName order).isShaped = true) :
    hasVisibleEnds (attributeName ++ " " ++ order.name).toList = true := by
  simp only [isShaped, Bool.and_eq_true, bne_iff_ne] at shaped
  obtain ⟨⟨written, spaceless⟩, _⟩ := shaped
  obtain ⟨head, rest, split⟩ :=
    List.exists_cons_of_ne_nil (mt String.toList_eq_nil_iff.1 written)
  have visible : isBlank head = false := by
    refine Bool.eq_false_iff.2 fun blank => ?_
    rw [split, List.all_cons, isSpace_of_isBlank blank] at spaceless
    cases spaceless
  rw [toList_sortValue, split]
  cases order <;> simp [hasVisibleEnds, visible, SortOrder.name, List.getLast?_append,
    List.getLast?_cons] <;> decide

/-- The attribute and the order of a sort are read back. -/
theorem parseSort_sort {attributeName : String} {order : SortOrder}
    (shaped : (sort attributeName order).isShaped = true) (pattern : List Char) :
    parseSort (some (attributeName.toList ++ ' ' :: order.name.toList)) pattern =
      .ok (sort attributeName order) := by
  simp only [isShaped, Bool.and_eq_true, bne_iff_ne, beq_iff_eq] at shaped
  obtain ⟨⟨written, spaceless⟩, unquoted⟩ := shaped
  have all := List.all_eq_true.1 spaceless
  have front : (attributeName.toList ++ ' ' :: order.name.toList).takeWhile (!isSpace ·) =
      attributeName.toList := by
    rw [List.takeWhile_append_of_pos all, List.takeWhile_cons_of_neg (by decide), List.append_nil]
  have back : (attributeName.toList ++ ' ' :: order.name.toList).dropWhile (!isSpace ·) =
      ' ' :: order.name.toList := by
    rw [List.dropWhile_append_of_pos all, List.dropWhile_cons_of_neg (by decide)]
  have word : firstWord (' ' :: order.name.toList) = order.name.toList := by
    cases order <;> decide
  have named : order.name.toList.isEmpty = false ∧
      SortOrder.ofName? order.name.toList = some order := by
    cases order <;> decide
  have nonempty : attributeName.toList.isEmpty = false :=
    List.isEmpty_eq_false_iff.2 (mt String.toList_eq_nil_iff.1 written)
  simp only [parseSort, front, back, word, unquoted, nonempty, named, String.ofList_toList,
    Bool.false_eq_true, if_false]

/-- The pseudo selector less the blanks at the ends of its value; a sort has none. -/
def trimmed : Pseudo → Pseudo
  | named name value => ofName name (value.map fun text => String.ofList (trimBlanks text.toList))
  | sort attributeName order => sort attributeName order

/-- The value that is read back makes the pseudo selector that the trimmed value makes. -/
theorem ofName_readBack (name : String) (value : Option String) :
    ofName name ((readBack value).map String.ofList) = (named name value).trimmed := by
  cases value with
  | none => rfl
  | some text =>
    rw [readBack, trimmed, Option.map_some, Option.map_some]
    cases trimBlanks text.toList <;> rfl

/-- The body of a pseudo selector that a reading can yield is read as the pseudo selector less the
blanks at the ends of its value. -/
theorem parse_body_eq_trimmed {pseudo : Pseudo} (shaped : pseudo.isShaped = true) :
    parse pseudo.body = .ok pseudo.trimmed := by
  rw [parse_body_eq (name_ne_empty shaped)]
  cases pseudo with
  | named name value =>
    have unreserved : name.toList ≠ sortName.toList := by
      simp only [isShaped, Bool.and_eq_true, bne_iff_ne] at shaped
      exact mt String.toList_inj.1 shaped.1.2
    rw [NodeQuery.Pseudo.name, ofParts, if_neg unreserved, value?, String.ofList_toList,
      ofName_readBack]
  | sort attributeName order =>
    have visible := hasVisibleEnds_sort shaped
    have written : attributeName ++ " " ++ order.name ≠ "" := by
      intro empty
      have nothing := toList_sortValue attributeName order
      rw [empty] at nothing
      simp at nothing
    rw [NodeQuery.Pseudo.name, ofParts, if_pos rfl, value?,
      readBack_of_hasVisibleEnds written visible, toList_sortValue, parseSort_sort shaped, trimmed]

/-- Trimming leaves a pseudo selector that a reading can yield as it is exactly if its value has
visible ends. -/
theorem trimmed_eq_iff {pseudo : Pseudo} (shaped : pseudo.isShaped = true) :
    pseudo.trimmed = pseudo ↔ pseudo.isRestorable = true := by
  cases pseudo with
  | sort attributeName order => exact iff_of_true rfl (hasVisibleEnds_sort shaped)
  | named name value =>
    cases value with
    | none => exact iff_of_true rfl rfl
    | some value =>
      constructor
      · intro same
        have kept : (some (String.ofList (trimBlanks value.toList))).filter (· ≠ "") =
            some value := (named.inj same).2
        have trimmed := Option.some.inj (Option.eq_some_of_filter_eq_some kept)
        change hasVisibleEnds value.toList = true
        rw [← trimmed, String.toList_ofList]
        exact hasVisibleEnds_trimBlanks _
      · intro restorable
        have visible : hasVisibleEnds value.toList = true := restorable
        have written : value ≠ "" := by
          rintro rfl
          simp [isShaped] at shaped
        rw [trimmed, Option.map_some, trimBlanks_of_hasVisibleEnds visible, String.ofList_toList]
        simp [ofName, Option.filter, written]

/-- A pseudo selector that a reading can yield is read back if its value has visible ends. -/
theorem parse_body {pseudo : Pseudo} (shaped : pseudo.isShaped = true)
    (restorable : pseudo.isRestorable = true) : parse pseudo.body = .ok pseudo := by
  rw [parse_body_eq_trimmed shaped, (trimmed_eq_iff shaped).2 restorable]

/-- A pseudo selector is not read back unless its value has visible ends. -/
theorem restorable_of_parse_body {pseudo : Pseudo} (shaped : pseudo.isShaped = true)
    (read : parse pseudo.body = .ok pseudo) : pseudo.isRestorable = true := by
  rw [parse_body_eq_trimmed shaped] at read
  exact (trimmed_eq_iff shaped).1 (Except.ok.inj read)

end NodeQuery.Pseudo
