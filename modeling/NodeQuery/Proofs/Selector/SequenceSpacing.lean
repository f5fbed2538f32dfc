import NodeQuery.Proofs.Selector.Agreement

/-!
# Sequences with blanks between their items

A token ends before the sign of the next item, so that blanks before that sign belong to it. The
grammars of paths and pseudo selectors trim them and the bracket of an attribute selector keeps
them out, but a name or a plain value is taken as it stands and ends in them, and the universal
selector is refused with them. A sequence with blanks between its items is therefore read as
itself exactly if its blanks stand behind paths, attribute and pseudo selectors alone.

Main statement: `agrees_parse_respacing_iff_dropsBlanks`.
-/

namespace NodeQuery

open Text

/-! ## Blanks behind a pseudo selector -/

namespace Pseudo

/-- The text that a value is read from matters to errors alone. -/
theorem readValue_of_ok {cells : List Cell} {pattern : List Char} {value : Option (List Char)}
    (read : readValue cells pattern = .ok value) (other : List Char) :
    readValue cells other = .ok value := by
  unfold readValue at read ⊢
  split at read
  · cases read
  · exact read

/-- The text that a name and a value are read from matters to errors alone. -/
theorem ofParts_of_ok {name : List Char} {value : Option (List Char)} {pattern : List Char}
    {change : Pseudo} (read : ofParts name value pattern = .ok change) (other : List Char) :
    ofParts name value other = .ok change := by
  unfold ofParts at read ⊢
  split at read
  · rename_i reserved
    rw [if_pos reserved]
    cases value with
    | none => cases read
    | some text =>
      simp only [parseSort] at read ⊢
      split at read
      · cases read
      · rename_i written
        rw [if_neg written]
        exact read
  · rename_i unreserved
    rw [if_neg unreserved]
    exact read

/-- Texts that are searched alike are read alike. -/
theorem parse_of_cellsOf {pattern other : List Char} {change : Pseudo}
    (same : cellsOf other = cellsOf pattern) (read : parse pattern = .ok change) :
    parse other = .ok change := by
  simp only [parse] at read ⊢
  rw [same]
  split at read
  · cases read
  · rename_i named
    rw [if_neg named]
    cases opening : findTarget ['('] (cellsOf pattern) with
    | none =>
      rw [opening] at read
      exact ofParts_of_ok read other
    | some length =>
      rw [opening] at read
      obtain ⟨value, found, parts⟩ := bind_eq_ok_iff.1 read
      apply bind_eq_ok_iff.2
      exact ⟨value, readValue_of_ok found other, ofParts_of_ok parts other⟩

end Pseudo

/-! ## Blanks behind an item -/

namespace Simple

/-- Whether blanks behind an item are dropped when it is read. -/
def dropsBlanks : Simple → Bool
  | path _ | attributeTest _ | pseudo _ => true
  | _ => false

/-- The item that is read from an item with blanks behind it: a name or a plain value ends in
them. -/
def withBlanks (run : List Char) : Simple → Simple
  | element name => element (String.ofList (name.toList ++ run))
  | id value => id (String.ofList (value.toList ++ run))
  | role value => role (String.ofList (value.toList ++ run))
  | className value => className (String.ofList (value.toList ++ run))
  | item => item

/-- Blanks behind a universal selector are not dropped. -/
theorem kind_ne_universal_of_dropsBlanks {item : Simple} (drops : item.dropsBlanks = true) :
    item.kind ≠ .universal := by
  intro universal
  cases item with
  | universal => cases drops
  | _ => cases universal

/-- Blanks do not change the kind of an item. -/
theorem kind_withBlanks (run : List Char) (item : Simple) :
    (item.withBlanks run).kind = item.kind := by
  cases item <;> rfl

/-- Only a name or a plain value with blanks at its end differs from itself. -/
theorem agrees_withBlanks_iff {item : Simple} (shaped : item.isShaped = true) (run : List Char) :
    (item.withBlanks run).agrees item = true ↔
      item.kind = .universal ∨ item.dropsBlanks = true ∨ run = [] := by
  cases item with
  | universal | path _ | pseudo _ => simp [withBlanks, agrees, kind, dropsBlanks]
  | attributeTest test =>
    have self := agrees_self shaped
    simp [withBlanks, self, dropsBlanks]
  | element name | id name | role name | className name =>
    simp [withBlanks, agrees, kind, dropsBlanks]

/-- A plain value is read with the blanks behind it. -/
theorem parseValue_append (kind : Kind) (make : String → Simple) {value : String}
    (written : value ≠ "") {run : List Char} (blank : ∀ other ∈ run, isBlank other = true) :
    parseValue kind make (escape valueSpecials value.toList ++ run) =
      .ok (make (String.ofList (value.toList ++ run))) := by
  have plain := unescape_of_plain fun other member => ne_escapeMark_of_isBlank (blank other member)
  have body := escape_ne_nil valueSpecials (mt String.toList_eq_nil_iff.1 written)
  have nonempty : (escape valueSpecials value.toList ++ run).isEmpty = false :=
    List.isEmpty_eq_false_iff.2 (List.append_ne_nil_of_left_ne_nil body run)
  rw [parseValue, nonempty, unescape_escape_append, plain]
  rfl

/-- The token of a restorable item is refused if it is the universal selector with blanks, and
otherwise read as the item with the blanks. -/
theorem parse_token {item : Simple} (shaped : item.isShaped = true)
    (restorable : item.isRestorable = true) {run : List Char}
    (blank : ∀ value ∈ run, isBlank value = true) :
    parse (item.token run) =
      if item.kind = .universal ∧ run ≠ [] then
        .error (.unexpectedUniversalValue (String.ofList (item.token run)))
      else .ok (item.withBlanks run) := by
  have signed : ∀ {sign : Char} {kind : Kind}, (sign, kind) ∈ signs → kindOf? sign = some kind :=
    kindOf?_sign
  cases item with
  | universal =>
    have sign : kindOf? '*' = some .universal := signed (by decide)
    change parse ('*' :: run) = _
    cases run with
    | nil => simp [parse, sign, withBlanks]
    | cons value rest => simp [parse, sign, kind, token, chars]
  | element name =>
    obtain ⟨head, rest, text, starts, written⟩ := exists_elementChars shaped
    have plain := unescape_of_plain fun other member =>
      ne_escapeMark_of_isBlank (blank other member)
    have whole : unescape (head :: (escape valueSpecials rest ++ run)) = name.toList ++ run := by
      rw [← List.cons_append, ← written, chars, unescape_escape_append, plain]
    change parse ((element name).chars ++ run) = .ok (element (String.ofList (name.toList ++ run)))
    simp only [written, List.cons_append, parse, kindOf?_of_startsName starts, whole]
  | id value | role value | className value =>
    have read := fun kind make =>
      parseValue_append kind make (bne_iff_ne.1 restorable) blank
    have number : kindOf? '#' = some .id := signed (by decide)
    have dollar : kindOf? '$' = some .role := signed (by decide)
    have dot : kindOf? '.' = some .className := signed (by decide)
    simp [token, kind, chars, parse, number, dollar, dot, read, withBlanks]
  | path value =>
    have sign : kindOf? Path.separator = some .path := signed (by decide)
    have trimmed := cellsOf_append_blanks (Path.settled_body value) blank
    have read : Path.parse (value.body ++ run) = .ok value := by
      rw [Path.parse, trimmed]
      exact Path.parse_body restorable
    change parse (Path.separator :: (value.body ++ run)) = _
    simp only [parse, sign, read]
    rfl
  | attributeTest test => exact parse_chars shaped restorable
  | pseudo change =>
    have sign : kindOf? ':' = some .pseudo := signed (by decide)
    have trimmed := cellsOf_append_blanks (Pseudo.settled_body change) blank
    have read : Pseudo.parse (change.body ++ run) = .ok change :=
      Pseudo.parse_of_cellsOf trimmed (Pseudo.parse_body shaped restorable)
    change parse (':' :: (change.body ++ run)) = _
    simp only [parse, sign, read]
    rfl

/-- The tokens of restorable items are read exactly if no universal selector has blanks behind
it, namely as the items with the blanks. -/
theorem map_parse_tokens_iff {parts : List (Simple × List Char)}
    (shaped : ∀ part ∈ parts, part.1.isShaped = true)
    (restorable : ∀ part ∈ parts, part.1.isRestorable = true)
    (blank : ∀ part ∈ parts, ∀ value ∈ part.2, isBlank value = true) (items : List Simple) :
    (parts.map fun part => part.1.token part.2).map parse = items.map .ok ↔
      (∀ part ∈ parts, part.1.kind = .universal → part.2 = []) ∧
        items = parts.map fun part => part.1.withBlanks part.2 := by
  induction parts generalizing items with
  | nil => simp [eq_comm]
  | cons part rest hypothesis =>
    obtain ⟨partShaped, restShaped⟩ := List.forall_mem_cons.1 shaped
    obtain ⟨partRestorable, restRestorable⟩ := List.forall_mem_cons.1 restorable
    obtain ⟨partBlank, restBlank⟩ := List.forall_mem_cons.1 blank
    have first := parse_token partShaped partRestorable partBlank
    have later := hypothesis restShaped restRestorable restBlank
    rw [List.map_cons, List.map_cons, first, List.forall_mem_cons, List.map_cons]
    by_cases refused : part.1.kind = .universal ∧ part.2 ≠ []
    · rw [if_pos refused]
      constructor
      · intro read
        cases items <;> cases read
      · rintro ⟨⟨bare, _⟩, _⟩
        exact absurd (bare refused.1) refused.2
    · have bare : part.1.kind = .universal → part.2 = [] := by
        intro universal
        by_contra written
        exact refused ⟨universal, written⟩
      rw [if_neg refused]
      cases items with
      | nil => simp
      | cons item others =>
        rw [List.map_cons, List.cons.injEq, later, List.cons.injEq, Except.ok.injEq]
        constructor
        · rintro ⟨same, restBare, others⟩
          exact ⟨⟨bare, restBare⟩, same.symm, others⟩
        · rintro ⟨⟨_, restBare⟩, same, others⟩
          exact ⟨same.symm, restBare, others⟩

end Simple

namespace Sequence

/-! ## Texts with blanks between items -/

/-- A way to write a sequence: a run of blanks between each two items. -/
structure Respacing (sequence : Sequence) where
  /-- What stands between the items. -/
  runs : List (List Char)
  /-- There is a run between each two items. -/
  between : runs.length = sequence.items.length - 1
  /-- Only blanks stand between items. -/
  blank : ∀ run ∈ runs, ∀ value ∈ run, isBlank value = true

namespace Respacing

variable {sequence : Sequence}

/-- The items, each with the blanks behind it. -/
def parts (respacing : Respacing sequence) : List (Simple × List Char) :=
  sequence.items.zip (respacing.runs ++ [[]])

/-- The text that is written. -/
def text (respacing : Respacing sequence) : List Char := charsOfParts respacing.parts

/-- The sequence of the items, of which the names and plain values end in the blanks behind
them. -/
def kept (respacing : Respacing sequence) : Sequence :=
  ⟨respacing.parts.map fun part => part.1.withBlanks part.2⟩

/-- The items are those of the sequence. -/
theorem map_fst_parts (respacing : Respacing sequence) :
    respacing.parts.map Prod.fst = sequence.items := by
  apply List.map_fst_zip
  rw [List.length_append, respacing.between, List.length_singleton]
  omega

/-- Only blanks stand behind items. -/
theorem isBlank_of_mem_parts (respacing : Respacing sequence) :
    ∀ part ∈ respacing.parts, ∀ value ∈ part.2, isBlank value = true := by
  rintro ⟨item, run⟩ member
  have either := (List.of_mem_zip member).2
  rcases List.mem_append.1 either with inside | last
  · exact respacing.blank run inside
  · obtain rfl := List.mem_singleton.1 last
    exact List.forall_mem_nil _

/-- What holds of the items of a sequence holds of its parts. -/
theorem forall_parts (respacing : Respacing sequence) {holds : Simple → Prop}
    (all : ∀ item ∈ sequence.items, holds item) : ∀ part ∈ respacing.parts, holds part.1 := by
  intro part member
  apply all
  rw [← respacing.map_fst_parts]
  exact List.mem_map_of_mem member

/-- Nothing stands behind the last item. -/
theorem parts_of_concat (respacing : Respacing sequence) {front : List Simple} {last : Simple}
    (items : sequence.items = front ++ [last]) :
    respacing.parts = front.zip respacing.runs ++ [(last, [])] := by
  have between := respacing.between
  rw [items, List.length_append, List.length_singleton, Nat.add_sub_cancel] at between
  rw [parts, items, List.zip_append between.symm]
  rfl

/-! ## Reading -/

/-- A sequence with blanks between its items is searched as it stands. -/
theorem cellsOf_text (respacing : Respacing sequence)
    (shaped : ∀ item ∈ sequence.items, item.isShaped = true) :
    cellsOf respacing.text = link (marks respacing.text) := by
  have partsShaped := respacing.forall_parts shaped
  have blank := respacing.isBlank_of_mem_parts
  rw [text]
  rcases List.eq_nil_or_concat sequence.items with none | ⟨front, last, items⟩
  · rw [parts, none, List.zip_nil_left]
    rfl
  · rw [List.concat_eq_append] at items
    rw [respacing.parts_of_concat items] at partsShaped blank ⊢
    exact cellsOf_charsOfParts partsShaped fun part member =>
      blank part (List.mem_append_left _ member)

/-- The tokens of a sequence with blanks between its items. -/
theorem tokens_text (respacing : Respacing sequence) (ordered : isOrdered sequence.items = true)
    (shaped : ∀ item ∈ sequence.items, item.isShaped = true) :
    tokens (cellsOf respacing.text) =
      respacing.parts.map fun part => part.1.token part.2 := by
  rw [respacing.cellsOf_text shaped]
  apply tokens_charsOfParts
  · rwa [respacing.map_fst_parts]
  · exact respacing.forall_parts shaped
  · exact respacing.isBlank_of_mem_parts

/-- The items with the blanks behind them are in order. -/
theorem ofItems_kept (respacing : Respacing sequence)
    (ordered : isOrdered sequence.items = true) :
    ofItems respacing.kept.items = .ok respacing.kept := by
  have kinds : respacing.kept.items.map Simple.kind = sequence.items.map Simple.kind := by
    rw [← respacing.map_fst_parts, kept, List.map_map, List.map_map]
    exact List.map_congr_left fun part _ => part.1.kind_withBlanks part.2
  apply (ofItems_eq_ok_iff _ _).2
  rw [isOrdered_eq_of_kinds kinds]
  exact ⟨rfl, ordered⟩

/-- A sequence of restorable items in order is read with blanks between them exactly if none
stand behind a universal selector, namely as the items with the blanks. -/
theorem parse_text_iff (respacing : Respacing sequence)
    (ordered : isOrdered sequence.items = true)
    (shaped : ∀ item ∈ sequence.items, item.isShaped = true)
    (restorable : ∀ item ∈ sequence.items, item.isRestorable = true) (other : Sequence) :
    parse respacing.text = .ok other ↔
      (∀ part ∈ respacing.parts, part.1.kind = .universal → part.2 = []) ∧
        other = respacing.kept := by
  have read := Simple.map_parse_tokens_iff (respacing.forall_parts shaped)
    (respacing.forall_parts restorable) respacing.isBlank_of_mem_parts
  have built := respacing.ofItems_kept ordered
  rw [parse, respacing.tokens_text ordered shaped]
  constructor
  · intro found
    obtain ⟨items, readItems, same⟩ := (foldlM_appendToken_iff _ empty other).1 found
    obtain ⟨bare, rfl⟩ := (read items).1 readItems
    exact ⟨bare, Except.ok.inj (same.symm.trans built)⟩
  · rintro ⟨bare, rfl⟩
    apply (foldlM_appendToken_iff _ empty respacing.kept).2
    exact ⟨respacing.kept.items, (read _).2 ⟨bare, rfl⟩, built⟩

/-- The items with the blanks behind them agree with the sequence exactly if each agrees with its
item. -/
theorem agrees_kept_iff (respacing : Respacing sequence) :
    respacing.kept.agrees sequence = true ↔
      ∀ part ∈ respacing.parts, (part.1.withBlanks part.2).agrees part.1 = true := by
  have length : respacing.kept.length = sequence.length := by
    rw [Sequence.length, Sequence.length, ← respacing.map_fst_parts, kept, List.length_map,
      List.length_map]
  rw [agrees, length, beq_self_eq_true, Bool.true_and, ← respacing.map_fst_parts, kept,
    List.zip_map', List.all_map, List.all_eq_true]
  rfl

end Respacing

/-! ## The main statement -/

/-- The items of a sequence that is read back are in order, ones that a reading can yield, and
restorable. -/
theorem restorable_items_of_agrees {sequence again : Sequence}
    (read : parse sequence.chars = .ok again) (same : again.agrees sequence = true) :
    isOrdered sequence.items = true ∧ (∀ item ∈ sequence.items, item.isShaped = true) ∧
      ∀ item ∈ sequence.items, item.isRestorable = true := by
  by_cases none : sequence.items = []
  · rw [none]
    exact ⟨rfl, List.forall_mem_nil _, List.forall_mem_nil _⟩
  · have written : again.items ≠ [] := by
      intro nothing
      have lengths := beq_iff_eq.1 (Bool.and_eq_true _ _ ▸ same).1
      rw [Sequence.length, Sequence.length, nothing] at lengths
      exact none (List.length_eq_zero_iff.1 lengths.symm)
    have shaped := (shaped_of_parse_of_ne_nil written read).of_agrees same
    have restorable := shaped.restorable_of_parse_chars read same
    exact ⟨shaped.ordered, shaped.items, List.all_eq_true.1 restorable⟩

/-- The text of a sequence that is read back, with blanks between its items, is refused if blanks
stand behind a universal selector, and otherwise read as the items, of which names and plain values
end in the blanks behind them. It is read as the sequence exactly if blanks stand behind paths,
attribute and pseudo selectors alone. -/
theorem agrees_parse_respacing_iff_dropsBlanks {sequence again : Sequence}
    (read : parse sequence.chars = .ok again) (same : again.agrees sequence = true)
    (respacing : Respacing sequence) :
    (∀ other, parse respacing.text = .ok other ↔
      (∀ part ∈ respacing.parts, part.1.kind = .universal → part.2 = []) ∧
        other = respacing.kept) ∧
    ((∃ other, parse respacing.text = .ok other ∧ other.agrees sequence = true) ↔
      ∀ part ∈ respacing.parts, part.1.dropsBlanks = true ∨ part.2 = []) := by
  obtain ⟨ordered, shaped, restorable⟩ := restorable_items_of_agrees read same
  have reads := respacing.parse_text_iff ordered shaped restorable
  have agreeing : ∀ part ∈ respacing.parts,
      ((part.1.withBlanks part.2).agrees part.1 = true ↔
        part.1.kind = .universal ∨ part.1.dropsBlanks = true ∨ part.2 = []) :=
    fun part member =>
      Simple.agrees_withBlanks_iff (respacing.forall_parts shaped part member) part.2
  refine ⟨reads, ?_⟩
  constructor
  · rintro ⟨other, found, agree⟩ part member
    obtain ⟨bare, rfl⟩ := (reads other).1 found
    have pairs := respacing.agrees_kept_iff.1 agree part member
    rcases (agreeing part member).1 pairs with universal | kept
    · exact Or.inr (bare part member universal)
    · exact kept
  · intro dropped
    have bare : ∀ part ∈ respacing.parts, part.1.kind = .universal → part.2 = [] := by
      intro part member universal
      exact (dropped part member).resolve_left fun drops =>
        Simple.kind_ne_universal_of_dropsBlanks drops universal
    have agree := respacing.agrees_kept_iff.2 fun part member =>
      (agreeing part member).2 (Or.inr (dropped part member))
    exact ⟨respacing.kept, (reads _).2 ⟨bare, rfl⟩, agree⟩

/-- A path, an attribute and a pseudo selector are read with blanks between them. -/
theorem agrees_parse_respacing_filteredPath :
    let filtered : Sequence := ⟨[.path ⟨none, ["news"]⟩,
      .attributeTest ⟨"kind", some .equals, .text "x"⟩, .pseudo (.named "limit" (some "5"))]⟩
    ∃ respacing : Respacing filtered,
      respacing.text = "/news\t[kind=\"x\"]\n :limit(5)".toList ∧
        ∃ other, parse respacing.text = .ok other ∧ other.agrees filtered = true := by
  intro filtered
  have shaped : filtered.Shaped := ⟨by decide, rfl, by decide⟩
  have read : parse filtered.chars = .ok filtered := shaped.parse_chars (by decide)
  let respacing : Respacing filtered :=
    { runs := [['\t'], ['\n', ' ']]
      between := rfl
      blank := by simp [isBlank, blanks] }
  refine ⟨respacing, by decide, ?_⟩
  exact (agrees_parse_respacing_iff_dropsBlanks read (by decide) respacing).2.2 (by decide)

/-- An identifier with a blank between it and a class is read with the blank. -/
theorem not_agrees_parse_respacing_identifier :
    let marked : Sequence := ⟨[.id "a", .className "b"]⟩
    parse marked.chars = .ok marked ∧ marked.agrees marked = true ∧
      ∃ respacing : Respacing marked, respacing.text = "#a .b".toList ∧
        parse respacing.text = .ok ⟨[.id "a ", .className "b"]⟩ ∧
          ¬ ∃ other, parse respacing.text = .ok other ∧ other.agrees marked = true := by
  intro marked
  let respacing : Respacing marked :=
    { runs := [[' ']]
      between := rfl
      blank := by simp [isBlank, blanks] }
  have shaped : marked.Shaped := ⟨by decide, rfl, by decide⟩
  have read : parse respacing.text = .ok ⟨[.id "a ", .className "b"]⟩ :=
    (respacing.parse_text_iff shaped.ordered shaped.items (by decide) _).2 (by decide)
  refine ⟨shaped.parse_chars (by decide), by decide, respacing, by decide, read, ?_⟩
  rintro ⟨other, parsed, agree⟩
  rw [read] at parsed
  obtain rfl := Except.ok.inj parsed
  revert agree
  decide

end Sequence

end NodeQuery
