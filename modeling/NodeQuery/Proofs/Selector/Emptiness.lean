import NodeQuery.Proofs.Selector.Ending
import NodeQuery.Proofs.Selector.WellFormed

/-!
# Empty values and names

The value of an identifier, role or class and the name of an attribute must not be empty. This is
tested before the backslashes are removed, and a lone backslash stands for nothing. So a value is
empty after all if a lone backslash is written for it, and every other text that stands for
nothing is rejected.

Main statements: `Simple.isFilled_eq_false_iff` and `Simple.parse_eq_missingValue_iff`.
-/

namespace NodeQuery

open Text

/-! ## What must not be empty -/

/-- Whether a simple selector has what it must not lack: the value of an identifier, role or class,
that of the root of a path, the name of an attribute. -/
def Simple.isFilled : Simple → Bool
  | .id value | .role value | .className value => value != ""
  | .path route => route.root.all (·.value != "")
  | .attributeTest test => test.name != ""
  | .universal | .element _ | .pseudo _ => true

/-- The bodies of attribute selectors that have a lone backslash for a name. -/
inductive Attribute.Bare : List Char → Prop where
  /-- The backslash, with blanks before it. -/
  | name {leading : List Char} : (∀ value ∈ leading, isBlank value = true) →
    Bare (leading ++ [escapeMark])

/-- The bodies of path selectors that have a lone backslash for the value of a root. -/
inductive Path.Bare : List Char → Prop where
  /-- The root alone, behind blanks and an empty item. -/
  | root {leading opening : List Char} {sign : Char} :
    (∀ value ∈ leading, isBlank value = true) → opening ∈ [[], [separator]] → sign ∈ ['#', '$'] →
      Bare (leading ++ (opening ++ [sign, escapeMark]))

/-- The tokens that have a lone backslash for a value. -/
inductive Simple.Bare : List Char → Prop where
  /-- The value of an identifier, role or class. -/
  | value {sign : Char} : sign ∈ ['#', '$', '.'] → Bare [sign, escapeMark]
  /-- The value of the root of a path. -/
  | path {body : List Char} : Path.Bare body → Bare ('/' :: body)

/-- A text is empty if and only if it has no characters. -/
theorem ofList_bne_empty_eq_false_iff (text : List Char) :
    (String.ofList text != "") = false ↔ text = [] := by
  rw [bne_eq_false_iff_eq, String.ofList_eq_empty_iff]

/-! ## Attributes -/

namespace Attribute

variable {body : List Char} {test : Attribute}

/-- Trimming keeps a first character that is no blank. -/
theorem trimMarks_cons_of_visible {mark : Mark} (visible : isBlank mark.char = false)
    (rest : List Mark) :
    trimMarks (mark :: rest) = mark :: dropTrailing Mark.isLooseBlank rest := by
  have kept : mark.isLooseBlank = false := by rw [Mark.isLooseBlank, visible, Bool.false_and]
  rw [trimMarks, dropTrailing_cons, kept, if_neg (fun both => Bool.false_ne_true both.2),
    List.dropWhile_cons_of_neg (by simp [visible])]

/-- The name that is read from a body starts with its first character. It goes on until an
operator, if there is one. -/
theorem name_of_parse (read : parse body = .ok test) :
    ∃ mark rest part, trimMarks (marks body) = mark :: rest ∧
      (part = rest ∨ ∃ count, findTarget Operator.leads (link rest) = some count ∧
        part = rest.take count) ∧
      test.name = String.ofList
        (unescape (mark.char :: Text.chars (dropTrailing Mark.isLooseBlank part))) := by
  have visible := isBlank_head_trimMarks body
  rw [parse, cellsOf] at read
  cases trimmed : trimMarks (marks body) with
  | nil =>
    rw [trimmed] at read
    cases read
  | cons mark rest =>
    rw [trimmed] at visible read
    have visibleMark := visible mark rfl
    rw [link_cons] at read
    dsimp only at read
    cases found : findTarget Operator.leads (link rest) with
    | none =>
      rw [found] at read
      dsimp only at read
      refine ⟨mark, rest, rest, rfl, .inl rfl, ?_⟩
      rw [← link_cons, trimmedChars, link_marks,
        trimMarks_cons_of_visible visibleMark] at read
      cases read
      rfl
    | some count =>
      rw [found] at read
      dsimp only at read
      refine ⟨mark, rest, rest.take count, rfl, .inr ⟨count, found, rfl⟩, ?_⟩
      split at read
      · cases read
      · obtain ⟨condition, _, rfl⟩ := map_eq_ok_iff.1 read
        rw [compare, trimmedChars, List.map_cons, List.map_take, link_marks,
          trimMarks_cons_of_visible visibleMark]
        rfl

/-- Nothing of a body is left out behind a backslash at its start. -/
theorem rest_eq_nil_of_part {mark : Mark} {rest part : List Mark}
    (marked : Marked false (mark :: rest)) (escapes : mark.char = escapeMark)
    (cut : part = rest ∨ ∃ count, findTarget Operator.leads (link rest) = some count ∧
      part = rest.take count)
    (nothing : dropTrailing Mark.isLooseBlank part = []) : rest = [] := by
  obtain ⟨plain, later⟩ := marked_cons_iff.1 marked
  cases rest with
  | nil => rfl
  | cons first others =>
    have escaped : first.escaped = true := by
      rw [(marked_cons_iff.1 later).1, Mark.escapesNext, escapes, plain]
      rfl
    -- an escaped character is no loose blank, so it is not dropped
    have kept : ∀ between, part = first :: between → False := by
      rintro between rfl
      obtain ⟨run, split, loose⟩ := dropTrailing_append_run Mark.isLooseBlank (first :: between)
      rw [nothing, List.nil_append] at split
      have blank := loose first (split ▸ List.mem_cons_self)
      rw [Mark.isLooseBlank, escaped, Bool.not_true, Bool.and_false] at blank
      cases blank
    rcases cut with whole | ⟨count, found, taken⟩
    · exact (kept others whole).elim
    · cases count with
      | succ count => exact (kept (others.take count) taken).elim
      | zero =>
        -- an operator is not escaped
        have behind := (marked_drop_of_found later found).1
        rw [List.drop_zero] at behind
        rw [(marked_cons_iff.1 behind).1] at escaped
        cases escaped

/-- A body is bare if and only if it is a lone backslash, less the blanks around it. -/
theorem bare_iff (body : List Char) : Bare body ↔ cellChars (cellsOf body) = [escapeMark] := by
  rw [cellsOf, cellChars_link,
    chars_trimMarks_eq_iff (List.forall_mem_singleton.2 isBlank_escapeMark) rfl]
  constructor
  · rintro ⟨blank⟩
    exact ⟨_, blank, rfl⟩
  · rintro ⟨leading, blank, rfl⟩
    exact .name blank

/-- A name is empty if and only if a lone backslash is written for it. -/
theorem isFilled_eq_false_iff (read : parse body = .ok test) :
    (Simple.attributeTest test).isFilled = false ↔ Bare body := by
  obtain ⟨mark, rest, part, trimmed, cut, name⟩ := name_of_parse read
  have marked := marked_trimMarks body
  rw [trimmed] at marked
  rw [bare_iff, cellsOf, cellChars_link, trimmed, Simple.isFilled, name, ofList_bne_empty_eq_false_iff, unescape_eq_nil_iff]
  constructor
  · rintro (empty | alone)
    · cases empty
    · obtain ⟨escapes, nothing⟩ := List.cons.inj alone
      have dropped : dropTrailing Mark.isLooseBlank part = [] := List.map_eq_nil_iff.1 nothing
      rw [rest_eq_nil_of_part marked escapes cut dropped, Text.chars, List.map_singleton, escapes]
  · intro alone
    obtain ⟨escapes, nothing⟩ := List.cons.inj alone
    obtain rfl : rest = [] := List.map_eq_nil_iff.1 nothing
    have empty : part = [] := by
      rcases cut with rfl | ⟨count, _, rfl⟩
      · rfl
      · exact List.take_nil
    rw [empty, escapes]
    exact .inr rfl

/-- A body without any character for a name is rejected, unless a lone backslash is written for
it. -/
theorem parse_eq_emptyAttributeName_iff (empty : unescape (cellChars (cellsOf body)) = []) :
    parse body = .error (.emptyAttributeName (String.ofList body)) ↔
      cellChars (cellsOf body) ≠ [escapeMark] := by
  rw [cellsOf, cellChars_link] at empty ⊢
  rcases (unescape_eq_nil_iff _).1 empty with nothing | alone
  · have none : trimMarks (marks body) = [] := List.map_eq_nil_iff.1 nothing
    rw [none, parse, cellsOf, none]
    exact iff_of_true rfl (List.cons_ne_nil _ _).symm
  · have same : trimMarks (marks body) = marks [escapeMark] := by
      rw [← alone]
      exact (marked_trimMarks body).symm
    rw [parse, cellsOf, same]
    exact iff_of_false (fun read => by cases read) (not_not_intro (chars_marks _))

end Attribute

/-! ## Paths -/

/-- A root that is read has a sign, and a value is written for it. -/
theorem Root.exists_value_of_parse? {piece : List Char} {root : Root}
    (read : parse? piece = some (.ok root)) :
    ∃ sign ∈ ['#', '$'], ∃ value, value ≠ [] ∧ piece = sign :: value ∧
      root.value = String.ofList (unescape value) := by
  unfold parse? at read
  split at read
  · rename_i value
    cases value with
    | nil => cases read
    | cons head rest =>
      cases read
      exact ⟨'#', by decide, _, List.cons_ne_nil _ _, rfl, rfl⟩
  · rename_i value
    cases value with
    | nil => cases read
    | cons head rest =>
      cases read
      exact ⟨'$', by decide, _, List.cons_ne_nil _ _, rfl, rfl⟩
  · cases read

/-- A piece with the sign of a root is read as one. -/
theorem Root.parse?_ne_none {sign : Char} (starts : sign ∈ ['#', '$']) (value : List Char) :
    parse? (sign :: value) ≠ none := by
  simp only [List.mem_cons, List.not_mem_nil, or_false] at starts
  rcases starts with rfl | rfl <;> exact nofun

namespace Path

/-- The root of a path that is read has no value if and only if a lone backslash is written for it
in the first piece. -/
theorem isFilled_eq_false_iff_of_ofPieces {texts : List (List Char)} {path : Path}
    (read : ofPieces texts = .ok path) :
    (Simple.path path).isFilled = false ↔
      ∃ sign ∈ ['#', '$'], ∃ rest, texts = [sign, escapeMark] :: rest := by
  cases texts with
  | nil =>
    cases read
    simp [Simple.isFilled]
  | cons first rest =>
    cases rooted : Root.parse? first with
    | none =>
      simp only [ofPieces, rooted] at read
      cases read
      refine iff_of_false (by simp [Simple.isFilled]) ?_
      rintro ⟨sign, starts, _, same⟩
      rw [(List.cons.inj same).1] at rooted
      exact Root.parse?_ne_none starts _ rooted
    | some answer =>
      cases answer with
      | error failure =>
        simp only [ofPieces, rooted] at read
        cases read
      | ok root =>
        simp only [ofPieces, rooted] at read
        cases read
        obtain ⟨sign, starts, value, written, rfl, named⟩ := Root.exists_value_of_parse? rooted
        have empty : (Simple.path ⟨some root, rest.map fun piece =>
            String.ofList (unescape piece)⟩).isFilled = false ↔ unescape value = [] := by
          rw [Simple.isFilled, Option.all_some, named, ofList_bne_empty_eq_false_iff]
        rw [empty, unescape_eq_nil_iff, or_iff_right written]
        constructor
        · rintro rfl
          exact ⟨sign, starts, rest, rfl⟩
        · rintro ⟨_, _, _, same⟩
          exact (List.cons.inj (List.cons.inj same).1).2

/-- The first piece of a text is a root with a lone backslash if and only if the text is. -/
theorem exists_pieces_eq_cons_iff {values : List Mark} (marked : Marked false values) {sign : Char}
    (starts : sign ∈ ['#', '$']) :
    (∃ rest, pieces (link values) = [sign, escapeMark] :: rest) ↔
      Text.chars values = [sign, escapeMark] := by
  have valued : sign ∈ ['#', '$', '.'] := List.mem_append_left ['.'] starts
  constructor
  · rintro ⟨rest, split⟩
    rw [pieces_eq] at split
    cases found : findTarget [separator] (link values) with
    | none =>
      rw [found] at split
      rw [← cellChars_link]
      exact (List.cons.inj split).1
    | some count =>
      rw [found] at split
      dsimp only at split
      split at split
      · have ends := marked.endsInEscape_take_of_found found
        rw [← cellChars_take_link, (List.cons.inj split).1] at ends
        exact absurd (ends.symm.trans (Simple.endsInEscape_append_pair [] valued)) nofun
      · rw [← cellChars_link]
        exact (List.cons.inj split).1
  · intro whole
    have same : values = marks [sign, escapeMark] := by
      rw [← whole]
      exact marked.symm
    refine ⟨[], ?_⟩
    rw [same, pieces_eq]
    simp only [List.mem_cons, List.not_mem_nil, or_false] at starts
    rcases starts with rfl | rfl <;> rfl

/-- A first piece starts with the first character of its text, unless this is a separator. -/
theorem exists_pieces_eq_cons_of_ne {mark : Mark} (plain : mark.char ≠ separator)
    (rest : List Mark) :
    ∃ part others, pieces (link (mark :: rest)) = (mark.char :: part) :: others := by
  rw [pieces_eq]
  cases found : findTarget [separator] (link (mark :: rest)) with
  | none => exact ⟨_, _, rfl⟩
  | some count =>
    dsimp only
    split
    · cases count with
      | zero =>
        obtain ⟨first, later, split, target, _⟩ := exists_mark_of_findTarget found
        cases split
        exact absurd (List.mem_singleton.1 target) plain
      | succ count => exact ⟨_, _, rfl⟩
    · exact ⟨_, _, rfl⟩

/-- The first item of a body is a root with a lone backslash if and only if the body is, less an
empty item before it. -/
theorem exists_dropEmptyFirst_eq_cons_iff {values : List Mark} (marked : Marked false values)
    {sign : Char} (starts : sign ∈ ['#', '$']) :
    (∃ rest, dropEmptyFirst (pieces (link values)) = [sign, escapeMark] :: rest) ↔
      ∃ opening ∈ [[], [separator]], Text.chars values = opening ++ [sign, escapeMark] := by
  have other : sign ≠ separator := by
    rintro rfl
    revert starts
    decide
  cases values with
  | nil =>
    have empty : pieces (link []) = [[]] := by
      rw [pieces_eq]
      rfl
    rw [empty]
    refine iff_of_false nofun ?_
    rintro ⟨opening, _, whole⟩
    exact List.cons_ne_nil _ _ (List.append_eq_nil_iff.1 whole.symm).2
  | cons mark rest =>
    by_cases slash : mark.char = separator
    · have next : pieces (link (mark :: rest)) = [] :: pieces (link rest) := by
        have target : findTarget [separator] (link (mark :: rest)) = some 0 := by
          rw [link_cons, findTarget, findFrom, if_pos]
          simp [Cell.isTarget, slash, (marked_cons_iff.1 marked).1]
        rw [pieces_eq, target]
        rfl
      have behind : Marked false rest := marked.tail (slash ▸ by decide)
      rw [next, dropEmptyFirst, exists_pieces_eq_cons_iff behind starts]
      simp [Text.chars, slash, Ne.symm other]
    · obtain ⟨part, others, first⟩ := exists_pieces_eq_cons_of_ne slash rest
      have kept : dropEmptyFirst (pieces (link (mark :: rest))) = pieces (link (mark :: rest)) := by
        rw [first]
        rfl
      rw [kept, exists_pieces_eq_cons_iff marked starts]
      simp [Text.chars, slash]

/-- A text without blanks that ends in a root with a lone backslash is a body, less the blanks
before it. -/
theorem chars_trimMarks_eq_opening_iff {opening : List Char} (empty : opening ∈ [[], [separator]])
    {sign : Char} (starts : sign ∈ ['#', '$']) (body : List Char) :
    Text.chars (trimMarks (marks body)) = opening ++ [sign, escapeMark] ↔
      ∃ leading, (∀ value ∈ leading, isBlank value = true) ∧
        body = leading ++ (opening ++ [sign, escapeMark]) := by
  have valued : sign ∈ ['#', '$', '.'] := List.mem_append_left ['.'] starts
  refine chars_trimMarks_eq_iff ?_ (Simple.endsInEscape_append_pair opening valued) body
  simp only [List.mem_cons, List.not_mem_nil, or_false] at empty starts
  rcases empty with rfl | rfl <;> rcases starts with rfl | rfl <;>
    exact forall_mem_of_all (by decide)

/-- The root of a path has no value if and only if a lone backslash is written for it. -/
theorem isFilled_eq_false_iff {body : List Char} {path : Path} (read : parse body = .ok path) :
    (Simple.path path).isFilled = false ↔ Bare body := by
  have marked := marked_trimMarks body
  rw [isFilled_eq_false_iff_of_ofPieces read]
  constructor
  · rintro ⟨sign, starts, first⟩
    obtain ⟨opening, empty, whole⟩ := (exists_dropEmptyFirst_eq_cons_iff marked starts).1 first
    obtain ⟨leading, blank, rfl⟩ := (chars_trimMarks_eq_opening_iff empty starts body).1 whole
    exact .root blank empty starts
  · rintro ⟨blank, empty, starts⟩
    have whole := (chars_trimMarks_eq_opening_iff empty starts _).2 ⟨_, blank, rfl⟩
    exact ⟨_, starts, (exists_dropEmptyFirst_eq_cons_iff marked starts).2 ⟨_, empty, whole⟩⟩

/-- A root without any character for a value is rejected, unless a lone backslash is written for
it. -/
theorem parse_eq_missingValue_iff {body value : List Char} {rest : List (List Char)} {sign : Char}
    {kind : Kind} (named : (sign, kind) ∈ [('#', Kind.id), ('$', Kind.role)])
    (first : dropEmptyFirst (pieces (cellsOf body)) = (sign :: value) :: rest)
    (empty : unescape value = []) :
    parse body = .error (.missingValue kind) ↔ value ≠ [escapeMark] := by
  rw [parse, first]
  simp only [List.mem_cons, List.not_mem_nil, or_false, Prod.mk.injEq] at named
  rcases named with ⟨rfl, rfl⟩ | ⟨rfl, rfl⟩ <;>
    rcases (unescape_eq_nil_iff value).1 empty with rfl | rfl <;>
      simp [ofPieces, Root.parse?]

end Path

/-! ## Simple selectors -/

namespace Simple

variable {token body : List Char} {item : Simple}

/-- A token with the sign of an identifier, role or class is bare if its body is a lone
backslash. -/
theorem bare_value_iff {sign : Char} (starts : sign ∈ ['#', '$', '.']) :
    Bare (sign :: body) ↔ body = [escapeMark] := by
  constructor
  · intro bare
    cases bare with
    | value _ => rfl
    | path _ => simp at starts
  · rintro rfl
    exact .value starts

/-- A token with the sign of a path is bare if its body is. -/
theorem bare_path_iff : Bare ('/' :: body) ↔ Path.Bare body := by
  constructor
  · intro bare
    cases bare with
    | value starts => simp at starts
    | path bare => exact bare
  · exact .path

/-- A bare token starts an identifier, role, class or path. -/
theorem kindOf?_of_bare {sign : Char} (bare : Bare (sign :: body)) :
    kindOf? sign ∈ [some Kind.id, some Kind.role, some Kind.className, some Kind.path] := by
  have all : ∀ known ∈ ['#', '$', '.', '/'], kindOf? known ∈
      [some Kind.id, some Kind.role, some Kind.className, some Kind.path] :=
    forall_mem_of_all (by decide)
  refine all sign ?_
  cases bare with
  | value starts => exact List.mem_append_left ['/'] starts
  | path _ => simp

/-- A value is empty if and only if a lone backslash is written for it. -/
theorem parseValue_empty_iff {kind : Kind} {make : String → Simple}
    (read : parseValue kind make body = .ok item) :
    ∃ value, item = make value ∧ ((value != "") = false ↔ body = [escapeMark]) := by
  rw [parseValue] at read
  split at read
  · cases read
  · rename_i written
    cases read
    refine ⟨_, rfl, ?_⟩
    rw [ofList_bne_empty_eq_false_iff, unescape_eq_nil_iff, or_iff_right]
    simpa using written

/-- The part before a closing bracket does not end in an escape. -/
theorem endsInEscape_of_beforeBracket? {inner : List Char}
    (found : beforeBracket? body = some inner) : endsInEscape inner = false := by
  unfold beforeBracket? at found
  split at found
  · split at found
    · cases found
    · rename_i stays
      cases found
      exact Bool.eq_false_iff.2 stays
  · cases found

/-- The body of an attribute selector with a lone backslash for a name ends in an escape. -/
theorem endsInEscape_of_attributeBare (bare : Attribute.Bare body) : endsInEscape body = true := by
  obtain ⟨blank⟩ := bare
  exact endsInEscape_append_mark fun last final =>
    ne_escapeMark_of_isBlank (blank last (List.mem_of_getLast? final))

/-- A simple selector lacks its value or name if and only if its token has a lone backslash for a
value. -/
theorem isFilled_eq_false_iff (read : parse token = .ok item) :
    item.isFilled = false ↔ Bare token := by
  cases token with
  | nil => cases read
  | cons sign body =>
    have told := kindOf?_of_parse read
    have kinds : Bare (sign :: body) →
        some item.kind ∈ [some Kind.id, some Kind.role, some Kind.className, some Kind.path] :=
      fun bare => told ▸ kindOf?_of_bare bare
    rw [parse, told] at read
    cases item with
    | universal | element | pseudo =>
      exact iff_of_false (by simp [isFilled]) fun bare => by simpa [kind] using kinds bare
    | id value =>
      rw [eq_of_kindOf? told (show ('#', Kind.id) ∈ signs by decide), bare_value_iff (by decide)]
      obtain ⟨_, made, empty⟩ := parseValue_empty_iff read
      cases made
      exact empty
    | role value =>
      rw [eq_of_kindOf? told (show ('$', Kind.role) ∈ signs by decide), bare_value_iff (by decide)]
      obtain ⟨_, made, empty⟩ := parseValue_empty_iff read
      cases made
      exact empty
    | className value =>
      rw [eq_of_kindOf? told (show ('.', Kind.className) ∈ signs by decide),
        bare_value_iff (by decide)]
      obtain ⟨_, made, empty⟩ := parseValue_empty_iff read
      cases made
      exact empty
    | path path =>
      rw [eq_of_kindOf? told (show ('/', Kind.path) ∈ signs by decide), bare_path_iff]
      obtain ⟨_, readPath, made⟩ := map_eq_ok_iff.1 read
      cases made
      exact Path.isFilled_eq_false_iff readPath
    | attributeTest test =>
      refine iff_of_false ?_ fun bare => by simpa [kind] using kinds bare
      simp only [kind] at read
      split at read
      · cases read
      · rename_i inner found
        obtain ⟨_, readTest, made⟩ := map_eq_ok_iff.1 read
        cases made
        rw [Attribute.isFilled_eq_false_iff readTest]
        intro bare
        have ends := endsInEscape_of_attributeBare bare
        rw [endsInEscape_of_beforeBracket? found] at ends
        cases ends

/-- A text with a bare token at its end ends in an escape. -/
theorem endsInEscape_append_bare (front : List Char) (bare : Bare token) :
    endsInEscape (front ++ token) = true := by
  cases bare with
  | value starts => exact endsInEscape_append_pair front starts
  | path bare =>
    obtain ⟨_, _, starts⟩ := bare
    rw [← List.append_assoc, ← List.cons_append, ← List.append_assoc]
    exact endsInEscape_append_pair _ (List.mem_append_left ['.'] starts)

/-- A pattern ends in a bare token if it does so once it is trimmed. -/
theorem Bare.exists_before (bare : Bare token) {pattern front : List Char}
    (whole : Text.chars (trimMarks (marks pattern)) = front ++ token) :
    ∃ before, pattern = before ++ token := by
  have ends := endsInEscape_append_bare front bare
  rw [← whole] at ends
  obtain ⟨leading, around, _⟩ := exists_blanks_before ends
  rw [whole, ← List.append_assoc] at around
  exact ⟨leading ++ front, around⟩

/-- A sign without any character for a value is rejected, unless a lone backslash is written for
it. -/
theorem parse_eq_missingValue_iff {sign : Char} {kind : Kind}
    (named : (sign, kind) ∈ [('#', Kind.id), ('$', Kind.role), ('.', Kind.className)])
    (empty : unescape body = []) :
    parse (sign :: body) = .error (.missingValue kind) ↔ body ≠ [escapeMark] := by
  have all : ∀ pair ∈ [('#', Kind.id), ('$', Kind.role), ('.', Kind.className)],
      pair ∈ signs := by decide
  have told : kindOf? sign = some kind := kindOf?_sign (all _ named)
  rw [parse, told]
  simp only [List.mem_cons, List.not_mem_nil, or_false, Prod.mk.injEq] at named
  rcases named with ⟨rfl, rfl⟩ | ⟨rfl, rfl⟩ | ⟨rfl, rfl⟩ <;>
    rcases (unescape_eq_nil_iff body).1 empty with rfl | rfl <;>
      simp [parseValue]

end Simple

end NodeQuery
