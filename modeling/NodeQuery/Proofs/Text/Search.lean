import NodeQuery.Proofs.Text.Marking

/-!
# Searches over written texts

A text is skipped by a search when the search, started at its beginning, goes on behind it as
if it had started there. Skipped texts may be joined. A plain character, a backslash pair and
an enclosure whose body its closer skips are skipped, and so is a text escaped for every
target and every opener: these are the pieces that canonical texts are made of.

Main statements: `skipped_escape`, `skipped_bracketed`, `skipped_quoted`, and
`Skipped.findTarget_eq_some` and `Skipped.findTarget_eq_none`, which locate a search behind
a skipped text.
-/

namespace NodeQuery.Text

/-! ## Searches and links -/

/-- Skipping some cells is searching behind them. -/
theorem findFrom_skip (targets : List Char) (escapedToo : Bool) (count : Nat) (cells : List Cell) :
    findFrom targets escapedToo count cells =
      (findFrom targets escapedToo 0 (cells.drop count)).map (· + count) := by
  induction cells generalizing count with
  | nil => cases count <;> rfl
  | cons cell rest hypothesis =>
    cases count with
    | zero => simp
    | succ count =>
      rw [findFrom, hypothesis, List.drop_succ_cons, Option.map_map]
      rfl

/-- A search starts with the first cell and goes on behind what that cell hides. -/
theorem findFrom_cons (targets : List Char) (escapedToo : Bool) (cell : Cell) (rest : List Cell) :
    findFrom targets escapedToo 0 (cell :: rest) =
      if cell.isTarget targets escapedToo then some 0
      else (findFrom targets escapedToo 0 (rest.drop cell.hidden)).map
        (· + (cell.hidden + 1)) := by
  rw [findFrom, findFrom_skip, Option.map_map]
  rfl

/-- The same for unescaped targets. -/
theorem findTarget_cons (targets : List Char) (cell : Cell) (rest : List Cell) :
    findTarget targets (cell :: rest) =
      if cell.isTarget targets false then some 0
      else (findTarget targets (rest.drop cell.hidden)).map (· + (cell.hidden + 1)) :=
  findFrom_cons targets false cell rest

/-- A search goes on right behind a cell that is no target and hides nothing. -/
theorem findTarget_cons_of_shown {targets : List Char} {cell : Cell}
    (other : cell.isTarget targets false = false) (shown : cell.hidden = 0) (rest : List Cell) :
    findTarget targets (cell :: rest) = (findTarget targets rest).map (· + 1) := by
  rw [findTarget_cons, other, shown]
  rfl

/-- The cells behind others are linked among themselves. -/
theorem link_drop (values : List Mark) (count : Nat) :
    (link values).drop count = link (values.drop count) := by
  induction values generalizing count with
  | nil => cases count <;> rfl
  | cons mark rest hypothesis =>
    cases count with
    | zero => rfl
    | succ count => exact hypothesis count

/-- Linking keeps the number of characters. -/
theorem link_length (values : List Mark) : (link values).length = values.length := by
  rw [← List.length_map Cell.toMark, link_marks]

/-- The cells of marks stand on their characters. -/
theorem cellChars_link (values : List Mark) : cellChars (link values) = chars values := by
  have projected : cellChars (link values) = ((link values).map Cell.toMark).map Mark.char := by
    rw [cellChars, List.map_map]
    rfl
  rw [projected, link_marks]
  rfl

/-- The cells of a text stand on its characters. -/
theorem cellChars_link_marks (text : List Char) : cellChars (link (marks text)) = text :=
  (cellChars_link (marks text)).trans (chars_marks text)

/-- The cells of a settled front of a text. -/
theorem drop_link_marks {front : List Char} (settled : Settled front) (rest : List Char) :
    (link (marks (front ++ rest))).drop front.length = link (marks rest) := by
  rw [link_drop, settled, ← marks_length front, List.drop_left]

/-- The marks of a settled front of a text. -/
theorem take_link_marks {front : List Char} (settled : Settled front) (rest : List Char) :
    ((link (marks (front ++ rest))).take front.length).map Cell.toMark = marks front := by
  rw [List.map_take, link_marks, settled, ← marks_length front, List.take_left]

/-- The characters of the front of a text. -/
theorem cellChars_take_link_marks (front rest : List Char) :
    cellChars ((link (marks (front ++ rest))).take front.length) = front := by
  rw [cellChars, List.map_take]
  change (cellChars (link (marks (front ++ rest)))).take front.length = front
  rw [cellChars_link_marks, List.take_left]

/-- The trimmed characters of the front of a text. -/
theorem trimmedChars_take_link_marks {front : List Char} (settled : Settled front)
    (rest : List Char) :
    trimmedChars ((link (marks (front ++ rest))).take front.length) =
      trimmedChars (link (marks front)) := by
  rw [trimmedChars, take_link_marks settled, trimmedChars, link_marks]

/-- Where no blank is special, an escaped text is read back less the blanks at its ends. -/
theorem unescape_trimmedChars_escape {specials : List Char}
    (bare : ∀ special ∈ specials, isBlank special = false) (text : List Char) :
    unescape (trimmedChars (link (marks (escape specials text)))) = trimBlanks text := by
  rw [trimmedChars, link_marks, trimMarks_marks_escape bare, chars_marks, unescape_escape]

/-- The first cell of a text stands on its first character. -/
theorem exists_link_marks (head : Char) (rest : List Char) :
    ∃ cell cells, link (marks (head :: rest)) = cell :: cells ∧ cell.char = head :=
  ⟨_, _, rfl, rfl⟩

/-- No blanks are left out before a text that starts with none. -/
theorem afterBlanks_of_visible {text : List Char}
    (visible : ∀ first ∈ text.head?, isBlank first = false) :
    afterBlanks (link (marks text)) = link (marks text) := by
  cases text with
  | nil => rfl
  | cons head rest =>
    obtain ⟨cell, cells, start, char⟩ := exists_link_marks head rest
    rw [start, afterBlanks, List.dropWhile_cons_of_neg (by simp [char, visible head rfl])]

/-- A blank at the start is left out. -/
theorem afterBlanks_of_blank {head : Char} (blank : isBlank head = true) (rest : List Char) :
    afterBlanks (link (marks (head :: rest))) = afterBlanks (link (marks rest)) := by
  rw [marks_cons (ne_escapeMark_of_isBlank blank), link_cons, afterBlanks,
    List.dropWhile_cons_of_pos (by exact blank), afterBlanks]

/-- No blanks are left of a run of them. -/
theorem afterBlanks_run {run : List Char} (blank : ∀ value ∈ run, isBlank value = true)
    (text : List Char) :
    afterBlanks (link (marks (run ++ text))) = afterBlanks (link (marks text)) := by
  induction run with
  | nil => rfl
  | cons head rest hypothesis =>
    rw [List.cons_append, afterBlanks_of_blank (blank head (List.mem_cons_self ..)),
      hypothesis fun value member => blank value (List.mem_cons_of_mem _ member)]

/-! ## Skipped texts -/

/-- The characters that open an enclosure. -/
def openers : List Char := enclosures.map Prod.fst

/-- Any other character closes by nothing. -/
theorem closerOf?_eq_none {value : Char} (plain : value ∉ openers) : closerOf? value = none := by
  rw [closerOf?, List.lookup_eq_none_iff]
  intro pair member
  have other : value ≠ pair.1 := by
    rintro rfl
    exact plain (List.mem_map_of_mem member)
  exact bne_iff_ne.2 other

/-- A text behind which a search goes on as if it had started there. -/
def Skipped (targets text : List Char) : Prop :=
  ∀ rest, findTarget targets (link (marks (text ++ rest))) =
    (findTarget targets (link (marks rest))).map (· + text.length)

/-- The empty text is skipped. -/
theorem skipped_nil (targets : List Char) : Skipped targets [] := by
  intro rest
  simp

/-- Skipped texts may be joined. -/
theorem Skipped.append {targets front back : List Char} (first : Skipped targets front)
    (second : Skipped targets back) : Skipped targets (front ++ back) := by
  intro rest
  rw [List.append_assoc, first, second, Option.map_map, List.length_append]
  congr 1
  funext offset
  simp only [Function.comp_apply]
  omega

/-- A plain character is skipped when it is no target. -/
theorem skipped_char {targets : List Char} {value : Char} (plain : value ≠ escapeMark)
    (closed : value ∉ openers) (other : value ∉ targets) : Skipped targets [value] := by
  intro rest
  rw [List.singleton_append, marks_cons plain, link_cons, findTarget_cons_of_shown]
  · rfl
  · simp [Cell.isTarget, other]
  · simp [Cell.hidden, reachOf, closerOf?_eq_none closed]

/-- A text of plain characters is skipped when none is a target. -/
theorem skipped_of_plain {targets text : List Char}
    (plain : ∀ value ∈ text, value ≠ escapeMark ∧ value ∉ openers ∧ value ∉ targets) :
    Skipped targets text := by
  induction text with
  | nil => exact skipped_nil targets
  | cons head rest hypothesis =>
    obtain ⟨unescaped, closed, other⟩ := plain head (List.mem_cons_self ..)
    exact (skipped_char unescaped closed other).append
      (hypothesis fun value member => plain value (List.mem_cons_of_mem _ member))

/-- A run of blanks is skipped when none is a target. -/
theorem skipped_blanks {targets run : List Char} (blank : ∀ value ∈ run, isBlank value = true)
    (other : ∀ value ∈ run, value ∉ targets) : Skipped targets run := by
  have closed : ∀ value ∈ blanks, value ∉ openers := forall_mem_of_all (by decide)
  refine skipped_of_plain fun value member => ?_
  have space := blank value member
  exact ⟨ne_escapeMark_of_isBlank space, closed value (List.contains_iff_mem.1 space),
    other value member⟩

/-- A backslash pair is skipped. -/
theorem skipped_pair {targets : List Char} (unsought : escapeMark ∉ targets) (value : Char) :
    Skipped targets [escapeMark, value] := by
  intro rest
  change findTarget targets (link (marks (escapeMark :: value :: rest))) = _
  rw [marks_pair, link_cons, link_cons, findTarget_cons_of_shown, findTarget_cons_of_shown,
    Option.map_map]
  · rfl
  · simp [Cell.isTarget]
  · simp [Cell.hidden]
  · simp [Cell.isTarget, unsought]
  · simp [Cell.hidden, reachOf, closerOf?_eq_none (show escapeMark ∉ openers by decide)]

/-- A text is skipped when it is escaped for every target and every opener. -/
theorem skipped_escape {targets specials : List Char}
    (guarded : ∀ value ∈ targets ++ openers, value ∈ specials)
    (unsought : escapeMark ∉ targets) (text : List Char) :
    Skipped targets (escape specials text) := by
  induction text with
  | nil => exact skipped_nil targets
  | cons head rest hypothesis =>
    rw [escape_cons]
    refine Skipped.append ?_ hypothesis
    by_cases special : head = escapeMark ∨ head ∈ specials
    · rw [escapedChar_special special]
      exact skipped_pair unsought head
    · rw [escapedChar_plain special]
      obtain ⟨plain, bare⟩ := not_or.1 special
      exact skipped_char plain
        (fun opener => bare (guarded head (List.mem_append_right _ opener)))
        (fun target => bare (guarded head (List.mem_append_left _ target)))

/-- A search finds the target behind a skipped text. -/
theorem Skipped.findTarget_eq_some {targets text : List Char} (skipped : Skipped targets text)
    {stop : Char} (plain : stop ≠ escapeMark) (target : stop ∈ targets) (rest : List Char) :
    findTarget targets (link (marks (text ++ stop :: rest))) = some text.length := by
  rw [skipped, marks_cons plain, link_cons, findTarget_cons,
    if_pos (by simp [Cell.isTarget, target])]
  simp

/-- A search finds nothing in a skipped text. -/
theorem Skipped.findTarget_eq_none {targets text : List Char} (skipped : Skipped targets text) :
    findTarget targets (link (marks text)) = none := by
  have search := skipped []
  rw [List.append_nil] at search
  rw [search]
  rfl

/-- A search in a skipped text ends where the text ends when a target or nothing follows. -/
theorem Skipped.findTarget_getD {targets text : List Char} (skipped : Skipped targets text)
    (unsought : escapeMark ∉ targets) {follow : List Char}
    (stops : ∀ first ∈ follow.head?, first ∈ targets) :
    (findTarget targets (link (marks (text ++ follow)))).getD
      (link (marks (text ++ follow))).length = text.length := by
  cases follow with
  | nil =>
    rw [List.append_nil, skipped.findTarget_eq_none, Option.getD_none, link_length, marks_length]
  | cons stop rest =>
    have target : stop ∈ targets := stops stop rfl
    have plain : stop ≠ escapeMark := fun same => unsought (same ▸ target)
    rw [skipped.findTarget_eq_some plain target, Option.getD_some]

/-- A search that starts right behind the first character of an escaped text goes on behind the
text, also when that character is the backslash of a pair. -/
theorem exists_link_escape {targets specials : List Char}
    (guarded : ∀ value ∈ targets ++ openers, value ∈ specials)
    (unsought : escapeMark ∉ targets) (head : Char) (others back : List Char) :
    ∃ cell cells, link (marks (escape specials (head :: others) ++ back)) = cell :: cells ∧
      findTarget targets cells = (findTarget targets (link (marks back))).map
        (· + ((escape specials (head :: others)).length - 1)) := by
  have behind := skipped_escape guarded unsought others back
  rw [escape_cons, List.append_assoc]
  by_cases special : head = escapeMark ∨ head ∈ specials
  · rw [escapedChar_special special]
    refine ⟨_, _, by rw [List.cons_append, List.singleton_append, marks_pair, link_cons], ?_⟩
    rw [link_cons, findTarget_cons_of_shown (by simp [Cell.isTarget]) (by simp [Cell.hidden]),
      behind, Option.map_map]
    rfl
  · rw [escapedChar_plain special]
    refine ⟨_, _, by
      rw [List.singleton_append, marks_cons (fun same => special (Or.inl same)), link_cons], ?_⟩
    rw [behind]
    simp

/-! ## Enclosures -/

/-- An enclosure is skipped when its opener is no target and reaches its closer. -/
theorem skipped_enclosed {targets body : List Char} {opener closer : Char}
    (plain : opener ≠ escapeMark) (other : opener ∉ targets) (settled : Settled (body ++ [closer]))
    (reach : ∀ rest,
      reachOf opener (link (marks (body ++ closer :: rest))) = some (body.length + 1)) :
    Skipped targets (opener :: (body ++ [closer])) := by
  intro rest
  have joined : opener :: (body ++ [closer]) ++ rest = opener :: (body ++ closer :: rest) := by simp
  have behind := drop_link_marks settled rest
  rw [List.length_append, List.length_singleton, List.append_assoc] at behind
  rw [joined, marks_cons plain, link_cons, findTarget_cons, reach,
    if_neg (by simp [Cell.isTarget, other])]
  change (findTarget targets ((link (marks (body ++ closer :: rest))).drop (body.length + 1))).map
    (· + (body.length + 1 + 1)) = _
  rw [show body ++ closer :: rest = body ++ ([closer] ++ rest) from rfl, behind]
  simp

/-- A bracket reaches the bracket that closes it behind a body that is skipped. -/
theorem reachOf_bracket {opener closer : Char} (closes : closerOf? opener = some closer)
    (bracket : isQuote opener = false) (plain : closer ≠ escapeMark) {body : List Char}
    (skipped : Skipped [closer] body) (rest : List Char) :
    reachOf opener (link (marks (body ++ closer :: rest))) = some (body.length + 1) := by
  rw [reachOf, closes, Option.bind_some, bracket, if_neg (by decide),
    skipped.findTarget_eq_some plain (List.mem_singleton_self closer), Option.map_some]

/-- Brackets around a settled body that is skipped are skipped. -/
theorem skipped_bracketed {targets body : List Char} {opener closer : Char}
    (closes : closerOf? opener = some closer) (bracket : isQuote opener = false)
    (plain : opener ≠ escapeMark) (plainCloser : closer ≠ escapeMark) (other : opener ∉ targets)
    (settled : Settled body) (skipped : Skipped [closer] body) :
    Skipped targets (opener :: (body ++ [closer])) :=
  skipped_enclosed plain other (settled.append (settled_char plainCloser))
    (reachOf_bracket closes bracket plainCloser skipped)

/-- The first unescaped quote behind a text escaped for it is the one behind the text. -/
theorem findPlain_escape {quote : Char} (plain : quote ≠ escapeMark) (text rest : List Char) :
    findPlain quote (link (marks (escape [quote] text ++ quote :: rest))) =
      some (escape [quote] text).length := by
  induction text with
  | nil => simp [escape, marks_cons plain, link_cons, findPlain, List.findIdx?_cons]
  | cons head others hypothesis =>
    rw [findPlain] at hypothesis
    by_cases special : head = escapeMark ∨ head ∈ [quote]
    · rw [escape_cons, escapedChar_special special]
      simp [marks_pair, link_cons, findPlain, List.findIdx?_cons, hypothesis, Ne.symm plain]
    · obtain ⟨unescaped, other⟩ := not_or.1 special
      rw [escape_cons, escapedChar_plain special]
      simp [marks_cons unescaped, link_cons, findPlain, List.findIdx?_cons, hypothesis,
        List.ne_of_not_mem_cons other]

/-- A text between quotes that is escaped for them is skipped. -/
theorem skipped_quoted {targets : List Char} {quote : Char} (quotes : closerOf? quote = some quote)
    (isQuote : isQuote quote = true) (plain : quote ≠ escapeMark) (other : quote ∉ targets)
    (text : List Char) : Skipped targets (quote :: (escape [quote] text ++ [quote])) := by
  refine skipped_enclosed plain other ((settled_escape _ _).append (settled_char plain)) ?_
  intro rest
  rw [reachOf, quotes, Option.bind_some, isQuote, if_pos rfl, findPlain_escape plain,
    Option.map_some]

end NodeQuery.Text
