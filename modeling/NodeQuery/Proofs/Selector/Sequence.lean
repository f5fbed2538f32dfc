import NodeQuery.Proofs.Selector.Simple
import NodeQuery.Selector.Sequence

/-!
# Canonical texts of sequences

The texts of the simple selectors of a sequence are its tokens: each ends before the sign of the
next one, and what a path hides or leaves open is made up for by the rule that an attribute or
pseudo selector follows it. A sequence of simple selectors that a reading can yield is read back
exactly if all of them are restorable.

Main statements: `tokens_charsOfParts`, `tokens_chars`, `parse_chars` and
`restorable_of_parse_chars`.
-/

namespace NodeQuery

open Text

namespace Simple

/-! ## Texts of items -/

/-- The text of an item starts with a character of its kind, which no combinator and no blank
is. -/
theorem exists_head_chars {item : Simple} (shaped : item.isShaped = true) :
    ∃ head rest, item.chars = head :: rest ∧ kindOf? head = some item.kind ∧
      isBlank head = false ∧ head ∉ Combinator.symbols ∧ head ≠ escapeMark := by
  have signed : ∀ {head : Char} {kind : Kind}, (head, kind) ∈ signs → kindOf? head = some kind ∧
      isBlank head = false ∧ head ∉ Combinator.symbols ∧ head ≠ escapeMark := by
    intro head kind member
    have all : ∀ pair ∈ signs, isBlank pair.1 = false ∧ pair.1 ∉ Combinator.symbols ∧
        pair.1 ≠ escapeMark := by decide
    exact ⟨kindOf?_sign member, all (head, kind) member⟩
  cases item with
  | element name =>
    obtain ⟨head, rest, _, starts, split⟩ := exists_elementChars shaped
    obtain ⟨plain, bare⟩ := not_mem_valueSpecials_of_startsName starts
    have combinators : ∀ symbol ∈ Combinator.symbols, symbol ∈ valueSpecials :=
      forall_mem_of_all (by decide)
    refine ⟨head, _, split, kindOf?_of_startsName starts, ?_, fun symbol => ?_, plain⟩
    · exact Bool.eq_false_iff.2 fun blank => bare (mem_valueSpecials_of_isBlank blank)
    · exact bare (combinators head symbol)
  | universal => exact ⟨'*', _, rfl, signed (show ('*', Kind.universal) ∈ signs by decide)⟩
  | id value => exact ⟨'#', _, rfl, signed (show ('#', Kind.id) ∈ signs by decide)⟩
  | role value => exact ⟨'$', _, rfl, signed (show ('$', Kind.role) ∈ signs by decide)⟩
  | className value => exact ⟨'.', _, rfl, signed (show ('.', Kind.className) ∈ signs by decide)⟩
  | path value => exact ⟨'/', _, rfl, signed (show ('/', Kind.path) ∈ signs by decide)⟩
  | attributeTest test =>
    exact ⟨'[', _, rfl, signed (show ('[', Kind.attributeTest) ∈ signs by decide)⟩
  | pseudo change => exact ⟨':', _, rfl, signed (show (':', Kind.pseudo) ∈ signs by decide)⟩

/-- Nothing in an item escapes what follows it. -/
theorem settled_chars {item : Simple} (shaped : item.isShaped = true) : Settled item.chars := by
  have sign : ∀ {head : Char}, head ∈ signChars → Settled [head] := by
    intro head member
    have plain : ∀ other ∈ signChars, other ≠ escapeMark := forall_mem_of_all (by decide)
    exact settled_char (plain head member)
  cases item with
  | universal => exact sign (by decide)
  | element name => exact settled_escape _ _
  | id value => exact (sign (show '#' ∈ signChars by decide)).append (settled_escape _ _)
  | role value => exact (sign (show '$' ∈ signChars by decide)).append (settled_escape _ _)
  | className value => exact (sign (show '.' ∈ signChars by decide)).append (settled_escape _ _)
  | path value =>
    exact (sign (show '/' ∈ signChars by decide)).append (Path.settled_body value)
  | attributeTest test =>
    exact (sign (show '[' ∈ signChars by decide)).append
      ((Attribute.settled_body shaped).append (settled_char (by decide)))
  | pseudo change =>
    exact (sign (show ':' ∈ signChars by decide)).append (Pseudo.settled_body change)

/-- An item does not end in an unescaped blank. -/
theorem firm_chars {item : Simple} (shaped : item.isShaped = true) : Firm item.chars := by
  -- a sign before a text that may be empty
  have signed : ∀ {head : Char} {text : List Char}, head ∈ signChars → Firm text →
      Firm (head :: text) := by
    intro head text member firm
    have plain : ∀ other ∈ signChars, other ≠ escapeMark ∧ isBlank other = false :=
      forall_mem_of_all (by decide)
    cases text with
    | nil => exact firm_char (plain head member).2
    | cons next rest =>
      exact Firm.append (settled_char (plain head member).1) (List.cons_ne_nil next rest) firm
  have valueFirm : ∀ value : String, Firm (escape valueSpecials value.toList) := fun value =>
    firm_escape (fun _ => mem_valueSpecials_of_isBlank) _
  cases item with
  | universal => exact firm_char (by decide)
  | element name => exact valueFirm name
  | id value | role value | className value => exact signed (by decide) (valueFirm value)
  | path value => exact signed (by decide) (Path.firm_body value)
  | attributeTest test =>
    refine signed (show '[' ∈ signChars by decide) ?_
    exact Firm.append (Attribute.settled_body shaped) (by simp) (firm_char (by decide))
  | pseudo change => exact signed (by decide) (Pseudo.firm_body change)

/-- An item hides what it holds from the search for combinators. -/
theorem skipped_chars {item : Simple} (shaped : item.isShaped = true) :
    Skipped Combinator.symbols item.chars := by
  have sign : ∀ {head : Char}, head ∈ signChars → head ∉ openers →
      Skipped Combinator.symbols [head] := by
    intro head member closed
    have plain : ∀ other ∈ signChars, other ≠ escapeMark ∧ other ∉ Combinator.symbols :=
      forall_mem_of_all (by decide)
    exact skipped_char (plain head member).1 closed (plain head member).2
  have valueSkipped : ∀ value : String,
      Skipped Combinator.symbols (escape valueSpecials value.toList) := fun value =>
    skipped_escape (forall_mem_of_all (by decide)) (by decide) _
  cases item with
  | universal => exact sign (by decide) (by decide)
  | element name => exact valueSkipped name
  | id value =>
    exact (sign (show '#' ∈ signChars by decide) (by decide)).append (valueSkipped value)
  | role value =>
    exact (sign (show '$' ∈ signChars by decide) (by decide)).append (valueSkipped value)
  | className value =>
    exact (sign (show '.' ∈ signChars by decide) (by decide)).append (valueSkipped value)
  | path value =>
    exact (sign (show '/' ∈ signChars by decide) (by decide)).append
      (Path.skipped_body (forall_mem_of_all (by decide)) (by decide) value)
  | attributeTest test =>
    exact skipped_bracketed (by decide) (by decide) (by decide) (by decide) (by decide)
      (Attribute.settled_body shaped) (Attribute.skipped_body shaped)
  | pseudo change =>
    exact (sign (show ':' ∈ signChars by decide) (by decide)).append
      (Pseudo.skipped_body (forall_mem_of_all (by decide)) (by decide) change)

/-- The characters that end the token of an item: a path goes on until an attribute or pseudo
selector, any other item until a sign. -/
def stops (item : Simple) : List Char := if item.kind = .path then ['[', ':'] else signChars

/-- No blank ends the token of an item. -/
theorem isBlank_of_mem_stops (item : Simple) : ∀ stop ∈ item.stops, isBlank stop = false := by
  rw [stops]
  split <;> exact forall_mem_of_all (by decide)

/-- The search for the end of an item's token steps over what follows the first character of the
item. An attribute selector is not searched: it ends in its bracket. -/
theorem exists_skipped_stops {item : Simple} (shaped : item.isShaped = true)
    (searched : item.kind ≠ .attributeTest) :
    ∃ head body, item.chars = head :: body ∧ kindOf? head = some item.kind ∧
      head ≠ escapeMark ∧ Skipped item.stops body := by
  obtain ⟨head, body, split, kind, _, _, plain⟩ := exists_head_chars shaped
  refine ⟨head, body, split, kind, plain, ?_⟩
  have valueSkipped : ∀ text : List Char, Skipped signChars (escape valueSpecials text) :=
    fun text => skipped_escape (forall_mem_of_all (by decide)) (by decide) _
  cases item with
  | universal =>
    obtain ⟨rfl, rfl⟩ := List.cons.inj split
    exact skipped_nil signChars
  | element name =>
    obtain ⟨first, rest, _, _, written⟩ := exists_elementChars shaped
    obtain ⟨rfl, rfl⟩ := List.cons.inj (split.symm.trans written)
    exact valueSkipped rest
  | id value | role value | className value =>
    obtain ⟨rfl, rfl⟩ := List.cons.inj split
    exact valueSkipped value.toList
  | path value =>
    obtain ⟨rfl, rfl⟩ := List.cons.inj split
    have skipped : Skipped ['[', ':'] value.body :=
      Path.skipped_body (forall_mem_of_all (by decide)) (by decide) value
    exact skipped
  | attributeTest test => exact absurd rfl searched
  | pseudo change =>
    obtain ⟨rfl, rfl⟩ := List.cons.inj split
    have skipped : Skipped signChars change.body :=
      Pseudo.skipped_body (forall_mem_of_all (by decide)) (by decide) change
    exact skipped

/-- The token of an item with blanks behind it. They belong to the token, unless that ends in the
bracket of an attribute selector. -/
def token (item : Simple) (run : List Char) : List Char :=
  if item.kind = .attributeTest then item.chars else item.chars ++ run

/-- What the token of an item leaves of the blanks behind it are blanks. -/
theorem exists_token_append (item : Simple) {run : List Char}
    (blank : ∀ value ∈ run, isBlank value = true) :
    ∃ left, item.chars ++ run = item.token run ++ left ∧ ∀ value ∈ left, isBlank value = true := by
  rw [token]
  split
  · exact ⟨run, rfl, blank⟩
  · exact ⟨[], (List.append_nil _).symm, List.forall_mem_nil _⟩

/-- Nothing in the token of an item escapes what follows it. -/
theorem settled_token {item : Simple} (shaped : item.isShaped = true) {run : List Char}
    (blank : ∀ value ∈ run, isBlank value = true) : Settled (item.token run) := by
  have settled := settled_chars shaped
  rw [token]
  split
  · exact settled
  · exact settled.append (settled_blanks blank)

/-- The token of an item ends behind the blanks that follow it, or in its bracket, when an item
that may come next or nothing stands there. -/
theorem tokenTail_token {item : Simple} (shaped : item.isShaped = true) {run follow : List Char}
    (blank : ∀ value ∈ run, isBlank value = true)
    (stopped : ∀ first ∈ follow.head?, first ∈ item.stops) :
    ∃ cell cells, link (marks (item.chars ++ run ++ follow)) = cell :: cells ∧
      (item.token run).length = Sequence.tokenTail cell cells + 1 := by
  by_cases bracketed : item.kind = .attributeTest
  · cases item with
    | attributeTest test =>
      have kind : kindOf? '[' = some .attributeTest := kindOf?_sign (by decide)
      have reach := reachOf_bracket (show closerOf? '[' = some ']' by decide) (by decide)
        (by decide) (Attribute.skipped_body shaped) (run ++ follow)
      have written : (attributeTest test).chars ++ run ++ follow =
          '[' :: (test.body ++ ']' :: (run ++ follow)) := by simp [chars, Attribute.chars]
      rw [written, marks_cons (by decide), link_cons]
      refine ⟨_, _, rfl, ?_⟩
      rw [token, if_pos bracketed, Sequence.tokenTail, kind]
      simp [chars, Attribute.chars, reach]
    | _ => cases bracketed
  · obtain ⟨head, body, split, kind, plain, skipped⟩ := exists_skipped_stops shaped bracketed
    have visible := isBlank_of_mem_stops item
    have others : ∀ value ∈ run, value ∉ item.stops := by
      intro value member stop
      have space := blank value member
      rw [visible value stop] at space
      cases space
    have unsought : escapeMark ∉ item.stops := by
      rw [stops]
      split <;> decide
    have search := (skipped.append (skipped_blanks blank others)).findTarget_getD unsought stopped
    have written : item.chars ++ run ++ follow = head :: (body ++ run ++ follow) := by simp [split]
    rw [written, marks_cons plain, link_cons]
    refine ⟨_, _, rfl, ?_⟩
    rw [token, if_neg bracketed, split, List.cons_append, List.length_cons, ← search,
      Sequence.tokenTail, kind]
    cases item with
    | attributeTest test => exact absurd rfl bracketed
    | _ => rfl

end Simple

namespace Sequence

/-! ## The order of items -/

/-- Whether an item may stand right after another one. -/
def mayFollow (before item : Simple) : Bool :=
  !item.kind.isLeading && (before.kind != .path || item.kind.followsPath)

/-- Whether every item but the first may stand right after the one before it. -/
def isOrdered : List Simple → Bool
  | first :: next :: rest => mayFollow first next && isOrdered (next :: rest)
  | _ => true

/-- Whether items are in order depends on their kinds alone. -/
theorem isOrdered_eq_of_kinds {items others : List Simple}
    (same : items.map Simple.kind = others.map Simple.kind) :
    isOrdered items = isOrdered others := by
  induction items generalizing others with
  | nil =>
    obtain rfl := List.map_eq_nil_iff.1 same.symm
    rfl
  | cons item rest hypothesis =>
    cases others with
    | nil => cases same
    | cons other otherRest =>
      obtain ⟨kind, kinds⟩ := List.cons.inj same
      have later := hypothesis kinds
      cases rest with
      | nil =>
        obtain rfl := List.map_eq_nil_iff.1 kinds.symm
        rfl
      | cons next more =>
        cases otherRest with
        | nil => cases kinds
        | cons otherNext otherMore =>
          have nextKind : next.kind = otherNext.kind := (List.cons.inj kinds).1
          rw [isOrdered, isOrdered, later, mayFollow, mayFollow, kind, nextKind]

/-- An item can be added after another one exactly if it may follow it. -/
theorem append_after (front : List Simple) (last item : Simple) :
    (mayFollow last item = true → append ⟨front ++ [last]⟩ item = .ok ⟨front ++ [last] ++ [item]⟩) ∧
      (∀ sequence, append ⟨front ++ [last]⟩ item = .ok sequence → mayFollow last item = true) := by
  have nonempty : (front ++ [last]).isEmpty = false := by simp
  rw [append, nonempty, List.getLast?_concat, mayFollow]
  simp only [Bool.not_false, Bool.and_true, Option.any_some]
  cases item.kind.isLeading <;> cases item.kind.followsPath <;>
    cases path : last.kind == .path <;> simp_all

/-- Items are added one by one after another one exactly if they are in order. -/
theorem foldlM_append_iff (front : List Simple) (last : Simple) (items : List Simple)
    (sequence : Sequence) :
    items.foldlM append ⟨front ++ [last]⟩ = .ok sequence ↔
      sequence = ⟨front ++ last :: items⟩ ∧ isOrdered (last :: items) = true := by
  induction items generalizing front last with
  | nil =>
    rw [List.foldlM_nil]
    constructor
    · intro same
      exact ⟨(Except.ok.inj same).symm, rfl⟩
    · rintro ⟨rfl, _⟩
      rfl
  | cons item rest hypothesis =>
    obtain ⟨added, allowed⟩ := append_after front last item
    rw [List.foldlM_cons, isOrdered, Bool.and_eq_true]
    by_cases follows : mayFollow last item = true
    · rw [added follows]
      have later := hypothesis (front ++ [last]) item
      rw [List.append_assoc front [last] (item :: rest), List.singleton_append] at later
      change rest.foldlM append ⟨front ++ [last] ++ [item]⟩ = .ok sequence ↔ _
      simpa only [follows, true_and] using later
    · cases refused : append ⟨front ++ [last]⟩ item with
      | error error =>
        constructor
        · intro same
          cases same
        · rintro ⟨_, follows', _⟩
          exact absurd follows' follows
      | ok sequence => exact absurd (allowed sequence refused) follows

/-- Items make up a sequence exactly if they are in order. -/
theorem ofItems_eq_ok_iff (items : List Simple) (sequence : Sequence) :
    ofItems items = .ok sequence ↔ sequence = ⟨items⟩ ∧ isOrdered items = true := by
  cases items with
  | nil =>
    constructor
    · intro same
      exact ⟨(Except.ok.inj same).symm, rfl⟩
    · rintro ⟨rfl, _⟩
      rfl
  | cons first rest =>
    have start : append empty first = .ok ⟨[] ++ [first]⟩ := by
      simp [append, empty]
    rw [ofItems, List.foldlM_cons, start]
    exact foldlM_append_iff [] first rest sequence

/-! ## Tokens -/

/-- The first character of an item ends the token of one that it may follow. -/
theorem head_mem_stops {before item : Simple} (follows : mayFollow before item = true)
    {head : Char} (kind : Simple.kindOf? head = some item.kind) : head ∈ before.stops := by
  obtain ⟨inner, behindPath⟩ := Bool.and_eq_true _ _ ▸ follows
  rw [Simple.kindOf?] at kind
  split at kind
  · rw [← Option.some.inj kind] at inner
    cases inner
  · have member : (head, item.kind) ∈ Simple.signs := by
      obtain ⟨front, back, split, _⟩ := List.lookup_eq_some_iff.1 kind
      rw [split]
      exact List.mem_append_right _ (List.mem_cons_self ..)
    have all : ∀ pair ∈ Simple.signs, pair.2.followsPath = true → pair.1 ∈ ['[', ':'] := by decide
    rw [Simple.stops]
    by_cases path : before.kind = .path
    · rw [if_pos path]
      rw [path] at behindPath
      exact all _ member behindPath
    · rw [if_neg path]
      exact List.mem_map_of_mem member

/-- One round of cutting, without the proofs that it ends. -/
theorem tokens_eq (cells : List Cell) :
    tokens cells =
      match afterBlanks cells with
      | [] => []
      | first :: rest =>
        (first.char :: cellChars (rest.take (tokenTail first rest))) ::
          tokens (rest.drop (tokenTail first rest)) := by
  rw [tokens]
  split
  · rename_i start
    rw [start]
  · rename_i first rest start
    rw [start]

/-- Items in order stay so without the first one. -/
theorem isOrdered_tail {item : Simple} {rest : List Simple}
    (ordered : isOrdered (item :: rest) = true) : isOrdered rest = true := by
  cases rest with
  | nil => rfl
  | cons next others => exact (Bool.and_eq_true _ _ ▸ ordered).2

/-- Blanks before the first token are left out. -/
theorem tokens_run {run : List Char} (blank : ∀ value ∈ run, isBlank value = true)
    (text : List Char) : tokens (link (marks (run ++ text))) = tokens (link (marks text)) := by
  rw [tokens_eq, tokens_eq (link (marks text)), afterBlanks_run blank]

/-- The text of items, each with what stands behind it. -/
def charsOfParts (parts : List (Simple × List Char)) : List Char :=
  parts.flatMap fun part => part.1.chars ++ part.2

/-- Items with nothing behind them are written one after the other. -/
theorem charsOfParts_bare (items : List Simple) :
    charsOfParts (items.map fun item => (item, [])) = items.flatMap Simple.chars := by
  simp [charsOfParts, List.flatMap_map]

/-- Nothing in items with blanks behind them escapes what follows it. -/
theorem settled_charsOfParts {parts : List (Simple × List Char)}
    (shaped : ∀ part ∈ parts, part.1.isShaped = true)
    (blank : ∀ part ∈ parts, ∀ value ∈ part.2, isBlank value = true) :
    Settled (charsOfParts parts) := by
  induction parts with
  | nil => exact settled_nil
  | cons part rest hypothesis =>
    obtain ⟨itemShaped, restShaped⟩ := List.forall_mem_cons.1 shaped
    obtain ⟨runBlank, restBlank⟩ := List.forall_mem_cons.1 blank
    have written : Settled (part.1.chars ++ part.2) :=
      (Simple.settled_chars itemShaped).append (settled_blanks runBlank)
    exact written.append (hypothesis restShaped restBlank)

/-- Items with anything behind them start with no blank. -/
theorem isBlank_head_charsOfParts {parts : List (Simple × List Char)}
    (shaped : ∀ part ∈ parts, part.1.isShaped = true) :
    ∀ first ∈ (charsOfParts parts).head?, isBlank first = false := by
  cases parts with
  | nil => simp [charsOfParts]
  | cons part rest =>
    obtain ⟨head, body, written, _, visible, _⟩ :=
      Simple.exists_head_chars (shaped part (List.mem_cons_self ..))
    rw [charsOfParts, List.flatMap_cons, written]
    simpa using visible

/-- Items with blanks behind all but the last do not end in an unescaped blank. -/
theorem firm_charsOfParts {front : List (Simple × List Char)} {last : Simple}
    (shaped : ∀ part ∈ front ++ [(last, [])], part.1.isShaped = true)
    (blank : ∀ part ∈ front, ∀ value ∈ part.2, isBlank value = true) :
    Firm (charsOfParts (front ++ [(last, [])])) := by
  obtain ⟨frontShaped, lastShaped⟩ := List.forall_mem_append.1 shaped
  have lastFirm := Simple.firm_chars (lastShaped _ (List.mem_singleton_self _))
  obtain ⟨head, body, written, _⟩ :=
    Simple.exists_head_chars (lastShaped _ (List.mem_singleton_self _))
  have joined : charsOfParts (front ++ [(last, [])]) = charsOfParts front ++ last.chars := by
    simp [charsOfParts]
  rw [joined]
  exact Firm.append (settled_charsOfParts frontShaped blank) (by simp [written]) lastFirm

/-- Items with blanks behind all but the last are searched as they stand. -/
theorem cellsOf_charsOfParts {front : List (Simple × List Char)} {last : Simple}
    (shaped : ∀ part ∈ front ++ [(last, [])], part.1.isShaped = true)
    (blank : ∀ part ∈ front, ∀ value ∈ part.2, isBlank value = true) :
    cellsOf (charsOfParts (front ++ [(last, [])])) =
      link (marks (charsOfParts (front ++ [(last, [])]))) :=
  cellsOf_of_firm (isBlank_head_charsOfParts shaped) (firm_charsOfParts shaped blank)

/-- The text of the items behind another one ends the token of that one. -/
theorem mem_stops_of_head? {item : Simple} {rest : List (Simple × List Char)}
    (ordered : isOrdered (item :: rest.map Prod.fst) = true)
    (shaped : ∀ part ∈ rest, part.1.isShaped = true) :
    ∀ first ∈ (charsOfParts rest).head?, first ∈ item.stops := by
  cases rest with
  | nil => simp [charsOfParts]
  | cons next others =>
    obtain ⟨head, body, split, kind, _⟩ :=
      Simple.exists_head_chars (shaped next (List.mem_cons_self ..))
    have follows : mayFollow item next.1 = true := (Bool.and_eq_true _ _ ▸ ordered).1
    rw [charsOfParts, List.flatMap_cons, split]
    intro first starts
    obtain rfl : head = first := by simpa using starts
    exact head_mem_stops follows kind

/-- The tokens of items in order with blanks behind them. -/
theorem tokens_charsOfParts {parts : List (Simple × List Char)}
    (ordered : isOrdered (parts.map Prod.fst) = true)
    (shaped : ∀ part ∈ parts, part.1.isShaped = true)
    (blank : ∀ part ∈ parts, ∀ value ∈ part.2, isBlank value = true) :
    tokens (link (marks (charsOfParts parts))) = parts.map fun part => part.1.token part.2 := by
  induction parts with
  | nil => rw [tokens_eq]; rfl
  | cons part rest hypothesis =>
    obtain ⟨item, run⟩ := part
    obtain ⟨itemShaped, restShaped⟩ := List.forall_mem_cons.1 shaped
    obtain ⟨runBlank, restBlank⟩ := List.forall_mem_cons.1 blank
    have later := hypothesis (isOrdered_tail ordered) restShaped restBlank
    have stopped := mem_stops_of_head? ordered restShaped
    obtain ⟨cell, cells, start, length⟩ := Simple.tokenTail_token itemShaped runBlank stopped
    obtain ⟨left, split, leftBlank⟩ := item.exists_token_append runBlank
    have blankless : afterBlanks (cell :: cells) = cell :: cells := by
      obtain ⟨head, body, written, _, visible, _⟩ := Simple.exists_head_chars itemShaped
      rw [← start]
      refine afterBlanks_of_visible ?_
      rw [written]
      simpa using visible
    have front := cellChars_take_link_marks (item.token run) (left ++ charsOfParts rest)
    have back := drop_link_marks (Simple.settled_token itemShaped runBlank)
      (left ++ charsOfParts rest)
    rw [← List.append_assoc, ← split, start, length, List.take_succ_cons] at front
    rw [← List.append_assoc, ← split, start, length, List.drop_succ_cons] at back
    change cell.char :: cellChars _ = _ at front
    change tokens (link (marks (item.chars ++ run ++ charsOfParts rest))) = _
    rw [start, tokens_eq, blankless]
    simp only [front, back, tokens_run leftBlank, later, List.map_cons]

/-- The texts of items in order are their tokens. -/
theorem tokens_chars {items : List Simple} (ordered : isOrdered items = true)
    (shaped : ∀ item ∈ items, item.isShaped = true) :
    tokens (link (marks (items.flatMap Simple.chars))) = items.map Simple.chars := by
  have first : (items.map fun item => (item, ([] : List Char))).map Prod.fst = items := by
    simp [Function.comp_def]
  have whole : ∀ item : Simple, item.token [] = item.chars := by
    intro item
    rw [Simple.token, List.append_nil, ite_self]
  rw [← first] at ordered
  rw [← charsOfParts_bare, tokens_charsOfParts ordered (by simpa using shaped) (by simp),
    List.map_map]
  exact List.map_congr_left fun item _ => whole item

/-! ## Sequences that a reading can yield -/

/-- A sequence that a reading can yield: it has items, they are added by the rules, and each is
one that a reading can yield. -/
structure Shaped (sequence : Sequence) : Prop where
  /-- There is an item. -/
  nonempty : sequence.items ≠ []
  /-- The rules of structure allow the items one after the other. -/
  built : ofItems sequence.items = .ok sequence
  /-- Each item is one that a reading can yield. -/
  items : ∀ item ∈ sequence.items, item.isShaped = true

/-- Whether every item is restorable. -/
def isRestorable (sequence : Sequence) : Bool := sequence.items.all Simple.isRestorable

/-- The items are in order. -/
theorem Shaped.ordered {sequence : Sequence} (shaped : sequence.Shaped) :
    isOrdered sequence.items = true :=
  ((ofItems_eq_ok_iff sequence.items sequence).1 shaped.built).2

/-- What holds of the text of every item and can be joined holds of the text of a sequence. -/
theorem chars_induction {holds : List Char → Prop} (nil : holds [])
    (append : ∀ {front back : List Char}, holds front → holds back → holds (front ++ back))
    {sequence : Sequence} (all : ∀ item ∈ sequence.items, holds item.chars) :
    holds sequence.chars := by
  obtain ⟨items⟩ := sequence
  rw [chars]
  induction items with
  | nil => exact nil
  | cons item rest hypothesis =>
    exact append (all item (List.mem_cons_self ..))
      (hypothesis fun other member => all other (List.mem_cons_of_mem _ member))

/-- Nothing in a sequence escapes what follows it. -/
theorem Shaped.settled_chars {sequence : Sequence} (shaped : sequence.Shaped) :
    Settled sequence.chars :=
  chars_induction settled_nil Settled.append fun item member =>
    Simple.settled_chars (shaped.items item member)

/-- A sequence hides what it holds from the search for combinators. -/
theorem Shaped.skipped_chars {sequence : Sequence} (shaped : sequence.Shaped) :
    Skipped Combinator.symbols sequence.chars :=
  chars_induction (skipped_nil _) Skipped.append fun item member =>
    Simple.skipped_chars (shaped.items item member)

/-- The text of a sequence starts with a character that is no blank and no combinator. -/
theorem Shaped.exists_head_chars {sequence : Sequence} (shaped : sequence.Shaped) :
    ∃ head rest, sequence.chars = head :: rest ∧ isBlank head = false ∧
      head ∉ Combinator.symbols := by
  obtain ⟨item, others, split⟩ := List.exists_cons_of_ne_nil shaped.nonempty
  obtain ⟨head, body, written, _, visible, other, _⟩ :=
    Simple.exists_head_chars (shaped.items item (by simp [split]))
  refine ⟨head, body ++ others.flatMap Simple.chars, ?_, visible, other⟩
  rw [chars, split, List.flatMap_cons, written]
  rfl

/-- A sequence does not end in an unescaped blank. -/
theorem Shaped.firm_chars {sequence : Sequence} (shaped : sequence.Shaped) :
    Firm sequence.chars := by
  obtain ⟨front, last, split⟩ :=
    (List.eq_nil_or_concat sequence.items).resolve_left shaped.nonempty
  rw [List.concat_eq_append] at split
  have itemsShaped := shaped.items
  rw [split] at itemsShaped
  have written : sequence.chars =
      charsOfParts ((front.map fun item => (item, [])) ++ [(last, [])]) := by
    rw [chars, split, ← charsOfParts_bare, List.map_append]
    rfl
  rw [written]
  apply firm_charsOfParts
  · simpa [or_imp, forall_and] using itemsShaped
  · simp

/-- The text of a sequence is searched as it stands. -/
theorem Shaped.cellsOf_chars {sequence : Sequence} (shaped : sequence.Shaped) :
    cellsOf sequence.chars = link (marks sequence.chars) := by
  obtain ⟨head, rest, split, visible, _⟩ := shaped.exists_head_chars
  refine cellsOf_of_firm ?_ shaped.firm_chars
  rw [split]
  simpa using visible

/-! ## Reading back -/

/-- A token is added exactly if it is read and the item that is read can be added. -/
theorem appendToken_eq_ok_iff (sequence : Sequence) (token : List Char) (next : Sequence) :
    appendToken sequence token = .ok next ↔
      ∃ item, Simple.parse token = .ok item ∧ sequence.append item = .ok next := by
  rw [appendToken, bind_eq_ok_iff]
  simp only [mapError_eq_ok_iff]

/-- Tokens make up a sequence exactly if each of them is read and the items that are read can be
added one by one. -/
theorem foldlM_appendToken_iff (tokens : List (List Char)) (before sequence : Sequence) :
    tokens.foldlM appendToken before = .ok sequence ↔
      ∃ items : List Simple, tokens.map Simple.parse = items.map .ok ∧
        items.foldlM append before = .ok sequence := by
  induction tokens generalizing before with
  | nil =>
    constructor
    · intro same
      cases same
      exact ⟨[], rfl, rfl⟩
    · rintro ⟨items, read, same⟩
      obtain rfl : items = [] := List.map_eq_nil_iff.1 read.symm
      cases same
      rfl
  | cons token rest hypothesis =>
    rw [List.foldlM_cons, bind_eq_ok_iff]
    constructor
    · rintro ⟨next, added, later⟩
      obtain ⟨item, read, appended⟩ := (appendToken_eq_ok_iff before token next).1 added
      obtain ⟨items, readLater, built⟩ := (hypothesis next).1 later
      refine ⟨item :: items, by rw [List.map_cons, read, readLater, List.map_cons], ?_⟩
      rw [List.foldlM_cons, bind_eq_ok_iff]
      exact ⟨next, appended, built⟩
    · rintro ⟨items, read, built⟩
      cases items with
      | nil => cases read
      | cons item items =>
        obtain ⟨first, readLater⟩ := List.cons.inj read
        rw [List.foldlM_cons, bind_eq_ok_iff] at built
        obtain ⟨next, appended, later⟩ := built
        exact ⟨next, (appendToken_eq_ok_iff before token next).2 ⟨item, first, appended⟩,
          (hypothesis next).2 ⟨items, readLater, later⟩⟩

/-- What is read from the text of a sequence is made of what is read from the texts of its
items. -/
theorem Shaped.parse_chars_eq_ok_iff {sequence : Sequence} (shaped : sequence.Shaped)
    (other : Sequence) :
    parse sequence.chars = .ok other ↔
      ∃ items : List Simple, (sequence.items.map Simple.chars).map Simple.parse = items.map .ok ∧
        ofItems items = .ok other := by
  rw [parse, shaped.cellsOf_chars, chars, tokens_chars shaped.ordered shaped.items]
  exact foldlM_appendToken_iff _ empty other

/-- A sequence that a reading can yield is read back if all its items are restorable. -/
theorem Shaped.parse_chars {sequence : Sequence} (shaped : sequence.Shaped)
    (restorable : sequence.isRestorable = true) : parse sequence.chars = .ok sequence := by
  refine (shaped.parse_chars_eq_ok_iff sequence).2 ⟨sequence.items, ?_, shaped.built⟩
  rw [List.map_map]
  refine List.map_congr_left fun item member => ?_
  exact Simple.parse_chars (shaped.items item member) (List.all_eq_true.1 restorable item member)

/-- Items are restorable when others that agree with them are read from their texts. -/
theorem restorable_of_parse_items {items others : List Simple}
    (shaped : ∀ item ∈ items, item.isShaped = true)
    (read : (items.map Simple.chars).map Simple.parse = others.map .ok)
    (agree : (others.zip items).all (fun (one, other) => one.agrees other) = true) :
    items.all Simple.isRestorable = true := by
  induction items generalizing others with
  | nil => rfl
  | cons item rest hypothesis =>
    cases others with
    | nil => cases read
    | cons other later =>
      obtain ⟨first, readLater⟩ := List.cons.inj read
      rw [List.zip_cons_cons, List.all_cons, Bool.and_eq_true] at agree
      have itemShaped := shaped item (List.mem_cons_self ..)
      rw [List.all_cons, Simple.restorable_of_parse_chars itemShaped first agree.1,
        hypothesis (fun member inside => shaped member (List.mem_cons_of_mem _ inside)) readLater
          agree.2]
      rfl

/-- A sequence with an item that is not restorable is refused or read as one that does not agree
with it. -/
theorem Shaped.restorable_of_parse_chars {sequence other : Sequence} (shaped : sequence.Shaped)
    (read : parse sequence.chars = .ok other) (agree : other.agrees sequence = true) :
    sequence.isRestorable = true := by
  obtain ⟨items, readItems, built⟩ := (shaped.parse_chars_eq_ok_iff other).1 read
  obtain rfl := ((ofItems_eq_ok_iff items other).1 built).1
  exact restorable_of_parse_items shaped.items readItems (Bool.and_eq_true _ _ ▸ agree).2

/-- Items that a reading can yield agree with themselves. -/
theorem agrees_self_of_items {items : List Simple}
    (shaped : ∀ item ∈ items, item.isShaped = true) :
    (items.zip items).all (fun (one, other) => one.agrees other) = true := by
  induction items with
  | nil => rfl
  | cons item rest hypothesis =>
    have later := hypothesis fun other member => shaped other (List.mem_cons_of_mem _ member)
    rw [List.zip_cons_cons, List.all_cons, later]
    simp only [Bool.and_true]
    exact Simple.agrees_self (shaped item (List.mem_cons_self ..))

/-- A sequence that a reading can yield agrees with itself. -/
theorem Shaped.agrees_self {sequence : Sequence} (shaped : sequence.Shaped) :
    sequence.agrees sequence = true := by
  rw [agrees, beq_self_eq_true, Bool.true_and]
  exact agrees_self_of_items shaped.items

end Sequence

end NodeQuery
