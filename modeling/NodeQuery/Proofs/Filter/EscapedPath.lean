import NodeQuery.Proofs.Filter.Expression
import NodeQuery.Proofs.Selector.Reader

/-!
# Paths of escaped segments

A path can be written with a backslash before every character of its segments that might have a
meaning. Such a text is one path selector: nothing in it ends a segment, a token or a sequence,
its first segment is no root, and the segments are read as they were. So it does not matter what
the segments are, with one exception. Whether a segment is a root is decided before backslashes
are removed, but whether it is a wildcard only afterwards, so a segment that is a star is a
wildcard in spite of its backslash.

Main statement: `Filter.compile_escapedChars_iff`.
-/

namespace NodeQuery

open Text

namespace Text

/-- What ends firmly still does so behind what ends firmly. -/
theorem Firm.append_of_firm {front back : List Char} (settled : Settled front) (first : Firm front)
    (firm : Firm back) : Firm (front ++ back) := by
  by_cases nothing : back = []
  · rw [nothing, List.append_nil]
    exact first
  · exact Firm.append settled nothing firm

end Text

namespace Path

/-- The characters that may have a meaning in the text of a path: blanks, combinators, separators,
brackets, quotes, wildcards, and the signs of roots and of pseudo selectors. -/
def meaningful : List Char :=
  blanks ++ ['>', '+', '~', '/', '[', ']', '(', ')', '\x7b', '\x7d', '"', '\'', '*', '#', '$', ':']

/-- Escaped segments, each behind a separator. -/
def escapedChars (specials : List Char) (segments : List String) : List Char :=
  segments.flatMap fun segment => separator :: escape specials segment.toList

variable {specials : List Char}

/-! ## Searches -/

/-- Nothing in escaped segments escapes what follows them. -/
theorem settled_escapedChars (segments : List String) :
    Settled (escapedChars specials segments) := by
  induction segments with
  | nil => exact settled_nil
  | cons segment rest hypothesis =>
    have plain : separator ≠ escapeMark := by decide
    exact ((settled_char plain).append (settled_escape _ _)).append hypothesis

variable (guarded : ∀ value ∈ meaningful, value ∈ specials)
include guarded

/-- An escaped segment is stepped over by the searches for characters with a meaning. -/
theorem skipped_escaped {targets : List Char} (sought : ∀ value ∈ targets, value ∈ meaningful)
    (text : List Char) : Skipped targets (escape specials text) := by
  have openersGuarded : ∀ value ∈ openers, value ∈ meaningful := forall_mem_of_all (by decide)
  refine skipped_escape (fun value member => guarded value ?_) (fun target => ?_) text
  · exact (List.mem_append.1 member).elim (sought value) (openersGuarded value)
  · exact absurd (sought escapeMark target) (by decide)

/-- Escaped segments are stepped over by the searches for other characters than the separator. -/
theorem skipped_escapedChars {targets : List Char} (sought : ∀ value ∈ targets, value ∈ meaningful)
    (other : separator ∉ targets) (segments : List String) :
    Skipped targets (escapedChars specials segments) := by
  induction segments with
  | nil => exact skipped_nil targets
  | cons segment rest hypothesis =>
    have front : Skipped targets [separator] := skipped_char (by decide) (by decide) other
    exact (front.append (skipped_escaped guarded sought segment.toList)).append hypothesis

/-- Every blank is escaped. -/
theorem mem_specials_of_isBlank (value : Char) (blank : isBlank value = true) :
    value ∈ specials :=
  guarded value (List.mem_append_left _ (List.contains_iff_mem.1 blank))

/-- Escaped segments do not end in an unescaped blank. -/
theorem firm_escapedChars (segments : List String) : Firm (escapedChars specials segments) := by
  induction segments with
  | nil => exact firm_of_visible (List.forall_mem_nil _)
  | cons segment rest hypothesis =>
    have plain : separator ≠ escapeMark := by decide
    have settled : Settled ([separator] ++ escape specials segment.toList) :=
      (settled_char plain).append (settled_escape _ _)
    have firm : Firm ([separator] ++ escape specials segment.toList) :=
      Firm.append_of_firm (settled_char plain) (firm_char (by decide))
        (firm_escape (mem_specials_of_isBlank guarded) _)
    exact Firm.append_of_firm settled firm hypothesis

/-! ## Reading -/

/-- An escaped segment that is not empty is no root. -/
theorem parse?_escaped {first : String} (written : first ≠ "") :
    Root.parse? (escape specials first.toList) = none := by
  have signs : '#' ∈ specials ∧ '$' ∈ specials :=
    ⟨guarded '#' (by decide), guarded '$' (by decide)⟩
  obtain ⟨head, others, split⟩ :=
    List.exists_cons_of_ne_nil fun nothing => written (String.toList_eq_nil_iff.1 nothing)
  rw [split, escape_cons]
  -- a sign of a root comes behind a backslash, so it is not the first character
  by_cases special : head = escapeMark ∨ head ∈ specials
  · rw [escapedChar_special special]
    rfl
  · have number : head ≠ '#' := fun same => special (Or.inr (same ▸ signs.1))
    have dollar : head ≠ '$' := fun same => special (Or.inr (same ▸ signs.2))
    rw [escapedChar_plain special, List.singleton_append, Root.parse?]
    · intro body same
      exact number (List.cons.inj same).1
    · intro body same
      exact dollar (List.cons.inj same).1

/-- Escaped segments, of which the first is not empty, are read as they were. -/
theorem parse_escaped {first : String} (written : first ≠ "") (rest : List String) :
    parse (escape specials first.toList ++ escapedChars specials rest) =
      .ok (ofSegments (first :: rest)) := by
  have blanksGuarded := mem_specials_of_isBlank guarded
  have nonempty : escape specials first.toList ≠ [] :=
    escape_ne_nil specials fun nothing => written (String.toList_eq_nil_iff.1 nothing)
  obtain ⟨head, others, split⟩ := List.exists_cons_of_ne_nil nonempty
  have firm : Firm (escape specials first.toList ++ escapedChars specials rest) :=
    Firm.append_of_firm (settled_escape _ _) (firm_escape blanksGuarded _)
      (firm_escapedChars guarded rest)
  have visible : ∀ value ∈ (escape specials first.toList ++ escapedChars specials rest).head?,
      isBlank value = false := by
    have start := isBlank_head_escape blanksGuarded first.toList
    rw [split] at start ⊢
    exact start
  have joined : escapedChars specials rest =
      (rest.map fun segment => escape specials segment.toList).flatMap (separator :: ·) := by
    rw [List.flatMap_map]
    rfl
  have cut : pieces (cellsOf (escape specials first.toList ++ escapedChars specials rest)) =
      escape specials first.toList :: rest.map fun segment => escape specials segment.toList := by
    -- the separators within segments are escaped, so the text is cut only between them
    have separated : ∀ text, Skipped [separator] (escape specials text) :=
      skipped_escaped guarded (forall_mem_of_all (by decide))
    rw [cellsOf_of_firm visible firm, joined]
    refine pieces_separated (fun piece member => ?_) (fun piece member => ?_)
      (settled_escape _ _) (separated _)
    · obtain ⟨segment, _, rfl⟩ := List.mem_map.1 member
      exact settled_escape _ _
    · obtain ⟨segment, _, rfl⟩ := List.mem_map.1 member
      exact separated _
  have kept : dropEmptyFirst (escape specials first.toList ::
      rest.map fun segment => escape specials segment.toList) =
        escape specials first.toList :: rest.map fun segment => escape specials segment.toList := by
    rw [split]
    rfl
  have restored : (rest.map fun segment => escape specials segment.toList).map
      (fun piece => String.ofList (unescape piece)) = rest := by
    rw [List.map_map]
    refine List.map_id'' (fun segment => ?_) rest
    simp [unescape_escape]
  rw [parse, cut, kept, ofPieces, parse?_escaped guarded written]
  simp only [restored, unescape_escape, String.ofList_toList]
  rfl

end Path

namespace Selector

/-- A text that no combinator divides is read as one sequence. -/
theorem parse_of_body {text : List Char} (body : Body text) (firm : Firm text) :
    parse text = appendPiece empty (.joined none text) := by
  obtain ⟨head, others, written, visible, other⟩ := body.start
  have searched : cellsOf text = link (marks text) :=
    cellsOf_of_firm (by simpa [written] using visible) firm
  have lead := readLead_first others visible other
  rw [← written] at lead
  have shaped : ∀ pair ∈ ([] : List (Combinator × Sequence)), pair.2.Shaped :=
    List.forall_mem_nil _
  have cut : pieces true 0 (link (marks text)) = Selector.cut none text [] [] :=
    pieces_spacedChars body shaped .nil lead
  obtain ⟨cell, cells, split, _⟩ := exists_link_marks head others
  rw [parse, searched]
  rw [written, split] at cut ⊢
  simp only [cut, Selector.cut, List.foldlM_cons, List.foldlM_nil, bind_pure]

end Selector

namespace Sequence

/-- A path selector in whose body no attribute or pseudo selector starts is one token. -/
theorem tokens_path {body : List Char} (skipped : Skipped ['[', ':'] body) :
    tokens (link (marks (Path.separator :: body))) = [Path.separator :: body] := by
  have plain : Path.separator ≠ escapeMark := by decide
  have blankless : afterBlanks (link (marks (Path.separator :: body))) =
      link (marks (Path.separator :: body)) :=
    afterBlanks_of_visible fun first starts => by
      obtain rfl : Path.separator = first := Option.some.inj starts
      decide
  have kind : Simple.kindOf? Path.separator = some .path := Simple.kindOf?_sign (by decide)
  rw [tokens_eq, blankless, marks_cons plain, link_cons]
  simp only [tokenTail, kind, skipped.findTarget_eq_none, Option.getD_none, List.take_length,
    List.drop_length, cellChars_link_marks]
  rw [tokens_eq]
  rfl

end Sequence

namespace Selector

variable {specials : List Char} (guarded : ∀ value ∈ Path.meaningful, value ∈ specials)
include guarded

/-- Escaped segments, of which the first is not empty, are one path selector. -/
theorem parse_escapedChars {first : String} (written : first ≠ "") (rest : List String) :
    parse (Path.escapedChars specials (first :: rest)) =
      .ok (ofChain ⟨⟨[.path (.ofSegments (first :: rest))]⟩, []⟩) := by
  have firm := Path.firm_escapedChars guarded (first :: rest)
  have body : Body (Path.escapedChars specials (first :: rest)) :=
    { settled := Path.settled_escapedChars _
      skipped := Path.skipped_escapedChars guarded (forall_mem_of_all (by decide)) (by decide) _
      start := ⟨Path.separator, _, rfl, by decide, by decide⟩ }
  have opened : Path.escapedChars specials (first :: rest) = Path.separator ::
      (escape specials first.toList ++ Path.escapedChars specials rest) := rfl
  have sought : ∀ value ∈ ['[', ':'], value ∈ Path.meaningful := forall_mem_of_all (by decide)
  have skipped : Skipped ['[', ':']
      (escape specials first.toList ++ Path.escapedChars specials rest) :=
    (Path.skipped_escaped guarded sought _).append
      (Path.skipped_escapedChars guarded sought (by decide) rest)
  have kind : Simple.kindOf? Path.separator = some .path := Simple.kindOf?_sign (by decide)
  have item : Simple.parse (Path.escapedChars specials (first :: rest)) =
      .ok (.path (.ofSegments (first :: rest))) := by
    rw [opened, Simple.parse]
    simp only [kind, Path.parse_escaped guarded written]
    rfl
  have sequence : Sequence.parse (Path.escapedChars specials (first :: rest)) =
      .ok ⟨[.path (.ofSegments (first :: rest))]⟩ := by
    have searched : cellsOf (Path.escapedChars specials (first :: rest)) =
        link (marks (Path.escapedChars specials (first :: rest))) :=
      cellsOf_of_firm (fun value starts => by
        obtain rfl : Path.separator = value := Option.some.inj starts
        decide) firm
    rw [Sequence.parse, searched]
    rw [opened, Sequence.tokens_path skipped, ← opened, List.foldlM_cons, Sequence.appendToken,
      item]
    rfl
  rw [parse_of_body body firm, appendPiece_empty_iff]
  exact ⟨rfl, _, sequence, rfl⟩

end Selector

namespace Filter

open NodeQuery

/-- A path without a root puts the term of its segments on the field of paths, and nothing else is
changed. -/
theorem Listener.compile_ofSegments (listener : Listener) {field : String}
    (fielded : listener.config.pathField = some field) (segments : List String) (initial : Json) :
    listener.compile (.ofChain ⟨⟨[.path (.ofSegments segments)]⟩, []⟩) initial =
      .ok ((Change.setTerm field (segmentsTerm segments)).perform (prepare initial)) := by
  have reachable := Selector.reachable_ofChain ⟨⟨[.path (.ofSegments segments)]⟩, []⟩
  have plan : planOf listener.config listener.resolve (.path (.ofSegments segments)) =
      .changes [.setTerm field (segmentsTerm segments)] := by
    rw [planOf, fielded]
    rfl
  have changes : changesOf listener.config listener.resolve (.path (.ofSegments segments)) =
      [.setTerm field (segmentsTerm segments)] := by
    rw [changesOf, plan]
  refine (listener.compile_eq_ok_iff reachable initial _).2 ⟨?_, ?_⟩
  · exact List.forall_mem_singleton.2 ⟨_, plan⟩
  · show _ = performAll (changesOf listener.config listener.resolve _ ++ []) (prepare initial)
    rw [changes]
    rfl

/-- The term of segments is the plain path unless there is a wildcard among them. -/
theorem segmentsTerm_eq_plain_iff (segments : List String) :
    segmentsTerm segments = .string ("/" ++ "/".intercalate segments) ↔
      Path.wildcard ∉ segments := by
  rw [segmentsTerm, ← List.contains_iff_mem]
  split
  · rename_i wild
    constructor
    · intro same
      cases same
    · intro tame
      exact absurd wild tame
  · rename_i tame
    exact iff_of_true rfl tame

/-- Segments that are written with a backslash before every character with a meaning, the first of
them not empty, are read as one path without a root that has just these segments. The path has a
wildcard if and only if one of them is a star, and only then the term that is put on the field of
paths is no plain path. -/
theorem compile_escapedChars_iff {specials : List Char}
    (guarded : ∀ value ∈ Path.meaningful, value ∈ specials) {first : String} (written : first ≠ "")
    (rest : List String) :
    let segments := first :: rest
    let path := Path.ofSegments segments
    let selector := Selector.ofChain ⟨⟨[.path path]⟩, []⟩
    Selector.parse (Path.escapedChars specials segments) = .ok selector ∧
      (path.hasWildcard = true ↔ Path.wildcard ∈ segments) ∧
      ∀ (listener : Listener) (field : String), listener.config.pathField = some field →
        ∀ initial, ∃ document, listener.compile selector initial = .ok document ∧
          (Json.lookup field (terms document) =
              some (.string ("/" ++ "/".intercalate segments)) ↔ Path.wildcard ∉ segments) := by
  intro segments path selector
  refine ⟨Selector.parse_escapedChars guarded written rest, List.contains_iff_mem, ?_⟩
  intro listener field fielded initial
  refine ⟨_, listener.compile_ofSegments fielded segments initial, ?_⟩
  rw [Change.perform, terms_setTerms, Json.lookup_insert_self, Option.some.injEq,
    segmentsTerm_eq_plain_iff]

/-- Signs of roots, blanks and stars within a segment are part of it. -/
theorem compile_escapedChars_signs :
    let segments := ["#a b", "$c:d", "*e"]
    let selector := Selector.ofChain ⟨⟨[.path (.ofSegments segments)]⟩, []⟩
    Path.escapedChars Path.meaningful segments = "/\\#a\\ b/\\$c\\:d/\\*e".toList ∧
      Selector.parse (Path.escapedChars Path.meaningful segments) = .ok selector ∧
      ∃ document,
        (Listener.new .usual (fun _ => none) 0).compile selector (.object []) = .ok document ∧
          Json.lookup "path" (terms document) = some (.string "/#a b/$c:d/*e") := by
  intro segments selector
  have written : "#a b" ≠ "" := by decide
  obtain ⟨read, -, compiled⟩ :=
    compile_escapedChars_iff (fun _ member => member) written ["$c:d", "*e"]
  obtain ⟨document, built, plain⟩ :=
    compiled (.new .usual (fun _ => none) 0) "path" rfl (.object [])
  have joined : "/" ++ "/".intercalate segments = "/#a b/$c:d/*e" := by decide
  exact ⟨by decide, read, document, built, joined ▸ plain.2 (by decide)⟩

/-- A star that is written with a backslash is a wildcard all the same. -/
theorem not_compile_escapedChars_star :
    let segments := ["a", "*"]
    let path := Path.ofSegments segments
    let selector := Selector.ofChain ⟨⟨[.path path]⟩, []⟩
    let document : Json :=
      .object [("query", .object [("path", .object [("$regex", .string "^/a/.*$")])])]
    Path.escapedChars Path.meaningful segments = "/a/\\*".toList ∧
      Selector.parse "/a/\\*".toList = .ok selector ∧ path.hasWildcard = true ∧
      (Listener.new .usual (fun _ => none) 0).compile selector (.object []) = .ok document ∧
      Json.lookup "path" (terms document) ≠ some (.string "/a/*") := by
  intro segments path selector document
  have built : (Listener.new .usual (fun _ => none) 0).compile selector (.object []) =
      .ok document := by
    rw [Listener.compile_ofSegments _ rfl]
    exact congrArg _ (by decide +kernel)
  have text : Path.escapedChars Path.meaningful segments = "/a/\\*".toList := by decide
  have written : "a" ≠ "" := by decide
  have read := Selector.parse_escapedChars (fun _ member => member) written ["*"]
  exact ⟨text, text ▸ read, by decide, built, by decide +kernel⟩

end Filter

end NodeQuery
