import NodeQuery.Proofs.Text.Search
import NodeQuery.Selector.Path

/-!
# Canonical texts of path selectors

The root and the segments of a path are escaped for the separator, so that the body is cut
between them and nowhere else. A root without a value is no root, and a first segment that is
empty is left out: exactly the paths with neither are read back.

Main statements: `parse_body` and `restorable_of_parse_body`.
-/

namespace NodeQuery

open Text

/-- Every blank has a meaning inside a segment. -/
theorem mem_segmentSpecials_of_isBlank {value : Char} (blank : isBlank value = true) :
    value ∈ segmentSpecials :=
  List.mem_append_left _ (List.contains_iff_mem.1 blank)

/-- Every blank has a meaning inside a plain value. -/
theorem mem_valueSpecials_of_isBlank {value : Char} (blank : isBlank value = true) :
    value ∈ valueSpecials :=
  List.mem_append_left _ (List.contains_iff_mem.1 blank)

namespace Path

/-- Whether the root, if any, has a value, and otherwise the first segment, if any, has one. -/
def isRestorable (path : Path) : Bool :=
  match path.root with
  | some root => root.value != ""
  | none => path.segments.head?.all (· != "")

/-! ## Pieces -/

/-- One round of cutting, without the proofs that it ends. -/
theorem pieces_eq (cells : List Cell) :
    pieces cells =
      match findTarget [separator] cells with
      | none => [cellChars cells]
      | some length =>
        if length < cells.length then
          cellChars (cells.take length) :: pieces (cells.drop (length + 1))
        else [cellChars cells] := by
  rw [pieces]
  split
  · rename_i place
    rw [place]
  · rename_i length place
    rw [place]
    simp only [dite_eq_ite]

/-- A text without separators is one piece. -/
theorem pieces_last {text : List Char} (skipped : Skipped [separator] text) :
    pieces (link (marks text)) = [text] := by
  rw [pieces_eq, skipped.findTarget_eq_none]
  simp only [cellChars_link_marks]

/-- A text is cut at its first separator. -/
theorem pieces_cons {text : List Char} (settled : Settled text) (skipped : Skipped [separator] text)
    (rest : List Char) :
    pieces (link (marks (text ++ separator :: rest))) = text :: pieces (link (marks rest)) := by
  have plain : separator ≠ escapeMark := by decide
  have place := skipped.findTarget_eq_some plain (List.mem_singleton_self separator) rest
  have inside : text.length < (link (marks (text ++ separator :: rest))).length := by
    rw [link_length, marks_length, List.length_append, List.length_cons]
    omega
  have behind := drop_link_marks (settled.append (settled_char plain)) rest
  rw [List.length_append, List.length_singleton, List.append_assoc, List.singleton_append] at behind
  rw [pieces_eq, place]
  simp only [if_pos inside, cellChars_take_link_marks, behind]

/-- Texts that the search for separators steps over are cut between each other. -/
theorem pieces_separated {texts : List (List Char)} (settled : ∀ text ∈ texts, Settled text)
    (skipped : ∀ text ∈ texts, Skipped [separator] text) {front : List Char}
    (settledFront : Settled front) (skippedFront : Skipped [separator] front) :
    pieces (link (marks (front ++ texts.flatMap (separator :: ·)))) = front :: texts := by
  induction texts generalizing front with
  | nil => rw [List.flatMap_nil, List.append_nil, pieces_last skippedFront]
  | cons text rest hypothesis =>
    obtain ⟨settledText, settledRest⟩ := List.forall_mem_cons.1 settled
    obtain ⟨skippedText, skippedRest⟩ := List.forall_mem_cons.1 skipped
    rw [List.flatMap_cons, List.cons_append, pieces_cons settledFront skippedFront,
      hypothesis settledRest skippedRest settledText skippedText]

/-- The searches that step over a segment: those for nothing but special characters. -/
theorem skipped_segmentChars {targets : List Char}
    (guarded : ∀ value ∈ targets, value ∈ segmentSpecials) (segment : String) :
    Skipped targets (segmentChars segment) := by
  have openersGuarded : ∀ value ∈ openers, value ∈ segmentSpecials := forall_mem_of_all (by decide)
  refine skipped_escape (fun value member => ?_) (fun target => ?_) _
  · exact (List.mem_append.1 member).elim (guarded value) (openersGuarded value)
  · exact absurd (guarded escapeMark target) (by decide)

/-- Segments are cut between each other. -/
theorem pieces_tailChars {text : List Char} (settled : Settled text)
    (skipped : Skipped [separator] text) (segments : List String) :
    pieces (link (marks (text ++ tailChars segments))) = text :: segments.map segmentChars := by
  have separated : tailChars segments = (segments.map segmentChars).flatMap (separator :: ·) := by
    rw [List.flatMap_map]
    rfl
  rw [separated]
  refine pieces_separated (fun piece member => ?_) (fun piece member => ?_) settled skipped
  · obtain ⟨segment, _, rfl⟩ := List.mem_map.1 member
    exact settled_escape _ _
  · obtain ⟨segment, _, rfl⟩ := List.mem_map.1 member
    exact skipped_segmentChars (forall_mem_of_all (by decide)) segment

/-- The segments of pieces that are segments' texts. -/
theorem map_unescape_segmentChars (segments : List String) :
    (segments.map segmentChars).map (fun piece => String.ofList (unescape piece)) = segments := by
  rw [List.map_map]
  refine List.map_id'' (fun segment => ?_) segments
  simp [segmentChars, unescape_escape]

/-! ## Roots and first segments -/

/-- The sign of a root. -/
def rootSign : Root → Char
  | .id _ => '#'
  | .role _ => '$'

/-- The text of a root is its sign and its escaped value. -/
theorem rootChars_eq (root : Root) :
    root.chars = rootSign root :: escape valueSpecials root.value.toList := by
  cases root <;> rfl

/-- The sign of a root is one of two. -/
theorem rootSign_cases (root : Root) : rootSign root = '#' ∨ rootSign root = '$' := by
  cases root with
  | id value => exact Or.inl rfl
  | role value => exact Or.inr rfl

/-- A root is read back exactly if it has a value. -/
theorem parse?_rootChars (root : Root) :
    Root.parse? root.chars =
      some (if root.value = "" then .error (.missingValue root.kind) else .ok root) := by
  cases root with
  | id value | role value =>
    rw [Root.chars, Root.parse?, unescape_escape, String.ofList_toList]
    by_cases empty : value = ""
    · rw [if_pos ((isEmpty_escape_iff valueSpecials value).2 empty)]
      exact congrArg some (if_pos empty).symm
    · rw [if_neg (mt (isEmpty_escape_iff valueSpecials value).1 empty)]
      exact congrArg some (if_neg empty).symm

/-- The first segment with the backslash that keeps it from being read as a root. -/
def guardedChars (first : String) : List Char := rootGuard first.toList ++ segmentChars first

/-- What holds of a backslash pair and of escaped texts and can be joined holds of a guarded
segment. -/
theorem guardedChars_cases (first : String) :
    guardedChars first = segmentChars first ∧ first.toList.head? ≠ some '#' ∧
        first.toList.head? ≠ some '$' ∨
      ∃ sign rest, (sign = '#' ∨ sign = '$') ∧ first.toList = sign :: rest ∧
        guardedChars first = [escapeMark, sign] ++ escape segmentSpecials rest := by
  cases text : first.toList with
  | nil => exact Or.inl ⟨by simp [guardedChars, text, rootGuard], by simp, by simp⟩
  | cons head rest =>
    by_cases sign : head = '#' ∨ head = '$'
    · refine Or.inr ⟨head, rest, sign, rfl, ?_⟩
      have plain : ¬ (head = escapeMark ∨ head ∈ segmentSpecials) := by
        rcases sign with rfl | rfl <;> decide
      rw [guardedChars, segmentChars, text, rootGuard, if_pos sign, escape_cons,
        escapedChar_plain plain]
      rfl
    · obtain ⟨number, dollar⟩ := not_or.1 sign
      refine Or.inl ⟨?_, by simpa using number, by simpa using dollar⟩
      rw [guardedChars, text, rootGuard, if_neg sign, List.nil_append]

/-- Nothing in a guarded segment escapes what follows it. -/
theorem settled_guardedChars (first : String) : Settled (guardedChars first) := by
  rcases guardedChars_cases first with ⟨plain, _⟩ | ⟨sign, rest, _, _, guarded⟩
  · rw [plain]
    exact settled_escape _ _
  · rw [guarded]
    exact (settled_pair sign).append (settled_escape _ _)

/-- The searches that step over a segment step over a guarded one. -/
theorem skipped_guardedChars {targets : List Char}
    (guarded : ∀ value ∈ targets, value ∈ segmentSpecials) (first : String) :
    Skipped targets (guardedChars first) := by
  rcases guardedChars_cases first with ⟨plain, _⟩ | ⟨sign, rest, _, text, pair⟩
  · rw [plain]
    exact skipped_segmentChars guarded first
  · have unsought : escapeMark ∉ targets := fun target =>
      absurd (guarded escapeMark target) (by decide)
    rw [pair]
    have later := skipped_segmentChars guarded (String.ofList rest)
    rw [segmentChars, String.toList_ofList] at later
    exact (skipped_pair unsought sign).append later

/-- A guarded segment is read back as a segment. -/
theorem unescape_guardedChars (first : String) :
    String.ofList (unescape (guardedChars first)) = first := by
  rcases guardedChars_cases first with ⟨plain, _⟩ | ⟨sign, rest, _, text, pair⟩
  · rw [plain, segmentChars, unescape_escape, String.ofList_toList]
  · rw [pair, List.cons_append, List.singleton_append, unescape_pair, unescape_escape, ← text,
      String.ofList_toList]

/-- A guarded segment is not read as a root. -/
theorem parse?_guardedChars (first : String) : Root.parse? (guardedChars first) = none := by
  rcases guardedChars_cases first with ⟨plain, number, dollar⟩ | ⟨sign, rest, _, _, pair⟩
  · rw [plain, segmentChars]
    cases text : first.toList with
    | nil => rfl
    | cons head others =>
      rw [text] at number dollar
      rw [escape_cons]
      by_cases special : head = escapeMark ∨ head ∈ segmentSpecials
      · rw [escapedChar_special special]
        simp [Root.parse?, escapeMark]
      · rw [escapedChar_plain special, List.singleton_append, Root.parse?]
        · intro body same
          exact number (congrArg some (List.cons.inj same).1)
        · intro body same
          exact dollar (congrArg some (List.cons.inj same).1)
  · rw [pair]
    simp [Root.parse?, escapeMark]

/-- Only the empty segment is written as nothing. -/
theorem guardedChars_ne_nil {first : String} (written : first ≠ "") : guardedChars first ≠ [] := by
  intro nothing
  have readBack := unescape_guardedChars first
  rw [nothing] at readBack
  exact written readBack.symm

/-! ## Bodies -/

/-- The first part of a body: the root, or the guarded first segment. -/
def bodyStart (path : Path) : List Char :=
  match path.root with
  | some root => root.chars
  | none => guardedChars (path.segments.headD "")

/-- The segments after the first part of a body. -/
def laterSegments (path : Path) : List String :=
  match path.root with
  | some _ => path.segments
  | none => path.segments.tail

/-- A body is its first part and the segments after it. -/
theorem body_eq (path : Path) : path.body = path.bodyStart ++ tailChars path.laterSegments := by
  obtain ⟨root, segments⟩ := path
  cases root with
  | some root => rfl
  | none => cases segments <;> rfl

/-- Nothing in a root escapes what follows it. -/
theorem settled_rootChars (root : Root) : Settled root.chars := by
  have sign : rootSign root ≠ escapeMark := by
    rcases rootSign_cases root with same | same <;> rw [same] <;> decide
  rw [rootChars_eq]
  exact (settled_char sign).append (settled_escape _ _)

/-- The searches that step over a segment step over a root. -/
theorem skipped_rootChars {targets : List Char}
    (guarded : ∀ value ∈ targets, value ∈ segmentSpecials) (root : Root) :
    Skipped targets root.chars := by
  have sign : rootSign root ≠ escapeMark ∧ rootSign root ∉ openers ∧
      rootSign root ∉ segmentSpecials := by
    rcases rootSign_cases root with same | same <;> rw [same] <;> decide
  obtain ⟨plain, closed, other⟩ := sign
  have openersGuarded : ∀ value ∈ openers, value ∈ valueSpecials := forall_mem_of_all (by decide)
  have segmentsGuarded : ∀ value ∈ segmentSpecials, value ∈ valueSpecials :=
    forall_mem_of_all (by decide)
  have all : ∀ value ∈ targets ++ openers, value ∈ valueSpecials := by
    intro value member
    rcases List.mem_append.1 member with target | opener
    · exact segmentsGuarded value (guarded value target)
    · exact openersGuarded value opener
  have unsought : escapeMark ∉ targets := fun target =>
    absurd (guarded escapeMark target) (by decide)
  rw [rootChars_eq]
  exact (skipped_char plain closed fun target => other (guarded _ target)).append
    (skipped_escape all unsought _)

/-- A root does not end in an unescaped blank. -/
theorem firm_rootChars (root : Root) : Firm root.chars := by
  have sign : rootSign root ≠ escapeMark ∧ isBlank (rootSign root) = false := by
    rcases rootSign_cases root with same | same <;> rw [same] <;> decide
  rw [rootChars_eq]
  by_cases empty : root.value.toList = []
  · rw [empty]
    exact firm_char sign.2
  · exact Firm.append (settled_char sign.1) (escape_ne_nil _ empty)
      (firm_escape (fun _ => mem_valueSpecials_of_isBlank) _)

/-- A guarded segment does not end in an unescaped blank. -/
theorem firm_guardedChars (first : String) : Firm (guardedChars first) := by
  rcases guardedChars_cases first with ⟨plain, _⟩ | ⟨sign, rest, signs, _, pair⟩
  · rw [plain]
    exact firm_escape (fun _ => mem_segmentSpecials_of_isBlank) _
  · rw [pair]
    by_cases empty : rest = []
    · rw [empty]
      refine firm_of_visible ?_
      rcases signs with rfl | rfl <;> exact forall_mem_of_all (by decide)
    · exact Firm.append (settled_pair sign) (escape_ne_nil _ empty)
        (firm_escape (fun _ => mem_segmentSpecials_of_isBlank) _)

/-- Nothing in the first part of a body escapes what follows it. -/
theorem settled_bodyStart (path : Path) : Settled path.bodyStart := by
  unfold bodyStart
  split
  · exact settled_rootChars _
  · exact settled_guardedChars _

/-- The searches that step over a segment step over the first part of a body. -/
theorem skipped_bodyStart {targets : List Char}
    (guarded : ∀ value ∈ targets, value ∈ segmentSpecials) (path : Path) :
    Skipped targets path.bodyStart := by
  unfold bodyStart
  split
  · exact skipped_rootChars guarded _
  · exact skipped_guardedChars guarded _

/-- The first part of a body does not end in an unescaped blank. -/
theorem firm_bodyStart (path : Path) : Firm path.bodyStart := by
  unfold bodyStart
  split
  · exact firm_rootChars _
  · exact firm_guardedChars _

/-- The first part of a body does not start with a blank. -/
theorem isBlank_head_bodyStart (path : Path) :
    ∀ first ∈ path.bodyStart.head?, isBlank first = false := by
  unfold bodyStart
  split
  · rename_i root _
    rw [rootChars_eq]
    rintro first starts
    obtain rfl : rootSign root = first := by simpa using starts
    rcases rootSign_cases root with same | same <;> rw [same] <;> decide
  · rcases guardedChars_cases (path.segments.headD "") with ⟨plain, _⟩ | ⟨sign, rest, _, _, pair⟩
    · rw [plain]
      exact isBlank_head_escape (fun _ => mem_segmentSpecials_of_isBlank) _
    · rw [pair]
      simp [isBlank_escapeMark]

/-- Segments after a firm text do not end in an unescaped blank. -/
theorem firm_tailChars {text : List Char} (settled : Settled text) (firm : Firm text)
    (segments : List String) : Firm (text ++ tailChars segments) := by
  induction segments generalizing text with
  | nil => rwa [tailChars, List.flatMap_nil, List.append_nil]
  | cons segment rest hypothesis =>
    have plain : separator ≠ escapeMark := by decide
    have settledSegment : Settled (separator :: segmentChars segment) :=
      (settled_char plain).append (settled_escape _ _)
    have firmSegment : Firm (separator :: segmentChars segment) := by
      by_cases empty : segment.toList = []
      · rw [segmentChars, empty]
        exact firm_char (by decide)
      · exact Firm.append (settled_char plain) (escape_ne_nil _ empty)
          (firm_escape (fun _ => mem_segmentSpecials_of_isBlank) _)
    have joined : text ++ tailChars (segment :: rest) =
        (text ++ separator :: segmentChars segment) ++ tailChars rest := by simp [tailChars]
    rw [joined]
    exact hypothesis (settled.append settledSegment) (Firm.append settled (by simp) firmSegment)

/-- A body does not end in an unescaped blank. -/
theorem firm_body (path : Path) : Firm path.body := by
  rw [body_eq]
  exact firm_tailChars (settled_bodyStart path) (firm_bodyStart path) _

/-- A body is searched as it stands. -/
theorem cellsOf_body (path : Path) : cellsOf path.body = link (marks path.body) := by
  have visible : ∀ first ∈ path.body.head?, isBlank first = false := by
    rw [body_eq]
    cases start : path.bodyStart with
    | nil =>
      cases path.laterSegments with
      | nil => simp [tailChars]
      | cons segment rest =>
        simp [tailChars]
        decide
    | cons head rest =>
      have visible := isBlank_head_bodyStart path
      rw [start] at visible
      simpa using visible
  exact cellsOf_of_firm visible (firm_body path)

/-- A body is cut into its first part and its later segments. -/
theorem pieces_body (path : Path) :
    pieces (cellsOf path.body) = path.bodyStart :: path.laterSegments.map segmentChars := by
  have skipped : Skipped [separator] path.bodyStart :=
    skipped_bodyStart (forall_mem_of_all (by decide)) path
  rw [cellsOf_body, body_eq, pieces_tailChars (settled_bodyStart path) skipped]

/-- Nothing in a body escapes what follows it. -/
theorem settled_body (path : Path) : Settled path.body := by
  rw [body_eq, tailChars]
  refine (settled_bodyStart path).append ?_
  induction path.laterSegments with
  | nil => exact settled_nil
  | cons segment rest hypothesis =>
    exact ((settled_char (show separator ≠ escapeMark by decide)).append
      (settled_escape _ _)).append hypothesis

/-- The searches that step over a body: those for nothing but characters other than the
separator that are special in a segment. -/
theorem skipped_body {targets : List Char}
    (guarded : ∀ value ∈ targets, value ∈ segmentSpecials) (other : separator ∉ targets)
    (path : Path) : Skipped targets path.body := by
  rw [body_eq, tailChars]
  refine (skipped_bodyStart guarded path).append ?_
  induction path.laterSegments with
  | nil => exact skipped_nil targets
  | cons segment rest hypothesis =>
    exact ((skipped_char (by decide) (by decide) other).append
      (skipped_segmentChars guarded segment)).append hypothesis

/-! ## Reading back -/

/-- A path without a root has as many segments as there were pieces. -/
theorem length_segments_of_ofPieces {texts : List (List Char)} {path : Path}
    (read : ofPieces texts = .ok path) (rootless : path.root = none) :
    path.segments.length = texts.length := by
  cases texts with
  | nil =>
    obtain rfl := Except.ok.inj read
    rfl
  | cons first rest =>
    simp only [ofPieces] at read
    split at read
    · cases read
    · obtain rfl := Except.ok.inj read
      cases rootless
    · obtain rfl := Except.ok.inj read
      simp

/-- A path with a root is read back if that has a value, and refused otherwise. -/
theorem parse_body_of_root (root : Root) (segments : List String) :
    parse (⟨some root, segments⟩ : Path).body =
      if root.value = "" then .error (.missingValue root.kind) else .ok ⟨some root, segments⟩ := by
  have start : dropEmptyFirst (root.chars :: segments.map segmentChars) =
      root.chars :: segments.map segmentChars := by
    rw [rootChars_eq]
    rfl
  rw [parse, pieces_body]
  change ofPieces (dropEmptyFirst (root.chars :: segments.map segmentChars)) = _
  rw [start, ofPieces, parse?_rootChars]
  by_cases empty : root.value = ""
  · rw [if_pos empty, if_pos empty]
  · rw [if_neg empty, if_neg empty]
    simp only [map_unescape_segmentChars]

/-- An empty first segment is left out, so that the second one may be taken for a root. -/
theorem parse_body_of_emptyFirst (rest : List String) :
    parse (ofSegments ("" :: rest)).body = ofPieces (rest.map segmentChars) := by
  rw [parse, pieces_body]
  rfl

/-- A path whose root has a value, or that has no root and no empty first segment, is read
back. -/
theorem parse_body {path : Path} (restorable : path.isRestorable = true) :
    parse path.body = .ok path := by
  obtain ⟨root, segments⟩ := path
  cases root with
  | some root =>
    have written : root.value ≠ "" := bne_iff_ne.1 restorable
    rw [parse_body_of_root, if_neg written]
  | none =>
    cases segments with
    | nil =>
      rw [parse, pieces_body]
      rfl
    | cons first rest =>
      have written : first ≠ "" := by simpa [isRestorable] using restorable
      obtain ⟨head, others, split⟩ := List.exists_cons_of_ne_nil (guardedChars_ne_nil written)
      have start : dropEmptyFirst (guardedChars first :: rest.map segmentChars) =
          guardedChars first :: rest.map segmentChars := by
        rw [split]
        rfl
      rw [parse, pieces_body]
      change ofPieces (dropEmptyFirst (guardedChars first :: rest.map segmentChars)) = _
      rw [start, ofPieces, parse?_guardedChars]
      simp only [map_unescape_segmentChars, unescape_guardedChars]

/-- No other path is read back: a root without a value is refused, and an empty first segment is
left out. -/
theorem restorable_of_parse_body {path : Path} (read : parse path.body = .ok path) :
    path.isRestorable = true := by
  obtain ⟨root, segments⟩ := path
  cases root with
  | some root =>
    refine bne_iff_ne.2 fun empty => ?_
    rw [parse_body_of_root, if_pos empty] at read
    cases read
  | none =>
    cases segments with
    | nil => rfl
    | cons first rest =>
      have written : first ≠ "" := by
        rintro rfl
        have others := (parse_body_of_emptyFirst rest).symm.trans read
        have lengths := length_segments_of_ofPieces others rfl
        rw [List.length_cons, List.length_map] at lengths
        omega
      simpa [isRestorable] using written

end Path

end NodeQuery
