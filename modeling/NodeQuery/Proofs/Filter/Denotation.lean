import Mathlib.Data.List.Forall2
import NodeQuery.Proofs.Filter.Expression
import NodeQuery.Proofs.Text.Matching

/-!
# The paths that a path term admits

A path selector becomes a plain path to be equal to or, if it has wildcards, an anchored
expression. Both say the same thing: a stored path has one text for each level, and each text is
what the level allows. A level is a name, a wildcard in front of other levels, or a wildcard at
the end. The levels of a stored root come first, and a wildcard among them counts like any other.

The expression of a path is read level by level, and what it matches is split level by level.

Main statement: `admits_pathTerm_iff`.
-/

namespace NodeQuery.Filter

open NodeQuery Text Regex

/-! ## Levels -/

/-- What a segment allows at its level of a stored path. -/
inductive Level where
  /-- This name. -/
  | named (name : String)
  /-- Any one segment. -/
  | single
  /-- Whatever is below. -/
  | below
deriving DecidableEq

/-- The levels of segments: a wildcard is for one segment, unless it comes last. -/
def levelsOf : List String → List Level
  | [] => []
  | [last] => [if last = Path.wildcard then .below else .named last]
  | segment :: next :: rest =>
    (if segment = Path.wildcard then .single else .named segment) :: levelsOf (next :: rest)

namespace Level

/-- The texts that a level allows. -/
def Allows : Level → String → Prop
  | named name, text => name = text
  | single, text => text ≠ "" ∧ '/' ∉ text.toList
  | below, _ => True

/-- The expression of a level. -/
def pattern : Level → List Char
  | named name => literalPattern name.toList
  | single => ['[', '^', '/', ']', '+']
  | below => ['.', '*']

/-- The signs of a level's expression. -/
def signs : Level → List Sign
  | named name => textSigns name.toList
  | single => [.test (.otherThan '/'), .oneOrMore]
  | below => [.test .inLine, .anyNumber]

/-- The parts of a level's expression. -/
def parts : Level → List Part
  | named name => literal name.toList
  | single => [.one (.otherThan '/'), .many (.otherThan '/')]
  | below => [.many .inLine]

/-- The expression of a level is read alike, whatever follows. -/
theorem signs?_pattern_append (level : Level) (rest : List Char) :
    signs? (level.pattern ++ rest) = (signs? rest).map (level.signs ++ ·) := by
  cases level with
  | named name => exact signs?_literalPattern_append name.toList rest
  | single =>
    have plain : '/' ∉ reserved := by decide
    cases read : signs? rest <;> simp [pattern, signs, signs?, signOf?, plain, read]
  | below => cases read : signs? rest <;> simp [pattern, signs, signs?, signOf?, read]

/-- A level has its parts, behind a separator and unless a repetition follows. -/
theorem parts?_signs_append (level : Level) {rest : List Sign} (plain : repeatsFirst rest = false) :
    parts? (textSigns ['/'] ++ (level.signs ++ rest)) =
      (parts? rest).map (literal ['/'] ++ level.parts ++ ·) := by
  -- the separator stays a part of its own: a repetition is for the last character in front of it
  have joined : ∀ front : List Part,
      (Option.map (front ++ ·) (parts? rest)).map (literal ['/'] ++ ·) =
        (parts? rest).map (literal ['/'] ++ front ++ ·) := by
    intro front
    rw [Option.map_map]
    simp only [Function.comp_def, List.append_assoc]
  cases level with
  | named name =>
    have follows : repeatsFirst (textSigns name.toList ++ rest) = false := by
      cases name.toList with
      | nil => exact plain
      | cons first others => rfl
    rw [signs, parts?_textSigns_append _ follows, parts?_textSigns_append _ plain, joined, parts]
  | single =>
    rw [parts?_textSigns_append _ rfl, signs, List.cons_append, List.cons_append, List.nil_append,
      parts?, joined, parts]
  | below =>
    rw [parts?_textSigns_append _ rfl, signs, List.cons_append, List.cons_append, List.nil_append,
      parts?, ← joined, parts]
    rfl

/-- Within a line, the parts of a level match the texts that the level allows. -/
theorem fits_parts_append (level : Level) (next : List Part) {subject : List Char}
    (line : '\n' ∉ subject) :
    fits (level.parts ++ next) false subject = true ↔
      ∃ text : String, level.Allows text ∧
        ∃ back, subject = text.toList ++ back ∧ fits next false back = true := by
  cases level with
  | named name =>
    rw [parts, fits_literal_append]
    constructor
    · rintro ⟨back, split, fitting⟩
      exact ⟨name, rfl, back, split, fitting⟩
    · rintro ⟨text, rfl, back, split, fitting⟩
      exact ⟨back, split, fitting⟩
  | single =>
    constructor
    · intro fitting
      cases subject with
      | nil => cases fitting
      | cons head rest =>
        rw [parts, List.cons_append, List.cons_append, List.nil_append, fits, Bool.and_eq_true,
          fits, followsMany_iff] at fitting
        obtain ⟨passes, front, back, rfl, all, fitting⟩ := fitting
        -- the first character makes the text nonempty, the repetition takes the others
        refine ⟨String.ofList (head :: front), ⟨?_, ?_⟩, back, ?_, fitting⟩
        · simp [← String.toList_inj]
        · rw [String.toList_ofList]
          intro member
          have accepted : ∀ value ∈ head :: front, (Test.otherThan '/').accepts value = true :=
            List.forall_mem_cons.2 ⟨passes, all⟩
          exact absurd (accepted _ member) (by decide)
        · rw [String.toList_ofList, List.cons_append]
    · rintro ⟨text, ⟨nonempty, outside⟩, back, rfl, fitting⟩
      have accepted : ∀ value ∈ text.toList, (Test.otherThan '/').accepts value = true := by
        intro value member
        have other : value ≠ '/' := fun same => outside (same ▸ member)
        simp [Test.accepts, other]
      cases chars : text.toList with
      | nil => exact absurd (String.toList_eq_nil_iff.1 chars) nonempty
      | cons head front =>
        rw [chars] at accepted
        obtain ⟨passes, all⟩ := List.forall_mem_cons.1 accepted
        rw [parts, List.cons_append, List.cons_append, List.cons_append, List.nil_append, fits,
          Bool.and_eq_true, fits, followsMany_iff]
        exact ⟨passes, front, back, rfl, all, fitting⟩
  | below =>
    rw [parts, List.cons_append, List.nil_append, fits, followsMany_iff]
    constructor
    · rintro ⟨front, back, rfl, -, fitting⟩
      exact ⟨String.ofList front, trivial, back, by rw [String.toList_ofList], fitting⟩
    · rintro ⟨text, -, back, rfl, fitting⟩
      refine ⟨text.toList, back, rfl, fun value member => ?_, fitting⟩
      have other : value ≠ '\n' := fun same => line (List.mem_append_left _ (same ▸ member))
      simp [Test.accepts, other]

end Level

/-! ## Expressions of paths -/

/-- The texts of the levels, each behind a separator. -/
def joinedLevels (texts : List String) : List Char :=
  texts.flatMap fun text => '/' :: text.toList

/-- The parts of levels, each behind a separator. -/
def levelParts (levels : List Level) : List Part :=
  levels.flatMap fun level => literal ['/'] ++ level.parts

/-- The level of a segment has the expression that is chosen by the segment's characters. -/
theorem Level.pattern_ite (segment : String) (wild : Level) :
    (if segment = Path.wildcard then wild else .named segment).pattern =
      if segment.toList = wildcardSegment then wild.pattern else literalPattern segment.toList := by
  have chars : Path.wildcard.toList = wildcardSegment := rfl
  rw [apply_ite Level.pattern, ← chars]
  simp only [String.toList_inj, pattern]

/-- The expressions of segments are those of their levels. -/
theorem segmentPatterns_eq (segments : List String) :
    segmentPatterns (segments.map String.toList) =
      (levelsOf segments).flatMap fun level => '/' :: level.pattern := by
  induction segments with
  | nil => rfl
  | cons segment rest hypothesis =>
    cases rest with
    | nil =>
      rw [List.map_cons, List.map_nil, segmentPatterns, levelsOf, List.flatMap_singleton,
        Level.pattern_ite]
      rfl
    | cons next others =>
      rw [List.map_cons, List.map_cons, segmentPatterns, ← List.map_cons, hypothesis, levelsOf,
        List.flatMap_cons, Level.pattern_ite]
      rfl

/-- Levels are read one after the other, up to the end of the expression. -/
theorem signs?_levels (levels : List Level) :
    signs? ((levels.flatMap fun level => '/' :: level.pattern) ++ ['$']) =
      some ((levels.flatMap fun level => textSigns ['/'] ++ level.signs) ++ [.stop]) := by
  induction levels with
  | nil => rfl
  | cons level rest hypothesis =>
    have plain : '/' ∉ reserved := by decide
    rw [List.flatMap_cons, List.append_assoc, List.cons_append, signs?_cons plain,
      level.signs?_pattern_append, hypothesis, Option.map_some, Option.map_some,
      List.flatMap_cons]
    simp only [textSigns, List.map_cons, List.map_nil, List.cons_append, List.nil_append,
      List.append_assoc]

/-- Levels have their parts one after the other. -/
theorem parts?_levels (levels : List Level) :
    parts? ((levels.flatMap fun level => textSigns ['/'] ++ level.signs) ++ [.stop]) =
      some (levelParts levels ++ [.stop]) := by
  induction levels with
  | nil => rfl
  | cons level rest hypothesis =>
    have plain : repeatsFirst
        ((rest.flatMap fun level => textSigns ['/'] ++ level.signs) ++ [.stop]) = false := by
      cases rest <;> rfl
    rw [List.flatMap_cons, List.append_assoc, List.append_assoc, level.parts?_signs_append plain,
      hypothesis, Option.map_some, levelParts, levelParts, List.flatMap_cons]
    simp only [List.append_assoc]

/-- The expression of a path has the parts of its levels between anchors. -/
theorem read?_pathPattern (segments : List String) :
    read? (pathPattern (segments.map String.toList)) =
      some (.start :: (levelParts (levelsOf segments) ++ [.stop])) := by
  rw [pathPattern, segmentPatterns_eq, read?, signs?, signs?_levels]
  · simp [signOf?, parts?, parts?_levels]
  · intro value rest same
    cases same
  · intro value rest same
    cases same

/-- Within a line, the parts of levels match the texts that the levels allow. -/
theorem fits_levelParts_iff (levels : List Level) (whole : Bool) {subject : List Char}
    (line : '\n' ∉ subject) :
    fits (levelParts levels ++ [.stop]) whole subject = true ↔
      ∃ texts, List.Forall₂ Level.Allows levels texts ∧ subject = joinedLevels texts := by
  induction levels generalizing whole subject with
  | nil =>
    rw [levelParts, List.flatMap_nil, List.nil_append, fits_stop line]
    constructor
    · rintro rfl
      exact ⟨[], .nil, rfl⟩
    · rintro ⟨texts, allowed, rfl⟩
      cases allowed
      rfl
  | cons level rest hypothesis =>
    -- behind its separator, a level is never at the start of the subject
    have apart : (whole && ['/'].isEmpty) = false := Bool.and_false whole
    rw [levelParts, List.flatMap_cons, ← levelParts, List.append_assoc, List.append_assoc,
      fits_literal_append, apart]
    constructor
    · rintro ⟨behind, rfl, fitting⟩
      have inside : '\n' ∉ behind := fun member => line (List.mem_append_right _ member)
      obtain ⟨text, allows, back, rfl, later⟩ := (level.fits_parts_append _ inside).1 fitting
      have beyond : '\n' ∉ back := fun member => inside (List.mem_append_right _ member)
      obtain ⟨texts, allowed, rfl⟩ := (hypothesis false beyond).1 later
      exact ⟨text :: texts, .cons allows allowed, rfl⟩
    · rintro ⟨texts, allowed, rfl⟩
      cases allowed with
      | cons allows allowed =>
        rename_i text texts
        have inside : '\n' ∉ text.toList ++ joinedLevels texts := fun member =>
          line (List.mem_cons_of_mem _ member)
        have beyond : '\n' ∉ joinedLevels texts := fun member =>
          inside (List.mem_append_right _ member)
        exact ⟨text.toList ++ joinedLevels texts, rfl, (level.fits_parts_append _ inside).2
          ⟨text, allows, _, rfl, (hypothesis false beyond).2 ⟨texts, allowed, rfl⟩⟩⟩

/-! ## Terms of paths -/

/-- Whether a term admits a stored text, if it is a text to be equal to or an expression. -/
def admits? (term : Json) (subject : String) : Option Bool :=
  match term with
  | .string value => some (subject == value)
  | .object [(command, .string pattern)] =>
    if command = patternCommand then
      (read? pattern.toList).map fun parts => found parts subject.toList
    else none
  | _ => none

/-- A term with an expression admits what the parts of the expression are found in. -/
theorem admits?_of_read {pattern : List Char} {parts : List Part}
    (read : read? pattern = some parts) (subject : String) :
    admits? (.object [(patternCommand, .string (String.ofList pattern))]) subject =
      some (found parts subject.toList) := by
  simp only [admits?, if_true, String.toList_ofList, read, Option.map_some]

/-- The text of a path with segments is that of its levels. -/
theorem literal_ofSegments {texts : List String} (nonempty : texts ≠ []) :
    (Path.ofSegments texts).literal = String.ofList (joinedLevels texts) := by
  have segmented : texts.isEmpty = false := by
    rw [← Bool.not_eq_true, List.isEmpty_iff]
    exact nonempty
  rw [← String.toList_inj, Path.literal, Path.ofSegments, segmented, if_neg Bool.false_ne_true,
    String.toList_join, String.toList_ofList, joinedLevels, List.flatMap_map]
  simp only [String.toList_append]
  rfl

/-- Segments without a wildcard allow themselves and nothing else. -/
theorem forall₂_allows_levelsOf_iff {segments : List String} (tame : Path.wildcard ∉ segments)
    (texts : List String) :
    List.Forall₂ Level.Allows (levelsOf segments) texts ↔ segments = texts := by
  have named : levelsOf segments = segments.map Level.named := by
    induction segments with
    | nil => rfl
    | cons segment rest hypothesis =>
      obtain ⟨other, tame⟩ := List.ne_and_not_mem_of_not_mem_cons tame
      cases rest with
      | nil => rw [levelsOf, if_neg other.symm, List.map_cons, List.map_nil]
      | cons next others =>
        rw [levelsOf, if_neg other.symm, hypothesis tame, ← List.map_cons]
  rw [named, List.forall₂_map_left_iff]
  show List.Forall₂ (fun name text => name = text) segments texts ↔ segments = texts
  rw [List.forall₂_eq_eq_eq]

/-- Joined texts are the first one and the others behind separators. -/
theorem toList_intercalate_cons (first : String) (rest : List String) :
    ("/".intercalate (first :: rest)).toList = first.toList ++ joinedLevels rest := by
  induction rest generalizing first with
  | nil => rw [String.intercalate_singleton, joinedLevels, List.flatMap_nil, List.append_nil]
  | cons next others hypothesis =>
    rw [String.intercalate_cons_cons, String.toList_append, String.toList_append, hypothesis,
      joinedLevels, joinedLevels, List.flatMap_cons, List.append_assoc]
    rfl

/-- The plain path of segments has their texts, each behind a separator. -/
theorem plainPath_eq (segments : List String) :
    "/" ++ "/".intercalate segments = (Path.ofSegments segments).literal := by
  cases segments with
  | nil => rw [String.intercalate_nil, String.append_empty]; rfl
  | cons first rest =>
    rw [literal_ofSegments (List.cons_ne_nil _ _), ← String.toList_inj, String.toList_append,
      toList_intercalate_cons, String.toList_ofList, String.toList_ofList]
    rfl

/-- The term of segments admits the paths whose texts their levels allow. -/
theorem admits_segmentsTerm_iff (segments : List String) {subject : String}
    (line : '\n' ∉ subject.toList) :
    ∃ verdict, admits? (segmentsTerm segments) subject = some verdict ∧
      (verdict = true ↔ ∃ texts, List.Forall₂ Level.Allows (levelsOf segments) texts ∧
        subject = (Path.ofSegments texts).literal) := by
  rw [segmentsTerm]
  by_cases wild : Path.wildcard ∈ segments
  · -- a wildcard has a level, so the text is not the lone separator of an empty path
    have nonempty : ∀ texts, List.Forall₂ Level.Allows (levelsOf segments) texts → texts ≠ [] := by
      rintro texts allowed rfl
      cases segments with
      | nil => cases wild
      | cons segment rest => cases rest <;> cases allowed
    rw [if_pos (List.contains_iff_mem.2 wild)]
    refine ⟨_, admits?_of_read (read?_pathPattern segments) subject, ?_⟩
    rw [found_start, fits_levelParts_iff _ _ line]
    refine exists_congr fun texts => and_congr_right fun allowed => ?_
    rw [literal_ofSegments (nonempty texts allowed), ← String.toList_inj, String.toList_ofList]
  · have plain : ¬segments.contains Path.wildcard = true := fun found =>
      wild (List.contains_iff_mem.1 found)
    rw [if_neg plain]
    refine ⟨_, rfl, ?_⟩
    rw [beq_iff_eq, plainPath_eq]
    simp only [forall₂_allows_levelsOf_iff wild, exists_eq_left']

/-! ## Roots -/

/-- The pieces of a stored path between its separators, without the empty ones. -/
def storedPieces (stored : String) : List String :=
  ((stored.toList.splitOn '/').filter fun piece => !piece.isEmpty).map String.ofList

/-- What the root of a path puts in front of its segments. -/
inductive Leads (resolve : Resolver) : Option Root → List String → Prop where
  /-- Nothing, without a root. -/
  | top : Leads resolve none []
  /-- The pieces of the stored path that the root stands for. -/
  | stored {root : Root} {stored : String} : resolve root = some stored →
    Leads resolve (some root) (storedPieces stored)

/-- The runs between gaps are the pieces between gaps that are not empty. -/
theorem wordsFrom_eq_filter (isGap : Char → Bool) (run text : List Char) :
    wordsFrom isGap run text =
      (text.splitOnPPrepend isGap run).filter fun piece => !piece.isEmpty := by
  induction text generalizing run with
  | nil => cases run <;> simp [wordsFrom]
  | cons head rest hypothesis =>
    rw [wordsFrom, List.splitOnPPrepend_cons_eq_if]
    split
    · rw [hypothesis, List.splitOnP, List.filter_cons, List.isEmpty_reverse]
      cases run <;> rfl
    · exact hypothesis _

/-- The segments of a stored path are its pieces. -/
theorem storedSegments_eq (stored : String) : storedSegments stored = storedPieces stored := by
  rw [storedSegments, storedPieces, wordsBy, wordsFrom_eq_filter]
  rfl

/-- The segments of a path come behind those that its root leads to. -/
theorem segmentsOf?_of_leads {resolve : Resolver} {path : Path} {front : List String}
    (leads : Leads resolve path.root front) :
    segmentsOf? resolve path = some (front ++ path.segments) := by
  obtain ⟨root, segments⟩ := path
  cases leads with
  | top => rfl
  | stored resolved =>
    rw [segmentsOf?]
    simp only [resolved, Option.map_some, storedSegments_eq]

/-- A path selector is handled wherever paths have a field and its root, if any, has a stored path.
The term that it puts on the field is a text or an expression, and it admits exactly the stored
paths, within a line, that have a text for each level: the levels of the root's stored path, then
those of the path's own segments. -/
theorem admits_pathTerm_iff {config : Config} {field : String}
    (fielded : config.pathField = some field) {resolve : Resolver} {path : Path}
    {front : List String} (leads : Leads resolve path.root front) (document : Json) :
    let outcome := (planOf config resolve (.path path)).perform document
    outcome.2 = .handled ∧ ∃ term, Json.lookup field (terms outcome.1) = some term ∧
      ∀ subject : String, '\n' ∉ subject.toList →
        ∃ verdict, admits? term subject = some verdict ∧
          (verdict = true ↔
            ∃ texts, List.Forall₂ Level.Allows (levelsOf (front ++ path.segments)) texts ∧
              subject = (Path.ofSegments texts).literal) := by
  intro outcome
  have resolved : pathTerm resolve path = segmentsTerm (front ++ path.segments) := by
    rw [pathTerm_eq, segmentsOf?_of_leads leads, Option.map_some, Option.getD_some]
  have performed : outcome =
      ((Change.setTerm field (segmentsTerm (front ++ path.segments))).perform document,
        .handled) := by
    simp only [outcome, planOf, fielded, Plan.onField, resolved]
    rfl
  rw [performed]
  refine ⟨rfl, segmentsTerm (front ++ path.segments), ?_, fun subject line => ?_⟩
  · rw [Change.perform, terms_setTerms, Json.lookup_insert_self]
  · exact admits_segmentsTerm_iff _ line

/-- A dot in the stored path of a root is no wildcard, though the path has one. -/
theorem admits_pathTerm_dottedRoot :
    let resolve : Resolver := fun _ => some "//n.ws/"
    let path : Path := ⟨some (.role "news"), ["*", "a"]⟩
    ∃ term, Json.lookup "path"
        (terms ((planOf .usual resolve (.path path)).perform (.object [])).1) = some term ∧
      admits? term "/n.ws/2024/a" = some true ∧ admits? term "/nxws/2024/a" = some false := by
  intro resolve path
  have resolved : resolve (.role "news") = some "//n.ws/" := rfl
  have leads : Leads resolve path.root ["n.ws"] := .stored resolved
  have fielded : Config.usual.pathField = some "path" := rfl
  obtain ⟨-, term, stored, admitted⟩ := admits_pathTerm_iff fielded leads (.object [])
  refine ⟨term, stored, ?_, ?_⟩
  · obtain ⟨verdict, given, allowed⟩ := admitted "/n.ws/2024/a" (by decide)
    rw [given, allowed.2 ⟨["n.ws", "2024", "a"], ?_, by decide⟩]
    exact .cons rfl (.cons ⟨by decide, by decide⟩ (.cons rfl .nil))
  · obtain ⟨verdict, given, allowed⟩ := admitted "/nxws/2024/a" (by decide)
    have denied : ¬verdict = true := by
      intro granted
      obtain ⟨texts, fitting, shown⟩ := allowed.1 granted
      cases fitting with
      | cons named _ =>
        cases named
        have chars := congrArg String.toList shown
        rw [literal_ofSegments (List.cons_ne_nil _ _), String.toList_ofList,
          String.toList_ofList] at chars
        have third : some 'x' = some '.' := congrArg (fun text => text[2]?) chars
        exact absurd third (by decide)
    rw [given, Bool.eq_false_iff.2 denied]

end NodeQuery.Filter
