import NodeQuery.Command.Run
import NodeQuery.Proofs.Filter.PathLookup

/-!
# Roots on the command line

The argument that gives a root its stored path is cut at its first equals sign, and spaces are
trimmed from both parts before the root is read. Neither step knows of escapes: an equals sign in
the value of the root is taken for the separator, whether a backslash stands before it or not, and
a space at the end of the value is trimmed away from behind its backslash. Such a root cannot be
given at all; what is read in its place is a root with a shorter value, or nothing.

Every other root can be given by its canonical text, and then the paths that start at it, and no
others, are resolved.

Main statement: `parseRoot_text_iff`.
-/

namespace NodeQuery

open Text

namespace Text

/-! ## Trimming -/

/-- Whether a text has no space at either end. -/
def HasBareEnds (text : List Char) : Prop :=
  (∀ first ∈ text.head?, isSpace first = false) ∧ ∀ last ∈ text.getLast?, isSpace last = false

/-- A text is left as it is by trimming exactly if it has no space at either end. -/
theorem trimSpaces_eq_self_iff (text : List Char) :
    trimSpaces text = text ↔ HasBareEnds text := by
  constructor
  · intro same
    have stops := getLast?_dropTrailing isSpace (text.dropWhile isSpace)
    rw [← trimSpaces, same] at stops
    refine ⟨fun first starts => Bool.eq_false_iff.2 fun space => ?_, stops⟩
    cases text with
    | nil => cases starts
    | cons head rest =>
      obtain rfl : head = first := Option.some.inj starts
      obtain ⟨run, split, _⟩ := dropTrailing_append_run isSpace ((head :: rest).dropWhile isSpace)
      have trimmed := congrArg List.length split
      have dropped := (List.dropWhile_suffix isSpace (l := rest)).length_le
      rw [← trimSpaces, same, List.dropWhile_cons_of_pos space, List.length_append,
        List.length_cons] at trimmed
      omega
  · rintro ⟨starts, stops⟩
    have kept : text.dropWhile isSpace = text := by
      cases text with
      | nil => rfl
      | cons head rest =>
        rw [List.dropWhile_cons_of_neg]
        exact Bool.eq_false_iff.1 (starts head rfl)
    rw [trimSpaces, kept, dropTrailing_of_getLast? stops]

/-- Behind a character that is no space, spaces are trimmed from the end only. -/
theorem trimSpaces_cons {head : Char} (bare : isSpace head = false) (rest : List Char) :
    trimSpaces (head :: rest) = head :: dropTrailing isSpace rest := by
  have stays : ¬ isSpace head = true := Bool.eq_false_iff.1 bare
  rw [trimSpaces, List.dropWhile_cons_of_neg stays, dropTrailing_cons,
    if_neg fun both => stays both.2]

/-- Joined texts are escaped one by one. -/
theorem escape_append (specials front back : List Char) :
    escape specials (front ++ back) = escape specials front ++ escape specials back := by
  induction front with
  | nil => rfl
  | cons head rest hypothesis =>
    rw [List.cons_append, escape_cons, escape_cons, hypothesis, List.append_assoc]

/-- A character of an escaped text is a backslash or one of the text. -/
theorem mem_escape {specials text : List Char} {value : Char}
    (member : value ∈ escape specials text) : value = escapeMark ∨ value ∈ text := by
  induction text with
  | nil => cases member
  | cons head rest hypothesis =>
    by_cases special : head = escapeMark ∨ head ∈ specials
    · simp only [escape, special, if_true, List.mem_cons] at member ⊢
      tauto
    · simp only [escape, special, if_false, List.mem_cons] at member ⊢
      tauto

/-- What an escaped text stands for after spaces are trimmed from its end without regard to
escapes. -/
def afterTrimming (specials text : List Char) : List Char :=
  unescape (dropTrailing isSpace (escape specials text))

/-- A text that ends in no space is not changed. -/
theorem afterTrimming_of_bare (specials : List Char) {text : List Char}
    (bare : ∀ last ∈ text.getLast?, isSpace last = false) : afterTrimming specials text = text := by
  have kept : ∀ last ∈ (escape specials text).getLast?, isSpace last = false := by
    rcases List.eq_nil_or_concat text with rfl | ⟨front, final, rfl⟩
    · exact fun last ends => nomatch ends
    · rw [List.concat_eq_append] at bare ⊢
      have same : (escape specials (front ++ [final])).getLast? = (front ++ [final]).getLast? := by
        by_cases special : final = escapeMark ∨ final ∈ specials <;>
          simp [escape_append, escape, special]
      rwa [same]
  rw [afterTrimming, dropTrailing_of_getLast? kept, unescape_escape]

/-- A space at the end of a text is lost, and if it is not escaped, maybe others before it. -/
theorem afterTrimming_concat (specials front : List Char) {last : Char}
    (space : isSpace last = true) :
    afterTrimming specials (front ++ [last]) = front ∨
      afterTrimming specials (front ++ [last]) = afterTrimming specials front := by
  have all : ∀ value ∈ [last], isSpace value = true := by simpa using space
  by_cases special : last = escapeMark ∨ last ∈ specials
  · -- the backslash before the space stays, and nothing is left for it to escape
    have written : escape specials (front ++ [last]) =
        escape specials front ++ [escapeMark] ++ [last] := by simp [escape_append, escape, special]
    have kept : ∀ final ∈ (escape specials front ++ [escapeMark]).getLast?,
        isSpace final = false := by
      intro final ends
      rw [List.getLast?_concat] at ends
      obtain rfl : escapeMark = final := Option.some.inj ends
      decide
    rw [afterTrimming, written, dropTrailing_append_of_all _ all, dropTrailing_of_getLast? kept,
      unescape_escape_append]
    exact Or.inl (List.append_nil front)
  · have written : escape specials (front ++ [last]) = escape specials front ++ [last] := by
      simp [escape_append, escape, special]
    rw [afterTrimming, written, dropTrailing_append_of_all _ all]
    exact Or.inr rfl

/-- No character is added. -/
theorem length_afterTrimming_le (specials text : List Char) :
    (afterTrimming specials text).length ≤ text.length := by
  induction text using List.reverseRecOn with
  | nil => exact Nat.le_refl 0
  | append_singleton front last hypothesis =>
    cases space : isSpace last with
    | false =>
      rw [afterTrimming_of_bare]
      simpa using space
    | true =>
      rw [List.length_append]
      rcases afterTrimming_concat specials front space with same | same <;> rw [same] <;> omega

/-- Exactly the texts that end in no space are left as they are. -/
theorem afterTrimming_eq_self_iff (specials text : List Char) :
    afterTrimming specials text = text ↔ ∀ last ∈ text.getLast?, isSpace last = false := by
  refine ⟨fun same last ends => Bool.eq_false_iff.2 fun space => ?_, afterTrimming_of_bare specials⟩
  obtain ⟨front, rfl⟩ := List.getLast?_eq_some_iff.1 ends
  have shorter := length_afterTrimming_le specials front
  have lengths := congrArg List.length same
  rw [List.length_append, List.length_singleton] at lengths
  rcases afterTrimming_concat specials front space with less | less
  all_goals
    rw [less] at lengths
    omega

end Text

/-! ## One argument -/

/-- The root of the same kind with another value. -/
def Root.withValue (value : String) : Root → Root
  | id _ => id value
  | role _ => role value

/-- A root is told by its kind and its value. -/
theorem Root.withValue_eq_self_iff (root : Root) (value : String) :
    root.withValue value = root ↔ value = root.value := by
  cases root <;> simp [withValue, Root.value]

/-- What is read from the sign of a root and a text behind it. -/
theorem Simple.parse_rootSign (root : Root) (body : List Char) :
    parse (Path.rootSign root :: body) =
      if body = [] then .error (.missingValue root.kind)
      else .ok (root.withValue (String.ofList (unescape body))).toSimple := by
  have number : kindOf? '#' = some .id := kindOf?_sign (by decide)
  have dollar : kindOf? '$' = some .role := kindOf?_sign (by decide)
  cases root with
  | id value => cases body <;> simp [Path.rootSign, parse, number, parseValue] <;> rfl
  | role value => cases body <;> simp [Path.rootSign, parse, dollar, parseValue] <;> rfl

namespace Command

/-- What is read from an argument that starts with the sign of a root and holds an equals sign: the
root whose value is written before the first one, and the path behind it. -/
theorem parseRoot_signed (root : Root) {front : List Char} (whole : '=' ∉ front)
    (back : List Char) (other : Root) (path : String) :
    parseRoot (String.ofList
        (Path.rootSign root :: (escape valueSpecials front ++ '=' :: back))) = .ok (other, path) ↔
      dropTrailing isSpace (escape valueSpecials front) ≠ [] ∧
        root.withValue (String.ofList (afterTrimming valueSpecials front)) = other ∧
        String.ofList (trimSpaces back) = path := by
  have bareSign : isSpace (Path.rootSign root) = false := by
    rcases Path.rootSign_cases root with same | same <;> rw [same] <;> decide
  have unseparated : ∀ value ∈ Path.rootSign root :: escape valueSpecials front,
      decide (value ≠ '=') = true := by
    intro value member
    rw [decide_eq_true_eq]
    rintro rfl
    rcases List.mem_cons.1 member with sign | inside
    · rcases Path.rootSign_cases root with same | same <;> rw [same] at sign <;> cases sign
    · rcases mem_escape inside with mark | written
      · cases mark
      · exact whole written
  have before : (Path.rootSign root :: (escape valueSpecials front ++ '=' :: back)).takeWhile
      (· ≠ '=') = Path.rootSign root :: escape valueSpecials front := by
    rw [← List.cons_append, List.takeWhile_append_of_pos unseparated]
    simp
  have behind : (Path.rootSign root :: (escape valueSpecials front ++ '=' :: back)).dropWhile
      (· ≠ '=') = '=' :: back := by
    rw [← List.cons_append, List.dropWhile_append_of_pos unseparated]
    simp
  simp only [parseRoot, String.toList_ofList, before, behind, trimSpaces_cons bareSign,
    Simple.parse_rootSign, afterTrimming]
  by_cases empty : dropTrailing isSpace (escape valueSpecials front) = []
  · simp [empty]
  · cases root <;> simp [empty, Root.withValue, Root.toSimple, Simple.toRoot?]

/-- Whether a root with a value can be given on the command line: the value holds no equals sign and
ends in no space. -/
def IsGivable (root : Root) : Prop :=
  '=' ∉ root.value.toList ∧ ∀ last ∈ root.value.toList.getLast?, isSpace last = false

/-- The canonical text of a root, an equals sign and a path are read as the root, with the path less
the spaces at its ends, exactly if the root has a value that can be given. -/
theorem parseRoot_text_eq_ok_iff (root : Root) (path stored : String) :
    parseRoot (root.toSimple.text ++ "=" ++ path) = .ok (root, stored) ↔
      root.value ≠ "" ∧ IsGivable root ∧ String.ofList (trimSpaces path.toList) = stored := by
  have written : root.toSimple.text = String.ofList
      (Path.rootSign root :: escape valueSpecials root.value.toList) := by
    cases root <;> rfl
  by_cases whole : '=' ∈ root.value.toList
  · -- what is read has the part of the value before its first equals sign, which is shorter
    obtain ⟨front, back, split, absent⟩ := List.eq_append_cons_of_mem whole
    have plain : ¬ ('=' = escapeMark ∨ '=' ∈ valueSpecials) := by decide
    have argument : root.toSimple.text ++ "=" ++ path =
        String.ofList (Path.rootSign root :: (escape valueSpecials front ++
          '=' :: (escape valueSpecials back ++ '=' :: path.toList))) := by
      apply String.toList_inj.1
      simp [written, split, escape_append, escape, plain]
    rw [argument, parseRoot_signed root absent]
    refine ⟨fun read => ?_, fun given => absurd whole given.2.1.1⟩
    have value := (Root.withValue_eq_self_iff root _).1 read.2.1
    have shorter := length_afterTrimming_le valueSpecials front
    have lengths := congrArg List.length split
    rw [← value, String.toList_ofList, List.length_append, List.length_cons] at lengths
    omega
  · have argument : root.toSimple.text ++ "=" ++ path = String.ofList (Path.rootSign root ::
        (escape valueSpecials root.value.toList ++ '=' :: path.toList)) := by
      apply String.toList_inj.1
      simp [written]
    have kept : String.ofList (afterTrimming valueSpecials root.value.toList) = root.value ↔
        ∀ last ∈ root.value.toList.getLast?, isSpace last = false := by
      rw [← afterTrimming_eq_self_iff valueSpecials, ← String.toList_inj, String.toList_ofList]
    rw [argument, parseRoot_signed root whole, Root.withValue_eq_self_iff, kept]
    constructor
    · rintro ⟨left, ends, same⟩
      refine ⟨fun empty => left ?_, ⟨whole, ends⟩, same⟩
      rw [empty]
      rfl
    · rintro ⟨filled, ⟨_, ends⟩, same⟩
      refine ⟨fun empty => filled ?_, ends, same⟩
      rw [← kept.2 ends, afterTrimming, empty]
      rfl

/-! ## Resolving one root -/

/-- The resolver that finds the path of one root. -/
def resolvingOnly (root : Root) (path : String) : Filter.Resolver :=
  fun other => if root = other then some path else none

/-- The text that the filter document of a pattern is printed as, under a resolver of roots. -/
def documentText (files : Files) (pattern : String) (config : Option String)
    (resolver : Filter.Resolver) : Except Failure String := do
  let selector ← readSelector pattern
  let fields ← readConfig files config
  let document ← ((Filter.Listener.new fields resolver 0).compile selector .null).mapError
    (.notCompiled selector.text)
  .ok (document.pretty ++ "\n")

/-- The stored paths that are given determine the resolver, and through it the document. -/
theorem compileText_of_parseRoots {roots : List String} {table : Filter.PathTable}
    (read : parseRoots .empty roots = .ok table) (files : Files) (pattern : String)
    (config : Option String) :
    compileText files pattern config roots = documentText files pattern config table.resolver := by
  simp only [compileText, documentText, read, Except.mapError, bind, Except.bind]

/-- A table that one path is stored in resolves its root only. -/
theorem resolver_storing_empty (root : Root) (path : String) :
    (Filter.PathTable.empty.storing root.toSimple path).resolver = resolvingOnly root path :=
  funext fun other => Filter.PathTable.resolve_storing .empty root other path

/-- From one argument the table is read that its path is stored in. -/
theorem parseRoots_singleton_eq_ok_iff (argument : String) (table : Filter.PathTable) :
    parseRoots .empty [argument] = .ok table ↔ ∃ root path, parseRoot argument = .ok (root, path) ∧
      Filter.PathTable.empty.storing root.toSimple path = table := by
  rw [parseRoots]
  cases read : parseRoot argument with
  | error failure => simp
  | ok pair =>
    obtain ⟨root, path⟩ := pair
    simp [parseRoots, Filter.PathTable.storing, and_assoc]

/-- Resolvers that know one root each know the same root under the same path if they are the
same. -/
theorem resolvingOnly_inj {root other : Root} {path stored : String}
    (same : resolvingOnly root path = resolvingOnly other stored) :
    root = other ∧ path = stored := by
  have found : resolvingOnly root path other = some stored := by
    rw [same, resolvingOnly, if_pos rfl]
  rw [resolvingOnly] at found
  split at found
  · rename_i equal
    exact ⟨equal, Option.some.inj found⟩
  · cases found

/-- A root with a value and a path without spaces at its ends are read from their texts with an
equals sign between them, and make the paths of this root the ones that are resolved, exactly if
the value holds no equals sign and ends in no space. Then documents are compiled as they are under
the resolver that knows this root only. -/
theorem parseRoot_text_iff (root : Root) (path : String) (filled : root.value ≠ "")
    (bare : HasBareEnds path.toList) :
    let argument := root.toSimple.text ++ "=" ++ path
    (parseRoot argument = .ok (root, path) ↔ IsGivable root) ∧
      ((∃ table, parseRoots .empty [argument] = .ok table ∧
        table.resolver = resolvingOnly root path) ↔ IsGivable root) ∧
      (IsGivable root → ∀ files pattern config, compileText files pattern config [argument] =
        documentText files pattern config (resolvingOnly root path)) := by
  intro argument
  have trimmed : String.ofList (trimSpaces path.toList) = path := by
    rw [(trimSpaces_eq_self_iff path.toList).2 bare, String.ofList_toList]
  have read : parseRoot argument = .ok (root, path) ↔ IsGivable root := by
    rw [parseRoot_text_eq_ok_iff]
    exact ⟨fun given => given.2.1, fun givable => ⟨filled, givable, trimmed⟩⟩
  have resolved : ∀ table, parseRoots .empty [argument] = .ok table →
      table.resolver = resolvingOnly root path → IsGivable root := by
    intro table made only
    obtain ⟨other, stored, found, rfl⟩ := (parseRoots_singleton_eq_ok_iff argument table).1 made
    rw [resolver_storing_empty] at only
    obtain ⟨rfl, rfl⟩ := resolvingOnly_inj only
    exact read.1 found
  have made : IsGivable root → parseRoots .empty [argument] =
      .ok (Filter.PathTable.empty.storing root.toSimple path) := fun givable =>
    (parseRoots_singleton_eq_ok_iff argument _).2 ⟨root, path, read.2 givable, rfl⟩
  refine ⟨read, ⟨?_, fun givable => ?_⟩, fun givable files pattern config => ?_⟩
  · rintro ⟨table, success, only⟩
    exact resolved table success only
  · exact ⟨_, made givable, resolver_storing_empty root path⟩
  · rw [compileText_of_parseRoots (made givable), resolver_storing_empty]

/-- A role with a blank and an equals sign in its path. -/
theorem parseRoot_text_blankInside :
    (Root.role "a b").value ≠ "" ∧ HasBareEnds "/x=y".toList ∧ IsGivable (.role "a b") ∧
      parseRoot ((Root.role "a b").toSimple.text ++ "=" ++ "/x=y") = .ok (.role "a b", "/x=y") ∧
      ∀ files pattern config,
        compileText files pattern config [(Root.role "a b").toSimple.text ++ "=" ++ "/x=y"] =
          documentText files pattern config (resolvingOnly (.role "a b") "/x=y") := by
  have filled : (Root.role "a b").value ≠ "" := by decide
  have bare : HasBareEnds "/x=y".toList := ⟨by simp [isSpace], by simp [isSpace]⟩
  have givable : IsGivable (.role "a b") :=
    ⟨by simp [Root.value], by simp [Root.value, isSpace]⟩
  obtain ⟨read, _, compiled⟩ := parseRoot_text_iff (.role "a b") "/x=y" filled bare
  exact ⟨filled, bare, givable, read.2 givable, compiled givable⟩

/-- An equals sign in the value ends it, and a blank at its end is lost. -/
theorem not_parseRoot_text_equals :
    HasBareEnds "/x".toList ∧
      parseRoot ((Root.id "a=b").toSimple.text ++ "=" ++ "/x") = .ok (.id "a", "b=/x") ∧
      parseRoot ((Root.id "a ").toSimple.text ++ "=" ++ "/x") = .ok (.id "a", "/x") := by
  have bare : HasBareEnds "/x".toList := ⟨by simp [isSpace], by simp [isSpace]⟩
  refine ⟨bare, ?_, ?_⟩ <;> cbv

end Command

end NodeQuery
