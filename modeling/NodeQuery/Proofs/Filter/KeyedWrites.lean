import NodeQuery.Filter.Listener
import NodeQuery.Proofs.Filter.Survival

/-!
# Writes under keys

A filter document is written in place: a value deep in it is reached through the keys of the values
around it. Only an object has keys; the absent value becomes an object when a key of it is written,
and to write a key of any other value is an error that nothing catches. A document may be left in
any state by other handlers, so each value on the way is made an object before a key of it is
written. Here every change is spelled out as such writes, with the values that keys are written in.

Main statement: `Listener.leaves_simpleHandler`.
-/

namespace NodeQuery.Filter

open NodeQuery

/-! ## Writers -/

/-- What comes of writing in a value: the value that is left and, in order, the values in which
keys were written; or the value that has no keys. -/
abbrev Written : Type := Except Json (Json × List Json)

/-- A way of writing in a value. -/
abbrev Writer : Type := Json → Written

namespace Writer

/-- Puts another value in the place. -/
def put (value : Json) : Writer := fun _ => .ok (value, [])

/-- Writes nothing. -/
def keep : Writer := fun value => .ok (value, [])

/-- Writes with one writer and then with another one. -/
def andThen (first second : Writer) : Writer := fun value => do
  let (middle, holders) ← first value
  let (last, others) ← second middle
  .ok (last, holders ++ others)

/-- The fields in which a key can be written, if it can. -/
def keyed? : Json → Option (List (String × Json))
  | .object fields => some fields
  | .null => some []
  | _ => none

/-- Writes under a key; a missing key is added with the absent value first. -/
def under (key : String) (write : Writer) : Writer := fun value =>
  match keyed? value with
  | none => .error value
  | some fields => do
    let (changed, holders) ← write ((Json.lookup key fields).getD .null)
    .ok (.object (Json.insert key changed fields), value :: holders)

/-- In the absent value a key makes an object. -/
example : under "a" keep .null = .ok (.object [("a", .null)], [.null]) := rfl

/-- Writes in an object; anything else is replaced by an empty one. -/
def asObject (write : Writer) : Writer := fun value =>
  write (if value.isObject then value else .object [])

/-- Writes in the object under a key. -/
def inEntry (key : String) (write : Writer) : Writer := under key (asObject write)

/-- Writes in the terms of a document. -/
def inTerms (write : Writer) : Writer := asObject (inEntry queryEntry write)

/-- Writes in the commands of a term; a plain value is kept as the command to equal it. -/
def asCommands (write : Writer) : Writer := fun term =>
  write (if term.isObject then term
    else if term.isNull then .object [] else .object [(equalCommand, term)])

/-- Writes the operand of a command on a field. -/
def inOperand (field command : String) (write : Writer) : Writer :=
  inTerms (under field (asCommands (under command write)))

end Writer

/-- The writes of a change. -/
def Change.writer : Change → Writer
  | setTerm field value => .inTerms (.under field (.put value))
  | setCommand field command value => .inOperand field command (.put value)
  | allow field value =>
    .inOperand field inCommand fun operand => .ok (extendAllowed value (some operand), [])
  | setSort name direction => .asObject (.inEntry sortEntry (.under name (.put direction)))
  | setEntry name value => .asObject (.under name (.put value))

/-- The writes of changes, one after the other. -/
def writeAll (changes : List Change) : Writer :=
  changes.foldr (fun change later => .andThen change.writer later) .keep

/-- The writes of a plan; one that is unsupported or failed writes nothing. -/
def Plan.writer : Plan → Writer
  | changes list => writeAll list
  | _ => .keep

/-! ## Writes in objects -/

/-- Writing leaves a value, and all values in which keys were written are objects. -/
def Leaves (written : Written) (value : Json) : Prop :=
  ∃ holders, written = .ok (value, holders) ∧ ∀ holder ∈ holders, holder.isObject = true

namespace Leaves

/-- To put a value is to leave it. -/
theorem of_ok (value : Json) : Leaves (.ok (value, [])) value :=
  ⟨[], rfl, List.forall_mem_nil _⟩

variable {write second : Writer} {value middle changed document : Json}

/-- One writer after another. -/
theorem andThen (first : Leaves (write value) middle) (later : Leaves (second middle) changed) :
    Leaves (Writer.andThen write second value) changed := by
  obtain ⟨holders, firstWritten, firstObjects⟩ := first
  obtain ⟨others, laterWritten, laterObjects⟩ := later
  refine ⟨holders ++ others, ?_, List.forall_mem_append.2 ⟨firstObjects, laterObjects⟩⟩
  rw [Writer.andThen, firstWritten]
  simp only [bind, Except.bind, laterWritten]

/-- Under a key of an object anything can be written. -/
theorem under {key : String} {fields : List (String × Json)}
    (inside : Leaves (write ((Json.lookup key fields).getD .null)) changed) :
    Leaves (Writer.under key write (.object fields)) (.object (Json.insert key changed fields)) := by
  obtain ⟨holders, written, objects⟩ := inside
  refine ⟨.object fields :: holders, ?_, List.forall_mem_cons.2 ⟨rfl, objects⟩⟩
  rw [Writer.under, Writer.keyed?]
  simp only [bind, Except.bind, written]

/-- What is made an object first has the fields that were there. -/
theorem asObject (inside : Leaves (write (.object value.fields)) changed) :
    Leaves (Writer.asObject write value) changed := by
  have made : (if value.isObject then value else .object []) = .object value.fields := by
    cases value <;> rfl
  rw [Writer.asObject, made]
  exact inside

/-- In the object under a key. -/
theorem inEntry {key : String}
    (inside : Leaves (write (.object (entryFields key document))) changed) :
    Leaves (Writer.inEntry key write (.object document.fields))
      (.object (Json.insert key changed document.fields)) := by
  rw [entryFields, Json.field?_eq_lookup] at inside
  exact inside.asObject.under

/-- In the terms of any value. -/
theorem inTerms {entries : List (String × Json)}
    (inside : Leaves (write (.object (terms document))) (.object entries)) :
    Leaves (Writer.inTerms write document) (setTerms entries document) :=
  inside.inEntry.asObject

/-- The operand of a command, whatever the term of the field was. -/
theorem inOperand {field command : String}
    (inside : Leaves (write ((Json.lookup command (commands field document)).getD .null)) value) :
    Leaves (Writer.inOperand field command write document)
      (writeCommand field command value document) := by
  have made : ∀ term : Option Json,
      (if (term.getD .null).isObject then term.getD .null
        else if (term.getD .null).isNull then .object []
        else .object [(equalCommand, term.getD .null)]) = .object (commandsOf term) := by
    intro term
    cases term with
    | none => rfl
    | some value => cases value <;> rfl
  -- a missing field has the absent value when its commands are reached
  refine inTerms (under ?_)
  rw [Writer.asCommands, made]
  exact inside.under

end Leaves

/-- The writes of a change are made in objects, and they leave the changed document. -/
theorem Change.leaves_writer (change : Change) (document : Json) :
    Leaves (change.writer document) (change.perform document) := by
  cases change with
  | setTerm field value => exact (Leaves.of_ok value).under.inTerms
  | setCommand field command value => exact (Leaves.of_ok value).inOperand
  | allow field value =>
    have extended : ∀ before : Option Json,
        extendAllowed value (some (before.getD .null)) = extendAllowed value before := by
      intro before
      cases before <;> rfl
    refine Leaves.inOperand ?_
    rw [extended]
    exact Leaves.of_ok _
  | setSort name direction => exact (Leaves.of_ok direction).under.inEntry.asObject
  | setEntry name value => exact (Leaves.of_ok value).under.asObject

/-- So are those of several changes. -/
theorem leaves_writeAll (changes : List Change) (document : Json) :
    Leaves (writeAll changes document) (performAll changes document) := by
  induction changes generalizing document with
  | nil => exact Leaves.of_ok document
  | cons change rest hypothesis =>
    exact (change.leaves_writer document).andThen (hypothesis (change.perform document))

/-- And those of a plan. -/
theorem Plan.leaves_writer (plan : Plan) (document : Json) :
    Leaves (plan.writer document) (plan.perform document).1 := by
  cases plan with
  | changes list => exact leaves_writeAll list document
  | unsupported => exact Leaves.of_ok document
  | failed failure => exact Leaves.of_ok document

/-! ## Documents of handled selectors -/

/-- After changes a document is an object. -/
theorem isObject_performAll {changes : List Change} (some : changes ≠ []) (document : Json) :
    (performAll changes document).isObject = true := by
  rw [← List.dropLast_concat_getLast some, performAll_append]
  exact Change.isObject_perform _ _

/-- A kind of selector that has a field makes a change. -/
theorem Plan.ne_nil_of_onField {field : Option String} {change : String → Change}
    {changes : List Change} (planned : onField field change = .changes changes) :
    changes ≠ [] := by
  cases field with
  | none => cases planned
  | some name =>
    cases planned
    exact List.cons_ne_nil _ _

/-- A condition that has a text makes the changes for it. -/
theorem Plan.ne_nil_of_ofText {operator : Operator} {condition : Value}
    {plan : List Char → List Change} (some : ∀ text, plan text ≠ []) {changes : List Change}
    (planned : ofText operator condition plan = .changes changes) : changes ≠ [] := by
  unfold ofText at planned
  split at planned
  · cases planned
    exact some _
  · cases planned

/-- A hand-written expression makes a change. -/
theorem expressionChanges_ne_nil (field : String) (pattern : List Char) :
    expressionChanges field pattern ≠ [] := by
  unfold expressionChanges
  split
  · exact List.cons_ne_nil _ _
  · exact List.cons_ne_nil _ _

/-- Every selector but the universal one changes the document if it is handled. -/
theorem ne_nil_of_planOf {config : Config} {resolve : Resolver} {simple : Simple}
    (specific : simple ≠ .universal) {changes : List Change}
    (planned : planOf config resolve simple = .changes changes) : changes ≠ [] := by
  cases simple with
  | universal => exact absurd rfl specific
  | element value | role value | className value | path value =>
    exact Plan.ne_nil_of_onField planned
  | id value =>
    cases planned
    exact List.cons_ne_nil _ _
  | attributeTest test =>
    obtain ⟨name, operator, condition⟩ := test
    cases operator with
    | none =>
      cases planned
      exact List.cons_ne_nil _ _
    | some operator =>
      cases operator with
      | contains | startsWith | endsWith =>
        exact Plan.ne_nil_of_ofText (fun _ => List.cons_ne_nil _ _) planned
      | regExp => exact Plan.ne_nil_of_ofText (expressionChanges_ne_nil name) planned
      | _ =>
        cases planned
        exact List.cons_ne_nil _ _
  | pseudo pseudo =>
    cases pseudo with
    | sort name order =>
      cases planned
      exact List.cons_ne_nil _ _
    | named name value =>
      rw [planOf, pseudoPlan] at planned
      split at planned
      · cases planned
      · split at planned
        · cases planned
          exact List.cons_ne_nil _ _
        · cases planned

/-- The document is an object after such a selector. -/
theorem isObject_perform_planOf {config : Config} {resolve : Resolver} {simple : Simple}
    (specific : simple ≠ .universal) {document : Json}
    (handled : ((planOf config resolve simple).perform document).2 = .handled) :
    ((planOf config resolve simple).perform document).1.isObject = true := by
  cases planned : planOf config resolve simple with
  | changes changes => exact isObject_performAll (ne_nil_of_planOf specific planned) document
  | unsupported =>
    rw [planned] at handled
    cases handled
  | failed failure =>
    rw [planned] at handled
    cases handled

/-- Whatever value stands in the place of a document and whatever stands under its keys, a filter
listener writes under keys of objects alone and without an error: both for the preparation, which
leaves an object, and for every simple selector, whatever the field names and the stored paths.
When a selector other than the universal one was handled, the document is an object. -/
theorem Listener.leaves_simpleHandler (config : Config) (resolve : Resolver) (selector : Selector)
    (document : Json) :
    (Leaves (Writer.inTerms .keep document) (prepareHandler ⟨selector, .prepare⟩ document).1 ∧
        (prepareHandler ⟨selector, .prepare⟩ document).1.isObject = true) ∧
      ∀ simple : Simple,
        Leaves ((planOf config resolve simple).writer document)
            (simpleHandler config resolve ⟨selector, .simple simple⟩ document).1 ∧
          ((simpleHandler config resolve ⟨selector, .simple simple⟩ document).2 = .handled →
            simple ≠ .universal →
              (simpleHandler config resolve ⟨selector, .simple simple⟩ document).1.isObject =
                true) := by
  refine ⟨⟨(Leaves.of_ok _).inTerms, rfl⟩, fun simple => ⟨Plan.leaves_writer _ document, ?_⟩⟩
  intro handled specific
  exact isObject_perform_planOf specific handled

/-- A number stands where commands are to be written, and is kept as one of them. -/
theorem Listener.leaves_simpleHandler_plainTerm :
    let older : Simple := .attributeTest (.compare "age" .greater (.int 5))
    let event : Event := ⟨.ofChain ⟨⟨[older]⟩, []⟩, .simple older⟩
    let document : Json := .object [("query", .object [("age", .int 3)])]
    let changed : Json :=
      .object [("query", .object [("age", .object [("$eq", .int 3), ("$gt", .int 5)])])]
    older ≠ .universal ∧
      simpleHandler .usual (fun _ => none) event document = (changed, .handled) ∧
      Leaves ((planOf .usual (fun _ => none) older).writer document) changed ∧
      changed.isObject = true := by
  intro older event document changed
  have specific : older ≠ .universal := nofun
  have performed : simpleHandler .usual (fun _ => none) event document = (changed, .handled) :=
    by decide +kernel
  have law := (leaves_simpleHandler .usual (fun _ => none) event.selector document).2 older
  have left : (simpleHandler .usual (fun _ => none) event document).1 = changed := by rw [performed]
  have handled : (simpleHandler .usual (fun _ => none) event document).2 = .handled := by
    rw [performed]
  rw [← left]
  exact ⟨specific, by rw [← handled], law.1, law.2 handled specific⟩

end NodeQuery.Filter
