import NodeQuery.Proofs.Filter.Session

/-!
# What a listener detaches

The identifiers that a listener keeps are those of the attachments that it made since it was last
detached, and no others. So detaching it removes these and nothing else, and what is left dispatches
as if they had never been made: a second session runs beside the first one and differs from it by
the attachments of that listener alone.

Main statement: `Session.detach_exact`.
-/

namespace NodeQuery.Filter

open NodeQuery

/-! ## Listeners with attachments left out -/

namespace Listener

variable {longer shorter : FilterRegistry} {omitted : List Nat}

/-- Handlers that are attached to both registries are kept in both. -/
theorem attachEach_omits (omits : longer.Omits shorter omitted)
    (live : ∃ calls, longer.HoldsLive calls) (older : ∀ id ∈ omitted, id < longer.nextId)
    (priority : Int) (pairs : List (EventKind × Handler Json Failure)) :
    (attachEach priority pairs longer).2.Omits (attachEach priority pairs shorter).2 omitted ∧
      (attachEach priority pairs shorter).1 =
        (attachEach priority pairs longer).1.map (Registry.keptBelow omitted) := by
  induction pairs generalizing longer shorter with
  | nil => exact ⟨omits, rfl⟩
  | cons pair rest hypothesis =>
    obtain ⟨calls, holds⟩ := live
    have fresh : longer.nextId ∉ omitted := fun member => Nat.lt_irrefl _ (older _ member)
    obtain ⟨both, first⟩ := omits.register holds.ordered fresh (some pair.1) priority pair.2
    obtain ⟨all, later⟩ := hypothesis both ⟨_, holds.perform (.attach pair.1 priority pair.2)⟩
      fun id member => Nat.lt_succ_of_lt (older id member)
    exact ⟨all, congrArg₂ List.cons first later⟩

/-- Handlers that are attached to the longer registry alone can be omitted. -/
theorem attachEach_omitted (omits : longer.Omits shorter omitted)
    (live : ∃ calls, longer.HoldsLive calls) (priority : Int)
    (pairs : List (EventKind × Handler Json Failure)) :
    (attachEach priority pairs longer).2.Omits shorter
      (omitted ++ (attachEach priority pairs longer).1) := by
  induction pairs generalizing longer omitted with
  | nil =>
    rw [attachEach, List.append_nil]
    exact omits
  | cons pair rest hypothesis =>
    obtain ⟨calls, holds⟩ := live
    have one := omits.register_omitted (fun registration => holds.id_lt) (some pair.1) priority pair.2
    have all := hypothesis one ⟨_, holds.perform (.attach pair.1 priority pair.2)⟩
    rw [List.append_assoc] at all
    exact all

/-- The listener as it would be if omitted attachments had never been made. -/
def without (omitted : List Nat) (listener : Listener) : Listener :=
  { listener with
    attachments := (listener.attachments.filter fun id => decide (id ∉ omitted)).map
      (Registry.keptBelow omitted) }

/-- Nothing changes where nothing is omitted. -/
theorem without_nil (listener : Listener) : listener.without [] = listener := by
  rw [without, List.filter_eq_self.2 (by simp), Registry.keptBelow_nil, List.map_id]

/-- A listener all of whose attachments are omitted is left with none. -/
theorem without_of_forall_mem {listener : Listener} {omitted : List Nat}
    (all : ∀ id ∈ listener.attachments, id ∈ omitted) :
    listener.without omitted = { listener with attachments := [] } := by
  rw [without, List.filter_eq_nil_iff.2 (by simpa using all), List.map_nil]

/-- A listener none of whose attachments is omitted keeps them all. -/
theorem without_of_forall_not_mem {listener : Listener} {omitted : List Nat}
    (kept : ∀ id ∈ listener.attachments, id ∉ omitted) :
    listener.without omitted =
      { listener with attachments := listener.attachments.map (Registry.keptBelow omitted) } := by
  rw [without, List.filter_eq_self.2 (by simpa using kept)]

/-- Later omissions do not concern a listener. -/
theorem without_append {listener : Listener} {later : List Nat} (omitted : List Nat)
    (older : ∀ id ∈ listener.attachments, ∀ other ∈ later, id < other) :
    listener.without (omitted ++ later) = listener.without omitted := by
  have kept : ∀ id ∈ listener.attachments, id ∉ later := fun id member inside =>
    Nat.lt_irrefl id (older id member id inside)
  have filtered : (listener.attachments.filter fun id => decide (id ∉ omitted ++ later)) =
      listener.attachments.filter fun id => decide (id ∉ omitted) :=
    List.filter_congr fun id member => by simp [kept id member]
  rw [without, without, filtered]
  congr 1
  refine List.map_congr_left fun id member => Registry.keptBelow_append omitted ?_
  exact fun other inside => Nat.le_of_lt (older id (List.mem_filter.1 member).1 other inside)

end Listener

/-! ## What stays attached -/

namespace Session

/-- Whether an act attaches the listener in a slot and no later one releases it. -/
def isPending (slot : Nat) (act : Act) (later : List Act) : Bool :=
  act.attaches slot && !later.any (·.releases slot)

/-- The acts of a history, less the attachments of the listener in a slot that it has not detached
since. -/
def omitPending (slot : Nat) : List Act → List Act
  | [] => []
  | act :: rest =>
    if isPending slot act rest then omitPending slot rest
    else act :: omitPending slot rest

/-- The attachments that the listener in a slot makes during a history and has not detached since. -/
def own (slot : Nat) (session : Session) : List Act → List (Registration Json Failure)
  | [] => []
  | act :: rest =>
    (if isPending slot act rest then session.made slot else []) ++
      own slot (session.perform act) rest

/-- The listener in a slot was attached during a history and not detached or replaced since. -/
def AttachedSince (slot : Nat) (acts : List Act) : Prop :=
  ∃ front back, acts = front ++ .attach slot :: back ∧ ∀ act ∈ back, act.releases slot = false

/-! ## One more act -/

/-- What is attached is pending exactly if it was before and the new act does not release it. -/
theorem isPending_concat (slot : Nat) (first : Act) (later : List Act) (act : Act) :
    isPending slot first (later ++ [act]) = (isPending slot first later && !act.releases slot) := by
  simp [isPending, Bool.and_assoc]

/-- Once the listener is released nothing is pending. -/
theorem omitPending_concat_of_releases {slot : Nat} {act : Act} (releases : act.releases slot = true)
    (acts : List Act) : omitPending slot (acts ++ [act]) = acts ++ [act] := by
  induction acts with
  | nil => simp [omitPending, isPending, Act.attaches_of_releases releases]
  | cons first rest hypothesis =>
    rw [List.cons_append, omitPending, isPending_concat, hypothesis]
    simp [releases]

/-- An act that does not release the listener is omitted exactly if it attaches it. -/
theorem omitPending_concat {slot : Nat} {act : Act} (keeps : act.releases slot = false)
    (acts : List Act) :
    omitPending slot (acts ++ [act]) =
      omitPending slot acts ++ if act.attaches slot then [] else [act] := by
  induction acts with
  | nil => cases attaches : act.attaches slot <;> simp [omitPending, isPending, attaches]
  | cons first rest hypothesis =>
    rw [List.cons_append, omitPending, omitPending, isPending_concat, hypothesis, keeps,
      Bool.not_false, Bool.and_true]
    split <;> rfl

/-- Once the listener is released it owns nothing. -/
theorem own_concat_of_releases {slot : Nat} {act : Act} (releases : act.releases slot = true)
    (session : Session) (acts : List Act) : own slot session (acts ++ [act]) = [] := by
  induction acts generalizing session with
  | nil => simp [own, isPending, Act.attaches_of_releases releases]
  | cons first rest hypothesis =>
    rw [List.cons_append, own, isPending_concat, hypothesis]
    simp [releases]

/-- An act that does not release the listener adds what it attaches. -/
theorem own_concat {slot : Nat} {act : Act} (keeps : act.releases slot = false) (session : Session)
    (acts : List Act) :
    own slot session (acts ++ [act]) =
      own slot session acts ++
        if act.attaches slot then (session.performAll acts).made slot else [] := by
  induction acts generalizing session with
  | nil => cases attaches : act.attaches slot <;> simp [own, isPending, attaches, performAll]
  | cons first rest hypothesis =>
    rw [List.cons_append, own, own, isPending_concat, hypothesis, keeps, Bool.not_false,
      Bool.and_true, List.append_assoc]
    rfl

/-- The listener owns something exactly if it was attached since it was last released. -/
theorem own_ne_nil_iff (slot : Nat) (session : Session) (acts : List Act) :
    own slot session acts ≠ [] ↔ AttachedSince slot acts := by
  induction acts generalizing session with
  | nil =>
    refine iff_of_false (fun filled => filled rfl) ?_
    rintro ⟨front, back, split, _⟩
    cases front <;> cases split
  | cons act rest hypothesis =>
    have first : isPending slot act rest = true ↔
        act = .attach slot ∧ ∀ later ∈ rest, later.releases slot = false := by
      simp [isPending, Act.attaches_iff]
    have since : AttachedSince slot (act :: rest) ↔
        isPending slot act rest = true ∨ AttachedSince slot rest := by
      rw [first]
      constructor
      · rintro ⟨front, back, split, later⟩
        cases front with
        | nil =>
          cases split
          exact Or.inl ⟨rfl, later⟩
        | cons head front =>
          cases split
          exact Or.inr ⟨front, back, rfl, later⟩
      · rintro (⟨rfl, later⟩ | ⟨front, back, rfl, later⟩)
        · exact ⟨[], rest, rfl, later⟩
        · exact ⟨act :: front, back, rfl, later⟩
    rw [since, ← hypothesis (session.perform act), own]
    by_cases pending : isPending slot act rest = true
    · rw [if_pos pending]
      exact iff_of_true (fun nothing => made_ne_nil session slot (List.append_eq_nil_iff.1 nothing).1)
        (Or.inl pending)
    · rw [if_neg pending, List.nil_append]
      simp [pending]

/-! ## What a listener owns -/

/-- A listener keeps the identifiers of attachments that are all there. -/
structure Owns (session : Session) (slot : Nat) (own : List (Registration Json Failure)) : Prop where
  /-- The listener has their identifiers. -/
  ids : (session.listeners slot).attachments = own.map (·.id)
  /-- The registry holds them. -/
  attached : ∀ registration ∈ own, registration ∈ session.registry.registrations

namespace Owns

variable {session : Session} {slot : Nat} {own : List (Registration Json Failure)}

/-- What is removed from others leaves what a listener owns. -/
theorem mem_detachEach (owns : session.Owns slot own) {ids : List Nat}
    (others : ∀ id ∈ ids, id ∉ (session.listeners slot).attachments)
    (registration : Registration Json Failure) (member : registration ∈ own) :
    registration ∈ (session.registry.detachEach ids).registrations := by
  have held : registration.id ∈ (session.listeners slot).attachments :=
    owns.ids ▸ List.mem_map_of_mem member
  rw [Registry.detachEach_eq, List.mem_filter]
  exact ⟨owns.attached registration member, decide_eq_true fun inside => others _ inside held⟩

/-- What another listener or another handler does leaves what a listener owns, and what it attaches
adds to it. -/
theorem perform (owns : session.Owns slot own) (sound : session.Sound) {act : Act}
    (keeps : act.releases slot = false) :
    (session.perform act).Owns slot
      (own ++ if act.attaches slot then session.made slot else []) := by
  constructor
  · rw [attachments_perform keeps, owns.ids, List.map_append]
    split <;> rfl
  · have kept : ∀ registration ∈ own,
        registration ∈ (session.perform act).registry.registrations := by
      cases act with
      | new other config resolve => exact owns.attached
      | withPriority other priority => exact owns.attached
      | attach other =>
        intro registration member
        exact (registrations_attach session other).mem_iff.2
          (List.mem_append_right _ (owns.attached registration member))
      | detach other => exact owns.mem_detachEach (sound.apart other slot (ne_of_beq_false keeps))
      | register token kind priority handler =>
        intro registration member
        exact Registry.mem_register.2 (Or.inr (owns.attached registration member))
      | remove token =>
        rw [Session.perform]
        cases found : session.tokens token with
        | none => exact owns.attached
        | some id =>
          exact owns.mem_detachEach (List.forall_mem_singleton.2 (sound.free slot token id found))
    have added : ∀ registration ∈ if act.attaches slot then session.made slot else [],
        registration ∈ (session.perform act).registry.registrations := by
      intro registration member
      by_cases attaches : act.attaches slot = true
      · rw [if_pos attaches] at member
        obtain rfl := Act.attaches_iff.1 attaches
        exact (registrations_attach session slot).mem_iff.2 (List.mem_append_left _ member)
      · rw [if_neg attaches] at member
        exact absurd member List.not_mem_nil
    exact fun registration member => (List.mem_append.1 member).elim (kept _) (added _)

/-- A registry holds what a listener owns and what stays when that is removed. -/
theorem perm (owns : session.Owns slot own) (sound : session.Sound) :
    session.registry.registrations.Perm (own ++
      (session.registry.detachEach (session.listeners slot).attachments).registrations) := by
  obtain ⟨calls, holds⟩ := sound.live
  have isOwn : ∀ registration ∈ session.registry.registrations,
      registration.id ∈ (session.listeners slot).attachments ↔ registration ∈ own := by
    intro registration member
    rw [owns.ids, List.mem_map]
    constructor
    · rintro ⟨other, inside, same⟩
      exact List.inj_on_of_nodup_map holds.nodup_ids (owns.attached other inside) member same ▸ inside
    · exact fun inside => ⟨registration, inside, rfl⟩
  have removed : (session.registry.registrations.filter fun registration =>
      decide (registration.id ∈ (session.listeners slot).attachments)).Perm own := by
    have nodup : (own.map (·.id)).Nodup := owns.ids ▸ sound.nodup slot
    refine (List.perm_ext_iff_of_nodup (holds.nodup_ids.of_map.filter _) nodup.of_map).2 ?_
    intro registration
    rw [List.mem_filter, decide_eq_true_iff]
    constructor
    · exact fun ⟨member, named⟩ => (isOwn registration member).1 named
    · intro inside
      have member := owns.attached registration inside
      exact ⟨member, (isOwn registration member).2 inside⟩
  refine (List.filter_append_perm _ _).symm.trans (removed.append ?_)
  rw [Registry.detachEach_eq]
  simp

end Owns

/-! ## Sessions with attachments left out -/

/-- The second session is the first one as if the omitted attachments had never been made. -/
structure Omits (longer shorter : Session) (omitted : List Nat) : Prop where
  /-- The registries differ by the omitted attachments. -/
  registry : longer.registry.Omits shorter.registry omitted
  /-- Listeners have the other identifiers. -/
  listeners : ∀ slot, shorter.listeners slot = (longer.listeners slot).without omitted
  /-- Tokens stand for the identifiers of the same handlers. -/
  tokens : ∀ token, shorter.tokens token = (longer.tokens token).map (Registry.keptBelow omitted)

/-- A session omits nothing of itself. -/
theorem omits_nil (session : Session) : session.Omits session [] where
  registry := Registry.omits_nil _
  listeners := fun _ => (Listener.without_nil _).symm
  tokens := fun _ => by rw [Registry.keptBelow_nil, Option.map_id, id]

namespace Omits

variable {longer shorter : Session} {omitted : List Nat} {slot : Nat}

/-- Corresponding listeners may be put into a slot of both sessions. -/
theorem withListener (omits : longer.Omits shorter omitted) (slot : Nat) {listener other : Listener}
    (same : other = listener.without omitted) :
    { longer with listeners := Function.update longer.listeners slot listener }.Omits
      { shorter with listeners := Function.update shorter.listeners slot other } omitted where
  registry := omits.registry
  listeners := by
    intro one
    rcases eq_or_ne one slot with rfl | distinct
    · simpa using same
    · simpa [distinct] using omits.listeners one
  tokens := omits.tokens

/-- Corresponding registries may take the place of those of both sessions. -/
theorem withRegistry (omits : longer.Omits shorter omitted) {registry other : FilterRegistry}
    (both : registry.Omits other omitted) :
    { longer with registry := registry }.Omits { shorter with registry := other } omitted :=
  ⟨both, omits.listeners, omits.tokens⟩

/-- What a listener attaches in the longer session alone can be omitted. -/
theorem attachFor_omitted (omits : longer.Omits shorter (longer.listeners slot).attachments)
    (sound : longer.Sound) (priority : Int) (pairs : List (EventKind × Handler Json Failure)) :
    (longer.attachFor slot priority pairs).Omits shorter
      ((longer.attachFor slot priority pairs).listeners slot).attachments := by
  obtain ⟨ids, _, _⟩ := Listener.attachEach_eq priority pairs longer.registry
  have older : ∀ {id}, id < longer.registry.nextId →
      ∀ other ∈ (Listener.attachEach priority pairs longer.registry).1, id < other := by
    intro id given other new
    rw [ids] at new
    exact Nat.lt_of_lt_of_le given (List.mem_range'_1.1 new).1
  have attachments := longer.attachments_attachFor slot priority pairs
  rw [attachments]
  constructor
  · exact Listener.attachEach_omitted omits.registry sound.live priority pairs
  · intro other
    rw [omits.listeners]
    rcases eq_or_ne other slot with rfl | distinct
    · rw [← attachments, Listener.without_of_forall_mem fun _ => id,
        Listener.without_of_forall_mem fun _ => id, attachFor]
      simp
    · have unchanged : (longer.attachFor slot priority pairs).listeners other =
          longer.listeners other := Function.update_of_ne distinct ..
      rw [unchanged]
      exact (Listener.without_append _ fun id member => older (sound.held other id member)).symm
  · intro token
    rw [omits.tokens]
    refine Option.map_congr fun id found => (Registry.keptBelow_append _ ?_).symm
    exact fun other new => Nat.le_of_lt (older (sound.kept token id found) other new)

/-- What another listener attaches in both sessions is kept in both. -/
theorem attachFor (omits : longer.Omits shorter (longer.listeners slot).attachments)
    (sound : longer.Sound) {other : Nat} (distinct : other ≠ slot) (priority : Int)
    (pairs : List (EventKind × Handler Json Failure)) :
    (longer.attachFor other priority pairs).Omits (shorter.attachFor other priority pairs)
      (longer.listeners slot).attachments := by
  obtain ⟨ids, _, _⟩ := Listener.attachEach_eq priority pairs longer.registry
  obtain ⟨both, same⟩ := Listener.attachEach_omits omits.registry sound.live (sound.held slot)
    priority pairs
  have before := sound.apart other slot distinct
  refine (omits.withRegistry both).withListener other ?_
  rw [omits.listeners, same, Listener.without_of_forall_not_mem before,
    Listener.without_of_forall_not_mem, List.map_append]
  intro id member
  rcases List.mem_append.1 member with old | new
  · exact before id old
  · rw [ids] at new
    exact fun inside => absurd (sound.held slot id inside) (Nat.not_lt.2 (List.mem_range'_1.1 new).1)

/-- What is done in both sessions apart from a listener keeps what is omitted of it. -/
theorem perform (omits : longer.Omits shorter (longer.listeners slot).attachments)
    (sound : longer.Sound) {act : Act} (keeps : act.releases slot = false)
    (elsewhere : act.attaches slot = false) :
    (longer.perform act).Omits (shorter.perform act)
      ((longer.perform act).listeners slot).attachments := by
  rw [attachments_perform keeps, elsewhere, if_neg Bool.false_ne_true, List.append_nil]
  cases act with
  | new other config resolve => exact omits.withListener other rfl
  | withPriority other priority =>
    refine omits.withListener other ?_
    rw [omits.listeners]
    rfl
  | attach other =>
    have same : (shorter.perform (.attach other)) = shorter.attachFor other
        (longer.listeners other).priority (longer.listeners other).handlers := by
      rw [perform_attach, omits.listeners]
      rfl
    rw [same, perform_attach]
    exact omits.attachFor sound (ne_of_beq_false elsewhere) ..
  | detach other =>
    have kept := sound.apart other slot (ne_of_beq_false keeps)
    have same : shorter.perform (.detach other) =
        { shorter with
          registry := shorter.registry.detachEach
            ((longer.listeners other).attachments.map
              (Registry.keptBelow (longer.listeners slot).attachments))
          listeners := Function.update shorter.listeners other
            { longer.listeners other with attachments := [] } } := by
      rw [Session.perform, omits.listeners, Listener.without_of_forall_not_mem kept]
      rfl
    rw [same]
    exact (omits.withRegistry (omits.registry.detachEach kept)).withListener other rfl
  | register token kind priority handler =>
    obtain ⟨calls, holds⟩ := sound.live
    obtain ⟨both, same⟩ := omits.registry.register holds.ordered
      (fun member => Nat.lt_irrefl _ (sound.held slot _ member)) kind priority handler
    refine { omits.withRegistry both with tokens := fun one => ?_ }
    rcases eq_or_ne one token with rfl | distinct
    · simpa [Session.perform] using same
    · simpa [Session.perform, distinct] using omits.tokens one
  | remove token =>
    rw [Session.perform, Session.perform, omits.tokens]
    cases found : longer.tokens token with
    | none => exact omits
    | some id => exact omits.withRegistry (omits.registry.detach (sound.free slot token id found))

end Omits

/-! ## Histories -/

/-- What a listener owns is what it attached during the history and did not detach since. -/
theorem owns_performAll (slot : Nat) (acts : List Act) :
    (start.performAll acts).Owns slot (own slot start acts) := by
  induction acts using List.reverseRecOn with
  | nil => exact ⟨rfl, nofun⟩
  | append_singleton acts act hypothesis =>
    rw [performAll_concat]
    by_cases releases : act.releases slot = true
    · rw [own_concat_of_releases releases]
      exact ⟨attachments_of_releases releases _, nofun⟩
    · rw [own_concat (Bool.eq_false_iff.2 releases)]
      exact hypothesis.perform (sound_performAll acts) (Bool.eq_false_iff.2 releases)

/-- The history in which a listener makes no attachments but those it detached leads to the same
session, less the attachments that it owns. -/
theorem omits_performAll (slot : Nat) (acts : List Act) :
    (start.performAll acts).Omits (start.performAll (omitPending slot acts))
      ((start.performAll acts).listeners slot).attachments := by
  induction acts using List.reverseRecOn with
  | nil => exact omits_nil start
  | append_singleton acts act hypothesis =>
    rw [performAll_concat]
    by_cases releases : act.releases slot = true
    · rw [omitPending_concat_of_releases releases, performAll_concat,
        attachments_of_releases releases]
      exact omits_nil _
    · have keeps := Bool.eq_false_iff.2 releases
      have sound := sound_performAll acts
      rw [omitPending_concat keeps]
      by_cases attaches : act.attaches slot = true
      · rw [if_pos attaches, List.append_nil, Act.attaches_iff.1 attaches, perform_attach]
        exact hypothesis.attachFor_omitted sound ..
      · rw [if_neg attaches, performAll_concat]
        exact hypothesis.perform sound keeps (Bool.eq_false_iff.2 attaches)

/-- Detaching a listener removes exactly what it attached since it was last detached. The handlers
that stay are run as if it had not been attached since then, it is not attached afterwards, and it
was so before exactly if it had been attached since then. -/
theorem detach_exact (slot : Nat) (acts : List Act) :
    let before := start.performAll acts
    let after := start.performAll (acts ++ [.detach slot])
    let without := start.performAll (omitPending slot acts ++ [.detach slot])
    before.registry.registrations.Perm (own slot start acts ++ after.registry.registrations) ∧
      after.registry.registrations.Sublist before.registry.registrations ∧
      (∀ kind, after.registry.handlersFor kind = without.registry.handlersFor kind) ∧
      (after.listeners slot).isAttached = false ∧
      ((before.listeners slot).isAttached = true ↔ AttachedSince slot acts) := by
  intro before after without
  have owns := owns_performAll slot acts
  have sound := sound_performAll acts
  have omits := omits_performAll slot acts
  have registry : after.registry =
      before.registry.detachEach (before.listeners slot).attachments := by
    rw [show after = _ from performAll_concat ..]
    rfl
  refine ⟨?_, ?_, fun kind => ?_, ?_, ?_⟩
  · rw [registry]
    exact owns.perm sound
  · rw [registry, Registry.detachEach_eq]
    exact List.filter_sublist
  · -- nothing is left that the shorter history could detach
    have nothing : without.registry = (start.performAll (omitPending slot acts)).registry := by
      rw [show without = _ from performAll_concat .., perform, omits.listeners,
        Listener.without_of_forall_mem fun _ => id]
      rfl
    rw [registry, nothing]
    exact omits.registry.handlersFor_detachEach kind
  · have releases : (Act.detach slot).releases slot = true := beq_self_eq_true slot
    rw [show after = _ from performAll_concat .., Listener.isAttached,
      attachments_of_releases releases]
    rfl
  · rw [← own_ne_nil_iff slot start acts, Listener.isAttached, owns.ids]
    simp

end Session

end NodeQuery.Filter
