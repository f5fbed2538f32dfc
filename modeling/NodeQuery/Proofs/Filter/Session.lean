import Mathlib.Data.List.Nodup
import Mathlib.Logic.Function.Basic
import NodeQuery.Filter.Listener
import NodeQuery.Proofs.Build.Omission

/-!
# Sessions of listeners

Filter listeners and other handlers share a registry. Listeners are made anew, given priorities,
attached and detached in any order, also twice or while a listener that is replaced stays attached;
other handlers are attached and removed between them. Whatever happens, every identifier that a
listener keeps is one that it was given, once, and no other listener and no other handler has it.

Main statements: `attachments_perform`, `registrations_attach` and `sound_performAll`.
-/

namespace NodeQuery.Filter

open NodeQuery

/-! ## Attaching handlers one after the other -/

namespace Listener

/-- The attachments of handlers that get identifiers from one on. -/
def registrationsFrom (priority : Int) (id : Nat) :
    List (EventKind × Handler Json Failure) → List (Registration Json Failure)
  | [] => []
  | (kind, handler) :: rest =>
    ⟨id, some kind, priority, handler⟩ :: registrationsFrom priority (id + 1) rest

/-- The attachments get one identifier after the other. -/
theorem ids_registrationsFrom (priority : Int) (id : Nat)
    (pairs : List (EventKind × Handler Json Failure)) :
    (registrationsFrom priority id pairs).map (·.id) = List.range' id pairs.length := by
  induction pairs generalizing id with
  | nil => rfl
  | cons pair rest hypothesis =>
    rw [registrationsFrom, List.map_cons, hypothesis, List.length_cons, List.range'_succ]

/-- Handlers get the next identifiers and join what is attached. -/
theorem attachEach_eq (priority : Int) (pairs : List (EventKind × Handler Json Failure))
    (registry : FilterRegistry) :
    (attachEach priority pairs registry).1 = List.range' registry.nextId pairs.length ∧
      (attachEach priority pairs registry).2.nextId = registry.nextId + pairs.length ∧
      (attachEach priority pairs registry).2.registrations.Perm
        (registrationsFrom priority registry.nextId pairs ++ registry.registrations) := by
  induction pairs generalizing registry with
  | nil => exact ⟨rfl, rfl, List.Perm.refl _⟩
  | cons pair rest hypothesis =>
    obtain ⟨ids, next, perm⟩ := hypothesis (registry.attach pair.1 priority pair.2).2
    refine ⟨?_, ?_, perm.trans ?_⟩
    · rw [List.length_cons, List.range'_succ]
      exact congrArg _ ids
    · exact next.trans (Nat.add_right_comm ..)
    · exact ((Registry.insert_perm _ registry.registrations).append_left _).trans
        List.perm_middle

/-- Attaching handlers keeps a registry in step with some history. -/
theorem attachEach_live {registry : FilterRegistry} (live : ∃ calls, registry.HoldsLive calls)
    (priority : Int) (pairs : List (EventKind × Handler Json Failure)) :
    ∃ calls, (attachEach priority pairs registry).2.HoldsLive calls := by
  induction pairs generalizing registry with
  | nil => exact live
  | cons pair rest hypothesis =>
    obtain ⟨calls, holds⟩ := live
    exact hypothesis ⟨_, holds.perform (.attach pair.1 priority pair.2)⟩

/-- So does removing attachments. -/
theorem detachEach_live {registry : FilterRegistry} (live : ∃ calls, registry.HoldsLive calls)
    (ids : List Nat) : ∃ calls, (registry.detachEach ids).HoldsLive calls := by
  induction ids generalizing registry with
  | nil => exact live
  | cons id rest hypothesis =>
    obtain ⟨calls, holds⟩ := live
    exact hypothesis ⟨_, holds.perform (.detach id)⟩

end Listener

/-! ## Sessions -/

/-- A registry, the listeners in numbered slots, and the identifiers that were returned for other
handlers, under numbered tokens. -/
structure Session where
  /-- The registry. -/
  registry : FilterRegistry
  /-- The listener in each slot. -/
  listeners : Nat → Listener
  /-- The identifier under each token. -/
  tokens : Nat → Option Nat

/-- Something that happens to a registry and its listeners. -/
inductive Act where
  /-- Puts a new listener into a slot; the one before is forgotten, attached or not. -/
  | new (slot : Nat) (config : Config) (resolve : Resolver)
  /-- Gives the listener in a slot another priority. -/
  | withPriority (slot : Nat) (priority : Int)
  /-- Attaches the listener in a slot. -/
  | attach (slot : Nat)
  /-- Detaches the listener in a slot. -/
  | detach (slot : Nat)
  /-- Attaches another handler, for a kind of event or for every kind, and keeps its identifier. -/
  | register (token : Nat) (kind : Option EventKind) (priority : Int)
    (handler : Handler Json Failure)
  /-- Removes the handler with the identifier under a token. -/
  | remove (token : Nat)

namespace Act

/-- Whether this attaches the listener in a slot. -/
def attaches (slot : Nat) : Act → Bool
  | attach other => other == slot
  | _ => false

/-- Whether the listener in a slot has attached nothing after this. -/
def releases (slot : Nat) : Act → Bool
  | new other _ _ | detach other => other == slot
  | _ => false

/-- Only its own attachment attaches a listener. -/
theorem attaches_iff {slot : Nat} {act : Act} : act.attaches slot = true ↔ act = .attach slot := by
  cases act <;> simp [attaches]

/-- An act that releases a listener does not attach it. -/
theorem attaches_of_releases {slot : Nat} {act : Act} (releases : act.releases slot = true) :
    act.attaches slot = false := by
  cases act <;> first | rfl | cases releases

end Act

namespace Session

/-- An empty registry and listeners that have attached nothing. -/
def start : Session := ⟨Registry.empty, fun _ => .new .usual (fun _ => none) 0, fun _ => none⟩

/-- What an act makes of a session. -/
def perform (session : Session) : Act → Session
  | .new slot config resolve =>
    { session with listeners := Function.update session.listeners slot (.new config resolve 0) }
  | .withPriority slot priority =>
    let listener := { session.listeners slot with priority := priority }
    { session with listeners := Function.update session.listeners slot listener }
  | .attach slot =>
    let (listener, registry) := (session.listeners slot).attach session.registry
    { session with
      registry := registry
      listeners := Function.update session.listeners slot listener }
  | .detach slot =>
    let (listener, registry) := (session.listeners slot).detach session.registry
    { session with
      registry := registry
      listeners := Function.update session.listeners slot listener }
  | .register token kind priority handler =>
    let (id, registry) := session.registry.register kind priority handler
    { session with
      registry := registry
      tokens := Function.update session.tokens token (some id) }
  | .remove token =>
    match session.tokens token with
    | some id => { session with registry := (session.registry.detach id).2 }
    | none => session

/-- Attaches handlers for the listener in a slot. -/
def attachFor (session : Session) (slot : Nat) (priority : Int)
    (pairs : List (EventKind × Handler Json Failure)) : Session :=
  let (ids, registry) := Listener.attachEach priority pairs session.registry
  let listener := { session.listeners slot with
    attachments := (session.listeners slot).attachments ++ ids }
  { session with
    registry := registry
    listeners := Function.update session.listeners slot listener }

/-- A listener is attached by attaching its handlers. -/
theorem perform_attach (session : Session) (slot : Nat) :
    session.perform (.attach slot) =
      session.attachFor slot (session.listeners slot).priority (session.listeners slot).handlers :=
  rfl

/-- The listener gets the identifiers of the handlers. -/
theorem attachments_attachFor (session : Session) (slot : Nat) (priority : Int)
    (pairs : List (EventKind × Handler Json Failure)) :
    ((session.attachFor slot priority pairs).listeners slot).attachments =
      (session.listeners slot).attachments ++
        (Listener.attachEach priority pairs session.registry).1 := by
  simp [attachFor]

/-- What acts make of a session, one after the other. -/
def performAll (session : Session) (acts : List Act) : Session := acts.foldl perform session

/-- The attachments that the listener in a slot makes when it is attached. -/
def made (session : Session) (slot : Nat) : List (Registration Json Failure) :=
  Listener.registrationsFrom (session.listeners slot).priority session.registry.nextId
    (session.listeners slot).handlers

/-- The last act of a history is performed last. -/
theorem performAll_concat (session : Session) (acts : List Act) (act : Act) :
    session.performAll (acts ++ [act]) = (session.performAll acts).perform act :=
  List.foldl_concat ..

/-! ## What a listener is given -/

/-- A listener always has something to attach. -/
theorem made_ne_nil (session : Session) (slot : Nat) : session.made slot ≠ [] := by
  intro nothing
  have ids := Listener.ids_registrationsFrom (session.listeners slot).priority
    session.registry.nextId (session.listeners slot).handlers
  rw [show Listener.registrationsFrom _ _ _ = [] from nothing] at ids
  cases ids

/-- Attaching a listener adds its attachments to those that are there. -/
theorem registrations_attach (session : Session) (slot : Nat) :
    (session.perform (.attach slot)).registry.registrations.Perm
      (session.made slot ++ session.registry.registrations) :=
  (Listener.attachEach_eq (session.listeners slot).priority (session.listeners slot).handlers
    session.registry).2.2

/-- A listener gets the identifiers of what it attaches, and loses none before it is released. -/
theorem attachments_perform {slot : Nat} {act : Act} (keeps : act.releases slot = false)
    (session : Session) :
    ((session.perform act).listeners slot).attachments =
      (session.listeners slot).attachments ++
        if act.attaches slot then (session.made slot).map (·.id) else [] := by
  have elsewhere : ∀ other (listener : Listener), (other == slot) = false →
      Function.update session.listeners other listener slot = session.listeners slot :=
    fun other listener distinct => Function.update_of_ne (ne_of_beq_false distinct).symm ..
  have here : ∀ listener : Listener,
      (Function.update session.listeners slot listener slot).attachments = listener.attachments :=
    fun listener => congrArg _ (Function.update_self ..)
  cases act with
  | new other config resolve =>
    exact (congrArg Listener.attachments (elsewhere other _ keeps)).trans (List.append_nil _).symm
  | withPriority other priority =>
    refine Eq.trans ?_ (List.append_nil _).symm
    rcases eq_or_ne other slot with rfl | distinct
    · exact here _
    · exact congrArg Listener.attachments (elsewhere other _ (beq_false_of_ne distinct))
  | attach other =>
    rcases eq_or_ne other slot with rfl | distinct
    · rw [Act.attaches, if_pos (beq_self_eq_true _), made, Listener.ids_registrationsFrom,
        ← (Listener.attachEach_eq ..).1, perform_attach, attachments_attachFor]
    · rw [Act.attaches, if_neg (by simpa using distinct), List.append_nil]
      exact congrArg Listener.attachments (elsewhere other _ (beq_false_of_ne distinct))
  | detach other =>
    exact (congrArg Listener.attachments (elsewhere other _ keeps)).trans (List.append_nil _).symm
  | register token kind priority handler => exact (List.append_nil _).symm
  | remove token =>
    refine Eq.trans ?_ (List.append_nil _).symm
    rw [Session.perform]
    cases session.tokens token <;> rfl

/-- A listener that is released has no identifiers. -/
theorem attachments_of_releases {slot : Nat} {act : Act} (releases : act.releases slot = true)
    (session : Session) : ((session.perform act).listeners slot).attachments = [] := by
  cases act with
  | new other config resolve =>
    obtain rfl := beq_iff_eq.1 releases
    simp [perform, Listener.new]
  | detach other =>
    obtain rfl := beq_iff_eq.1 releases
    simp [perform, Listener.detach]
  | _ => cases releases

/-! ## Who has which identifier -/

/-- Every identifier in a session was given out, and to one listener or one handler alone. -/
structure Sound (session : Session) : Prop where
  /-- The registry was made by calls. -/
  live : ∃ calls, session.registry.HoldsLive calls
  /-- The identifiers of listeners were given out. -/
  held : ∀ slot, ∀ id ∈ (session.listeners slot).attachments, id < session.registry.nextId
  /-- The identifiers under tokens were given out. -/
  kept : ∀ token, ∀ id ∈ session.tokens token, id < session.registry.nextId
  /-- No listener has an identifier twice. -/
  nodup : ∀ slot, (session.listeners slot).attachments.Nodup
  /-- No two listeners have an identifier in common. -/
  apart : ∀ slot other, slot ≠ other → ∀ id ∈ (session.listeners slot).attachments,
    id ∉ (session.listeners other).attachments
  /-- No identifier under a token is that of a listener. -/
  free : ∀ slot token, ∀ id ∈ session.tokens token, id ∉ (session.listeners slot).attachments

/-- At the start no identifier was given out. -/
theorem sound_start : start.Sound where
  live := ⟨[], Registry.holdsLive_empty⟩
  held := fun _ _ member => absurd member List.not_mem_nil
  kept := nofun
  nodup := fun _ => List.nodup_nil
  apart := fun _ _ _ _ member => absurd member List.not_mem_nil
  free := nofun

namespace Sound

variable {session : Session}

/-- A registry that goes on from that of a session may take its place. -/
theorem withRegistry (sound : session.Sound) {registry : FilterRegistry}
    (live : ∃ calls, registry.HoldsLive calls) (grown : session.registry.nextId ≤ registry.nextId) :
    { session with registry := registry }.Sound where
  live := live
  held := fun slot id member => Nat.lt_of_lt_of_le (sound.held slot id member) grown
  kept := fun token id found => Nat.lt_of_lt_of_le (sound.kept token id found) grown
  nodup := sound.nodup
  apart := sound.apart
  free := sound.free

/-- A listener with identifiers that nobody else has may be put into a slot. -/
theorem withListener (sound : session.Sound) {slot : Nat} {listener : Listener}
    (held : ∀ id ∈ listener.attachments, id < session.registry.nextId)
    (nodup : listener.attachments.Nodup)
    (apart : ∀ other, other ≠ slot → ∀ id ∈ listener.attachments,
      id ∉ (session.listeners other).attachments)
    (free : ∀ token, ∀ id ∈ session.tokens token, id ∉ listener.attachments) :
    { session with listeners := Function.update session.listeners slot listener }.Sound where
  live := sound.live
  held := by
    intro one
    rcases eq_or_ne one slot with rfl | other
    · simpa using held
    · simpa [other] using sound.held one
  kept := sound.kept
  nodup := by
    intro one
    rcases eq_or_ne one slot with rfl | other
    · simpa using nodup
    · simpa [other] using sound.nodup one
  apart := by
    intro one two distinct id
    rcases eq_or_ne one slot with rfl | oneOther
    · simpa [distinct.symm] using apart two distinct.symm id
    · rcases eq_or_ne two slot with rfl | twoOther
      · simpa [oneOther] using fun member inside => apart one oneOther id inside member
      · simpa [oneOther, twoOther] using sound.apart one two distinct id
  free := by
    intro one token id found
    rcases eq_or_ne one slot with rfl | other
    · simpa using free token id found
    · simpa [other] using sound.free one token id found

/-- What a listener attaches is its own. -/
theorem attachFor (sound : session.Sound) (slot : Nat) (priority : Int)
    (pairs : List (EventKind × Handler Json Failure)) :
    (session.attachFor slot priority pairs).Sound := by
  obtain ⟨ids, next, _⟩ := Listener.attachEach_eq priority pairs session.registry
  have grown := sound.withRegistry (Listener.attachEach_live sound.live priority pairs) (by omega)
  -- an identifier that was given out before is not among the new ones
  have fresh : ∀ {id}, id < session.registry.nextId →
      id ∉ (Listener.attachEach priority pairs session.registry).1 := by
    intro id given member
    rw [ids] at member
    exact absurd given (Nat.not_lt.2 (List.mem_range'_1.1 member).1)
  refine grown.withListener (fun id member => ?_) ?_ (fun other distinct id member => ?_)
    fun token id found member => ?_
  · rcases List.mem_append.1 member with before | new
    · exact grown.held slot id before
    · rw [ids] at new
      exact Nat.lt_of_lt_of_eq (List.mem_range'_1.1 new).2 next.symm
  · refine List.nodup_append.2 ⟨sound.nodup slot, ids ▸ List.nodup_range', ?_⟩
    exact fun id before other new equal => fresh (sound.held slot id before) (equal ▸ new)
  · rcases List.mem_append.1 member with before | new
    · exact sound.apart slot other distinct.symm id before
    · exact fun inside => fresh (sound.held other id inside) new
  · rcases List.mem_append.1 member with before | new
    · exact sound.free slot token id found before
    · exact fresh (sound.kept token id found) new

/-- No act gives an identifier to two. -/
theorem perform (sound : session.Sound) (act : Act) : (session.perform act).Sound := by
  cases act with
  | new slot config resolve =>
    refine sound.withListener ?_ List.nodup_nil ?_ ?_ <;> simp [Listener.new]
  | withPriority slot priority =>
    exact sound.withListener (sound.held slot) (sound.nodup slot)
      (fun other distinct => sound.apart slot other distinct.symm) (sound.free slot)
  | attach slot =>
    rw [perform_attach]
    exact sound.attachFor slot ..
  | detach slot =>
    have live := Listener.detachEach_live sound.live (session.listeners slot).attachments
    have next : (session.registry.detachEach (session.listeners slot).attachments).nextId =
        session.registry.nextId := by rw [Registry.detachEach_eq]
    have shrunk := sound.withRegistry live (Nat.le_of_eq next.symm)
    refine shrunk.withListener ?_ List.nodup_nil ?_ ?_ <;> simp
  | register token kind priority handler =>
    have live := Registry.HoldsLive.exists_register sound.live kind priority handler
    have grown := sound.withRegistry live (Nat.le_succ _)
    refine { grown with kept := fun one id found => ?_, free := fun slot one id found => ?_ }
    · rcases eq_or_ne one token with rfl | other
      · obtain rfl : session.registry.nextId = id := by
          simpa [Session.perform, Registry.register] using found
        exact Nat.lt_succ_self _
      · exact grown.kept one id (by simpa [Session.perform, other] using found)
    · rcases eq_or_ne one token with rfl | other
      · obtain rfl : session.registry.nextId = id := by
          simpa [Session.perform, Registry.register] using found
        exact fun member => Nat.lt_irrefl _ (sound.held slot _ member)
      · exact grown.free slot one id (by simpa [Session.perform, other] using found)
  | remove token =>
    rw [Session.perform]
    cases session.tokens token with
    | none => exact sound
    | some id => exact sound.withRegistry (Listener.detachEach_live sound.live [id]) (Nat.le_refl _)

end Sound

/-- No history gives an identifier to two. -/
theorem sound_performAll (acts : List Act) : (start.performAll acts).Sound := by
  induction acts using List.reverseRecOn with
  | nil => exact sound_start
  | append_singleton acts act hypothesis =>
    rw [performAll_concat]
    exact hypothesis.perform act

end Session

end NodeQuery.Filter
