import Arthome.Catalog.DateChronicles
import Arthome.Search.CatalogFacts

/-!
# What the indexer reads of a date

The facts of a date are its messages read one by one, and each part of a fact is read off one
part of its message. A date's chronicle is so read as the streams of its facts: one schedule
once it is public, its transitions and its replay's changes under growing versions, its outcome
the last declared, its start and its slug the last move's, the schedule's while nothing moved
it.
-/

namespace Arthome.Search

open Arthome.Core Library Library.Register
open Arthome.Catalog.Dates

/-! ## The fact of a message -/

/-- What a message states, its date aside. -/
def factOf (message : DateMessage) : Option DateFact := (dateFactOf message).map Prod.snd

theorem dateUrl_ne_empty (origin showSlug dateSlug : String) :
    dateUrl origin showSlug dateSlug ≠ "" := by
  intro hempty
  have hlength := congrArg (fun url => url.toList.length) hempty
  simp [dateUrl, showUrl] at hlength

/-- A message's fact is about the message's date. -/
theorem dateFactOf_eq (message : DateMessage) :
    dateFactOf message = (factOf message).map fun fact => (message.dateId, fact) := by
  cases message with
  | replayStateChanged message =>
      simp only [factOf, dateFactOf]
      cases replayStateOf message.toState <;> rfl
  | _ => rfl

theorem dateFactsOf_eq (outbox : List CatalogMessage) (dateId : Uuid) :
    dateFactsOf outbox dateId = (messagesOf outbox dateId).filterMap factOf := by
  rw [messagesOf, List.filterMap_filterMap]
  refine List.filterMap_congr fun message _ => ?_
  cases message with
  | date message =>
      simp only [dateFactOf_eq]
      split_ifs with hdate
      · cases hfact : factOf message with
        | none => simp [hfact]
        | some fact => simp [hfact, hdate]
      · cases factOf message with
        | none => rfl
        | some fact => simp [hdate]
  | _ => rfl

/-! ## The parts of a fact -/

def fieldsOf (message : DateScheduledMessage) : ScheduledDateFields where
  showId := message.showId
  channelId := message.channelId
  venueId := message.venueId
  startsAt := message.startsAt
  venueTimezone := message.venueTimezone
  venueCity := message.venueCity
  venueCountry := message.venueCountry
  runtimeMin := message.runtimeMin
  replayPolicy := replayPolicyOf message.replayPolicy
  replayWindowHours := message.replayWindowHours
  rightsScope := rightsScopeOf message.rightsScope
  blackoutCountries := message.blackoutCountries
  canonicalUrl := message.canonicalUrl
  showSlug := message.showSlug
  slug := message.slug

def moveOf (placement : Placement) : DateMove where
  startsAt := placement.startsAt
  slug := if placement.slug = "" then none else some placement.slug
  canonicalUrl := if placement.canonicalUrl = "" then none else some placement.canonicalUrl

def declaredOf (declaration : Declaration) : DeclaredOutcome :=
  ⟨dateOutcomeOf declaration.outcome, declaration.rescheduledTo⟩

/-- Nothing of a replay in a state the indexer does not know. -/
def statedReplayOf (statement : ReplayStatement) : Option StatedReplay :=
  (replayStateOf statement.state).map fun state =>
    ⟨state, statement.liveEndedAt, statement.closesAt, statement.onlineAt, statement.durationSec⟩

/-- A replay's change states nothing but the replay. -/
theorem factOf_replayStateChanged {α : Type} {part : DateFact → Option α}
    (hpart : ∀ version replay, part (.replayStateChanged version replay) = none)
    (message : ReplayStateMessage) : (factOf (.replayStateChanged message)).bind part = none := by
  simp only [factOf, dateFactOf]
  cases replayStateOf message.toState with
  | none => rfl
  | some state => exact hpart _ _

section Parts

variable (messages : List DateMessage)

theorem schedules_read : (messages.filterMap factOf).filterMap DateFact.schedule =
    (messages.filterMap DateMessage.schedule).map fun message =>
      ((message.occurredAt : ℤ), fieldsOf message) := by
  rw [← List.filterMap_eq_map]
  refine filterMap_parts (fun message => ?_) messages
  cases message with
  | replayStateChanged message => exact factOf_replayStateChanged (fun _ _ => rfl) message
  | _ => rfl

theorem moves_read : (messages.filterMap factOf).filterMap DateFact.move =
    (messages.filterMap DateMessage.placement).map fun placed =>
      ((placed.1 : ℤ), moveOf placed.2) := by
  rw [← List.filterMap_eq_map]
  refine filterMap_parts (fun message => ?_) messages
  cases message with
  | replayStateChanged message => exact factOf_replayStateChanged (fun _ _ => rfl) message
  | _ => rfl

theorem declarations_read : (messages.filterMap factOf).filterMap DateFact.declaration =
    (messages.filterMap DateMessage.declaration).map fun declared =>
      ((declared.1 : ℤ), declaredOf declared.2) := by
  rw [← List.filterMap_eq_map]
  refine filterMap_parts (fun message => ?_) messages
  cases message with
  | replayStateChanged message => exact factOf_replayStateChanged (fun _ _ => rfl) message
  | _ => rfl

theorem transitions_read : (messages.filterMap factOf).filterMap DateFact.transition =
    (messages.filterMap DateMessage.transition).filterMap fun moved =>
      (some (publicationStateOf moved.2)).map fun state => ((moved.1 : ℤ), state) := by
  refine filterMap_parts (fun message => ?_) messages
  cases message with
  | replayStateChanged message => exact factOf_replayStateChanged (fun _ _ => rfl) message
  | _ => rfl

theorem replayChanges_read : (messages.filterMap factOf).filterMap DateFact.replayChange =
    (messages.filterMap DateMessage.replayChange).filterMap fun changed =>
      (statedReplayOf changed.2).map fun replay => ((changed.1 : ℤ), replay) := by
  refine filterMap_parts (fun message => ?_) messages
  cases message with
  | replayStateChanged message =>
      simp only [factOf, dateFactOf, DateMessage.replayChange, statedReplayOf, Option.bind_some]
      cases replayStateOf message.toState <;> rfl
  | _ => rfl

end Parts

/-! ## What the rows say -/

/-- What a replay's row states of itself. -/
def statedReplay (replay : ReplaySnapshot) : StatedReplay where
  state := replay.state
  liveEndedAt := replay.liveEndedAt
  closesAt := replay.closesAt
  onlineAt := replay.onlineAt
  durationSec := if replay.onlineAt.isSome then replay.assetDurationSec else none

/-- What a schedule states of a date, at a start and under a slug. -/
def scheduledFields (origin showSlug : String) (venue : Venue) (date : PerformanceDateSnapshot)
    (startsAt : Instant) (slug : String) : ScheduledDateFields where
  showId := date.showId
  channelId := date.channelId
  venueId := date.venueId
  startsAt := startsAt
  venueTimezone := venue.timeZone
  venueCity := venue.city
  venueCountry := venue.country
  runtimeMin := date.runtimeMin
  replayPolicy := some date.replayPolicy
  replayWindowHours := date.replayWindowHours.getD 0
  rightsScope := some date.rights.scope
  blackoutCountries := date.rights.blackoutCountries
  canonicalUrl := dateUrl origin showSlug slug
  showSlug := showSlug
  slug := slug

/-- What a move states of where a date stands. -/
def placedAt (origin showSlug : String) (startsAt : Instant) (slug : String) : DateMove :=
  ⟨startsAt, some slug, some (dateUrl origin showSlug slug)⟩

/-- What a date's rows declare of its outcome. -/
def declaredOutcome (date : PerformanceDateSnapshot) : Option DeclaredOutcome :=
  date.outcome.map fun outcome => ⟨some outcome, date.rescheduledTo⟩

@[simp] theorem fieldsOf_scheduleOf (origin showSlug : String) (venue : Venue)
    (date : PerformanceDateSnapshot) (startsAt : Instant) (slug : String) (occurredAt : Instant) :
    fieldsOf (scheduleOf origin showSlug venue date startsAt slug occurredAt) =
      scheduledFields origin showSlug venue date startsAt slug := by
  simp [fieldsOf, scheduleOf, scheduledFields]

@[simp] theorem statedReplayOf_statement (replay : ReplaySnapshot) :
    statedReplayOf replay.statement = some (statedReplay replay) := by
  simp [statedReplayOf, ReplaySnapshot.statement, statedReplay]

theorem moveOf_placementAt (origin showSlug : String) (startsAt : Instant) {slug : String}
    (hnamed : slug ≠ "") :
    moveOf (placementAt origin showSlug startsAt slug) =
      placedAt origin showSlug startsAt slug := by
  simp [moveOf, placementAt, placedAt, hnamed, dateUrl_ne_empty]

/-! ## A date's chronicle, read -/

section Streams

variable {origin showSlug : String} {venue : Venue} {record : DateRecord}

/-- A date's facts, in the order they were recorded, say where its rows stand. -/
structure Streams (origin showSlug : String) (venue : Venue) (record : DateRecord)
    (facts : List DateFact) : Prop where
  transitions : ∃ state, state.getD (some .draft) = some record.publication.state ∧
    Tracks (facts.filterMap DateFact.transition) (record.publication.version : ℤ) state
  replayChanges : Tracks (facts.filterMap DateFact.replayChange)
    ((record.replay.elim 0 ReplaySnapshot.version : ℕ) : ℤ) (record.replay.map statedReplay)
  declarations : lastOf (facts.filterMap DateFact.declaration) = declaredOutcome record.date
  undeclared : record.date.outcome = none → record.date.rescheduledTo = none
  unscheduled : record.date.slug = none →
    facts.filterMap DateFact.schedule = [] ∧ facts.filterMap DateFact.move = []
  scheduled : ∀ {slug}, record.date.slug = some slug → ∃ version startsAt first,
    facts.filterMap DateFact.schedule =
      [(version, scheduledFields origin showSlug venue record.date startsAt first)] ∧
    (lastOf (facts.filterMap DateFact.move)).getD (placedAt origin showSlug startsAt first) =
      placedAt origin showSlug record.date.startsAt slug

/-- Two placements alike are at one start and under one slug. -/
theorem placementAt_inj {startsAt startsAt' : Instant} {slug slug' : String}
    (h : placementAt origin showSlug startsAt slug = placementAt origin showSlug startsAt' slug') :
    startsAt = startsAt' ∧ slug = slug' :=
  ⟨congrArg Placement.startsAt h, congrArg Placement.slug h⟩

theorem streams_of_chronicle {messages : List DateMessage}
    (h : Chronicle origin showSlug venue record messages) :
    Streams origin showSlug venue record (messages.filterMap factOf) where
  transitions := by
    obtain ⟨state, hstate, htracks⟩ := h.transitions
    refine ⟨state.map some, by rw [← hstate]; cases state <;> rfl, ?_⟩
    rw [transitions_read]
    have hread := htracks.read (f := fun version : ℕ => (version : ℤ))
      (g := fun state => some (publicationStateOf state)) Nat.strictMono_cast fun _ _ => rfl
    cases state with
    | none => exact hread
    | some state =>
        simp only [Option.map_some, Option.bind_some, publicationStateOf_wire] at hread ⊢
        exact hread
  replayChanges := by
    rw [replayChanges_read]
    have hread := h.replayChanges.read (f := fun version : ℕ => (version : ℤ)) (g := statedReplayOf)
      Nat.strictMono_cast fun statement hstatement => by
        obtain ⟨replay, -, rfl⟩ := Option.map_eq_some_iff.mp hstatement
        rw [statedReplayOf_statement]
        rfl
    have hvalue : (record.replay.map ReplaySnapshot.statement).bind statedReplayOf =
        record.replay.map statedReplay := by
      cases record.replay with
      | none => rfl
      | some replay => exact statedReplayOf_statement replay
    rw [hvalue] at hread
    exact hread
  declarations := by
    rw [declarations_read, lastOf_map (fun declaredAt => declaredAt), h.lastDeclared,
      declaredOutcome]
    cases record.date.outcome with
    | none => rfl
    | some outcome => simp [declaredOf]
  undeclared := h.undeclared
  unscheduled := by
    intro hslug
    obtain ⟨hschedules, hplacements, -⟩ := h.unscheduled hslug
    rw [schedules_read, moves_read, hschedules, hplacements]
    exact ⟨rfl, rfl⟩
  scheduled := by
    intro slug hslug
    obtain ⟨occurredAt, startsAt, first, hschedules, hplaced⟩ := h.scheduled hslug
    refine ⟨occurredAt, startsAt, first, ?_, ?_⟩
    · rw [schedules_read, hschedules, List.map_singleton, fieldsOf_scheduleOf]
      rfl
    · rw [moves_read, lastOf_map (fun occurredAt => occurredAt)]
      cases hlast : lastOf (messages.filterMap DateMessage.placement) with
      | none =>
          rw [hlast, Option.getD_none] at hplaced
          obtain ⟨rfl, rfl⟩ := placementAt_inj hplaced
          rfl
      | some placement =>
          rw [hlast, Option.getD_some] at hplaced
          obtain ⟨⟨stamp, placed⟩, hmem, rfl⟩ := Option.map_eq_some_iff.mp hlast
          have hnamed := h.named _ (List.mem_of_getLast? hmem)
          subst hplaced
          exact moveOf_placementAt _ _ _ hnamed

end Streams

end Arthome.Search
