import Arthome.Catalog.DatePages
import Arthome.Library.Statements

/-!
# What catalog says of a date

The messages of a date, in the order catalog recorded them, follow its rows: one schedule once
it is public; its transitions under growing versions, the last one its state; its replay's the
same; its declarations, each before the last a postponement and the last its outcome; its
starts, the last one its own; its prices locked as it goes public. What a reader of the topic
ends on, whichever part of a message it keeps, follows from these.
-/

namespace Arthome.Catalog.Dates

open Arthome.Core Library

/-! ## What a message states -/

/-- Where a move puts a date. -/
structure Placement where
  startsAt : Instant
  slug : String
  canonicalUrl : String
  deriving Repr, DecidableEq

/-- A declared outcome, and the start a postponement moves to. -/
structure Declaration where
  outcome : ℕ
  rescheduledTo : Option Instant
  deriving Repr, DecidableEq

/-- What a replay's change states of it. -/
structure ReplayStatement where
  state : ℕ
  policy : ℕ
  liveEndedAt : Instant
  closesAt : Instant
  onlineAt : Option Instant
  durationSec : Option ℤ
  deriving Repr, DecidableEq

namespace DateMessage

def dateId : DateMessage → Uuid
  | .drafted dateId _ _ _ _ => dateId
  | .scheduled message => message.dateId
  | .outcomeDeclared dateId _ _ _ _ _ => dateId
  | .rescheduled dateId _ _ _ _ _ => dateId
  | .stateChanged dateId _ _ _ _ _ _ => dateId
  | .engaged dateId _ _ => dateId
  | .replayStateChanged message => message.dateId

/-- The channel a message names: a new start names none. -/
def channelId : DateMessage → Option Uuid
  | .drafted _ channelId _ _ _ => some channelId
  | .scheduled message => some message.channelId
  | .outcomeDeclared _ channelId _ _ _ _ => some channelId
  | .rescheduled .. => none
  | .stateChanged _ channelId _ _ _ _ _ => some channelId
  | .engaged _ channelId _ => some channelId
  | .replayStateChanged message => some message.channelId

def schedule : DateMessage → Option DateScheduledMessage
  | .scheduled message => some message
  | _ => none

/-- A start, under the instant it was stated at. -/
def start : DateMessage → Option (Instant × Instant)
  | .scheduled message => some (message.occurredAt, message.startsAt)
  | .rescheduled _ _ newStartsAt _ _ occurredAt => some (occurredAt, newStartsAt)
  | _ => none

def placement : DateMessage → Option (Instant × Placement)
  | .rescheduled _ _ newStartsAt newSlug newCanonicalUrl occurredAt =>
    some (occurredAt, ⟨newStartsAt, newSlug, newCanonicalUrl⟩)
  | _ => none

/-- The state a publication moves to, under its version. -/
def transition : DateMessage → Option (ℕ × ℕ)
  | .stateChanged _ _ _ toState version _ _ => some (version, toState)
  | _ => none

def declaration : DateMessage → Option (Instant × Declaration)
  | .outcomeDeclared _ _ outcome _ rescheduledTo declaredAt =>
    some (declaredAt, ⟨outcome, rescheduledTo⟩)
  | _ => none

/-- The instant a date's prices were locked at. -/
def engagement : DateMessage → Option Instant
  | .engaged _ _ occurredAt => some occurredAt
  | _ => none

def replayChange : DateMessage → Option (ℕ × ReplayStatement)
  | .replayStateChanged message => some (message.version, ⟨message.toState, message.policy,
      message.liveEndedAt, message.closesAt, message.onlineAt, message.durationSec⟩)
  | _ => none

end DateMessage

/-- The messages of a date, in the order they were recorded. -/
def messagesOf (outbox : List CatalogMessage) (dateId : Uuid) : List DateMessage :=
  outbox.filterMap fun
    | .date message => if message.dateId = dateId then some message else none
    | _ => none

theorem dateId_of_mem_messagesOf {outbox : List CatalogMessage} {dateId : Uuid}
    {message : DateMessage} (h : message ∈ messagesOf outbox dateId) : message.dateId = dateId := by
  obtain ⟨stated, -, hstated⟩ := List.mem_filterMap.mp h
  cases stated with
  | date said =>
      simp only at hstated
      split_ifs at hstated with hdate
      rw [← Option.some.inj hstated]
      exact hdate
  | _ => cases hstated

@[simp] theorem dateId_integrationEventOf (context : DateWireContext) (event : DateKeyedEvent) :
    (integrationEventOf context event).dateId = event.dateId := by
  cases event <;> rfl

theorem messagesOf_append (outbox messages : List CatalogMessage) (dateId : Uuid) :
    messagesOf (outbox ++ messages) dateId =
      messagesOf outbox dateId ++ messagesOf messages dateId :=
  List.filterMap_append

/-- The messages of one date's events. -/
theorem messagesOf_written {outbox : List CatalogMessage} {events : List DateKeyedEvent}
    {context : DateWireContext} {id : Uuid} (hids : ∀ event ∈ events, event.dateId = id)
    (dateId : Uuid) : messagesOf (writeDateIntegrationEvents outbox events context) dateId =
      messagesOf outbox dateId ++
        if dateId = id then events.map (integrationEventOf context) else [] := by
  rw [writeDateIntegrationEvents, messagesOf_append]
  congr 1
  rw [messagesOf, List.filterMap_map]
  split_ifs with hid
  · rw [← List.filterMap_eq_map]
    refine List.filterMap_congr fun event hevent => ?_
    simp [hids event hevent, hid]
  · rw [List.filterMap_eq_nil_iff]
    intro event hevent
    simp [hids event hevent, Ne.symm hid]

/-! ## What the rows say -/

def ReplaySnapshot.statement (replay : ReplaySnapshot) : ReplayStatement where
  state := WIRE_REPLAY_STATE replay.state
  policy := WIRE_REPLAY_POLICY replay.policy
  liveEndedAt := replay.liveEndedAt
  closesAt := replay.closesAt
  onlineAt := replay.onlineAt
  durationSec := if replay.onlineAt.isSome then replay.assetDurationSec else none

/-- The declaration of a date's outcome, under the instant it was made at. -/
def PerformanceDateSnapshot.declaration (date : PerformanceDateSnapshot) :
    Option (Instant × Declaration) :=
  date.outcomeDeclaredAt.bind fun declaredAt => date.outcome.map fun outcome =>
    (declaredAt, ⟨WIRE_DATE_OUTCOME outcome, date.rescheduledTo⟩)

/-- The schedule of a date, at a start and under a slug. -/
def scheduleOf (origin showSlug : String) (venue : Venue) (date : PerformanceDateSnapshot)
    (startsAt : Instant) (slug : String) (occurredAt : Instant) : DateScheduledMessage where
  dateId := date.id
  channelId := date.channelId
  showId := date.showId
  venueId := date.venueId
  startsAt := startsAt
  venueTimezone := venue.timeZone
  runtimeMin := date.runtimeMin
  replayPolicy := WIRE_REPLAY_POLICY date.replayPolicy
  replayWindowHours := date.replayWindowHours.getD 0
  rightsScope := WIRE_RIGHTS_SCOPE date.rights.scope
  blackoutCountries := date.rights.blackoutCountries
  blackoutReason := (date.rights.reason.map WIRE_BLACKOUT_REASON).getD UNSPECIFIED
  canonicalUrl := dateUrl origin showSlug slug
  showSlug := showSlug
  slug := slug
  venueCity := venue.city
  venueCountry := venue.country
  occurredAt := occurredAt

/-- Where a date stands, at a start and under a slug. -/
def placementAt (origin showSlug : String) (startsAt : Instant) (slug : String) : Placement :=
  ⟨startsAt, slug, dateUrl origin showSlug slug⟩

/-- A schedule states nothing of a date but what it keeps. -/
theorem scheduleOf_kept {origin showSlug : String} {venue : Venue}
    {date date' : PerformanceDateSnapshot} (h : date.Kept date')
    (hruntime : date'.runtimeMin = date.runtimeMin) (startsAt : Instant) (slug : String)
    (occurredAt : Instant) :
    scheduleOf origin showSlug venue date' startsAt slug occurredAt =
      scheduleOf origin showSlug venue date startsAt slug occurredAt := by
  simp only [scheduleOf, h.id, h.showId, h.channelId, h.venueId, hruntime, h.replayPolicy,
    h.replayWindowHours, h.rights]

/-! ## What a move states -/

section Moves

variable [PublicationRules] [ReplayRules] {now : Instant} {record record' : DateRecord}
  {events : List DateKeyedEvent} {context : DateWireContext} {α : Type}
  {part : DateMessage → Option α}

omit [PublicationRules] [ReplayRules] in
/-- A replay's changes state nothing else. -/
theorem filterMap_replayChanges (hpart : ∀ message, part (.replayStateChanged message) = none)
    (changes : List ReplayStateChanged) :
    ((changes.map DateKeyedEvent.replayStateChanged).map (integrationEventOf context)).filterMap
      part = [] := by
  rw [List.filterMap_eq_nil_iff]
  intro message hmessage
  rw [List.map_map] at hmessage
  obtain ⟨change, -, rfl⟩ := List.mem_map.mp hmessage
  exact hpart _

omit [PublicationRules] [ReplayRules] in
/-- A date's event and its replay's state what the date's does. -/
theorem filterMap_followed (hpart : ∀ message, part (.replayStateChanged message) = none)
    (first : DateKeyedEvent) (changes : List ReplayStateChanged) :
    ((first :: changes.map DateKeyedEvent.replayStateChanged).map
      (integrationEventOf context)).filterMap part =
        (part (integrationEventOf context first)).toList := by
  rw [List.map_cons, List.filterMap_cons, filterMap_replayChanges hpart]
  cases part (integrationEventOf context first) with
  | none => rfl
  | some stated => rfl

/-- A move of the publication is stated under its next version; nothing else is a transition. -/
theorem move_transitions (hmove : DateMove now record record' events) :
    record.publication.version ≤ record'.publication.version ∧
      ((events.map (integrationEventOf context)).filterMap DateMessage.transition = [] ∧
          record'.publication.state = record.publication.state ∨
        (events.map (integrationEventOf context)).filterMap DateMessage.transition =
            [(record'.publication.version, WIRE_PUBLICATION_STATE record'.publication.state)] ∧
          record.publication.version < record'.publication.version) := by
  have hfollowed := @filterMap_followed context _ DateMessage.transition fun _ => rfl
  have hreplays := @filterMap_replayChanges context _ DateMessage.transition fun _ => rfl
  cases hmove with
  | transitioned | published | runStarted | runEnded =>
      refine ⟨Nat.le_succ _, .inr ⟨?_, Nat.lt_succ_self _⟩⟩
      simp [integrationEventOf, scheduledMessage, PublicationSnapshot.changeTo,
        PublicationSnapshot.movedTo, DateMessage.transition]
  | wentOnline | replayOpened =>
      refine ⟨Nat.le_succ _, .inr ⟨?_, Nat.lt_succ_self _⟩⟩
      exact hfollowed _ _
  | declared =>
      refine ⟨Nat.le_succ _, .inl ⟨?_, rfl⟩⟩
      exact hfollowed _ _
  | postponed =>
      refine ⟨Nat.le_succ _, .inl ⟨?_, rfl⟩⟩
      simp [integrationEventOf, DateMessage.transition]
  | assetLearned => exact ⟨le_rfl, .inl ⟨hreplays _, rfl⟩⟩

/-- An outcome is stated as it is declared, over none or over a postponement. -/
theorem move_declarations (hmove : DateMove now record record' events) :
    (events.map (integrationEventOf context)).filterMap DateMessage.declaration = [] ∧
        record'.date.declaration = record.date.declaration ∧
        record'.date.outcome = record.date.outcome ∧
        record'.date.outcomeDeclaredAt = record.date.outcomeDeclaredAt ∧
        record'.date.rescheduledTo = record.date.rescheduledTo ∨
      ∃ declared, (events.map (integrationEventOf context)).filterMap DateMessage.declaration =
          [declared] ∧ record'.date.declaration = some declared ∧
        record'.date.outcome.isSome = true ∧
        (record.date.outcome = none ∨ record.date.outcome = some .postponed) := by
  have hfollowed := @filterMap_followed context _ DateMessage.declaration fun _ => rfl
  have hreplays := @filterMap_replayChanges context _ DateMessage.declaration fun _ => rfl
  cases hmove with
  | transitioned | published | runStarted | runEnded =>
      refine .inl ⟨?_, rfl, rfl, rfl, rfl⟩
      simp [integrationEventOf, scheduledMessage, PublicationSnapshot.changeTo,
        DateMessage.declaration]
  | wentOnline | replayOpened => exact .inl ⟨hfollowed _ _, rfl, rfl, rfl, rfl⟩
  | declared hpublic hstanding => exact .inr ⟨_, hfollowed _ _, rfl, rfl, hstanding⟩
  | postponed hpublic hstanding =>
      refine .inr ⟨_, ?_, rfl, rfl, hstanding⟩
      simp [integrationEventOf, DateMessage.declaration, PerformanceDateSnapshot.movedOn]
  | assetLearned => exact .inl ⟨hreplays _, rfl, rfl, rfl, rfl⟩

/-- A date is scheduled, and its prices locked, as it goes public. -/
theorem move_schedules (hmove : DateMove now record record' events) :
    (events.map (integrationEventOf context)).filterMap DateMessage.schedule = [] ∧
        (events.map (integrationEventOf context)).filterMap DateMessage.engagement = [] ∧
        record'.date.slug.isSome = record.date.slug.isSome ∧
        record'.date.runtimeMin = record.date.runtimeMin ∧
        record'.publication.pricesLockedAt = record.publication.pricesLockedAt ∨
      record.date.slug = none ∧ ∃ slug, record'.date.slug = some slug ∧
        (events.map (integrationEventOf context)).filterMap DateMessage.schedule =
          [scheduleOf context.origin context.shown.slug context.venue record'.date
            record'.date.startsAt slug now] ∧
        (events.map (integrationEventOf context)).filterMap DateMessage.engagement = [now] ∧
        record'.publication.pricesLockedAt = some (record.publication.pricesLockedAt.getD now) := by
  have hschedule := @filterMap_followed context _ DateMessage.schedule fun _ => rfl
  have hengagement := @filterMap_followed context _ DateMessage.engagement fun _ => rfl
  have hschedules := @filterMap_replayChanges context _ DateMessage.schedule fun _ => rfl
  have hengagements := @filterMap_replayChanges context _ DateMessage.engagement fun _ => rfl
  cases hmove with
  | transitioned | runStarted | runEnded =>
      refine .inl ⟨?_, ?_, rfl, rfl, rfl⟩
      · simp [integrationEventOf, PublicationSnapshot.changeTo, DateMessage.schedule]
      · simp [integrationEventOf, PublicationSnapshot.changeTo, DateMessage.engagement]
  | published hcommanded hprivate hpublic hreplay hslug =>
      exact .inr ⟨hslug, _, rfl, rfl, rfl, rfl⟩
  | wentOnline | replayOpened | declared =>
      exact .inl ⟨hschedule _ _, hengagement _ _, rfl, rfl, rfl⟩
  | postponed hpublic hstanding hslug =>
      refine .inl ⟨?_, ?_, by rw [hslug]; rfl, rfl, rfl⟩
      · simp [integrationEventOf, DateMessage.schedule]
      · simp [integrationEventOf, DateMessage.engagement]
  | assetLearned => exact .inl ⟨hschedules _, hengagements _, rfl, rfl, rfl⟩

/-- A start is stated as the date goes public, and as it moves to another, with the slug of its
day. -/
theorem move_starts (hmove : DateMove now record record' events) :
    (events.map (integrationEventOf context)).filterMap DateMessage.start = [] ∧
        (events.map (integrationEventOf context)).filterMap DateMessage.placement = [] ∧
        record'.date.startsAt = record.date.startsAt ∧ record'.date.slug = record.date.slug ∨
      (∃ slug, record'.date.slug = some slug) ∧
        (events.map (integrationEventOf context)).filterMap DateMessage.start =
          [(now, record'.date.startsAt)] ∧
        (record.date.slug = none ∧
            (events.map (integrationEventOf context)).filterMap DateMessage.placement = [] ∨
          record.date.slug.isSome = true ∧
            ∃ slug, record'.date.slug = some slug ∧ slug ≠ "" ∧
              (events.map (integrationEventOf context)).filterMap DateMessage.placement =
                [(now, placementAt context.origin context.shown.slug record'.date.startsAt
                  slug)]) := by
  have hstart := @filterMap_followed context _ DateMessage.start fun _ => rfl
  have hplacement := @filterMap_followed context _ DateMessage.placement fun _ => rfl
  have hstarts := @filterMap_replayChanges context _ DateMessage.start fun _ => rfl
  have hplacements := @filterMap_replayChanges context _ DateMessage.placement fun _ => rfl
  cases hmove with
  | transitioned | runStarted | runEnded =>
      refine .inl ⟨?_, ?_, rfl, rfl⟩
      · simp [integrationEventOf, PublicationSnapshot.changeTo, DateMessage.start]
      · simp [integrationEventOf, PublicationSnapshot.changeTo, DateMessage.placement]
  | published hcommanded hprivate hpublic hreplay hslug =>
      exact .inr ⟨⟨_, rfl⟩, rfl, .inl ⟨hslug, rfl⟩⟩
  | wentOnline | replayOpened | declared =>
      exact .inl ⟨hstart _ _, hplacement _ _, rfl, rfl⟩
  | postponed hpublic hstanding hslug hnamed =>
      exact .inr ⟨⟨_, rfl⟩, rfl, .inr ⟨by rw [hslug]; rfl, _, rfl, hnamed, rfl⟩⟩
  | assetLearned => exact .inl ⟨hstarts _, hplacements _, rfl, rfl⟩

/-- A replay's move is stated under its next version; its file's arrival is not stated. -/
theorem move_replayChanges (hmove : DateMove now record record' events) (h : record.Sound) :
    (events.map (integrationEventOf context)).filterMap DateMessage.replayChange = [] ∧
        record'.replay.map ReplaySnapshot.statement = record.replay.map ReplaySnapshot.statement ∧
        (record.replay.elim 0 ReplaySnapshot.version ≤
          record'.replay.elim 0 ReplaySnapshot.version) ∨
      ∃ replay, record'.replay = some replay ∧
        record.replay.elim 0 ReplaySnapshot.version < replay.version ∧
        (events.map (integrationEventOf context)).filterMap DateMessage.replayChange =
          [(replay.version, replay.statement)] := by
  cases hmove with
  | transitioned | published | runStarted | runEnded =>
      refine .inl ⟨?_, rfl, le_rfl⟩
      simp [integrationEventOf, scheduledMessage, PublicationSnapshot.changeTo,
        DateMessage.replayChange]
  | postponed =>
      refine .inl ⟨?_, rfl, le_rfl⟩
      simp [integrationEventOf, DateMessage.replayChange]
  | wentOnline hended hreplay =>
      refine .inr ⟨_, rfl, ?_, rfl⟩
      rw [hreplay]
      exact Nat.lt_succ_self _
  | replayOpened hlive hopened hnone =>
      obtain rfl := replayOpenedBy_eq_some hopened
      refine .inr ⟨_, rfl, ?_, rfl⟩
      rw [hnone]
      exact Nat.zero_lt_one
  | @declared outcome message =>
      cases htaken : record.withdrawnBy outcome now with
      | none => exact .inl ⟨rfl, rfl, le_rfl⟩
      | some moved =>
          obtain ⟨replay, hreplay, -, rfl⟩ := withdrawnBy_eq_some htaken
          refine .inr ⟨_, rfl, ?_, rfl⟩
          rw [hreplay]
          exact Nat.lt_succ_self _
  | @assetLearned replay fact moved hreplay hmoved =>
      rw [hreplay]
      obtain ⟨-, ⟨-, rfl⟩ | ⟨asset, -, hfile, rfl⟩⟩ := learnAsset_eq_some hmoved
      · exact .inr ⟨_, rfl, Nat.lt_succ_self _, rfl⟩
      · have hoffline : replay.onlineAt.isSome = false := by
          rw [← Bool.not_eq_true]
          intro honline
          have hready := (h.follows hreplay).file honline
          rw [hfile] at hready
          cases hready
        refine .inl ⟨rfl, ?_, Nat.le_succ _⟩
        simp [ReplaySnapshot.statement, hoffline]

/-- Every message of a move names the date's channel, or none. -/
theorem move_channels (hmove : DateMove now record record' events) (h : record.Sound) :
    ∀ message ∈ events.map (integrationEventOf context), ∀ channelId,
      message.channelId = some channelId → channelId = record.date.channelId := by
  cases hmove with
  | transitioned | runStarted | runEnded =>
      simp [integrationEventOf, PublicationSnapshot.changeTo, DateMessage.channelId, h.channel]
  | published =>
      simp [integrationEventOf, scheduledMessage, publicFactsOf, PublicationSnapshot.changeTo,
        DateMessage.channelId, h.channel]
  | wentOnline hended hreplay =>
      simp [integrationEventOf, replayStateMessage, PublicationSnapshot.changeTo,
        DateMessage.channelId, h.channel, Replay.moveTo, Replay.restore, Replay.stateChanged,
        (h.follows hreplay).channel]
  | replayOpened hlive hopened hnone =>
      obtain rfl := replayOpenedBy_eq_some hopened
      simp [integrationEventOf, replayStateMessage, PublicationSnapshot.changeTo,
        DateMessage.channelId, h.channel, Replay.opened, Replay.stateChanged]
  | @declared outcome message =>
      cases htaken : record.withdrawnBy outcome now with
      | none => simp [integrationEventOf, DateMessage.channelId]
      | some moved =>
          obtain ⟨replay, hreplay, -, rfl⟩ := withdrawnBy_eq_some htaken
          simp [integrationEventOf, replayStateMessage, DateMessage.channelId, Replay.moveTo,
            Replay.restore, Replay.stateChanged, (h.follows hreplay).channel]
  | postponed => simp [integrationEventOf, DateMessage.channelId]
  | @assetLearned replay fact moved hreplay hmoved =>
      obtain ⟨-, ⟨-, rfl⟩ | ⟨asset, -, -, rfl⟩⟩ := learnAsset_eq_some hmoved
      · simp [integrationEventOf, replayStateMessage, DateMessage.channelId, Replay.moveTo,
          Replay.restore, Replay.stateChanged, (h.follows hreplay).channel]
      · simp

end Moves

/-! ## The chronicle of a date -/

/-- A date's messages, in the order they were recorded, follow its rows. -/
structure Chronicle (origin showSlug : String) (venue : Venue) (record : DateRecord)
    (messages : List DateMessage) : Prop where
  channels : ∀ message ∈ messages, ∀ channelId, message.channelId = some channelId →
    channelId = record.date.channelId
  transitions : ∃ state : Option PublicationState,
    state.getD .draft = record.publication.state ∧
    Tracks (messages.filterMap DateMessage.transition) record.publication.version
      (state.map WIRE_PUBLICATION_STATE)
  replayChanges : Tracks (messages.filterMap DateMessage.replayChange)
    (record.replay.elim 0 ReplaySnapshot.version) (record.replay.map ReplaySnapshot.statement)
  declared : (messages.filterMap DateMessage.declaration).getLast? = record.date.declaration
  /-- Nothing follows an outcome but a postponement. -/
  standing : (messages.filterMap DateMessage.declaration).Pairwise fun earlier _ =>
    earlier.2.outcome = WIRE_DATE_OUTCOME .postponed
  declaredAt : record.date.outcomeDeclaredAt.isSome = record.date.outcome.isSome
  undeclared : record.date.outcome = none → record.date.rescheduledTo = none
  started : lastOf (messages.filterMap DateMessage.start) =
    record.date.slug.map fun _ => record.date.startsAt
  engaged : messages.filterMap DateMessage.engagement = record.publication.pricesLockedAt.toList
  unscheduled : record.date.slug = none →
    messages.filterMap DateMessage.schedule = [] ∧
      messages.filterMap DateMessage.placement = [] ∧ record.publication.pricesLockedAt = none
  scheduled : ∀ {slug}, record.date.slug = some slug → ∃ occurredAt startsAt first,
    messages.filterMap DateMessage.schedule =
      [scheduleOf origin showSlug venue record.date startsAt first occurredAt] ∧
    (lastOf (messages.filterMap DateMessage.placement)).getD
        (placementAt origin showSlug startsAt first) =
      placementAt origin showSlug record.date.startsAt slug
  /-- A move is never to the empty slug. -/
  named : ∀ placed ∈ messages.filterMap DateMessage.placement, placed.2.slug ≠ ""

/-- The instants a date's starts and its declarations are stated at grow. -/
structure StatedInOrder (messages : List DateMessage) : Prop where
  starts : (messages.filterMap DateMessage.start).Pairwise fun a b => a.1 < b.1
  declarations : (messages.filterMap DateMessage.declaration).Pairwise fun a b => a.1 < b.1

/-- What was declared last is the row's outcome. -/
theorem Chronicle.lastDeclared {origin showSlug : String} {venue : Venue} {record : DateRecord}
    {messages : List DateMessage} (h : Chronicle origin showSlug venue record messages) :
    lastOf (messages.filterMap DateMessage.declaration) =
      record.date.outcome.map fun outcome =>
        ⟨WIRE_DATE_OUTCOME outcome, record.date.rescheduledTo⟩ := by
  rw [lastOf, h.declared, PerformanceDateSnapshot.declaration]
  have hdeclaredAt := h.declaredAt
  cases houtcome : record.date.outcome with
  | none => cases record.date.outcomeDeclaredAt <;> rfl
  | some outcome =>
      rw [houtcome, Option.isSome_some, Option.isSome_iff_exists] at hdeclaredAt
      obtain ⟨declaredAt, hdeclaredAt⟩ := hdeclaredAt
      rw [hdeclaredAt]
      rfl

section Chronicles

variable [PublicationRules] [ReplayRules] {now : Instant} {record record' : DateRecord}
  {events : List DateKeyedEvent} {context : DateWireContext} {messages : List DateMessage}
  {origin showSlug : String} {venue : Venue}

omit [ReplayRules] in
/-- A date drafted says its draft. -/
theorem chronicle_draft (draft : DateDraft) : Chronicle origin showSlug venue
    ⟨(PerformanceDate.draft draft now).current, Publication.draft draft.id draft.channelId, none⟩
    ((PerformanceDate.draft draft now).events.map (integrationEventOf context)) where
  channels := by simp [PerformanceDate.draft, integrationEventOf, DateMessage.channelId]
  transitions := ⟨none, rfl, .nil _⟩
  replayChanges := .nil _
  declared := rfl
  standing := List.Pairwise.nil
  declaredAt := rfl
  undeclared _ := rfl
  started := rfl
  engaged := rfl
  unscheduled _ := ⟨rfl, rfl, rfl⟩
  scheduled h := by cases h
  named placed hplaced := absurd hplaced List.not_mem_nil

omit [PublicationRules] [ReplayRules] in
/-- An outcome already declared is the last one stated. -/
theorem Chronicle.postponed (h : Chronicle origin showSlug venue record messages)
    (hstanding : record.date.outcome = none ∨ record.date.outcome = some .postponed) :
    ∀ declared ∈ messages.filterMap DateMessage.declaration,
      declared.2.outcome = WIRE_DATE_OUTCOME .postponed := by
  intro declared hdeclared
  have hne := List.ne_nil_of_mem hdeclared
  rw [← List.dropLast_append_getLast hne, List.mem_append, List.mem_singleton] at hdeclared
  rcases hdeclared with hearlier | rfl
  · have hpairs := h.standing
    rw [← List.dropLast_append_getLast hne, List.pairwise_append] at hpairs
    exact hpairs.2.2 declared hearlier _ List.mem_cons_self
  · have hlast := h.declared.symm.trans (List.getLast?_eq_some_getLast hne)
    obtain ⟨declaredAt, -, houtcome⟩ := Option.bind_eq_some_iff.mp hlast
    obtain ⟨outcome, houtcome, hlast⟩ := Option.map_eq_some_iff.mp houtcome
    rw [← hlast]
    rcases hstanding with hnone | hpostponed
    · exact absurd (houtcome.symm.trans hnone) (Option.some_ne_none _)
    · exact congrArg WIRE_DATE_OUTCOME (Option.some.inj (houtcome.symm.trans hpostponed))

/-- What a date's next move states, after all it stated before. -/
theorem Chronicle.moved
    (h : Chronicle context.origin context.shown.slug context.venue record messages)
    (hsound : record.Sound) (hmove : DateMove now record record' events) :
    Chronicle context.origin context.shown.slug context.venue record'
      (messages ++ events.map (integrationEventOf context)) where
  channels := by
    intro message hmessage channelId hchannel
    rw [hmove.kept.channelId]
    rcases List.mem_append.mp hmessage with hbefore | hstated
    · exact h.channels message hbefore channelId hchannel
    · exact move_channels hmove hsound message hstated channelId hchannel
  transitions := by
    obtain ⟨state, hstate, htracks⟩ := h.transitions
    rw [List.filterMap_append]
    rcases @move_transitions _ _ _ _ _ _ context hmove with
      ⟨hversion, ⟨hnone, hsame⟩ | ⟨hstated, hnewer⟩⟩
    · rw [hnone, List.append_nil, hsame]
      exact ⟨state, hstate, htracks.unstated hversion⟩
    · rw [hstated]
      exact ⟨some record'.publication.state, rfl, htracks.stated hnewer⟩
  replayChanges := by
    rw [List.filterMap_append]
    rcases @move_replayChanges _ _ _ _ _ _ context hmove hsound with
      ⟨hnone, hsame, hversion⟩ | ⟨replay, hreplay, hnewer, hstated⟩
    · rw [hnone, List.append_nil, hsame]
      exact h.replayChanges.unstated hversion
    · rw [hstated, hreplay]
      exact h.replayChanges.stated hnewer
  declared := by
    rw [List.filterMap_append]
    rcases @move_declarations _ _ _ _ _ _ context hmove with
      ⟨hnone, hsame, -⟩ | ⟨declared, hstated, hdeclared, -⟩
    · rw [hnone, List.append_nil, hsame, h.declared]
    · rw [hstated, hdeclared, List.getLast?_concat]
  standing := by
    rw [List.filterMap_append]
    rcases @move_declarations _ _ _ _ _ _ context hmove with
      ⟨hnone, -⟩ | ⟨declared, hstated, -, -, hstanding⟩
    · rw [hnone, List.append_nil]
      exact h.standing
    · rw [hstated, List.pairwise_append]
      exact ⟨h.standing, List.pairwise_singleton _ _,
        fun earlier hearlier _ _ => h.postponed hstanding earlier hearlier⟩
  declaredAt := by
    rcases @move_declarations _ _ _ _ _ _ context hmove with
      ⟨-, -, houtcome, hdeclaredAt, -⟩ | ⟨declared, -, hdeclared, houtcome, -⟩
    · rw [houtcome, hdeclaredAt]
      exact h.declaredAt
    · rw [houtcome]
      obtain ⟨declaredAt, hdeclaredAt, -⟩ := Option.bind_eq_some_iff.mp hdeclared
      rw [hdeclaredAt]
      rfl
  undeclared := by
    rcases @move_declarations _ _ _ _ _ _ context hmove with
      ⟨-, -, houtcome, -, hrescheduled⟩ | ⟨declared, -, -, houtcome, -⟩
    · rw [houtcome, hrescheduled]
      exact h.undeclared
    · intro hnone
      rw [hnone] at houtcome
      cases houtcome
  started := by
    rw [List.filterMap_append]
    rcases @move_starts _ _ _ _ _ _ context hmove with
      ⟨hnone, -, hstart, hslug⟩ | ⟨⟨slug, hslug⟩, hstated, -⟩
    · rw [hnone, List.append_nil, h.started, hslug, hstart]
    · rw [hstated, lastOf_concat, hslug]
      rfl
  engaged := by
    rw [List.filterMap_append, h.engaged]
    rcases @move_schedules _ _ _ _ _ _ context hmove with
      ⟨-, hnone, -, -, hsame⟩ | ⟨hprivate, slug, -, -, hstated, hlocked⟩
    · rw [hnone, List.append_nil, hsame]
    · rw [hstated, hlocked, (h.unscheduled hprivate).2.2]
      rfl
  unscheduled := by
    intro hslug
    rw [List.filterMap_append, List.filterMap_append]
    rcases @move_schedules _ _ _ _ _ _ context hmove with
      ⟨hnone, -, hsame, -, hlocked⟩ | ⟨-, slug, hsome, -⟩
    · rcases @move_starts _ _ _ _ _ _ context hmove with ⟨-, hstill, -⟩ | ⟨⟨slug, hsome⟩, -⟩
      · rw [hslug, Option.isSome_none, Eq.comm, Option.isSome_eq_false_iff] at hsame
        obtain ⟨hschedules, hplacements, hunlocked⟩ :=
          h.unscheduled (Option.isNone_iff_eq_none.mp hsame)
        rw [hnone, hstill, hschedules, hplacements, hlocked]
        exact ⟨rfl, rfl, hunlocked⟩
      · exact absurd (hsome.symm.trans hslug) (Option.some_ne_none _)
    · exact absurd (hsome.symm.trans hslug) (Option.some_ne_none _)
  scheduled := by
    intro slug hslug
    rw [List.filterMap_append, List.filterMap_append]
    have hstarts := @move_starts _ _ _ _ _ _ context hmove
    rcases @move_schedules _ _ _ _ _ _ context hmove with
      ⟨hnone, -, hsame, hruntime, -⟩ | ⟨hprivate, first, hfirst, hstated, -⟩
    · rw [hslug, Option.isSome_some, Eq.comm, Option.isSome_iff_exists] at hsame
      obtain ⟨previous, hprevious⟩ := hsame
      obtain ⟨occurredAt, startsAt, first, hschedules, hplaced⟩ := h.scheduled hprevious
      refine ⟨occurredAt, startsAt, first, ?_, ?_⟩
      · rw [hnone, List.append_nil, hschedules, scheduleOf_kept hmove.kept hruntime]
      · rcases hstarts with
          ⟨-, hstill, hstart, hnamed⟩ | ⟨-, -, ⟨hprivate, -⟩ | ⟨-, next, hnext, -, hmoved⟩⟩
        · rw [hslug, hprevious, Option.some.injEq] at hnamed
          rw [hstill, List.append_nil, hplaced, hstart, hnamed]
        · exact absurd (hprevious.symm.trans hprivate) (Option.some_ne_none _)
        · rw [hslug, Option.some.injEq] at hnext
          rw [hmoved, lastOf_concat, Option.getD_some, hnext]
    · obtain ⟨hschedules, hplacements, -⟩ := h.unscheduled hprivate
      rw [hslug, Option.some.injEq] at hfirst
      refine ⟨now, record'.date.startsAt, slug, ?_, ?_⟩
      · rw [hschedules, hstated, List.nil_append, hfirst]
      · rcases hstarts with ⟨-, hstill, -⟩ | ⟨-, -, ⟨-, hstill⟩ | ⟨hpublic, -⟩⟩
        · rw [hplacements, hstill]
          rfl
        · rw [hplacements, hstill]
          rfl
        · rw [hprivate] at hpublic
          cases hpublic
  named := by
    intro placed hplaced
    rw [List.filterMap_append, List.mem_append] at hplaced
    rcases hplaced with hbefore | hstated
    · exact h.named placed hbefore
    · rcases @move_starts _ _ _ _ _ _ context hmove with
        ⟨-, hnone, -⟩ | ⟨-, -, ⟨-, hnone⟩ | ⟨-, slug, -, hnamed, hmoved⟩⟩
      · rw [hnone] at hstated
        cases hstated
      · rw [hnone] at hstated
        cases hstated
      · rw [hmoved, List.mem_singleton] at hstated
        rw [hstated]
        exact hnamed

end Chronicles

/-! ## What the outbox says -/

/-- The outbox says where every date stands, and nothing of a date not drafted. -/
structure Chronicled (origin : String) (db : Db) : Prop where
  said : ∀ {dateId record shown venue}, db.recordOf dateId = some record →
    db.shows.find? record.date.showId = some shown →
    db.venues.find? record.date.venueId = some venue →
    Chronicle origin shown.slug venue record (messagesOf db.outbox dateId)
  undrafted : ∀ {dateId}, db.recordOf dateId = none → messagesOf db.outbox dateId = []

section Steps

variable [PublicationRules] [ReplayRules] {origin : String} {db db' : Db}

omit [PublicationRules] [ReplayRules] in
/-- The dates are said while none moves and none is stated, and every show keeps its slug. -/
theorem Chronicled.unstated (h : Chronicled origin db) (hreferences : db.References)
    (hrecords : ∀ dateId, db'.recordOf dateId = db.recordOf dateId)
    (hmessages : ∀ dateId, messagesOf db'.outbox dateId = messagesOf db.outbox dateId)
    (hshows : ∀ {id shown shown'}, db.shows.find? id = some shown →
      db'.shows.find? id = some shown' → shown'.slug = shown.slug)
    (hvenues : ∀ {id venue}, db.venues.find? id = some venue →
      db'.venues.find? id = some venue) : Chronicled origin db' where
  said {dateId record shown' venue'} hrecord hshown' hvenue' := by
    rw [hrecords] at hrecord
    obtain ⟨shown, venue, hshown, hvenue⟩ := hreferences.of_record hrecord
    rw [hmessages, hshows hshown hshown', Option.some.inj (hvenue'.symm.trans (hvenues hvenue))]
    exact h.said hrecord hshown hvenue
  undrafted hnone := by
    rw [hmessages]
    exact h.undrafted ((hrecords _).symm.trans hnone)

omit [PublicationRules] [ReplayRules] in
/-- A date's rows written, and their events recorded, keep every date said. -/
theorem Chronicled.written {record : DateRecord} {events : List DateKeyedEvent} {shown : Show}
    {venue : Venue} (h : Chronicled origin db)
    (hwritten : Db.Written db db' record events ⟨origin, shown, venue⟩)
    (hids : ∀ event ∈ events, event.dateId = record.date.id)
    (hshown : db.shows.find? record.date.showId = some shown)
    (hvenue : db.venues.find? record.date.venueId = some venue)
    (hchronicle : Chronicle origin shown.slug venue record
      (messagesOf db.outbox record.date.id ++
        events.map (integrationEventOf ⟨origin, shown, venue⟩))) : Chronicled origin db' where
  said {dateId found shown' venue'} hfound hshown' hvenue' := by
    rw [Db.recordOf_written hwritten] at hfound
    rw [hwritten.shows] at hshown'
    rw [hwritten.venues] at hvenue'
    rw [hwritten.outbox, messagesOf_written hids]
    split_ifs at hfound with hid
    · cases hfound
      rw [hshown] at hshown'
      rw [hvenue] at hvenue'
      cases hshown'
      cases hvenue'
      rw [if_pos hid, hid]
      exact hchronicle
    · rw [if_neg hid, List.append_nil]
      exact h.said hfound hshown' hvenue'
  undrafted {dateId} hnone := by
    rw [Db.recordOf_written hwritten] at hnone
    rw [hwritten.outbox, messagesOf_written hids]
    split_ifs at hnone with hid
    rw [if_neg hid, List.append_nil]
    exact h.undrafted hnone

theorem Chronicled.step (h : Chronicled origin db) (hreferences : db.References)
    (hsound : db.RecordsSound) (hstep : Db.Step origin db db') : Chronicled origin db' := by
  cases hstep with
  | unmoved hunmoved =>
      obtain ⟨_, _, rfl⟩ := hunmoved
      exact ⟨h.said, h.undrafted⟩
  | @showPublished published shows now hinsert hdb =>
      subst hdb
      refine h.unstated hreferences (fun _ => rfl) (fun dateId => ?_) ?_ fun hvenue => hvenue
      · rw [messagesOf_append]
        exact List.append_nil _
      · intro id shown shown' hshown hshown'
        have hkept := Table.find?_of_insert hinsert hshown
        rw [Option.some.inj (hshown'.symm.trans hkept)]
  | @showUpdated kept next now hkeptShown hkept hdb =>
      subst hdb
      refine h.unstated hreferences (fun _ => rfl) (fun dateId => ?_) ?_ fun hvenue => hvenue
      · rw [messagesOf_append]
        exact List.append_nil _
      · intro id shown shown' hshown hshown'
        have hput := (Table.find?_put hkeptShown).symm.trans hshown'
        split_ifs at hput with hid
        · cases hput
          rw [hid, hkeptShown] at hshown
          cases hshown
          exact hkept.slug
        · rw [Option.some.inj (hput.symm.trans hshown)]
  | venueCreated hinsert hdb =>
      subst hdb
      refine h.unstated hreferences (fun _ => rfl) (fun _ => rfl) ?_ fun hvenue =>
        Table.find?_of_insert hinsert hvenue
      intro id shown shown' hshown hshown'
      rw [Option.some.inj (hshown'.symm.trans hshown)]
  | faceUpdated hid hdb =>
      subst hdb
      refine h.unstated hreferences (fun _ => rfl) (fun dateId => ?_) ?_ fun hvenue => hvenue
      · rw [messagesOf_append]
        exact List.append_nil _
      · intro id shown shown' hshown hshown'
        rw [Option.some.inj (hshown'.symm.trans hshown)]
  | @drafted now hdrafted =>
      obtain @⟨draft, shown, venue, hshown, -, hvenue, -, hpublication, hwritten⟩ := hdrafted
      have hreplay : db.replays.find? draft.id = none := by
        cases hfound : db.replays.find? draft.id with
        | none => rfl
        | some replay =>
            obtain ⟨publication, hsome⟩ := hreferences.replayed hfound
            exact absurd (hsome.symm.trans hpublication) (Option.some_ne_none _)
      have hmessages : messagesOf db.outbox draft.id = [] :=
        h.undrafted (by simp [Db.recordOf, hpublication])
      refine h.written hwritten (fun event hevent => ?_) hshown hvenue ?_
      · cases List.mem_singleton.mp hevent
        rfl
      · change Chronicle origin shown.slug venue _ (messagesOf db.outbox draft.id ++ _)
        rw [hmessages, hreplay]
        exact chronicle_draft draft
  | moved hmoved =>
      obtain @⟨dateId, record, record', events, shown, venue, hrecord, hmove, hshown, hvenue,
        hwritten⟩ := hmoved
      have hkept := hmove.kept
      have hid : record.date.id = dateId :=
        Table.key_of_find? (Db.recordOf_eq_some.mp hrecord).2.1
      refine h.written hwritten ?_ (hkept.showId.symm ▸ hshown) (hkept.venueId.symm ▸ hvenue) ?_
      · intro event hevent
        exact (hmove.events_dateId (hsound _ _ hrecord) event hevent).trans hkept.id.symm
      · rw [hkept.id, hid]
        exact @Chronicle.moved _ _ _ _ _ _ ⟨origin, shown, venue⟩ _ (h.said hrecord hshown hvenue)
          (hsound _ _ hrecord) hmove

variable [LawfulPublicationRules] [SlugRules]

/-- Whatever was committed, the outbox says where every date stands. -/
theorem World.reached_chronicled (transactions : List Transaction) :
    (World.reached origin transactions).db.References ∧
      (World.reached origin transactions).db.RecordsSound ∧
      Chronicled origin (World.reached origin transactions).db := by
  have hkept := @World.reached_keeps _ _ _ _ origin
    (fun db => db.RecordsSound ∧ Chronicled origin db)
    ⟨Db.recordsSound_empty, ⟨fun h => (by cases h), fun _ => rfl⟩⟩
    (fun hreferences h hstep => ⟨h.1.step hreferences hstep, h.2.step hreferences h.1 hstep⟩)
    transactions
  exact hkept

end Steps

namespace Sample

open Arthome.Core.Sample Arthome.Catalog.Sample

end Sample

end Arthome.Catalog.Dates
