import Arthome.Core.PublicationRules
import Mathlib.Data.List.Basic

/-!
# A date, its publication and its replay

Two aggregates share the id of a date. The date owns its publication: two rows and one
version, the publication's, which every command names. The replay is opened by the end of
the live and carries the one closing. Each decision replaces the snapshot and raises its
events, or refuses and changes nothing.
-/

namespace Arthome.Catalog.Dates

open Arthome.Core

/-! ## The events of a date -/

/-- The run desk's message, in the language it was written in. -/
structure OutcomeMessage where
  contentLanguage : String
  text : String
  deriving Repr, DecidableEq

/-- What a date states once public. -/
structure PublicDateFacts where
  dateId : Uuid
  channelId : Uuid
  showId : Uuid
  venueId : Uuid
  startsAt : Instant
  runtimeMin : ℤ
  replayPolicy : ReplayPolicy
  replayWindowHours : Option ℤ
  rights : TerritoryRights
  slug : String
  deriving Repr, DecidableEq

/-- Every published move of a replay, the file's arrival excepted. -/
structure ReplayStateChanged where
  dateId : Uuid
  channelId : Uuid
  /-- None when the change creates the replay. -/
  fromState : Option ReplayState
  toState : ReplayState
  version : ℕ
  policy : ReplayPolicy
  liveEndedAt : Instant
  closesAt : Instant
  onlineAt : Option Instant
  durationSec : Option ℤ
  occurredAt : Instant
  deriving Repr, DecidableEq

/-- Every event keyed by the date, its replay's included. -/
inductive DateKeyedEvent where
  | dateDrafted (dateId channelId showId venueId : Uuid) (occurredAt : Instant)
  | dateScheduled (facts : PublicDateFacts) (occurredAt : Instant)
  | dateOutcomeDeclared (dateId channelId : Uuid) (outcome : DateOutcome) (message : OutcomeMessage)
      (rescheduledTo : Option Instant) (occurredAt : Instant)
  | dateRescheduled (dateId showId : Uuid) (previousStartsAt newStartsAt : Instant)
      (previousSlug newSlug : String) (occurredAt : Instant)
  | publicationStateChanged (dateId channelId : Uuid) (fromState toState : PublicationState)
      (version : ℕ) (irreversible : Bool) (occurredAt : Instant)
  | publicationEngaged (dateId channelId : Uuid) (occurredAt : Instant)
  | replayStateChanged (change : ReplayStateChanged)
  deriving Repr, DecidableEq

namespace DateKeyedEvent

def dateId : DateKeyedEvent → Uuid
  | dateDrafted dateId _ _ _ _ | dateOutcomeDeclared dateId _ _ _ _ _
  | dateRescheduled dateId _ _ _ _ _ _ | publicationStateChanged dateId _ _ _ _ _ _
  | publicationEngaged dateId _ _ => dateId
  | dateScheduled facts _ => facts.dateId
  | replayStateChanged change => change.dateId

def occurredAt : DateKeyedEvent → Instant
  | dateDrafted _ _ _ _ occurredAt | dateScheduled _ occurredAt
  | dateOutcomeDeclared _ _ _ _ _ occurredAt | dateRescheduled _ _ _ _ _ _ occurredAt
  | publicationStateChanged _ _ _ _ _ _ occurredAt | publicationEngaged _ _ occurredAt => occurredAt
  | replayStateChanged change => change.occurredAt

/-- The public facts an event states, the one that goes public. -/
def scheduled : DateKeyedEvent → Option PublicDateFacts
  | dateScheduled facts _ => some facts
  | _ => none

end DateKeyedEvent

/-! ## The publication -/

structure PublicationSnapshot where
  dateId : Uuid
  channelId : Uuid
  state : PublicationState
  version : ℕ
  publishedAt : Option Instant
  pricesLockedAt : Option Instant
  replayOnlineAt : Option Instant
  deriving Repr, DecidableEq

/-- A transition's outcome; engaged by the one that publishes only. -/
structure PublicationTransitioned where
  publication : PublicationSnapshot
  changed : DateKeyedEvent
  engaged : Option DateKeyedEvent
  deriving Repr, DecidableEq

namespace Publication

def draft (dateId channelId : Uuid) : PublicationSnapshot where
  dateId := dateId
  channelId := channelId
  state := .draft
  version := 1
  publishedAt := none
  pricesLockedAt := none
  replayOnlineAt := none

/-- Refuses a screen that read another version, then counts one more change. -/
def advancedFrom (publication : PublicationSnapshot) (expectedVersion : ℕ) :
    Except DateRefusal PublicationSnapshot :=
  if publication.version ≠ expectedVersion then
    .error (.stateConflict publication.version publication.state)
  else .ok { publication with version := publication.version + 1 }

variable [PublicationRules]

/-- A transition another context caused. -/
def learned (publication : PublicationSnapshot) (toState : PublicationState) (now : Instant) :
    Except DateRefusal (PublicationSnapshot × DateKeyedEvent) :=
  if PublicationRules.isEventDriven publication.state toState = false then
    .error (.publicationTransitionForbidden publication.state toState)
  else
    .ok ({ publication with state := toState, version := publication.version + 1 },
      .publicationStateChanged publication.dateId publication.channelId publication.state toState
        (publication.version + 1) false now)

/-- A commanded transition, when core allows it and, to publish, the checklist is complete. -/
def transitioned (publication : PublicationSnapshot) (command : PublicationTransitionCommand)
    (satisfied : List PublicationChecklistItem) (now : Instant) :
    Except DateRefusal PublicationTransitioned := do
  let transition ← PublicationRules.assertCommandedTransition publication.state publication.version
    command true
  let publishing := decide (transition.irreversiblePromiseCode = some .pricesEngaged)
  if publishing && !(PublicationRules.publicationReadiness satisfied).ready then
    throw (.publicationChecklistIncomplete (PublicationRules.publicationReadiness satisfied).missing)
  return {
    publication := { publication with
      state := command.toState
      version := publication.version + 1
      publishedAt := if publishing then some (publication.publishedAt.getD now)
        else publication.publishedAt
      pricesLockedAt := if publishing then some (publication.pricesLockedAt.getD now)
        else publication.pricesLockedAt
      replayOnlineAt := if command.toState = .replayOnline then some now
        else publication.replayOnlineAt }
    changed := .publicationStateChanged publication.dateId publication.channelId publication.state
      command.toState (publication.version + 1) transition.irreversiblePromiseCode.isSome now
    engaged := if publishing then
        some (.publicationEngaged publication.dateId publication.channelId now)
      else none }

end Publication

/-! ## The date -/

structure PerformanceDateSnapshot where
  id : Uuid
  showId : Uuid
  venueId : Uuid
  channelId : Uuid
  startsAt : Instant
  runtimeMin : ℤ
  replayPolicy : ReplayPolicy
  replayWindowHours : Option ℤ
  rights : TerritoryRights
  /-- Unique within its show; none until publication. -/
  slug : Option String
  postponements : ℕ
  outcome : Option DateOutcome
  rescheduledTo : Option Instant
  outcomeDeclaredAt : Option Instant
  outcomeMessage : Option OutcomeMessage
  deriving Repr, DecidableEq

/-- What a draft is created with. -/
structure DateDraft where
  id : Uuid
  showId : Uuid
  venueId : Uuid
  channelId : Uuid
  startsAt : Instant
  runtimeMin : ℤ
  replayPolicy : ReplayPolicy
  replayWindowHours : Option ℤ
  deriving Repr, DecidableEq

structure PublicationContext where
  /-- Every checklist item satisfied now. -/
  satisfied : List PublicationChecklistItem
  /-- The first slug free on its day, while the date has none. -/
  freeSlug : Option String
  /-- Its show's running time now, which publishing freezes on the date. -/
  showRuntimeMin : ℤ
  now : Instant
  deriving Repr, DecidableEq

/-- The date and its publication, and the events raised since they were loaded. -/
structure PerformanceDate where
  current : PerformanceDateSnapshot
  publication : PublicationSnapshot
  events : List DateKeyedEvent
  deriving Repr, DecidableEq

def publicFactsOf (date : PerformanceDateSnapshot) (slug : String) : PublicDateFacts where
  dateId := date.id
  channelId := date.channelId
  showId := date.showId
  venueId := date.venueId
  startsAt := date.startsAt
  runtimeMin := date.runtimeMin
  replayPolicy := date.replayPolicy
  replayWindowHours := date.replayWindowHours
  rights := date.rights
  slug := slug

def RUN_ALREADY_STARTED : List PublicationState := [.live, .ended, .replayOnline]

def RUN_ALREADY_ENDED : List PublicationState := [.ended, .replayOnline]

namespace PerformanceDate

def restore (snapshot : PerformanceDateSnapshot) (publication : PublicationSnapshot) :
    PerformanceDate :=
  ⟨snapshot, publication, []⟩

variable [PublicationRules]

/-- Worldwide until its rights are restricted, and without a slug until its publication. -/
def draft (draft : DateDraft) (now : Instant) : PerformanceDate where
  current := {
    id := draft.id
    showId := draft.showId
    venueId := draft.venueId
    channelId := draft.channelId
    startsAt := draft.startsAt
    runtimeMin := draft.runtimeMin
    replayPolicy := draft.replayPolicy
    replayWindowHours := draft.replayWindowHours
    rights := PublicationRules.worldwideRights
    slug := none
    postponements := 0
    outcome := none
    rescheduledTo := none
    outcomeDeclaredAt := none
    outcomeMessage := none }
  publication := Publication.draft draft.id draft.channelId
  events := [.dateDrafted draft.id draft.channelId draft.showId draft.venueId now]

omit [PublicationRules] in
/-- Publishing happens once: a date that already holds a slug refuses the transition. -/
def madePublic (date : PerformanceDateSnapshot) (context : PublicationContext)
    (fromState toState : PublicationState) :
    Except DateRefusal (PerformanceDateSnapshot × String) :=
  match date.slug, context.freeSlug with
  | some _, _ => .error (.publicationTransitionForbidden fromState toState)
  | none, none => .error (.error "publishing a date without its free slug")
  | none, some slug =>
    .ok ({ date with slug := some slug, runtimeMin := context.showRuntimeMin }, slug)

/-- A commanded transition. Publishing makes the date public in the same act, its public facts
between the state change and what it engaged. -/
def transitionPublication (date : PerformanceDate) (command : PublicationTransitionCommand)
    (context : PublicationContext) : Except DateRefusal PerformanceDate := do
  let transitioned ← Publication.transitioned date.publication command context.satisfied context.now
  match transitioned.engaged with
  | none =>
    return { date with
      publication := transitioned.publication
      events := date.events ++ [transitioned.changed] }
  | some engaged =>
    let (current, slug) ← madePublic date.current context date.publication.state command.toState
    return {
      current := current
      publication := transitioned.publication
      events := date.events ++ [transitioned.changed,
        .dateScheduled (publicFactsOf current slug) context.now, engaged] }

def learnPublicationState (date : PerformanceDate) (toState : PublicationState) (now : Instant) :
    Except DateRefusal PerformanceDate := do
  let (publication, changed) ← Publication.learned date.publication toState now
  return { date with publication := publication, events := date.events ++ [changed] }

/-- The date moved; nothing for a start already learned, or passed. -/
def learnRunStarted (date : PerformanceDate) (now : Instant) :
    Except DateRefusal (Option PerformanceDate) :=
  if date.publication.state ∈ RUN_ALREADY_STARTED then .ok none
  else (date.learnPublicationState .live now).map some

/-- The date moved. An end before its start is a reordering, which a retry resolves. -/
def learnRunEnded (date : PerformanceDate) (now : Instant) :
    Except DateRefusal (Option PerformanceDate) :=
  if date.publication.state ∈ RUN_ALREADY_ENDED then .ok none
  else if date.publication.state = .technical then .error (.runEndedBeforeStarted date.current.id)
  else (date.learnPublicationState .ended now).map some

/-- What core reads of a date to declare its outcome. -/
def outcomeSubject (date : PerformanceDateSnapshot) (state : PublicationState) :
    OutcomeSubject where
  outcome := date.outcome
  postponements := date.postponements
  publicationState := state
  timing := {
    startsAt := date.startsAt
    runtimeMin := date.runtimeMin
    roomOpensBeforeMin := PublicationRules.ROOM_OPENS_MINUTES_BEFORE
    replayPolicy := date.replayPolicy
    replayWindowHours := date.replayWindowHours.getD 0 }

/-- An outcome, from the version the screen read. A postponement moves the date and its slug in the
same act. -/
def declareOutcome (date : PerformanceDate) (expectedVersion : ℕ) (declaration : OutcomeDeclaration)
    (message : OutcomeMessage) (slugAtNewStart : Option String) (now : Instant) :
    Except DateRefusal PerformanceDate := do
  let publication ← Publication.advancedFrom date.publication expectedVersion
  let current := date.current
  PublicationRules.assertOutcomeDeclarable (outcomeSubject current publication.state) declaration now
  let dateId := current.id
  let previousSlug ← match current.slug with
    | some slug => .ok slug
    | none => .error (.error s!"date {dateId} is public without a slug")
  let declared : DateKeyedEvent := .dateOutcomeDeclared current.id current.channelId
    declaration.outcome message declaration.rescheduledTo now
  match declaration.rescheduledTo, slugAtNewStart with
  | none, _ =>
    return {
      current := { current with
        outcome := some declaration.outcome
        rescheduledTo := none
        outcomeDeclaredAt := some now
        outcomeMessage := some message }
      publication := publication
      events := date.events ++ [declared] }
  | some _, none => throw (.error "a postponement without its new slug")
  | some movedTo, some slug =>
    return {
      current := { current with
        outcome := some declaration.outcome
        rescheduledTo := some movedTo
        outcomeDeclaredAt := some now
        outcomeMessage := some message
        startsAt := movedTo
        slug := some slug
        postponements := current.postponements + 1 }
      publication := publication
      events := date.events ++ [declared, .dateRescheduled current.id current.showId
        current.startsAt movedTo previousSlug slug now] }

end PerformanceDate

/-! ## The replay -/

structure ReplaySnapshot where
  dateId : Uuid
  channelId : Uuid
  state : ReplayState
  /-- The date's promise when its live ended. -/
  policy : ReplayPolicy
  /-- The run's real end, as streaming reported it. -/
  liveEndedAt : Instant
  /-- The one closing, computed once at the opening. -/
  closesAt : Instant
  assetDurationSec : Option ℤ
  assetReadyAt : Option Instant
  onlineAt : Option Instant
  closedAt : Option Instant
  withdrawnAt : Option Instant
  version : ℕ
  deriving Repr, DecidableEq

structure ReplayAsset where
  durationSec : ℤ
  availableFrom : Instant
  deriving Repr, DecidableEq

/-- The replay, and the events raised since it was loaded. -/
structure Replay where
  current : ReplaySnapshot
  events : List ReplayStateChanged
  deriving Repr, DecidableEq

def STILL_OPEN : List ReplayState := [.pending, .online]

namespace Replay

def restore (snapshot : ReplaySnapshot) : Replay := ⟨snapshot, []⟩

/-- The file's duration is stated once the replay went online, and kept after. -/
def stateChanged (replay : ReplaySnapshot) (fromState : Option ReplayState) (now : Instant) :
    ReplayStateChanged where
  dateId := replay.dateId
  channelId := replay.channelId
  fromState := fromState
  toState := replay.state
  version := replay.version
  policy := replay.policy
  liveEndedAt := replay.liveEndedAt
  closesAt := replay.closesAt
  onlineAt := replay.onlineAt
  durationSec := if replay.onlineAt.isSome then replay.assetDurationSec else none
  occurredAt := now

/-- The first file counts one version and publishes nothing; a second is ignored. -/
def learnAssetReady (replay : Replay) (asset : ReplayAsset) : Option Replay :=
  if replay.current.state ∉ STILL_OPEN ∨ replay.current.assetReadyAt ≠ none then none
  else some { replay with current := { replay.current with
    assetDurationSec := some asset.durationSec
    assetReadyAt := some asset.availableFrom
    version := replay.current.version + 1 } }

def moveTo (replay : Replay) (toState : ReplayState) (stamped : ReplaySnapshot → ReplaySnapshot)
    (now : Instant) : Replay :=
  let current := { stamped replay.current with
    state := toState
    version := replay.current.version + 1 }
  { current := current
    events := replay.events ++ [stateChanged current (some replay.current.state) now] }

/-- Nothing for a replay already closed or withdrawn. -/
def close (replay : Replay) (now : Instant) : Option Replay :=
  if replay.current.state ∉ STILL_OPEN then none
  else some (replay.moveTo .closed (fun current => { current with closedAt := some now }) now)

/-- Nothing for a replay already closed or withdrawn. -/
def withdraw (replay : Replay) (now : Instant) : Option Replay :=
  if replay.current.state ∉ STILL_OPEN then none
  else some (replay.moveTo .withdrawn (fun current => { current with withdrawnAt := some now }) now)

/-- Opened by the end of the live of a date that promised a replay: pending until the studio puts it
online. -/
def opened [ReplayRules] (dateId channelId : Uuid) (policy : ReplayPolicy) (liveEndedAt : Instant)
    (windowHours : ℤ) (now : Instant) : Replay :=
  let current : ReplaySnapshot := {
    dateId := dateId
    channelId := channelId
    state := .pending
    policy := policy
    liveEndedAt := liveEndedAt
    closesAt := ReplayRules.replayClosesAt liveEndedAt windowHours
    assetDurationSec := none
    assetReadyAt := none
    onlineAt := none
    closedAt := none
    withdrawnAt := none
    version := 1 }
  { current := current, events := [stateChanged current none now] }

variable [PublicationRules]

/-- The studio's, refused by core unless pending, open and its file ready. -/
def goOnline (replay : Replay) (now : Instant) : Except DateRefusal Replay := do
  PublicationRules.assertReplayGoesOnline (some {
    state := replay.current.state
    assetReady := replay.current.assetReadyAt.isSome
    closesAt := replay.current.closesAt
    now := now })
  return replay.moveTo .online (fun current => { current with onlineAt := some now }) now

end Replay

end Arthome.Catalog.Dates
