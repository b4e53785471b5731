import Arthome.Core.RunRules
import Arthome.Library.Reply

/-!
# A date's run

`Run` is a date's live and its incidents. Its version counts state, not presence:
a transition, an incident and a first passed check advance it, a publisher's
comings and goings never do, so a flapping feed makes no studio command stale. An
incident veils the run and interrupts it when it is on air; the run goes on air
only with none open. What a rule needs beyond the aggregate is an argument.
-/

namespace Arthome.Streaming

open Arthome.Core Library

inductive IngestProtocol where
  | rtmps
  | srt
  | whip
  deriving Repr, DecidableEq

/-- How the run desk watches the feed. -/
inductive MonitorPath where
  | whep
  | llHls
  deriving Repr, DecidableEq

/-- Written by the run desk, in the language it was written in. -/
structure IncidentMessage where
  contentLanguage : String
  text : String
  deriving Repr, DecidableEq

structure IncidentSnapshot where
  id : Uuid
  kind : IncidentKind
  cause : IncidentCause
  trigger : IncidentTrigger
  message : Option IncidentMessage
  raisedAt : Instant
  /-- Absent for the system, as `resolvedBy`. -/
  raisedBy : Option Uuid
  resolvedAt : Option Instant
  resolvedBy : Option Uuid
  deriving Repr, DecidableEq

/-- What the run desk raises an incident with. -/
structure RaisedIncident where
  id : Uuid
  kind : IncidentKind
  cause : IncidentCause
  message : Option IncidentMessage
  deriving Repr, DecidableEq

structure RunActor where
  accountId : Option Uuid
  surface : Surface
  deriving Repr, DecidableEq

def systemActor : RunActor := ⟨none, .system⟩

inductive RunEvent where
  | runPrepared (dateId : Uuid) (occurredAt : Instant)
  | technicalCheckPassed (dateId channelId : Uuid) (protocol : IngestProtocol)
      (checkedBy : RunActor) (occurredAt : Instant)
  | runStarted (dateId channelId : Uuid) (protocol : IngestProtocol) (monitorPath : MonitorPath)
      (startedBy : RunActor) (occurredAt : Instant)
  /-- `endedAt` is the live's real end, which may precede the act. -/
  | runEnded (dateId channelId : Uuid) (endedAt : Instant) (durationSec : ℤ) (endedBy : RunActor)
      (occurredAt : Instant)
  /-- `cause` is the open incident's, on an interrupted run only. -/
  | runStateChanged (dateId : Uuid) (state : RunState) (cause : Option IncidentCause)
      (afterGracePeriod : Bool) (occurredAt : Instant)
  | incidentRaised (dateId channelId : Uuid) (incident : IncidentSnapshot) (raisedBy : RunActor)
      (occurredAt : Instant)
  | incidentResolved (dateId incidentId : Uuid) (resolvedBy : RunActor) (occurredAt : Instant)
  deriving Repr, DecidableEq

structure RunSnapshot where
  runId : Uuid
  dateId : Uuid
  channelId : Uuid
  state : RunState
  streamPath : String
  ingestProtocol : IngestProtocol
  monitorPath : MonitorPath
  technicalCheckPassedAt : Option Instant
  startedAt : Option Instant
  endedAt : Option Instant
  publisherOnlineSince : Option Instant
  publisherLostAt : Option Instant
  afterGracePeriod : Bool
  /-- The open incident, or the one this aggregate has just resolved. -/
  incident : Option IncidentSnapshot
  version : ℕ
  deriving Repr, DecidableEq

structure RunToPrepare where
  runId : Uuid
  dateId : Uuid
  channelId : Uuid
  streamPath : String
  deriving Repr, DecidableEq

def RunSnapshot.openIncident (s : RunSnapshot) : Option IncidentSnapshot :=
  s.incident.filter fun incident => incident.resolvedAt.isNone

def RunSnapshot.technicalCheckPassed (s : RunSnapshot) : Bool := s.technicalCheckPassedAt.isSome

/-- The aggregate, with the events it has recorded. -/
structure Run where
  current : RunSnapshot
  events : List RunEvent
  deriving Repr, DecidableEq

/-- A call that answers nothing else than that it was made. -/
def done (reply : Reply Run RunRefusal Unit) : Reply Run RunRefusal Bool :=
  ⟨reply.state, reply.result.map fun _ => true⟩

/-- A number of milliseconds in whole seconds, rounded half up. -/
def roundToSeconds (ms : ℤ) : ℤ := (ms + 500) / 1000

namespace Run

/-- `rtmps` until a feed is accepted: it is the compatibility ingest. -/
def prepare (run : RunToPrepare) (now : Instant) : Run where
  current :=
    { runId := run.runId
      dateId := run.dateId
      channelId := run.channelId
      state := .idle
      streamPath := run.streamPath
      ingestProtocol := .rtmps
      monitorPath := .llHls
      technicalCheckPassedAt := none
      startedAt := none
      endedAt := none
      publisherOnlineSince := none
      publisherLostAt := none
      afterGracePeriod := false
      incident := none
      version := 1 }
  events := [.runPrepared run.dateId now]

def openIncident (run : Run) : Option IncidentSnapshot := run.current.openIncident

/-- The run as a transaction loads it: with its open incident, if any. -/
def restored (run : Run) : Run :=
  { run with current := { run.current with incident := run.openIncident } }

def record (run : Run) (event : RunEvent) : Run := { run with events := run.events ++ [event] }

def conflict (run : Run) : RunRefusal := .stateConflict run.current.version run.current.state

/-- Refuses a command that read another version; else the next version. -/
def advancedFrom (run : Run) (expectedVersion : ℕ) : Except RunRefusal ℕ :=
  if run.current.version ≠ expectedVersion then .error run.conflict
  else .ok (run.current.version + 1)

def applyStateChanged (run : Run) (now : Instant) : Run :=
  let cause :=
    if run.current.state = .interrupted then run.openIncident.map fun incident => incident.cause
    else none
  run.record (.runStateChanged run.current.dateId run.current.state cause
    run.current.afterGracePeriod now)

variable [RunRules]

/-- The run's own check of a transition. -/
def assertTransition (run : Run) (target : RunState) : Except RunRefusal Unit :=
  RunRules.assertRunTransition run.current.state target run.current.technicalCheckPassed

def move (run : Run) (target : RunState) (version : ℕ) (now : Instant) : Reply Run RunRefusal Unit :=
  .guard run (run.assertTransition target) fun _ =>
    let moved := { run with current := { run.current with state := target, version := version } }
    .answer (moved.applyStateChanged now) ()

def rehearse (run : Run) (expectedVersion : ℕ) (now : Instant) : Reply Run RunRefusal Unit :=
  .guard run (run.advancedFrom expectedVersion) fun version => run.move .rehearsal version now

def reset (run : Run) (expectedVersion : ℕ) (now : Instant) : Reply Run RunRefusal Unit :=
  .guard run (run.advancedFrom expectedVersion) fun version => run.move .idle version now

/-- Refused unless the projected publication is `technical`. -/
def goOnAir (run : Run) (expectedVersion : ℕ) (publicationState : Option PublicationState)
    (actor : RunActor) (now : Instant) : Reply Run RunRefusal Unit :=
  .guard run (run.advancedFrom expectedVersion) fun version =>
  .guard run (run.assertTransition .onAir) fun _ =>
    if publicationState ≠ some .technical then
      .refuse run (.publicationTransitionForbidden publicationState .live)
    else if run.openIncident.isSome then .refuse run run.conflict
    else
      let started :=
        { run with
          current := { run.current with state := .onAir, startedAt := some now, version := version } }
      let s := started.current
      .answer ((started.record (.runStarted s.dateId s.channelId s.ingestProtocol s.monitorPath
        actor now)).applyStateChanged now) ()

/-- An incident still open is resolved by the system first: an ended run carries no veil. -/
def endAt (run : Run) (version : ℕ) (endedAt : Instant) (actor : RunActor) (now : Instant) :
    Reply Run RunRefusal Unit :=
  .guard run (run.assertTransition .ended) fun _ =>
    let opened := run.openIncident
    let s := run.current
    let incident :=
      match opened with
      | some incident =>
        some { incident with resolvedAt := some now, resolvedBy := systemActor.accountId }
      | none => s.incident
    let ended :=
      { run with
        current := { s with incident, state := .ended, endedAt := some endedAt, version } }
    let resolved :=
      match opened with
      | some incident => ended.record (.incidentResolved s.dateId incident.id systemActor now)
      | none => ended
    let durationMs := s.startedAt.elim 0 fun startedAt => endedAt - startedAt
    let durationSec := max 0 (roundToSeconds durationMs)
    .answer ((resolved.record (.runEnded s.dateId s.channelId endedAt durationSec actor
      now)).applyStateChanged now) ()

/-- The command `end`. -/
def «end» (run : Run) (expectedVersion : ℕ) (actor : RunActor) (now : Instant) :
    Reply Run RunRefusal Unit :=
  .guard run (run.advancedFrom expectedVersion) fun version => run.endAt version now actor now

/-- The end of a run that ends by itself: its last publisher's loss, or the scheduled end, never
before its start. -/
def lastFeedEnd (s : RunSnapshot) (scheduledEndsAt : Instant) : Instant :=
  let lastFeed := s.publisherLostAt.getD scheduledEndsAt
  match s.startedAt with
  | some startedAt => if RunRules.isAfter startedAt lastFeed then startedAt else lastFeed
  | none => lastFeed

/-- False while a publisher is online, or before the run is due to end. -/
def endByItself (run : Run) (scheduledEndsAt now : Instant) : Reply Run RunRefusal Bool :=
  let s := run.current
  if s.state ≠ .onAir ∧ s.state ≠ .interrupted then .answer run false
  else
    match RunRules.runAutoEndsAt scheduledEndsAt s.publisherLostAt s.publisherOnlineSince.isSome with
    | none => .answer run false
    | some endsAt =>
      if RunRules.isAfter endsAt now then .answer run false
      else
        done (run.endAt (s.version + 1) (lastFeedEnd s scheduledEndsAt) systemActor now)

omit [RunRules] in
/-- True for a pass, recorded the first time only. -/
def runTechnicalCheck (run : Run) (failures : List TechnicalCheckFailure) (protocol : IngestProtocol)
    (actor : RunActor) (now : Instant) : Reply Run RunRefusal Bool :=
  if run.current.state = .ended then .refuse run run.conflict
  else if failures ≠ [] then .answer run false
  else
    let checked :=
      if run.current.technicalCheckPassed then run
      else
        { run with
          current :=
            { run.current with
              technicalCheckPassedAt := some now
              version := run.current.version + 1 } }
    let s := checked.current
    .answer (checked.record (.technicalCheckPassed s.dateId s.channelId protocol actor now)) true

/-- An incident veils; it interrupts only a run on air. -/
def raise (run : Run) (raised : RaisedIncident) (trigger : IncidentTrigger) (raisedBy : Option Uuid)
    (actor : RunActor) (now : Instant) : Reply Run RunRefusal Unit :=
  let s := run.current
  let interrupts := s.state = .onAir
  .guard run (if interrupts then run.assertTransition .interrupted else .ok ()) fun _ =>
    let incident : IncidentSnapshot :=
      { id := raised.id
        kind := raised.kind
        cause := raised.cause
        trigger
        message := raised.message
        raisedAt := now
        raisedBy
        resolvedAt := none
        resolvedBy := none }
    let veiled :=
      { run with
        current :=
          { s with
            incident := some incident
            state := if interrupts then .interrupted else s.state
            version := s.version + 1 } }
    let recorded := veiled.record (.incidentRaised s.dateId s.channelId incident actor now)
    .answer (if interrupts then recorded.applyStateChanged now else recorded) ()

def raiseAutomatic (run : Run) (incidentId : Uuid) (cause : IncidentCause) (now : Instant) :
    Reply Run RunRefusal Unit :=
  run.raise ⟨incidentId, .holdScreen, cause, none⟩ .auto none systemActor now

def raiseIncident (run : Run) (raised : RaisedIncident) (actor : RunActor) (now : Instant) :
    Reply Run RunRefusal Unit :=
  if run.current.state = .ended ∨ run.openIncident.isSome then .refuse run run.conflict
  else run.raise raised .manual actor.accountId actor now

/-- `resumes` says whether the run goes back on air. -/
def resolve (run : Run) (incident : IncidentSnapshot) (actor : RunActor)
    (afterGracePeriodCleared : Bool) (now : Instant) : Reply Run RunRefusal Unit :=
  let s := run.current
  let resumes := s.state = .interrupted
  .guard run (if resumes then run.assertTransition .onAir else .ok ()) fun _ =>
    let lifted :=
      { run with
        current :=
          { s with
            incident :=
              some { incident with resolvedAt := some now, resolvedBy := actor.accountId }
            state := if resumes then .onAir else s.state
            version := s.version + 1 } }
    let recorded := lifted.record (.incidentResolved s.dateId incident.id actor now)
    .answer (if resumes ∨ afterGracePeriodCleared then recorded.applyStateChanged now
      else recorded) ()

/-- False when `incidentId` is not the open incident: it was resolved before. -/
def resolveIncident (run : Run) (incidentId : Uuid) (actor : RunActor) (now : Instant) :
    Reply Run RunRefusal Bool :=
  match run.openIncident with
  | none => .answer run false
  | some incident =>
    if incident.id ≠ incidentId then .answer run false
    else done (run.resolve incident actor false now)

def feedLostFor (s : RunSnapshot) (seconds : ℤ) (now : Instant) : Bool :=
  s.state = .onAir && s.publisherOnlineSince.isNone && s.publisherLostAt.any fun lostAt =>
    !RunRules.isAfter (RunRules.plusSeconds lostAt seconds) now

/-- A loss on air the grace did not absorb. -/
def declarePublisherGone (run : Run) (now : Instant) : Reply Run RunRefusal Bool :=
  if run.current.afterGracePeriod || !feedLostFor run.current RunRules.publisherGraceSeconds now then
    .answer run false
  else
    let gone := { run with current := { run.current with afterGracePeriod := true } }
    .answer (gone.applyStateChanged now) true

/-- The automatic hold screen of a lost feed; never inside the grace. -/
def raiseHoldScreenIfFeedLost (run : Run) (incidentId : Uuid) (now : Instant) :
    Reply Run RunRefusal Bool :=
  if run.openIncident.isSome ||
      !feedLostFor run.current RunRules.holdScreenAutoAfterSecondsDefault now then .answer run false
  else done (run.raiseAutomatic incidentId .venueFeedLost now)

/-- False on an ended run or with an incident open. -/
def raiseWorkerFailure (run : Run) (incidentId : Uuid) (now : Instant) :
    Reply Run RunRefusal Bool :=
  if run.current.state = .ended ∨ run.openIncident.isSome then .answer run false
  else done (run.raiseAutomatic incidentId .compatibilityWorkerFailed now)

/-- The publisher is back, its presence already written: the automatic hold screen of a lost feed
lifts itself, one raised by hand stays. -/
def publisherBack (run : Run) (wasAfterGracePeriod : Bool) (now : Instant) :
    Reply Run RunRefusal Unit :=
  match run.openIncident with
  | some incident =>
    if RunRules.holdScreenLiftsOnFeedReturn incident.kind incident.cause incident.trigger then
      run.resolve incident systemActor wasAfterGracePeriod now
    else if wasAfterGracePeriod then .answer (run.applyStateChanged now) ()
    else .answer run ()
  | none =>
    if wasAfterGracePeriod then .answer (run.applyStateChanged now) () else .answer run ()

end Run

end Arthome.Streaming
