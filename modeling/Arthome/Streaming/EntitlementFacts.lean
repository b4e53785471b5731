import Arthome.Core.ReplayRules
import Arthome.Core.RunRules
import Arthome.Core.WatchRules
import Arthome.Library.Table
import Arthome.Messaging.Claims

/-!
# What streaming keeps of a date and of its seats

Catalog states facts about a date, ticketing about its seats, and streaming keeps one
row per date and one per seat. The columns of a date's row come in groups, each
written under its own guard: the instant of the group for the timing, the replay and
the rights, catalog's version for the publication, the instant and the finality for
the outcome. A seat's row is never written over by an activation and always ended by a
cancellation. Each message is one transaction, claimed by its id.
-/

namespace Arthome.Streaming

open Arthome.Core Arthome.Library Arthome.Messaging

structure ReplayFacts where
  policy : ReplayPolicy
  windowHours : ℤ
  deriving Repr, DecidableEq

/-- `scope` is none when this build does not know it. -/
structure RightsFacts where
  scope : Option RightsScope
  blackoutCountries : List String
  reason : Option BlackoutReason
  deriving Repr, DecidableEq

/-- What catalog says about a date. -/
inductive DateFact where
  | scheduled (dateId channelId : Uuid) (startsAt : Instant) (runtimeMin : ℤ)
      (replay : ReplayFacts) (rights : RightsFacts) (statedAt : Instant)
  | rescheduled (dateId : Uuid) (startsAt statedAt : Instant)
  | replayPolicySet (dateId : Uuid) (replay : ReplayFacts) (statedAt : Instant)
  | rightsChanged (dateId : Uuid) (rights : RightsFacts) (statedAt : Instant)
  | publicationStateChanged (dateId channelId : Uuid) (state : Option PublicationState)
      (version : ℤ) (statedAt : Instant)
  | outcomeDeclared (dateId channelId : Uuid) (outcome : DateOutcome) (statedAt : Instant)
  deriving Repr, DecidableEq

def DateFact.dateId : DateFact → Uuid
  | .scheduled dateId _ _ _ _ _ _ => dateId
  | .rescheduled dateId _ _ => dateId
  | .replayPolicySet dateId _ _ => dateId
  | .rightsChanged dateId _ _ => dateId
  | .publicationStateChanged dateId _ _ _ _ => dateId
  | .outcomeDeclared dateId _ _ _ => dateId

/-- What ticketing says about a seat; a cancellation may state the seat alone. -/
inductive SeatMessageFact where
  | activated (seatId accountId dateId : Uuid) (statedAt : Instant)
  | cancelled (seatId accountId dateId : Uuid) (statedAt : Instant)
  | cancelledKeptRow (seatId : Uuid) (statedAt : Option Instant)
  deriving Repr, DecidableEq

def SeatMessageFact.seatId : SeatMessageFact → Uuid
  | .activated seatId _ _ _ => seatId
  | .cancelled seatId _ _ _ => seatId
  | .cancelledKeptRow seatId _ => seatId

/-- A row of `entitlement_date`, its columns null until a fact carries them. -/
structure EntitlementDate where
  dateId : Uuid
  channelId : Option Uuid
  startsAt : Option Instant
  runtimeMin : Option ℤ
  timingOccurredAt : Option Instant
  replayPolicy : Option ReplayPolicy
  replayWindowHours : Option ℤ
  replayOccurredAt : Option Instant
  rightsScope : Option RightsScope
  blackoutCountries : Option (List String)
  blackoutReason : Option BlackoutReason
  rightsOccurredAt : Option Instant
  publicationState : Option PublicationState
  publicationVersion : Option ℤ
  outcome : Option DateOutcome
  outcomeDeclaredAt : Option Instant
  appliedAt : Instant
  deriving Repr, DecidableEq

/-- A row of `entitlement_seat`. -/
structure EntitlementSeat where
  seatId : Uuid
  accountId : Uuid
  dateId : Uuid
  state : SeatState
  occurredAt : Instant
  appliedAt : Instant
  deriving Repr, DecidableEq

/-! ## The statements on a date's row -/

/-- The row as an insertion makes it before its own columns are set. -/
def EntitlementDate.inserted (dateId : Uuid) (appliedAt : Instant) : EntitlementDate where
  dateId := dateId
  channelId := none
  startsAt := none
  runtimeMin := none
  timingOccurredAt := none
  replayPolicy := none
  replayWindowHours := none
  replayOccurredAt := none
  rightsScope := none
  blackoutCountries := none
  blackoutReason := none
  rightsOccurredAt := none
  publicationState := none
  publicationVersion := none
  outcome := none
  outcomeDeclaredAt := none
  appliedAt := appliedAt

/-- `kept IS NULL OR excluded >= kept`. -/
def newerOrSame (kept : Option Instant) (excluded : Instant) : Bool :=
  kept.all fun kept => decide (kept ≤ excluded)

/-- One group of the row, written only when its guard holds; no row back is superseded. -/
def groupUpsert (set : EntitlementDate → EntitlementDate) (guard : EntitlementDate → Bool)
    (dateId : Uuid) (appliedAt : Instant) (kept : Option EntitlementDate) :
    Option EntitlementDate :=
  match kept with
  | none => some (set (.inserted dateId appliedAt))
  | some kept => if guard kept then some { set kept with appliedAt } else none

/-- The start yields to a newer reschedule; the runtime is taken whenever none is kept. -/
def scheduleTiming (channelId : Uuid) (startsAt : Instant) (runtimeMin : ℤ) (statedAt : Instant) :
    Uuid → Instant → Option EntitlementDate → Option EntitlementDate :=
  groupUpsert
    (fun kept =>
      { kept with
        channelId := some channelId
        startsAt :=
          if newerOrSame kept.timingOccurredAt statedAt then some startsAt else kept.startsAt
        runtimeMin := some runtimeMin
        timingOccurredAt := some (kept.timingOccurredAt.elim statedAt (max statedAt)) })
    fun kept => kept.runtimeMin.isNone || newerOrSame kept.timingOccurredAt statedAt

def rescheduleTiming (startsAt statedAt : Instant) :
    Uuid → Instant → Option EntitlementDate → Option EntitlementDate :=
  groupUpsert
    (fun kept => { kept with startsAt := some startsAt, timingOccurredAt := some statedAt })
    fun kept => newerOrSame kept.timingOccurredAt statedAt

def setReplay (replay : ReplayFacts) (statedAt : Instant) :
    Uuid → Instant → Option EntitlementDate → Option EntitlementDate :=
  groupUpsert
    (fun kept =>
      { kept with
        replayPolicy := some replay.policy
        replayWindowHours := some replay.windowHours
        replayOccurredAt := some statedAt })
    fun kept => newerOrSame kept.replayOccurredAt statedAt

def setRights (rights : RightsFacts) (statedAt : Instant) :
    Uuid → Instant → Option EntitlementDate → Option EntitlementDate :=
  groupUpsert
    (fun kept =>
      { kept with
        rightsScope := rights.scope
        blackoutCountries := some rights.blackoutCountries
        blackoutReason := rights.reason
        rightsOccurredAt := some statedAt })
    fun kept => newerOrSame kept.rightsOccurredAt statedAt

def setPublication (channelId : Uuid) (state : Option PublicationState) (version : ℤ) :
    Uuid → Instant → Option EntitlementDate → Option EntitlementDate :=
  groupUpsert
    (fun kept =>
      { kept with
        channelId := some channelId
        publicationState := state
        publicationVersion := some version })
    fun kept => kept.publicationVersion.all fun kept => decide (kept < version)

/-- Catalog refuses any outcome after a cancellation or an interruption: so does the guard,
whatever the instants. -/
def declareOutcome (channelId : Uuid) (outcome : DateOutcome) (declaredAt : Instant) :
    Uuid → Instant → Option EntitlementDate → Option EntitlementDate :=
  groupUpsert
    (fun kept =>
      { kept with
        channelId := some channelId
        outcome := some outcome
        outcomeDeclaredAt := some declaredAt })
    fun kept =>
      newerOrSame kept.outcomeDeclaredAt declaredAt &&
        decide (kept.outcome ≠ some .cancelled) && decide (kept.outcome ≠ some .interrupted)

/-- The row a statement leaves, and whether it wrote it. -/
def writerOn (statement : Option EntitlementDate → Option EntitlementDate)
    (kept : Option EntitlementDate) : Option EntitlementDate × Bool :=
  match statement kept with
  | some written => (some written, true)
  | none => (kept, false)

/-- The date's row as a fact leaves it, and whether the fact wrote any group of it. -/
def DateFact.applied (fact : DateFact) (appliedAt : Instant) (kept : Option EntitlementDate) :
    Option EntitlementDate × Bool :=
  match fact with
  | .scheduled dateId channelId startsAt runtimeMin replay rights statedAt =>
    let timing :=
      writerOn (scheduleTiming channelId startsAt runtimeMin statedAt dateId appliedAt) kept
    let replay := writerOn (setReplay replay statedAt dateId appliedAt) timing.1
    let rights := writerOn (setRights rights statedAt dateId appliedAt) replay.1
    (rights.1, timing.2 || replay.2 || rights.2)
  | .rescheduled dateId startsAt statedAt =>
    writerOn (rescheduleTiming startsAt statedAt dateId appliedAt) kept
  | .replayPolicySet dateId replay statedAt =>
    writerOn (setReplay replay statedAt dateId appliedAt) kept
  | .rightsChanged dateId rights statedAt =>
    writerOn (setRights rights statedAt dateId appliedAt) kept
  | .publicationStateChanged dateId channelId state version _ =>
    writerOn (setPublication channelId state version dateId appliedAt) kept
  | .outcomeDeclared dateId channelId outcome statedAt =>
    writerOn (declareOutcome channelId outcome statedAt dateId appliedAt) kept

/-! ## The statements on a seat's row -/

/-- An activation never writes over a row. -/
def activateSeat (seatId accountId dateId : Uuid) (statedAt appliedAt : Instant) :
    Option EntitlementSeat → Option EntitlementSeat
  | none => some ⟨seatId, accountId, dateId, .active, statedAt, appliedAt⟩
  | some _ => none

/-- A cancellation ends the row, or is the row. -/
def cancelSeat (seatId accountId dateId : Uuid) (statedAt appliedAt : Instant) :
    Option EntitlementSeat → Option EntitlementSeat
  | none => some ⟨seatId, accountId, dateId, .cancelled, statedAt, appliedAt⟩
  | some kept =>
    if kept.state = .active then
      some { kept with state := .cancelled, occurredAt := statedAt, appliedAt }
    else none

/-- The kept row ended by its seat alone. -/
def cancelKeptSeat (statedAt : Option Instant) (appliedAt : Instant) (kept : EntitlementSeat) :
    Option EntitlementSeat :=
  if kept.state = .active then
    some { kept with
      state := .cancelled, occurredAt := statedAt.getD kept.occurredAt, appliedAt }
  else none

/-- What a permanent refusal says. -/
inductive EntitlementRefusal where
  /-- `seat ${seatId} cancelled without an account, none kept` -/
  | noneKept (seatId : Uuid)
  deriving Repr, DecidableEq

/-- The row a fact on a seat writes, none when it is superseded. -/
def SeatMessageFact.written (fact : SeatMessageFact) (appliedAt : Instant)
    (kept : Option EntitlementSeat) : Except EntitlementRefusal (Option EntitlementSeat) :=
  match fact with
  | .activated seatId accountId dateId statedAt =>
    .ok (activateSeat seatId accountId dateId statedAt appliedAt kept)
  | .cancelled seatId accountId dateId statedAt =>
    .ok (cancelSeat seatId accountId dateId statedAt appliedAt kept)
  | .cancelledKeptRow seatId statedAt =>
    match kept with
    | some kept => .ok (cancelKeptSeat statedAt appliedAt kept)
    | none => .error (.noneKept seatId)

/-! ## The handlers -/

/-- The projection's two tables, and the messages claimed. -/
structure EntitlementDb where
  processed : List Uuid
  dates : Table EntitlementDate.dateId
  seats : Table EntitlementSeat.seatId

inductive EntitlementFact where
  | date (fact : DateFact)
  | seat (fact : SeatMessageFact)
  deriving Repr, DecidableEq

/-- A message as it is handled, `appliedAt` being the handler's reading of the clock. -/
structure Delivery where
  messageId : Uuid
  fact : EntitlementFact
  appliedAt : Instant
  deriving Repr, DecidableEq

namespace EntitlementDb

def empty : EntitlementDb := ⟨[], .empty, .empty⟩

def recordDateFact (s : EntitlementDb) (messageId : Uuid) (fact : DateFact) (appliedAt : Instant) :
    EntitlementDb × Outcome :=
  match claimMessage s.processed messageId with
  | none => (s, .duplicate)
  | some processed =>
    let result := fact.applied appliedAt (s.dates.find? fact.dateId)
    ({ s with
        processed
        dates := result.1.elim s.dates s.dates.upsert },
      if result.2 then .applied else .superseded)

def recordSeatFact (s : EntitlementDb) (messageId : Uuid) (fact : SeatMessageFact)
    (appliedAt : Instant) : Except EntitlementRefusal (EntitlementDb × Outcome) :=
  match claimMessage s.processed messageId with
  | none => .ok (s, .duplicate)
  | some processed =>
    match fact.written appliedAt (s.seats.find? fact.seatId) with
    | .error refusal => .error refusal
    | .ok none => .ok ({ s with processed }, .superseded)
    | .ok (some row) => .ok ({ s with processed, seats := s.seats.upsert row }, .applied)

def record (s : EntitlementDb) (delivery : Delivery) :
    Except EntitlementRefusal (EntitlementDb × Outcome) :=
  match delivery.fact with
  | .date fact => .ok (s.recordDateFact delivery.messageId fact delivery.appliedAt)
  | .seat fact => s.recordSeatFact delivery.messageId fact delivery.appliedAt

/-- A refused message leaves the tables as they were. -/
def deliver (s : EntitlementDb) (delivery : Delivery) : EntitlementDb :=
  match s.record delivery with
  | .ok (s', _) => s'
  | .error _ => s

/-- The messages handled one after the other. -/
def run (s : EntitlementDb) (deliveries : List Delivery) : EntitlementDb :=
  deliveries.foldl deliver s

end EntitlementDb

end Arthome.Streaming
