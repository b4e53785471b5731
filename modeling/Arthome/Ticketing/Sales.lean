import Arthome.Ticketing.Database

/-!
# A date's sale, moved

The commands and facts that move a date's row and its waiting list: the catalog's
facts, the studio's prices, tiers and provision, the sweepers that end a sale or a
priority window, an account joining or leaving the list. Each takes the date's row
first.
-/

namespace Arthome.Ticketing

open Arthome.Core Library

/-- A fact about a date, consumed from the catalog. -/
inductive CatalogDateFact where
  | drafted (channelId : Uuid)
  | lock (statedAt : Instant)
  | start (startsAt statedAt : Instant)
  | outcome (outcome : DateOutcome) (statedAt : Instant)
  deriving Repr, DecidableEq

variable [SalesRules]

omit [SalesRules] in
def findSales (db : Db) (dateId : Uuid) : Except Refusal DateSalesSnapshot :=
  orRefuse (db.sales.find? dateId) .notFound

/-- What a fact makes of the date; nothing when a newer one of its kind was applied first. -/
def applied (sales : DateSalesSnapshot) (now : Instant) : CatalogDateFact → Option DateSalesSnapshot
  | .drafted _ => none
  | .lock statedAt => DateSales.lockPrices sales statedAt
  | .start startsAt statedAt => DateSales.recordSchedule sales startsAt statedAt now
  | .outcome outcome statedAt => DateSales.recordOutcome sales outcome statedAt

/-- The date's active seats that a start would move: none against a newer start. -/
def isMovedSeat (deadline : Instant) (seat : SeatSnapshot) : Bool :=
  seat.state = .active && seat.cancelDeadline ≠ some deadline

def movedDeadlines (deadline : Instant) (seats : List SeatSnapshot) : List SeatSnapshot :=
  seats.map fun seat =>
    if isMovedSeat deadline seat then { seat with cancelDeadline := some deadline } else seat

/-- The date's active seats follow a start that moved; how many did. -/
def moveSeatCancelDeadlines (db : Db) (dateId : Uuid) (startsAt statedAt : Instant) : Db × ℕ :=
  let deadline := SalesRules.seatCancelDeadline startsAt
  if (db.sales.find? dateId).any fun sales =>
      sales.scheduleStatedAt.any fun scheduleStatedAt => statedAt < scheduleStatedAt then (db, 0)
  else
    ({ db with
      orders := db.orders.update
        (fun record =>
          if record.order.dateId = dateId then
            { record with order := { record.order with
                seats := movedDeadlines deadline record.order.seats } }
          else record)
        fun record => by
          split
          · rfl
          · rfl },
      ((db.orders.rows.filter fun record => record.order.dateId = dateId).map fun record =>
        record.order.seats.countP (isMovedSeat deadline)).sum)

omit [SalesRules] in
/-- A cancellation or an interruption to settle, once. -/
def recordOutcomeToSettle (db : Db) (dateId : Uuid) (outcome : DateOutcome) (recordedAt : Instant) :
    Db :=
  match db.settlements.insert
      { dateId
        outcome
        recordedAt
        waitlistEndedAt := none
        decidedAt := none
        settledAt := none
        failedAt := none } with
  | none => db
  | some settlements => { db with settlements }

omit [SalesRules] in
/-- A date already open is left: a second draft. -/
def draftedIn (db : Db) (dateId channelId : Uuid) : Except Refusal Db :=
  if (db.sales.find? dateId).isSome then return db
  else db.insertSales (DateSales.opened dateId channelId)

/-- A later fact. A start moves the seats' deadlines before the date's row is locked; found stale
under the lock after moving some, it rolls them back. -/
def movedIn (db : Db) (dateId : Uuid) (fact : CatalogDateFact) (now : Instant) :
    Except Refusal Db := do
  let (moved, seatsMoved) := match fact with
    | .start startsAt statedAt => moveSeatCancelDeadlines db dateId startsAt statedAt
    | _ => (db, 0)
  let sales ← findSales moved dateId
  match applied sales now fact with
  | none => do
    require (seatsMoved = 0) (.error s!"the start of date {dateId} was overtaken")
    return moved
  | some current => do
    let saved ← moved.saveSales sales current
    match fact with
    | .outcome outcome _ =>
      if outcome ∈ outcomesClosingSales then
        return recordOutcomeToSettle saved dateId outcome now
      else return saved
    | _ => return saved

def applyCatalogDateFact (db : Db) (dateId : Uuid) (fact : CatalogDateFact) (now : Instant) :
    Except Refusal Db :=
  match fact with
  | .drafted channelId => draftedIn db dateId channelId
  | fact => movedIn db dateId fact now

/-- A due window's end: the pool's rest on public sale, each notified entry converted, or else
lapsed, or closed on a date an outcome ended. -/
def endDuePriorityWindow (db : Db) (dateId : Uuid) (now : Instant) : Except Refusal (Db × Bool) :=
  match (db.sales.find? dateId).filter fun sales =>
      sales.priorityUntil.any fun priorityUntil => priorityUntil ≤ now with
  | none => return (db, false)
  | some claimed => do
    let otherwise : WaitlistEntryState :=
      if claimed.outcome.any SalesRules.outcomeEndsWaitlist then .closed else .lapsed
    let (ended, entriesEnded) ← db.endNotified dateId otherwise now
    let db ← ended.endPriorityWindow dateId entriesEnded
    return (db, true)

structure OpenCapacityTierBody where
  expectedVersion : ℕ
  additionalCapacity : ℤ
  notifyWaitlist : Bool
  deriving Repr, DecidableEq

/-- A tier opened, a window due ended first; the list is told when the tier is its own. -/
def openIn (db : Db) (dateId : Uuid) (body : OpenCapacityTierBody) (tierId : Uuid) (now : Instant) :
    Except Refusal Db := do
  let (db, _) ← endDuePriorityWindow db dateId now
  let sales ← findSales db dateId
  let (current, priorityUntil) ← DateSales.openCapacityTier sales body.expectedVersion
    body.additionalCapacity body.notifyWaitlist tierId now
  let db ← db.saveSales sales current
  match priorityUntil with
  | none => return db
  | some _ => db.notifyAll dateId now

/-- A sale past its end by time, closed. -/
def closeEndedSale (db : Db) (dateId : Uuid) (now : Instant) : Except Refusal Db :=
  match (db.sales.find? dateId).bind fun sales =>
      (DateSales.endSales sales now).map fun ended => (sales, ended) with
  | none => return db
  | some (sales, ended) => db.saveSales sales ended

omit [SalesRules] in
/-- The aggregate moved by one of the studio's commands. -/
def commandIn (db : Db) (dateId : Uuid)
    (command : DateSalesSnapshot → Except Refusal DateSalesSnapshot) : Except Refusal Db := do
  let sales ← findSales db dateId
  let current ← command sales
  db.saveSales sales current

def setPricesIn (db : Db) (dateId : Uuid) (expectedVersion : ℕ) (tiers : List TierPrice) :
    Except Refusal Db :=
  commandIn db dateId fun sales => DateSales.setPrices sales expectedVersion tiers

def setTechnicalProvisionIn (db : Db) (dateId : Uuid) (expectedVersion : ℕ)
    (provisionedCapacity : ℤ) (now : Instant) : Except Refusal Db :=
  commandIn db dateId fun sales =>
    DateSales.setTechnicalProvision sales expectedVersion provisionedCapacity now

/-- An account joins a sold-out date's list, unless it is on it already. -/
def joinIn (db : Db) (dateId accountId entryId : Uuid) (now : Instant) : Except Refusal Db := do
  let sales ← findSales db dateId
  require (sales.pricesLockedAt.isSome = true) .notFound
  let salesEndAt ← orRefuse sales.salesEndAt .notFound
  match db.findByAccount dateId accountId with
  | some entry =>
    if WaitlistEntry.isOnList entry then return db
    else do
      SalesRules.assertWaitlistJoinable ⟨sales.seatsAvailable, salesEndAt, sales.outcome, now⟩
      let entry ← WaitlistEntry.rejoin entry sales.priorityUntil now
      orRefuse ((db.saveEntry entry).moveWaitlistCount dateId 1) (.error "waitlist count")
  | none => do
    SalesRules.assertWaitlistJoinable ⟨sales.seatsAvailable, salesEndAt, sales.outcome, now⟩
    let db ← db.insertEntry
      (WaitlistEntry.join entryId dateId accountId sales.priorityUntil now)
    orRefuse (db.moveWaitlistCount dateId 1) (.error "waitlist count")

def leaveIn (db : Db) (dateId accountId : Uuid) (now : Instant) : Except Refusal Db := do
  let _ ← findSales db dateId
  match db.findByAccount dateId accountId with
  | none => return db
  | some entry => do
    match ← WaitlistEntry.leave entry now with
    | none => return db
    | some entry =>
      orRefuse ((db.saveEntry entry).moveWaitlistCount dateId (-1)) (.error "waitlist count")

end Arthome.Ticketing
