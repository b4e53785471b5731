import Arthome.Core.AvailabilityRules
import Arthome.Ticketing.Movements
import Arthome.Ticketing.SaleRuns

/-!
# What the availability publisher reads and writes

A write that moves what a date offers counts one more on `availability_moves`, and
a closing flags the date's publication. A pass reads its candidates without a lock,
then takes each through its publication's row: the figures are read and the
decision taken again under that lock, which is held until the publication commits.
A closing writes the same row, so it waits for a publication under way; no other
write of the date does.

A date's rows are one record here, with the publication under way and what happened
to the date, the latest first: its publications, whose rows the outbox keeps, and
its closings.
-/

namespace Arthome.Ticketing

open Arthome.Core Library

/-! ## The figures -/

structure AvailabilityFigures where
  seatsAvailable : ℤ
  waitlistCount : ℤ
  fillRateBps : ℤ
  soldOut : Bool
  /-- The headline price; nothing while no tier is active. -/
  lowestPrice : Option Money
  deriving Repr, DecidableEq

/-- The held seats are what is left once sold, public and pool seats are taken. -/
def gaugeOf (row : DateSalesSnapshot) : Gauge where
  capacityTotal := row.capacityTotal
  seatsSold := row.seatsSold
  seatsHeld := row.capacityTotal - row.seatsSold - row.seatsAvailable - row.priorityPoolSeats
  waitlistCount := row.waitlistCount
  priorityPoolSeats := row.priorityPoolSeats

section Figures

variable [AvailabilityRules]

def availabilityFiguresOf (row : DateSalesSnapshot) : AvailabilityFigures where
  seatsAvailable := AvailabilityRules.seatsAvailable (gaugeOf row)
  waitlistCount := row.waitlistCount
  fillRateBps := AvailabilityRules.fillRateBps (gaugeOf row)
  soldOut := !AvailabilityRules.offersSeats (gaugeOf row)
  lowestPrice := AvailabilityRules.lowestActivePrice row.priceTiers

/-- A closed sale offers no seat, and is not sold out either. -/
def offeredFiguresOf (row : DateSalesSnapshot) : AvailabilityFigures :=
  if DateSales.isOnSale row then availabilityFiguresOf row
  else { availabilityFiguresOf row with seatsAvailable := 0, soldOut := false }

end Figures

/-! ## What a write counts -/

/-- The events of a date's sale, as far as its availability reads them. -/
inductive DateSalesEvent where
  | dateSalesOpened
  | datePricesSet
  | datePricesLocked
  | capacityTierOpened
  | technicalProvisionSet
  | dateScheduleRecorded
  | dateOutcomeRecorded (salesClosed : Bool)
  | dateSalesEnded
  | dateSalesReopened
  | seatsHeld
  | priorityWindowOpened
  deriving Repr, DecidableEq

namespace DateSalesEvent

/-- Whether the event moves what is published: a seat count, a price, or the sale closing. -/
def movesAvailability : DateSalesEvent → Bool
  | .datePricesSet | .datePricesLocked | .capacityTierOpened => true
  | .dateOutcomeRecorded salesClosed => salesClosed
  | .dateSalesEnded | .dateSalesReopened => true
  | .dateSalesOpened | .dateScheduleRecorded | .technicalProvisionSet | .seatsHeld
  | .priorityWindowOpened => false

def closesSale : DateSalesEvent → Bool
  | .dateOutcomeRecorded salesClosed => salesClosed
  | .dateSalesEnded => true
  | _ => false

end DateSalesEvent

/-- The events an operation that was performed applies. -/
def SaleOperation.events [SalesRules] (sales : DateSalesSnapshot) (now : Instant) :
    SaleOperation → List DateSalesEvent
  | .lockPrices _ => [.datePricesLocked]
  | .recordSchedule startsAt _ =>
      if DateSales.closedByTime sales && SalesRules.isBefore now (SalesRules.seatSalesEndAt startsAt)
      then [.dateScheduleRecorded, .dateSalesReopened] else [.dateScheduleRecorded]
  | .recordOutcome outcome _ => [.dateOutcomeRecorded (outcome ∈ outcomesClosingSales)]
  | .endSales => [.dateSalesEnded]
  | .holdSeats _ => [.seatsHeld]
  | .setPrices _ _ => [.datePricesSet]
  | .openCapacityTier _ _ notifyWaitlist _ =>
      if notifyWaitlist && 0 < sales.waitlistCount then [.capacityTierOpened, .priorityWindowOpened]
      else [.capacityTierOpened]
  | .setTechnicalProvision _ _ => [.technicalProvisionSet]

/-- A hold is decided on a row read without its lock, and never saved. -/
def SaleOperation.isSaved : SaleOperation → Bool
  | .holdSeats _ => false
  | _ => true

/-- A statement on a date's counters, which counts its own move. -/
inductive CounterStatement where
  | takeSeats (quantity : ℕ)
  | takeSeatsFromPool (quantity : ℕ)
  | sellHeldSeats (quantity : ℕ)
  | returnHeldSeats (quantity poolSeats : ℤ)
  | releaseSoldSeats (quantity : ℕ)
  | takeAndSellSeats (quantity : ℕ) (fromPool : Bool)
  | moveWaitlistCount (delta : ℤ)
  | endPriorityWindow (entriesEnded : ℕ)
  | closeWaitlist
  deriving Repr, DecidableEq

namespace CounterStatement

def openPool (row : DateSalesSnapshot) (now : Instant) (fromPool : Bool) : ℤ :=
  if fromPool then Db.openPoolAt row now else 0

def takes (row : DateSalesSnapshot) (now : Instant) (quantity : ℕ) (fromPool : Bool) : Bool :=
  DateSales.isOnSale row && quantity ≤ row.seatsAvailable + openPool row now fromPool &&
    Db.beforeSalesEnd row now

/-- The statement's condition on the date's row. -/
def admits (row : DateSalesSnapshot) (now : Instant) : CounterStatement → Bool
  | .takeSeats quantity => takes row now quantity false
  | .takeSeatsFromPool quantity => takes row now quantity true
  | .takeAndSellSeats quantity fromPool => takes row now quantity fromPool
  | .sellHeldSeats _ | .returnHeldSeats _ _ => true
  | .releaseSoldSeats quantity => quantity ≤ row.seatsSold && row.outcome ≠ some .cancelled
  | .moveWaitlistCount delta => 0 ≤ row.waitlistCount + delta
  | .endPriorityWindow _ => row.priorityUntil.isSome
  | .closeWaitlist => row.priorityUntil.isSome || row.waitlistCount ≠ 0

/-- What the statement makes of the row. -/
def set (row : DateSalesSnapshot) (now : Instant) : CounterStatement → DateSalesSnapshot
  | .takeSeats quantity => { row with seatsAvailable := row.seatsAvailable - quantity }
  | .takeSeatsFromPool quantity => Db.takenFromPool row (openPool row now true) quantity
  | .sellHeldSeats quantity => { row with seatsSold := row.seatsSold + quantity }
  | .returnHeldSeats quantity poolSeats => Db.returned row quantity poolSeats now
  | .releaseSoldSeats quantity =>
      { row with
        seatsAvailable := row.seatsAvailable + quantity
        seatsSold := row.seatsSold - quantity }
  | .takeAndSellSeats quantity fromPool =>
      { Db.takenFromPool row (openPool row now fromPool) quantity with
        seatsSold := row.seatsSold + quantity }
  | .moveWaitlistCount delta => { row with waitlistCount := row.waitlistCount + delta }
  | .endPriorityWindow entriesEnded =>
      { row with
        seatsAvailable := row.seatsAvailable + row.priorityPoolSeats
        priorityPoolSeats := 0
        priorityUntil := none
        waitlistCount := row.waitlistCount - entriesEnded }
  | .closeWaitlist =>
      { row with
        seatsAvailable := row.seatsAvailable + row.priorityPoolSeats
        priorityPoolSeats := 0
        priorityUntil := none
        waitlistCount := 0 }

/-- The row updated; nothing when the statement affects no row. -/
def run (row : DateSalesSnapshot) (now : Instant) (statement : CounterStatement) :
    Option DateSalesSnapshot :=
  if statement.admits row now then some (statement.set row now) else none

end CounterStatement

section Statements

variable (db : Db) (dateId : Uuid) (now : Instant)

/-- A statement on the counters, on its date's row. -/
def Db.runStatement (statement : CounterStatement) : Option Db :=
  db.updateSales dateId (fun row => statement.admits row now) fun row => statement.set row now

theorem takeSeats_eq (quantity : ℕ) :
    db.takeSeats dateId quantity now = db.runStatement dateId now (.takeSeats quantity) := by
  unfold Db.takeSeats Db.runStatement
  simp only [CounterStatement.admits, CounterStatement.takes, CounterStatement.openPool,
    Bool.false_eq_true, if_false, add_zero, CounterStatement.set]

theorem sellHeldSeats_eq_statement (quantity : ℕ) : db.sellHeldSeats dateId quantity =
    (db.runStatement dateId now (.sellHeldSeats quantity)).getD db := rfl

theorem returnHeldSeats_eq_statement (quantity poolSeats : ℤ) :
    db.returnHeldSeats dateId quantity poolSeats now =
      (db.runStatement dateId now (.returnHeldSeats quantity poolSeats)).getD db := rfl

theorem releaseSoldSeats_eq (quantity : ℕ) : db.releaseSoldSeats dateId quantity =
    db.runStatement dateId now (.releaseSoldSeats quantity) := rfl

theorem takeAndSellSeats_eq (quantity : ℕ) (fromPool : Bool) :
    db.takeAndSellSeats dateId quantity now fromPool =
      db.runStatement dateId now (.takeAndSellSeats quantity fromPool) := rfl

theorem moveWaitlistCount_eq (delta : ℤ) : db.moveWaitlistCount dateId delta =
    db.runStatement dateId now (.moveWaitlistCount delta) := rfl

theorem closeWaitlist_eq : db.closeWaitlist dateId =
    (db.runStatement dateId now .closeWaitlist).getD db := rfl

variable {db dateId now} {db' : Db}

theorem endPriorityWindow_eq {entriesEnded : ℕ}
    (h : db.endPriorityWindow dateId entriesEnded = .ok db') :
    db' = (db.runStatement dateId now (.endPriorityWindow entriesEnded)).getD db := by
  unfold Db.endPriorityWindow at h
  simp only [bind_ok_iff, pure_ok_iff] at h
  obtain ⟨_, -, rfl⟩ := h
  rfl

/-- The pool's statement writes the hold too. -/
theorem takeSeatsFromPool_sales {holdId : Uuid} {quantity : ℕ}
    (h : db.takeSeatsFromPool dateId holdId quantity now = some db') :
    (db.runStatement dateId now (.takeSeatsFromPool quantity)).map Db.sales = some db'.sales := by
  unfold Db.takeSeatsFromPool at h
  split at h
  · rename_i row hold hrow _
    simp only at h
    split_ifs at h with htakes
    obtain rfl := Option.some.inj h
    have hadmits : (CounterStatement.takeSeatsFromPool quantity).admits row now = true := htakes
    unfold Db.runStatement Db.updateSales
    simp only [hrow, if_pos hadmits]
    rfl
  · cases h

end Statements

/-! ## A date's rows -/

/-- What was published of a date; only a publisher and a closing lock it. -/
structure DateAvailabilityPublication where
  /-- `availability_moves` as the publication read it. -/
  publishedMoves : ℕ
  publishedAt : Option Instant
  publishedSoldOut : Option Bool
  failedAt : Option Instant
  /-- Set when the sale closes, cleared by its last publication. -/
  closingDue : Bool
  deriving Repr, DecidableEq

/-- The figures as they stood when they were read. -/
structure AvailabilityChanged where
  figures : AvailabilityFigures
  occurredAt : Instant
  deriving Repr, DecidableEq

/-- What a publication under way has read. -/
structure Reading where
  moves : ℕ
  change : AvailabilityChanged
  deriving Repr, DecidableEq

inductive Happening where
  | closed
  | published (change : AvailabilityChanged)
  deriving Repr, DecidableEq

structure OfferedDate where
  sales : DateSalesSnapshot
  availabilityMoves : ℕ
  publication : DateAvailabilityPublication
  underWay : Option Reading
  happened : List Happening
  deriving Repr, DecidableEq

namespace OfferedDate

def dateId (date : OfferedDate) : Uuid := date.sales.dateId

/-- The publications of a date, the latest first. -/
def publications (date : OfferedDate) : List AvailabilityChanged :=
  date.happened.filterMap fun
    | .published change => some change
    | .closed => none

def lastPublished (date : OfferedDate) : Option AvailabilityChanged := date.publications.head?

/-- The sale has closed since its last publication. -/
def closingUnpublished (date : OfferedDate) : Bool := date.happened.head? = some .closed

/-- A date as it opens, its publication's row with it. -/
def opened (dateId channelId : Uuid) : OfferedDate where
  sales := DateSales.opened dateId channelId
  availabilityMoves := 0
  publication :=
    { publishedMoves := 0
      publishedAt := none
      publishedSoldOut := none
      failedAt := none
      closingDue := false }
  underWay := none
  happened := []

/-- One move at most for all the events of a save, and the flag of a closing among them. -/
def recordAvailabilityMoves (date : OfferedDate) (events : List DateSalesEvent) : OfferedDate :=
  let moved := if events.any DateSalesEvent.movesAvailability then
      { date with availabilityMoves := date.availabilityMoves + 1 }
    else date
  if events.any DateSalesEvent.closesSale then
    { moved with
      publication := { moved.publication with closingDue := true }
      happened := .closed :: moved.happened }
  else moved

end OfferedDate

/-- A write of a date: a statement on its counters, or its aggregate saved. -/
inductive DateWrite where
  | count (statement : CounterStatement)
  | save (op : SaleOperation)
  deriving Repr, DecidableEq

/-- The date's rows written; a closing waits for a publication under way. -/
def DateWrite.run [SalesRules] (date : OfferedDate) (now : Instant) :
    DateWrite → Option OfferedDate
  | .count statement => (statement.run date.sales now).map fun sales =>
      { date with sales, availabilityMoves := date.availabilityMoves + 1 }
  | .save op =>
      if op.isSaved then
        (op.perform date.sales now).bind fun sales =>
          let events := op.events date.sales now
          if date.underWay.isSome && events.any DateSalesEvent.closesSale then none
          else some (OfferedDate.recordAvailabilityMoves { date with sales } events)
      else none

/-! ## The publisher -/

/-- Dates a pass looks at. -/
def availabilityPublishBatch : ℕ := 100

/-- How long a date whose publication failed waits before it is tried again. -/
def availabilityPublishRetrySeconds : ℤ := 10

/-- Ascending, nulls first. -/
def nullsFirst : Option Instant → Option Instant → Bool
  | none, _ => true
  | some _, none => false
  | some a, some b => decide (a ≤ b)

section Publisher

variable [AvailabilityRules]

def quietSince (now : Instant) : Instant :=
  now - AvailabilityRules.publishMinIntervalSeconds * 1000

omit [AvailabilityRules] in
def retrySince (now : Instant) : Instant := now - availabilityPublishRetrySeconds * 1000

namespace OfferedDate

/-- A candidate of a pass at `now`: among the sales on sale and the closings not yet published. -/
def isDue (date : OfferedDate) (now : Instant) : Bool :=
  (DateSales.isOnSale date.sales || date.publication.closingDue) &&
    date.sales.pricesLockedAt.isSome &&
    decide (date.publication.publishedMoves < date.availabilityMoves) &&
    (date.publication.failedAt.all fun failedAt => decide (failedAt ≤ retrySince now)) &&
    ((date.publication.publishedAt.all fun publishedAt => decide (publishedAt ≤ quietSince now)) ||
      some (DateSales.isOnSale date.sales && date.sales.seatsAvailable = 0) ≠
        date.publication.publishedSoldOut)

/-- The publisher takes the publication's row, unless another holds it, reads the figures as
committed, and decides again. -/
def claim (date : OfferedDate) (now : Instant) : Option OfferedDate :=
  if date.underWay.isSome then none
  else
    let figures := offeredFiguresOf date.sales
    let due := decide (date.publication.publishedMoves < date.availabilityMoves) &&
      ((date.publication.publishedAt.all fun publishedAt =>
          decide (publishedAt ≤ quietSince now)) ||
        date.publication.publishedSoldOut ≠ some figures.soldOut)
    if due then some { date with underWay := some ⟨date.availabilityMoves, ⟨figures, now⟩⟩ }
    else none

omit [AvailabilityRules] in
/-- The publication of what was read. -/
def commit (date : OfferedDate) : Option OfferedDate :=
  date.underWay.map fun reading =>
    { date with
      publication :=
        { publishedMoves := reading.moves
          publishedAt := some reading.change.occurredAt
          publishedSoldOut := some reading.change.figures.soldOut
          failedAt := none
          closingDue := false }
      underWay := none
      happened := .published reading.change :: date.happened }

omit [AvailabilityRules] in
/-- A publication under way rolled back. -/
def rollBack (date : OfferedDate) : Option OfferedDate :=
  date.underWay.map fun _ => { date with underWay := none }

omit [AvailabilityRules] in
/-- A date whose publication failed, set aside for the retry delay. -/
def setAside (date : OfferedDate) (now : Instant) : Option OfferedDate :=
  if date.underWay.isSome then none
  else some { date with publication := { date.publication with failedAt := some now } }

omit [AvailabilityRules] in
/-- Whether a date comes no later than another in a pass: failed publications last, and of two the
one published longer ago first. -/
def comesNoLater (date other : OfferedDate) : Bool :=
  if date.publication.failedAt = other.publication.failedAt then
    nullsFirst date.publication.publishedAt other.publication.publishedAt
  else nullsFirst date.publication.failedAt other.publication.failedAt

end OfferedDate

/-- The dates due, in the order a pass takes them. -/
def dueDates (dates : Table OfferedDate.dateId) (now : Instant) : List OfferedDate :=
  (dates.rows.filter fun date => date.isDue now).mergeSort OfferedDate.comesNoLater

/-- The dates a pass looks at. -/
def candidates (dates : Table OfferedDate.dateId) (now : Instant) : List OfferedDate :=
  (dueDates dates now).take availabilityPublishBatch

/-! ## Steps -/

/-- A transaction on one date, a publication's in the three it can end in. -/
inductive AvailabilityAction where
  | opened (dateId channelId : Uuid)
  | write (dateId : Uuid) (written : DateWrite) (now : Instant)
  | claim (dateId : Uuid) (now : Instant)
  | commit (dateId : Uuid)
  | rollBack (dateId : Uuid)
  | setAside (dateId : Uuid) (now : Instant)
  deriving Repr, DecidableEq

namespace AvailabilityAction

omit [AvailabilityRules] in
def dateId : AvailabilityAction → Uuid
  | .opened dateId _ | .write dateId _ _ | .claim dateId _ | .commit dateId | .rollBack dateId
  | .setAside dateId _ => dateId

variable [SalesRules]

/-- What a transaction makes of its date's rows; nothing when it writes nothing. -/
def rewrite (date : OfferedDate) : AvailabilityAction → Option OfferedDate
  | .opened _ _ => none
  | .write _ written now => written.run date now
  | .claim _ now => date.claim now
  | .commit _ => date.commit
  | .rollBack _ => date.rollBack
  | .setAside _ now => date.setAside now

def step (dates : Table OfferedDate.dateId) (action : AvailabilityAction) :
    Option (Table OfferedDate.dateId) :=
  match action with
  | .opened dateId channelId => dates.insert (OfferedDate.opened dateId channelId)
  | action => (dates.find? action.dateId).bind fun date => (action.rewrite date).map dates.put

end AvailabilityAction

end Publisher

end Arthome.Ticketing
