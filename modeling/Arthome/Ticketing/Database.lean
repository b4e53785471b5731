import Arthome.Library.Table
import Arthome.Ticketing.DateSales
import Arthome.Ticketing.OrderViews
import Arthome.Ticketing.SeatHold
import Arthome.Ticketing.SeatOrderRepository
import Arthome.Ticketing.WaitlistEntry

/-!
# The tables a transaction works on

The rows of ticketing's database, and its statements. An order is one record
here, its snapshot as its repository reads it back; `Arthome.Ticketing.SeatOrderSave`
is why nothing is lost by that. A transaction is a function of the whole state
that commits a new one or rolls back: every row it writes it has locked, so the
version each save is conditioned on is the one it read. Reads that take no lock
are not part of the state: each is given the committed state it saw.

Two fields of an order's record are the model's own, written beside the code's:
whether a confirmed payment was ever applied to it, and which of its refunds
`oweUnseatedPaymentBack` owed. So is `decidedAt`, the instant a settlement pass
found nothing left to settle, between that statement and its commit.
-/

namespace Arthome.Ticketing

open Arthome.Core Library

structure OrderRecord where
  order : SeatOrderSnapshot
  binding : IdempotencyBinding
  /-- The first answer the purchase gave. -/
  answer : Option StoredAnswer
  /-- When the settlement of its date's outcome passed over it. -/
  outcomeSettledAt : Option Instant
  confirmed : Bool
  unseatedRefunds : List Uuid
  deriving Repr, DecidableEq

def OrderRecord.id (record : OrderRecord) : Uuid := record.order.id

/-- A cancellation or an interruption to settle. -/
structure DateOutcomeSettlement where
  dateId : Uuid
  outcome : DateOutcome
  recordedAt : Instant
  waitlistEndedAt : Option Instant
  decidedAt : Option Instant
  settledAt : Option Instant
  failedAt : Option Instant
  deriving Repr, DecidableEq

/-- A credit for an interrupted date's order. -/
structure CreditIssue where
  id : Uuid
  accountId : Uuid
  channelId : Uuid
  orderId : Uuid
  amount : Money
  originRef : Option Uuid
  deriving Repr, DecidableEq

structure Db where
  sales : Table DateSalesSnapshot.dateId
  holds : Table SeatHoldSnapshot.id
  orders : Table OrderRecord.id
  entries : Table WaitlistEntrySnapshot.id
  settlements : Table DateOutcomeSettlement.dateId
  credits : Table CreditIssue.id

def Db.empty : Db := ⟨.empty, .empty, .empty, .empty, .empty, .empty⟩

/-- The committed states a transaction's reads without a lock saw. -/
structure Unlocked where
  keys : Db
  answers : Db
  sales : Db
  salesAgain : Db
  entries : Db

namespace Db

variable (db : Db)

section Sales

/-- One conditional update of a date's row; nothing when it affects no row. -/
def updateSales (dateId : Uuid) (condition : DateSalesSnapshot → Bool)
    (set : DateSalesSnapshot → DateSalesSnapshot) : Option Db :=
  match db.sales.find? dateId with
  | none => none
  | some row => if condition row then some { db with sales := db.sales.put (set row) } else none

/-- Short of its end by time, in the hold's own condition. -/
def beforeSalesEnd (row : DateSalesSnapshot) (now : Instant) : Bool :=
  row.salesEndAt.all fun salesEndAt => now < salesEndAt

/-- The pool, while the window is open at the statement's `now`. -/
def openPoolAt (row : DateSalesSnapshot) (now : Instant) : ℤ :=
  if row.priorityUntil.any fun priorityUntil => now < priorityUntil then row.priorityPoolSeats else 0

def takeSeats (dateId : Uuid) (quantity : ℕ) (now : Instant) : Option Db :=
  db.updateSales dateId
    (fun row => DateSales.isOnSale row && quantity ≤ row.seatsAvailable && beforeSalesEnd row now)
    fun row => { row with seatsAvailable := row.seatsAvailable - quantity }

/-- A row with `quantity` seats taken, the open pool's first. -/
def takenFromPool (row : DateSalesSnapshot) (openPool : ℤ) (quantity : ℕ) : DateSalesSnapshot :=
  { row with
    priorityPoolSeats := row.priorityPoolSeats - min openPool quantity
    seatsAvailable := row.seatsAvailable - (quantity - min openPool quantity) }

/-- The open pool's seats up to the quantity, recorded on the hold by the same statement. -/
def takeSeatsFromPool (dateId holdId : Uuid) (quantity : ℕ) (now : Instant) : Option Db :=
  match db.sales.find? dateId, db.holds.find? holdId with
  | some row, some hold =>
    let openPool := openPoolAt row now
    if DateSales.isOnSale row && quantity ≤ row.seatsAvailable + openPool &&
        beforeSalesEnd row now then
      let taken := takenFromPool row openPool quantity
      some { db with
        sales := db.sales.put taken
        holds := db.holds.put { hold with
          poolSeats := row.priorityPoolSeats - taken.priorityPoolSeats } }
    else none
  | _, _ => none

def sellHeldSeats (dateId : Uuid) (quantity : ℕ) : Db :=
  (db.updateSales dateId (fun _ => true)
    fun row => { row with seatsSold := row.seatsSold + quantity }).getD db

/-- A row with held seats back: those of the pool to the pool while its window is open. -/
def returned (row : DateSalesSnapshot) (quantity poolSeats : ℤ) (now : Instant) :
    DateSalesSnapshot :=
  let toPool := if row.priorityUntil.any fun priorityUntil => now < priorityUntil then poolSeats
    else 0
  { row with
    priorityPoolSeats := row.priorityPoolSeats + toPool
    seatsAvailable := row.seatsAvailable + quantity - toPool }

def returnHeldSeats (dateId : Uuid) (quantity poolSeats : ℤ) (now : Instant) : Db :=
  (db.updateSales dateId (fun _ => true) fun row => returned row quantity poolSeats now).getD db

def releaseSoldSeats (dateId : Uuid) (quantity : ℕ) : Option Db :=
  db.updateSales dateId
    (fun row => quantity ≤ row.seatsSold && row.outcome ≠ some .cancelled)
    fun row => { row with
      seatsAvailable := row.seatsAvailable + quantity
      seatsSold := row.seatsSold - quantity }

def takeAndSellSeats (dateId : Uuid) (quantity : ℕ) (now : Instant) (fromPool : Bool) :
    Option Db :=
  let openPool := fun row => if fromPool then openPoolAt row now else 0
  db.updateSales dateId
    (fun row => DateSales.isOnSale row && quantity ≤ row.seatsAvailable + openPool row &&
      beforeSalesEnd row now)
    fun row => { takenFromPool row (openPool row) quantity with
      seatsSold := row.seatsSold + quantity }

def moveWaitlistCount (dateId : Uuid) (delta : ℤ) : Option Db :=
  db.updateSales dateId (fun row => 0 ≤ row.waitlistCount + delta)
    fun row => { row with waitlistCount := row.waitlistCount + delta }

/-- The window's pool on public sale; the count may not go below zero. -/
def endPriorityWindow (dateId : Uuid) (entriesEnded : ℕ) : Except Refusal Db := do
  require ((db.sales.find? dateId).all fun row => decide ((entriesEnded : ℤ) ≤ row.waitlistCount))
    (.error "23514")
  return (db.updateSales dateId (fun row => row.priorityUntil.isSome)
    fun row => { row with
      seatsAvailable := row.seatsAvailable + row.priorityPoolSeats
      priorityPoolSeats := 0
      priorityUntil := none
      waitlistCount := row.waitlistCount - entriesEnded }).getD db

def closeWaitlist (dateId : Uuid) : Db :=
  (db.updateSales dateId (fun row => row.priorityUntil.isSome || row.waitlistCount ≠ 0)
    fun row => { row with
      seatsAvailable := row.seatsAvailable + row.priorityPoolSeats
      priorityPoolSeats := 0
      priorityUntil := none
      waitlistCount := 0 }).getD db

/-- The aggregate's row, conditioned on the version it was loaded at, each counter moved by what the
aggregate added since. -/
def saveSales (stored current : DateSalesSnapshot) : Except Refusal Db := do
  let row ← orRefuse (db.sales.find? current.dateId) (.error "EntityNotFoundError")
  require (row.version = stored.version) (.stateConflict row.version)
  return { db with sales := db.sales.put { current with
    seatsAvailable := row.seatsAvailable + (current.seatsAvailable - stored.seatsAvailable)
    seatsSold := row.seatsSold + (current.seatsSold - stored.seatsSold)
    waitlistCount := row.waitlistCount + (current.waitlistCount - stored.waitlistCount)
    priorityPoolSeats :=
      row.priorityPoolSeats + (current.priorityPoolSeats - stored.priorityPoolSeats) } }

def insertSales (sales : DateSalesSnapshot) : Except Refusal Db := do
  let inserted ← orRefuse (db.sales.insert sales) (.error "23505")
  return { db with sales := inserted }

end Sales

section Holds

def insertHold (hold : SeatHoldSnapshot) : Except Refusal Db := do
  let holds ← orRefuse (db.holds.insert hold) (.error "23505")
  return { db with holds }

def saveHold (hold : SeatHoldSnapshot) : Except Refusal Db := do
  let row ← orRefuse (db.holds.find? hold.id) (.error "EntityNotFoundError")
  return { db with holds := db.holds.put { row with state := hold.state, version := hold.version } }

end Holds

section Orders

/-- A refund no seat is behind, of which an order has one at most. -/
def isUnseated (refund : OrderRefund) : Bool :=
  refund.seatId.isNone &&
    (refund.reason = .holdExpiredCapacityLost || refund.reason = .dateCancelled)

/-- The constraints of an order's tables that a save meets: seats under distinct ids, refunds of
something, one unseated refund at most. -/
def OrdersAccepted (orders : Table OrderRecord.id) : Prop :=
  (orders.rows.flatMap fun record => record.order.seats.map fun seat => seat.id).Nodup ∧
  ∀ record ∈ orders.rows, (∀ refund ∈ record.order.refunds, 0 < refund.amount.amountMinor) ∧
    (record.order.refunds.filter isUnseated).length ≤ 1

instance (orders : Table OrderRecord.id) : Decidable (OrdersAccepted orders) := by
  unfold OrdersAccepted
  infer_instance

/-- The order a key is bound to. -/
def findBound (accountId : Option Uuid) (key : Uuid) : Option OrderRecord :=
  db.orders.rows.find? fun record =>
    record.binding.accountId = accountId && record.binding.key = key

def findOrder (orderId : Uuid) : Option SeatOrder :=
  (db.orders.find? orderId).map fun record => SeatOrder.restore record.order

/-- A new order with its key; nothing when the key is bound, or the order's id or reference taken. -/
def placeOrder (order : SeatOrder) (binding : IdempotencyBinding) : Except Refusal (Option Db) := do
  require (0 < order.current.quantity ∧ 0 ≤ order.current.quote.total.amountMinor) (.error "23514")
  if (db.findBound binding.accountId binding.key).isSome ||
      db.orders.rows.any fun record => record.order.reference = order.current.reference then
    return none
  else
    return (db.orders.insert
      { order := order.current
        binding
        answer := none
        outcomeSettledAt := none
        confirmed := false
        unseatedRefunds := [] }).map fun orders => { db with orders }

def saveOrder (order : SeatOrder) : Except Refusal Db := do
  let record ← orRefuse (db.orders.find? order.current.id) (.error "EntityNotFoundError")
  let orders := db.orders.put { record with order := order.current }
  require (OrdersAccepted orders) (.error "23514")
  return { db with orders }

/-- One record rewritten beside its order. -/
def noteOrder (orderId : Uuid) (note : OrderRecord → OrderRecord) : Db :=
  match db.orders.find? orderId with
  | none => db
  | some record => { db with orders := db.orders.put { note record with order := record.order } }

def storedAnswerOf (orderId : Uuid) : Option StoredAnswer :=
  (db.orders.find? orderId).bind fun record => record.answer

/-- False when the order already kept one. -/
def storeAnswer (orderId : Uuid) (answer : StoredAnswer) : Option Db :=
  match db.orders.find? orderId with
  | none => none
  | some record =>
    if record.answer.isNone then some (db.noteOrder orderId fun r => { r with answer := some answer })
    else none

end Orders

section Entries

variable [SalesRules]

def findByAccount (dateId accountId : Uuid) : Option WaitlistEntrySnapshot :=
  db.entries.rows.find? fun entry => entry.dateId = dateId && entry.accountId = accountId

def stateOf (dateId accountId : Uuid) : Option WaitlistEntryState :=
  (db.findByAccount dateId accountId).map fun entry => entry.state

def insertEntry (entry : WaitlistEntrySnapshot) : Except Refusal Db := do
  require (db.findByAccount entry.dateId entry.accountId = none) (.error "23505")
  let entries ← orRefuse (db.entries.insert entry) (.error "23505")
  return { db with entries }

def saveEntry (entry : WaitlistEntrySnapshot) : Db :=
  { db with entries := db.entries.put entry }

/-- A set-based move of a date's entries, from states core lets move to the target. -/
def moveEntries (dateId : Uuid) (sources : List WaitlistEntryState)
    (target : WaitlistEntryState) (chosen : WaitlistEntrySnapshot → Bool)
    (set : WaitlistEntrySnapshot → WaitlistEntrySnapshot) : Except Refusal (Db × ℕ) := do
  require (∀ state ∈ sources, SalesRules.waitlistEntryMayMove state target = true)
    (.error "no waitlist move")
  let moves := fun entry : WaitlistEntrySnapshot =>
    entry.dateId = dateId && entry.state ∈ sources && chosen entry
  return ({ db with
    entries := db.entries.update
      (fun entry => if moves entry then
        { set entry with
          id := entry.id, dateId := entry.dateId, state := target, version := entry.version + 1 }
      else entry)
      fun entry => by split <;> rfl }, (db.entries.rows.filter moves).length)

def notifyAll (dateId : Uuid) (now : Instant) : Except Refusal Db := do
  let (moved, _) ← db.moveEntries dateId [.waiting, .notified] .notified (fun _ => true)
    fun entry => { entry with
      notifiedAt := if entry.state = .notified then entry.notifiedAt else some now }
  return moved

/-- The account paid an order on the date since it was told. -/
def paidSinceNotified (entry : WaitlistEntrySnapshot) : Bool :=
  db.orders.rows.any fun record =>
    record.order.accountId = some entry.accountId && record.order.dateId = entry.dateId &&
      match record.order.paidAt, entry.notifiedAt with
      | some paidAt, some notifiedAt => notifiedAt ≤ paidAt
      | _, _ => false

/-- Each notified entry `converted`, or else `otherwise`; how many ended. -/
def endNotified (dateId : Uuid) (otherwise : WaitlistEntryState) (now : Instant) :
    Except Refusal (Db × ℕ) := do
  let (converted, count) ← db.moveEntries dateId [.notified] .converted db.paidSinceNotified
    fun entry => { entry with endedAt := some now }
  let (ended, rest) ← converted.moveEntries dateId [.notified] otherwise (fun _ => true)
    fun entry => { entry with endedAt := some now }
  return (ended, count + rest)

def closeWaiting (dateId : Uuid) (now : Instant) : Except Refusal Db := do
  let (closed, _) ← db.moveEntries dateId [.waiting] .closed (fun _ => true)
    fun entry => { entry with endedAt := some now }
  return closed

end Entries

end Db

end Arthome.Ticketing
