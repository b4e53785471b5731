import Arthome.Ticketing.Payments

/-!
# The settlement of a date's outcome

A cancelled date's orders are refunded what is left of their money and their
seats cancelled; an interrupted date's are credited it. A batch of orders is
settled in one transaction, each marked whatever it gave; the waiting list ends
once, in a transaction of its own. A date is stamped settled when one statement
found no active seat unmarked and no active hold; other transactions may commit
between that statement and the stamp.
-/

namespace Arthome.Ticketing

open Arthome.Core Library

/-- In seat-id order, the order the shares are split in. -/
def activeSeatsOf (order : SeatOrder) : List SeatSnapshot :=
  (order.current.seats.filter fun seat => seat.state = .active).mergeSort
    fun a b => decide (a.id ≤ b.id)

structure CancelledDateSettlement where
  /-- Nothing when nothing is left to give back. -/
  refund : Option OwedRefund
  cancellation : SeatCancellation
  deriving Repr, DecidableEq

inductive InterruptedDateSettlement where
  | creditOwed (credit : CreditIssue) (crediting : SeatCrediting)
  /-- Its seats left as they are. -/
  | nothingOwed
  deriving Repr, DecidableEq

section

variable [SalesRules]

/-- Each seat with its share of `total`, both in seat-id order. -/
def sharedOver (seats : List SeatSnapshot) (total : Money) :
    Except Refusal (List (SeatSnapshot × Money)) := do
  let shares := SalesRules.seatSharesOf total seats.length
  require (seats.length ≤ shares.length) (.error s!"no share of {total.amountMinor}")
  return seats.zip shares

variable [OrderRules]

omit [SalesRules] in
/-- What is left of the money an order holds; nothing when it holds none. -/
def moneyLeftOf (order : SeatOrder) : Except Refusal (Option Money) :=
  if order.current.state ∉ statesOwingRefunds then return none
  else do
    let left ← order.refundableLeft
    return if 0 < left.amountMinor then some left else none

/-- A cancelled date's order: what is left of its money in one refund, its active seats cancelled
with their shares of it. Nothing with no seat active. -/
def cancelledDateSettlementOf (order : SeatOrder) (refundId : Uuid) :
    Except Refusal (Option CancelledDateSettlement) :=
  let seats := activeSeatsOf order
  if seats = [] then return none
  else do
    match ← moneyLeftOf order with
    | none =>
      return some
        { refund := none
          cancellation :=
            { reason := .dateCancelled
              refundId := none
              seats := seats.map fun seat => ⟨seat.id, none⟩ } }
    | some left => do
      let shared ← sharedOver seats left
      return some
        { refund := some
            { id := refundId
              amount := left
              reason := .dateCancelled
              idempotencyKey := OrderRules.refundIdempotencyKey refundId
              seatId := none }
          cancellation :=
            { reason := .dateCancelled
              refundId := some refundId
              seats := shared.map fun (seat, share) => ⟨seat.id, some share⟩ } }

/-- An interrupted date's order: one credit for what is left of its money, its active seats credited
with their shares of it. An order with no account is left, since a credit is the account's. -/
def interruptedDateSettlementOf (order : SeatOrder) (creditId : Uuid) :
    Except Refusal InterruptedDateSettlement :=
  let seats := activeSeatsOf order
  if seats = [] then return .nothingOwed
  else do
    match ← moneyLeftOf order, order.current.accountId with
    | some left, some accountId => do
      let amount := SalesRules.creditAmountFor left
      let shared ← sharedOver seats amount
      return .creditOwed
        { id := creditId
          accountId
          channelId := order.current.channelId
          orderId := order.current.id
          amount
          originRef := some order.current.dateId }
        { creditId
          seats := shared.map fun (seat, share) => ⟨seat.id, share⟩ }
    | _, _ => return .nothingOwed

end

namespace Db

variable (db : Db)

/-- Claimed by one pass at a time, until it is settled. -/
def claimSettlement (dateId : Uuid) : Option DateOutcomeSettlement :=
  (db.settlements.find? dateId).filter fun settlement =>
    settlement.settledAt.isNone && settlement.decidedAt.isNone

def hasActiveSeat (record : OrderRecord) : Bool :=
  record.order.seats.any fun seat => seat.state = .active

/-- An order of the date with an active seat, and no settlement has passed over it. -/
def isUnsettled (dateId : Uuid) (record : OrderRecord) : Bool :=
  record.order.dateId = dateId && hasActiveSeat record && record.outcomeSettledAt.isNone

/-- The next orders to settle, by id; those another transaction holds are left to a later pass. -/
def ordersToSettle (dateId : Uuid) (batch : ℕ) (locked : List Uuid) : List Uuid :=
  (((db.orders.rows.filter fun record => isUnsettled dateId record && record.id ∉ locked).map
    OrderRecord.id).mergeSort fun a b => decide (a ≤ b)).take batch

def markSettled (orderIds : List Uuid) (now : Instant) : Db :=
  { db with
    orders := db.orders.update
      (fun record =>
        if record.id ∈ orderIds then { record with outcomeSettledAt := some now } else record)
      fun record => by
        split
        · rfl
        · rfl }

/-- No active seat of the date is unmarked, and no hold on it is active. -/
def nothingLeftToSettle (dateId : Uuid) : Bool :=
  !(db.orders.rows.any fun record => isUnsettled dateId record) &&
    !(db.holds.rows.any fun hold => hold.dateId = dateId && hold.state = .active)

def putSettlement (settlement : DateOutcomeSettlement) : Db :=
  { db with settlements := db.settlements.put settlement }

/-- A credit inserted, unless one exists under its id or for its order. -/
def issueCredit (credit : CreditIssue) : Option Db :=
  if db.credits.rows.any fun issued => issued.orderId = credit.orderId then none
  else (db.credits.insert credit).map fun credits => { db with credits }

end Db

section

variable [OrderRules] [SalesRules]

/-- One order of the date, settled under the batch's lock. -/
def settleOrder (db : Db) (outcome : DateOutcome) (orderId drawnId : Uuid) (now : Instant) :
    Except Refusal Db := do
  let order ← orRefuse (db.findOrder orderId) (.error s!"order {orderId} vanished")
  if outcome = .cancelled then
    match ← cancelledDateSettlementOf order drawnId with
    | none => return db
    | some settled => do
      let order ← match settled.refund with
        | none => pure order
        | some refund => do
          let (order, _) ← (order.oweRefund refund now).commit
          pure order
      let (order, _) ← (order.cancelSeats settled.cancellation now).commit
      db.saveOrder order
  else
    match ← interruptedDateSettlementOf order drawnId with
    | .nothingOwed => return db
    | .creditOwed credit crediting =>
      match db.issueCredit credit with
      | none => return db
      | some db => do
        let (order, _) ← (order.creditSeats crediting now).commit
        db.saveOrder order

/-- A batch of a date's orders settled and marked, and whether nothing is left; how many there were.
Nothing when another pass holds the date. -/
def settleOrders (db : Db) (dateId : Uuid) (orderBatch : ℕ) (now : Instant) (locked : List Uuid)
    (draw : Uuid → Uuid) : Except Refusal (Db × Option ℕ) :=
  match db.claimSettlement dateId with
  | none => return (db, none)
  | some settlement => do
    let orderIds := db.ordersToSettle dateId orderBatch locked
    let db ← orderIds.foldlM
      (fun db orderId => settleOrder db settlement.outcome orderId (draw orderId) now) db
    let db := db.markSettled orderIds now
    let settled := orderIds.length < orderBatch && settlement.waitlistEndedAt.isSome &&
      db.nothingLeftToSettle dateId
    return (db.putSettlement
      { settlement with failedAt := none, decidedAt := if settled then some now else none },
      some orderIds.length)

omit [OrderRules] [SalesRules] in
/-- The stamp a settlement pass commits, once its statement has found nothing left. -/
def stampSettled (db : Db) (dateId : Uuid) : Db :=
  match db.settlements.find? dateId with
  | none => db
  | some settlement => db.putSettlement { settlement with settledAt := settlement.decidedAt }

omit [OrderRules] [SalesRules] in
/-- A date whose settlement failed, set aside for a while. -/
def setAside (db : Db) (dateId : Uuid) (now : Instant) : Db :=
  match db.settlements.find? dateId with
  | none => db
  | some settlement => db.putSettlement { settlement with failedAt := some now }

omit [OrderRules] in
/-- The waiting list of a date an outcome ended: the pool on sale, its entries ended, its count
none. -/
def endWaitlist (db : Db) (dateId : Uuid) (now : Instant) : Except Refusal Db :=
  match db.claimSettlement dateId with
  | none => return db
  | some settlement =>
    if settlement.waitlistEndedAt.isSome then return db
    else do
      let ended ← if (db.sales.find? dateId).isNone then pure db
        else do
          let (db, _) ← db.endNotified dateId .closed now
          let db ← db.closeWaiting dateId now
          pure (db.closeWaitlist dateId)
      return ended.putSettlement { settlement with waitlistEndedAt := some now }

end

end Arthome.Ticketing
