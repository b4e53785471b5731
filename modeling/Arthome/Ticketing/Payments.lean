import Arthome.Ticketing.Database

/-!
# What a payment does to an order

The provider's answers reach an order from the purchase that asked and from its
webhooks, in any order and any number of times. A confirmation creates the seats
from the hold, takes them again when the hold is gone, or owes the money back; a
failure gives the hold back; an intent still waiting is recorded. A move of the
date's counters is kept for the end of the transaction.
-/

namespace Arthome.Ticketing

open Arthome.Core Library

/-- A move of the date's counters kept for the end of the transaction. -/
inductive PendingCounterMove where
  | sellHeldSeats (dateId : Uuid) (quantity : ℕ)
  | returnHeldSeats (dateId : Uuid) (quantity : ℕ) (poolSeats : ℤ) (now : Instant)
  deriving Repr, DecidableEq

def PendingCounterMove.run (db : Db) : PendingCounterMove → Db
  | .sellHeldSeats dateId quantity => db.sellHeldSeats dateId quantity
  | .returnHeldSeats dateId quantity poolSeats now =>
    db.returnHeldSeats dateId quantity poolSeats now

/-- The counter move there is, if any. -/
def runPending (db : Db) (pending : Option PendingCounterMove) : Db :=
  match pending with
  | none => db
  | some move => move.run db

/-- The ids and codes a confirmed payment draws. -/
structure PaymentDraw where
  refundId : Uuid
  seats : List (Uuid × String)
  deriving Repr, DecidableEq

variable [OrderRules] [SalesRules]

omit [OrderRules] in
def inPriorityWindow (state : Option WaitlistEntryState) (priorityUntil : Option Instant)
    (now : Instant) : Bool :=
  state = some .notified && SalesRules.isPriorityWindowOpen priorityUntil now

omit [OrderRules] in
/-- Whether the account buys from the pool: notified into a window open at `now`. -/
def drawsOnPriorityPool (entries : Db) (sales : Option DateSalesSnapshot) (accountId : Option Uuid)
    (now : Instant) : Bool :=
  match sales, accountId with
  | some sales, some accountId =>
    SalesRules.isPriorityWindowOpen sales.priorityUntil now &&
      inPriorityWindow (entries.stateOf sales.dateId accountId) sales.priorityUntil now
  | _, _ => false

/-- All of it owed back, with no seat. The order is saved here, so its refund has a row. -/
def owePaymentBack (db : Db) (order : SeatOrder) (outcome : Option DateOutcome)
    (intentRef : String) (refundId : Uuid) (now : Instant) : Except Refusal (Db × SeatOrder) := do
  let (order, owed) ← (order.oweUnseatedPaymentBack
    (SalesRules.refundReasonOnDate outcome .holdExpiredCapacityLost) intentRef refundId
    now).commit
  match owed with
  | none => return (db, order)
  | some refundId => do
    let db ← db.saveOrder order
    return (db.noteOrder order.current.id fun record =>
      { record with unseatedRefunds := record.unseatedRefunds ++ [refundId] }, order)

/-- A payment the provider confirmed, from the purchase or from its webhook. The caller saves the
order and runs the counter move last. -/
def settleConfirmedPayment (db : Db) (seen : Unlocked) (order : SeatOrder) (intentRef : String)
    (now : Instant) (draw : PaymentDraw) :
    Except Refusal (Db × SeatOrder × Option PendingCounterMove) := do
  let db := db.noteOrder order.current.id fun record => { record with confirmed := true }
  if order.acceptsPayment then
    let dateId := order.current.dateId
    let quantity := order.current.quantity
    let accountId := order.current.accountId
    let hold := db.holds.find? order.current.holdId
    let sales := seen.sales.sales.find? dateId
    let outcome := sales.bind fun sales => sales.outcome
    if outcome = some .cancelled then
      match hold.filter SeatHold.isActive with
      | some hold => do
        let hold ← SeatHold.release hold
        let db ← db.saveHold hold
        let (db, order) ← owePaymentBack db order outcome intentRef draw.refundId now
        return (db, order, some (.returnHeldSeats dateId hold.quantity hold.poolSeats now))
      | none => do
        let (db, order) ← owePaymentBack db order outcome intentRef draw.refundId now
        return (db, order, none)
    else
      let startsAt := sales.bind fun sales => sales.startsAt
      let cancelDeadline := startsAt.map SalesRules.seatCancelDeadline
      let issues := draw.seats.map fun (id, code) => ⟨id, code, cancelDeadline⟩
      match hold.filter SeatHold.isActive with
      | some hold => do
        let hold ← SeatHold.consume hold
        let db ← db.saveHold hold
        let (order, _) ← (order.pay intentRef issues now).commit
        return (db, order, some (.sellHeldSeats dateId quantity))
      | none =>
        match db.takeAndSellSeats dateId quantity now
            (drawsOnPriorityPool seen.entries sales accountId now) with
        | none => do
          -- Read again: a cancellation committed since the first read is what refused it.
          let outcomeNow := (seen.salesAgain.sales.find? dateId).bind fun sales => sales.outcome
          let (db, order) ← owePaymentBack db order outcomeNow intentRef draw.refundId now
          return (db, order, none)
        | some db => do
          let (order, _) ← (order.pay intentRef issues now).commit
          return (db, order, none)
  else return (db, order, none)

omit [OrderRules] [SalesRules] in
/-- An order whose payment failed or was abandoned: failed, and its hold given back if still
active. Nothing when the order no longer waits for its payment. -/
def failUnpaidOrder (db : Db) (order : SeatOrder) (failure : OrderFailure) (now : Instant) :
    Except Refusal (Db × SeatOrder × Option PendingCounterMove) := do
  let (order, failed) ← (order.fail failure now).commit
  if failed then
    match (db.holds.find? order.current.holdId).filter SeatHold.isActive with
    | some hold => do
      let hold ← SeatHold.release hold
      let db ← db.saveHold hold
      return (db, order, some (.returnHeldSeats hold.dateId hold.quantity hold.poolSeats now))
    | none => return (db, order, none)
  else return (db, order, none)

omit [SalesRules] in
/-- An intent still waiting for the buyer or the bank, from the purchase or its webhook. -/
def recordWaitingIntent (order : SeatOrder) (intent : PaymentIntentRecord) (state : WaitingState)
    (now : Instant) : Except Refusal SeatOrder := do
  let (order, _) ← (order.recordIntent intent state now).commit
  return order

/-- A recorded webhook, one row of the inbox. -/
structure PaymentEvent where
  kind : PaymentEventKind
  intentRef : Option String
  orderId : Option Uuid
  declineCode : Option String
  deriving Repr, DecidableEq

/-- The order `disputed`, its payment settled first: a disputed charge is a charge that was
taken. -/
def applyDispute (db : Db) (seen : Unlocked) (order : SeatOrder) (event : PaymentEvent)
    (now : Instant) (draw : PaymentDraw) :
    Except Refusal (Db × SeatOrder × Option PendingCounterMove) := do
  let intentRef ← orRefuse event.intentRef (.error "a dispute names no intent")
  let (db, order, pending) ← settleConfirmedPayment db seen order intentRef now draw
  let (order, _) ← order.dispute.commit
  return (db, order, pending)

/-- What the event does to its order, and the counter move to run last. -/
def applyTo (db : Db) (seen : Unlocked) (order : SeatOrder) (event : PaymentEvent) (now : Instant)
    (draw : PaymentDraw) : Except Refusal (Db × SeatOrder × Option PendingCounterMove) := do
  let intent : PaymentIntentRecord := ⟨event.intentRef.getD "", none, none⟩
  match event.kind with
  | .intentSucceeded => do
    let intentRef ← orRefuse event.intentRef (.error "a confirmation names no intent")
    settleConfirmedPayment db seen order intentRef now draw
  | .intentRequiresAction => do
    let order ← recordWaitingIntent order intent .awaitingAction now
    return (db, order, none)
  | .intentProcessing => do
    let order ← recordWaitingIntent order intent .processing now
    return (db, order, none)
  | .intentFailed => failUnpaidOrder db order ⟨some .paymentDeclined, event.declineCode⟩ now
  | .intentCancelled => failUnpaidOrder db order ⟨none, none⟩ now
  | .refundSucceeded => return (db, order, none)
  | .disputeOpened => applyDispute db seen order event now draw
  | .unhandled => return (db, order, none)

/-- One recorded event, applied in a transaction of its own. -/
def applyIn (db : Db) (seen : Unlocked) (event : PaymentEvent) (now : Instant)
    (draw : PaymentDraw) : Except Refusal Db := do
  match event.kind, event.orderId with
  | .unhandled, _ => return db
  | _, none => return db
  | _, some orderId => do
    let order ← orRefuse (db.findOrder orderId) (.error "no order for payment event")
    let (db, order, pending) ← applyTo db seen order event now draw
    let db ← db.saveOrder order
    return runPending db pending

/-- The cancellation of a failed order's intent, asked of the provider and made. -/
def intentCancelledIn (db : Db) (orderId : Uuid) : Except Refusal Db := do
  match db.findOrder orderId with
  | none => return db
  | some order => do
    let (order, _) ← order.intentCancelled.commit
    db.saveOrder order

omit [SalesRules] in
/-- A refund the provider made. -/
def refundMadeIn (db : Db) (orderId refundId : Uuid) (refundRef : String) (now : Instant) :
    Except Refusal Db := do
  match db.findOrder orderId with
  | none => return db
  | some order => do
    let (order, _) ← (order.refundMade refundId refundRef now).commit
    db.saveOrder order

end Arthome.Ticketing
