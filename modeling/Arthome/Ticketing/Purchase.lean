import Arthome.Ticketing.Payments

/-!
# A purchase

Placing an order binds its key and takes the seats; the provider is then asked
for an intent outside any transaction, under the order's id; what it said is
recorded in a second transaction. A replay under the same key serves the kept
answer, or resumes the order where it stands: with a hold taken again when the
first one was given back.
-/

namespace Arthome.Ticketing

open Arthome.Core Library

structure PurchaseSeatBody where
  dateId : Uuid
  tier : PriceTier
  quantity : ℕ
  expectedTotal : Money
  declaredTaxLocation : Option DeclaredTaxLocation
  deriving Repr, DecidableEq

/-- Who buys, as the internal token names them. -/
structure Buyer where
  accountId : Option Uuid
  profileId : Option Uuid
  deriving Repr, DecidableEq

structure PurchaseSeat where
  body : PurchaseSeatBody
  buyer : Buyer
  idempotency : IdempotencyBinding
  lateEntryAcknowledged : Bool
  deriving Repr, DecidableEq

/-- What the provider is asked: one intent per `orderId`, which is its idempotency key. -/
structure PaymentIntentRequest where
  orderId : Uuid
  amount : Money
  expiresAt : Instant
  returnUrl : String
  deriving Repr, DecidableEq

structure PaymentIntent where
  ref : String
  status : IntentStatus
  clientSecret : Option String
  nextAction : Option NextAction
  declineCode : Option String
  deriving Repr, DecidableEq

/-- Why a purchase's transaction rolled back. -/
inductive Rollback where
  | refused (refusal : Refusal)
  /-- Another purchase committed an order under the key while this one waited to insert its own. -/
  | keyBoundMeanwhile
  /-- A renewed hold's statement found no seat left. -/
  | renewalSoldOut (orderId staleHoldId : Uuid)
  deriving Repr, DecidableEq

/-- A refusal of the transaction's own. -/
def refusing {α : Type} (x : Except Refusal α) : Except Rollback α := x.mapError .refused

@[simp] theorem refusing_ok_iff {α : Type} {x : Except Refusal α} {a : α} :
    refusing x = .ok a ↔ x = .ok a := by
  cases x <;> simp [refusing, Except.mapError]

@[simp] theorem refusing_error_iff {α : Type} {x : Except Refusal α} {e : Rollback} :
    refusing x = .error e ↔ ∃ refusal, x = .error refusal ∧ .refused refusal = e := by
  cases x <;> simp [refusing, Except.mapError]

/-- A new order, its intent to create at once; or the one the key already created, to resume. -/
inductive Placement where
  | placed (orderId : Uuid) (request : PaymentIntentRequest)
  | bound (orderId : Uuid)
  deriving Repr, DecidableEq

/-- Where a purchase stands once its order exists: answered, refused, or an intent to create. -/
inductive Resumption where
  | answered (answer : StoredAnswer) (replayed : Bool)
  | refusal (refusal : Refusal)
  | createIntent (request : PaymentIntentRequest)
  deriving Repr, DecidableEq

/-- How long a buyer told that its key is in flight is asked to wait. -/
def keyInFlight : Refusal := .keyInFlight 1000

/-- What placing an order draws: its ids, its reference, and whether it waited too long for the
holder of its key. -/
structure PlacementDraw where
  orderId : Uuid
  holdId : Uuid
  reference : String
  lockTimedOut : Bool
  deriving Repr, DecidableEq

variable [OrderRules] [SalesRules]

section

variable (publicWebOrigin : String)

omit [OrderRules] in
def returnUrlOf (orderId : Uuid) : String :=
  publicWebOrigin ++ SalesRules.paymentReturnPath orderId

omit [OrderRules] in
def intentRequestOf (order : SeatOrder) : PaymentIntentRequest where
  orderId := order.current.id
  amount := order.current.quote.total
  expiresAt := order.current.expiresAt
  returnUrl := returnUrlOf publicWebOrigin order.current.id

omit [OrderRules] in
/-- A buyer the start passed by, and who did not say it knows. -/
def unacknowledged (sales : Option DateSalesSnapshot) (now : Instant) (acknowledged : Bool) :
    Option LateEntry :=
  (sales.bind fun sales => DateSales.lateEntryAt sales now).filter fun _ => !acknowledged

omit [OrderRules] in
/-- The statement that takes a hold's seats, from the pool or from public sale. -/
def takeStatement (fromPool : Bool) (dateId holdId : Uuid) (quantity : ℕ) (now : Instant)
    (db : Db) : Option Db :=
  if fromPool then db.takeSeatsFromPool dateId holdId quantity now
  else db.takeSeats dateId quantity now

omit [OrderRules] in
/-- The first transaction of a purchase: the order its key created, placed now when there is none. -/
def placeIn (db : Db) (seen : Unlocked) (command : PurchaseSeat) (now : Instant)
    (draw : PlacementDraw) : Except Rollback (Db × Placement) :=
  let { body, buyer, idempotency, lateEntryAcknowledged } := command
  match seen.keys.findBound idempotency.accountId idempotency.key with
  | some bound => do
    refusing (require (bound.binding.fingerprint = idempotency.fingerprint) .keyReused)
    return (db, .bound bound.order.id)
  | none => do
    let sales ← refusing (orRefuse (seen.sales.sales.find? body.dateId) .soldOut)
    -- Its decision first, its statement last: past the end or off sale, refused before the key.
    let _ ← refusing (DateSales.holdSeats sales body.quantity now)
    match unacknowledged (some sales) now lateEntryAcknowledged with
    | some lateEntry => throw (.refused (.lateEntryUnacknowledged lateEntry))
    | none => pure ()
    let quoted ← refusing (DateSales.quote sales body.tier body.quantity)
    let quote ← refusing (orRefuse quoted .tierUnavailable)
    refusing (require (quote.total = body.expectedTotal)
      (.priceStale body.expectedTotal quote.total))
    let fromPool := drawsOnPriorityPool seen.entries (some sales) buyer.accountId now
    let expiresAt := SalesRules.checkoutIntentExpiry now
    let hold ← refusing (SeatHold.place
      { id := draw.holdId
        dateId := body.dateId
        accountId := buyer.accountId
        profileId := buyer.profileId
        tier := body.tier
        quantity := body.quantity
        origin := .checkout
        originRef := draw.orderId
        intentExpiresAt := expiresAt })
    let order := SeatOrder.place
      { id := draw.orderId
        reference := draw.reference
        dateId := body.dateId
        channelId := sales.channelId
        accountId := buyer.accountId
        profileId := buyer.profileId
        tier := body.tier
        quantity := body.quantity
        quote
        declaredTaxLocation := body.declaredTaxLocation
        holdId := draw.holdId
        expiresAt } now
    refusing (require (¬ draw.lockTimedOut = true) keyInFlight)
    let db ← refusing (db.placeOrder order idempotency) >>= (orRefuse · .keyBoundMeanwhile)
    let db ← refusing (db.insertHold hold)
    let db ← refusing (orRefuse
      (takeStatement fromPool body.dateId draw.holdId body.quantity now db) .soldOut)
    return (db, .placed draw.orderId (intentRequestOf publicWebOrigin order))

omit [OrderRules] [SalesRules] in
def loadOrder (db : Db) (orderId : Uuid) : Except Refusal SeatOrder :=
  orRefuse (db.findOrder orderId) (.error s!"order {orderId} vanished")

omit [OrderRules] [SalesRules] in
/-- The first answer the order gave, or this one when it gave none. -/
def kept (db : Db) (orderId : Uuid) (answer : StoredAnswer) : Except Refusal (Db × Resumption) :=
  match db.storeAnswer orderId answer with
  | some db => return (db, .answered answer false)
  | none => do
    let first ← orRefuse (db.storedAnswerOf orderId) (.error s!"order {orderId} kept no answer")
    return (db, .answered first true)

omit [OrderRules] in
/-- The first answer the order gives, kept for its replays; a refusal is answered from its state. -/
def answerOf (db : Db) (seen : Unlocked) (order : SeatOrder) (servedAt : Instant) :
    Except Refusal (Db × Resumption) :=
  let snapshot := order.current
  if snapshot.state = .paid then
    kept db snapshot.id
      { status := .paid
        servedAt
        data := .seats (ticketViewsOf snapshot) (orderViewOf snapshot) }
  else
    match if order.owesRefund then none
      else handoffOf snapshot (returnUrlOf publicWebOrigin snapshot.id) with
    | some handoff => kept db snapshot.id ⟨.awaitingPayment, servedAt, .handoff handoff⟩
    | none =>
      let sales := seen.salesAgain.sales.find? snapshot.dateId
      return (db, .refusal (refusalOfUnpaid snapshot (sales.bind fun sales => sales.salesEndAt)))

omit [OrderRules] in
/-- An order whose hold was given back holds its seats again: a new hold, the order moved to it, and
the statement that takes the seats, for the caller to run last. No statement, the order failed sold
out, when the sale no longer sells. -/
def renewHoldIn (db : Db) (seen : Unlocked) (order : SeatOrder) (sales : Option DateSalesSnapshot)
    (now : Instant) (holdId : Uuid) :
    Except Refusal (Db × SeatOrder × Option (Db → Option Db)) :=
  let { id, dateId, accountId, profileId, tier, quantity, .. } := order.current
  match sales.filter fun sales => DateSales.sellsSeatsAt sales now with
  | none => do
    let (order, _) ← (order.fail ⟨some .soldOut, none⟩ now).commit
    return (db, order, none)
  | some sales => do
    let _ ← DateSales.holdSeats sales quantity now
    let fromPool := drawsOnPriorityPool seen.entries (some sales) accountId now
    let expiresAt := SalesRules.checkoutIntentExpiry now
    let hold ← SeatHold.place
      { id := holdId
        dateId
        accountId
        profileId
        tier
        quantity
        origin := .checkout
        originRef := id
        intentExpiresAt := expiresAt }
    let db ← db.insertHold hold
    let (order, _) ← (order.renewHold holdId expiresAt now).commit
    return (db, order, some (takeStatement fromPool dateId holdId quantity now))

omit [OrderRules] in
/-- The order a key created, resumed: answered, refused, or on to the provider. -/
def resumeIn (db : Db) (seen : Unlocked) (orderId : Uuid) (lateEntryAcknowledged : Bool)
    (now servedAt : Instant) (holdId : Uuid) : Except Rollback (Db × Resumption) :=
  match seen.answers.storedAnswerOf orderId with
  | some stored => return (db, .answered stored true)
  | none => do
    let order ← refusing (loadOrder db orderId)
    if !order.awaitsClientSecret && !order.awaitsIntent then
      refusing (answerOf publicWebOrigin db seen order servedAt)
    else
      let sales := seen.sales.sales.find? order.current.dateId
      let holdGone := !order.awaitsClientSecret &&
        !(db.holds.find? order.current.holdId).any SeatHold.isActive
      let ended := (sales.bind fun sales => sales.salesEndAt).filter fun salesEndAt =>
        SalesRules.salesEndedBy (some salesEndAt) now
      match ended.filter fun _ => holdGone with
      | some salesEndAt => do
        -- Seats to take again past the end: closed, as a new purchase is.
        let (order, _) ← refusing (order.fail ⟨some .salesClosed, none⟩ now).commit
        let db ← refusing (db.saveOrder order)
        return (db, .refusal (.salesClosed salesEndAt))
      | none =>
        match unacknowledged sales now lateEntryAcknowledged with
        | some lateEntry => return (db, .refusal (.lateEntryUnacknowledged lateEntry))
        | none =>
          if holdGone then do
            let staleHoldId := order.current.holdId
            let (db, order, takeSeats) ← refusing (renewHoldIn db seen order sales now holdId)
            let db ← refusing (db.saveOrder order)
            match takeSeats with
            | none => return (db, .refusal .soldOut)
            | some takeSeats => do
              let db ← orRefuse (takeSeats db) (.renewalSoldOut orderId staleHoldId)
              return (db, .createIntent (intentRequestOf publicWebOrigin order))
          else return (db, .createIntent (intentRequestOf publicWebOrigin order))

omit [OrderRules] in
/-- After a renewal rolled back for want of seats: the order fails sold out, unless another attempt
under its key renewed it meanwhile and answers for it. -/
def failSoldOutIn (db : Db) (seen : Unlocked) (orderId staleHoldId : Uuid)
    (now servedAt : Instant) : Except Refusal (Db × Resumption) := do
  let order ← loadOrder db orderId
  if order.current.holdId ≠ staleHoldId then return (db, .refusal keyInFlight)
  else if !order.awaitsIntent then answerOf publicWebOrigin db seen order servedAt
  else do
    let (order, _) ← (order.fail ⟨some .soldOut, none⟩ now).commit
    let db ← db.saveOrder order
    return (db, .refusal .soldOut)

/-- What the provider said, applied forward only. -/
def applyIntent (db : Db) (seen : Unlocked) (order : SeatOrder) (intent : PaymentIntent)
    (now : Instant) (draw : PaymentDraw) :
    Except Refusal (Db × SeatOrder × Option PendingCounterMove) :=
  let record : PaymentIntentRecord := ⟨intent.ref, intent.clientSecret, intent.nextAction⟩
  match intent.status with
  | .succeeded => settleConfirmedPayment db seen order intent.ref now draw
  | .requiresAction => do
    let order ← recordWaitingIntent order record .awaitingAction now
    return (db, order, none)
  | .processing => do
    let order ← recordWaitingIntent order record .processing now
    return (db, order, none)
  | .declined => failUnpaidOrder db order ⟨some .paymentDeclined, intent.declineCode⟩ now

/-- The second transaction of a purchase: what the provider said, then the purchase's answer. The
date's counters move last. -/
def recordIntentIn (db : Db) (seen : Unlocked) (orderId : Uuid) (intent : PaymentIntent)
    (now servedAt : Instant) (draw : PaymentDraw) : Except Refusal (Db × Resumption) := do
  let order ← loadOrder db orderId
  let (db, order, pending) ← applyIntent db seen order intent now draw
  let db ← db.saveOrder order
  let (db, answer) ← answerOf publicWebOrigin db seen order servedAt
  return (runPending db pending, answer)

end

omit [OrderRules] [SalesRules] in
/-- The provider did not answer: the hold goes back, the order waits. -/
def releaseHoldOf (db : Db) (orderId : Uuid) (now : Instant) : Except Refusal Db := do
  let order ← loadOrder db orderId
  if !order.awaitsIntent then return db
  else
    match (db.holds.find? order.current.holdId).filter SeatHold.isActive with
    | none => return db
    | some hold => do
      let hold ← SeatHold.release hold
      let db ← db.saveHold hold
      return db.returnHeldSeats hold.dateId hold.quantity hold.poolSeats now

end Arthome.Ticketing
