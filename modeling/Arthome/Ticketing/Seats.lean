import Arthome.Ticketing.Payments

/-!
# A seat given up, a seat given back

A viewer cancels a seat before its deadline and is refunded its share, the seat
back on sale at once; the studio refunds a seat wholly or in part, and cancels it
only for a date's cancellation. Both owe a refund that a worker makes later, and
both read the date's outcome without a lock: a viewer's seat goes back on sale by
a statement that refuses a date cancelled since.
-/

namespace Arthome.Ticketing

open Arthome.Core Library

/-- The reasons an operator chooses from. -/
inductive StudioRefundReason where
  | dateCancelled
  | goodwill
  | duplicate
  | dispute
  deriving Repr, DecidableEq

def StudioRefundReason.reason : StudioRefundReason → RefundReason
  | .dateCancelled => .dateCancelled
  | .goodwill => .goodwill
  | .duplicate => .duplicate
  | .dispute => .dispute

/-- The studio's request: an amount, or the seat's share. -/
structure RefundSeatBody where
  refundReasonCode : StudioRefundReason
  partialAmountMinor : Option { amountMinor : ℤ // 1 ≤ amountMinor }

/-- The order a seat belongs to, and the account that bought it, read without a lock. -/
def seatOwnerOf (db : Db) (seatId : Uuid) : Option (Uuid × Option Uuid) :=
  (db.orders.rows.find? fun record => record.order.seats.any fun seat => seat.id = seatId).map
    fun record => (record.order.id, record.order.accountId)

def seatOf (order : SeatOrderSnapshot) (seatId : Uuid) : Except Refusal SeatSnapshot :=
  orRefuse (order.seats.find? fun seat => seat.id = seatId)
    (.error s!"order {order.id} holds no seat {seatId}")

section

variable [SalesRules]

/-- The seat's entry of its order's total split over its seats in id order, capped at what is left
to refund. -/
def seatShareWithin (order : SeatOrderSnapshot) (seatId : Uuid) (refundableLeft : Money) :
    Except Refusal Money := do
  let seatIds := (order.seats.map fun seat => seat.id).mergeSort fun a b => decide (a ≤ b)
  let share ← orRefuse
    ((SalesRules.seatSharesOf order.quote.total order.quantity)[seatIds.idxOf seatId]?)
    (.error s!"order {order.id} holds no seat {seatId}")
  SalesRules.min share refundableLeft

/-- For a refund that cancels its seat. -/
def seatCancelReasonFor (reason : RefundReason) : Except Refusal SeatCancelReason :=
  orRefuse (SalesRules.seatCancelReasonOf reason) (.error "a refund that cancels no seat")

/-- A seat as its viewer is shown it. -/
def ticketViewOf (order : SeatOrderSnapshot) (seatId : Uuid) : Except Refusal TicketView :=
  orRefuse ((ticketViewsOf order).find? fun ticket => ticket.seatId = seatId)
    (.error s!"order {order.id} holds no seat {seatId}")

variable [OrderRules]

/-- The seat's share, capped at what is left; nothing on a disputed order, whose money the provider
holds, nor once nothing is left. -/
def oweShare (order : SeatOrder) (seatId : Uuid) (reason : RefundReason) (refundId : Uuid)
    (now : Instant) : Except Refusal (SeatOrder × Option OrderRefund) :=
  if order.current.state = .disputed then return (order, none)
  else do
    let left ← order.refundableLeft
    let amount ← seatShareWithin order.current seatId left
    if amount.amountMinor = 0 then return (order, none)
    else do
      let (order, owed) ← (order.oweRefund
        { id := refundId
          amount
          reason
          idempotencyKey := OrderRules.refundIdempotencyKey refundId
          seatId := some seatId } now).commit
      return (order, some owed)

/-- A viewer's own seat, cancelled before its deadline and refunded its share. A cancelled date owes
its refund whatever the deadline says, and has no sale to return to. -/
def cancelSeat (db : Db) (seen : Unlocked) (seatId accountId : Uuid) (now : Instant)
    (refundId : Uuid) : Except Refusal (Db × TicketView) := do
  let (orderId, owner) ← orRefuse (seatOwnerOf seen.keys seatId) .notFound
  require (owner = some accountId) .notFound
  let order ← orRefuse (db.findOrder orderId) .notFound
  let seat ← seatOf order.current seatId
  let dateId := order.current.dateId
  let outcome := (seen.sales.sales.find? dateId).bind fun sales => sales.outcome
  let reason := SalesRules.refundReasonOnDate outcome .viewerRequest
  let onCancelledDate : Bool := reason = .dateCancelled
  SalesRules.assertSeatCancellable seat.state
    (if onCancelledDate then none else seat.cancelDeadline) now
  let (order, refund) ← oweShare order seatId reason refundId now
  let cancelReason ← seatCancelReasonFor reason
  let (order, _) ← (order.cancelSeats
    { reason := cancelReason
      refundId := refund.map fun refund => refund.id
      seats := [⟨seatId, refund.map fun refund => refund.amount⟩] } now).commit
  let db ← db.saveOrder order
  let ticket ← ticketViewOf order.current seatId
  if onCancelledDate then return (db, ticket)
  else do
    -- Refused by a cancellation committed since the read: the whole transaction runs again.
    let db ← orRefuse (db.releaseSoldSeats dateId 1) (.error "DateCancelledMeanwhile")
    return (db, ticket)

/-- The amount asked, else the seat's share capped at what is left; refused past what is left, and
when nothing is. -/
def amountToRefund (order : SeatOrder) (seatId : Uuid) (body : RefundSeatBody) :
    Except Refusal Money := do
  let left ← order.refundableLeft
  let amount ← match body.partialAmountMinor with
    | none => seatShareWithin order.current seatId left
    | some amountMinor => pure ⟨amountMinor.1, left.currencyCode⟩
  OrderRules.assertRefundWithinRemaining amount left
  require (amount.amountMinor ≠ 0) (.refundAmountExceedsRemaining 0 left.currencyCode)
  return amount

/-- The studio refunds an active seat, wholly or in part, never past what is left on its order. Only
`dateCancelled` cancels it, and only on a date a cancellation closed. -/
def refundSeat (db : Db) (seen : Unlocked) (seatId : Uuid) (body : RefundSeatBody) (now : Instant)
    (refundId : Uuid) : Except Refusal (Db × Money) := do
  let (orderId, _) ← orRefuse (seatOwnerOf seen.keys seatId) .notFound
  let order ← orRefuse (db.findOrder orderId) .notFound
  let seat ← seatOf order.current seatId
  require (seat.state = .active) (.seatNotActive seat.state)
  require (order.current.state ≠ .disputed) (.stateConflict order.current.version)
  let reason := body.refundReasonCode.reason
  if reason = .dateCancelled then do
    let sales ← orRefuse (seen.sales.sales.find? order.current.dateId)
      (.error s!"order {order.current.id} sold a date with no sale")
    require (sales.outcome = some .cancelled) (.stateConflict sales.version)
  else pure ()
  let amount ← amountToRefund order seatId body
  let (order, _) ← (order.oweRefund
    { id := refundId
      amount
      reason
      idempotencyKey := OrderRules.refundIdempotencyKey refundId
      seatId := some seatId } now).commit
  let order ← if SalesRules.refundCancelsSeat reason then do
      let cancelReason ← seatCancelReasonFor reason
      let (order, _) ← (order.cancelSeats
        { reason := cancelReason
          refundId := some refundId
          seats := [⟨seatId, some amount⟩] } now).commit
      pure order
    else pure order
  let db ← db.saveOrder order
  return (db, amount)

end

end Arthome.Ticketing
