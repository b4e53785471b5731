import Arthome.Core.SalesRules
import Arthome.Ticketing.SeatOrder

/-!
# What a purchase answers

The views an order is served as: its tickets, its own card, and the handoff to
the provider while it waits for its buyer. The first answer a purchase gives is
kept with its order and served again to every replay.
-/

namespace Arthome.Ticketing

open Arthome.Core

/-- What the viewer gets back, and where. -/
structure TicketRefundView where
  amount : Money
  delayCode : Option String
  method : RefundMethod
  refundReasonCode : Option RefundReason
  deriving Repr, DecidableEq

structure TicketView where
  seatId : Uuid
  dateId : Uuid
  orderId : Uuid
  seatCode : String
  tier : PriceTier
  state : SeatState
  cancelDeadline : Option Instant
  refund : Option TicketRefundView
  deriving Repr, DecidableEq

structure OrderView where
  id : Uuid
  reference : String
  channelId : Uuid
  state : OrderState
  total : Money
  placedAt : Instant
  refundReasonCode : Option RefundReason
  deriving Repr, DecidableEq

/-- What the buyer pays with: its expiry is the hold's. -/
structure PaymentHandoffView where
  orderId : Uuid
  state : OrderState
  paymentIntentRef : String
  clientSecret : String
  nextAction : Option NextAction
  returnUrl : String
  expiresAt : Instant
  deriving Repr, DecidableEq

inductive PurchaseStatus where
  | paid
  | awaitingPayment
  deriving Repr, DecidableEq

inductive PurchaseData where
  | seats (tickets : List TicketView) (order : OrderView)
  | handoff (handoff : PaymentHandoffView)
  deriving Repr, DecidableEq

structure StoredAnswer where
  status : PurchaseStatus
  servedAt : Instant
  data : PurchaseData
  deriving Repr, DecidableEq

/-- The refund made last. -/
def latestRefundMade (order : SeatOrderSnapshot) : Option OrderRefund :=
  (order.refunds.filter fun r => r.refundedAt.isSome).foldl
    (fun latest refund =>
      match latest with
      | none => some refund
      | some latest =>
        if latest.refundedAt.getD 0 < refund.refundedAt.getD 0 then some refund else some latest)
    none

def orderViewOf (order : SeatOrderSnapshot) : OrderView where
  id := order.id
  reference := order.reference
  channelId := order.channelId
  state := order.state
  total := order.quote.total
  placedAt := order.placedAt
  refundReasonCode :=
    if order.state = .refunded ∨ order.state = .partiallyRefunded then
      (latestRefundMade order).map fun refund => refund.reason
    else none

/-- Nothing while active, and once cancelled with nothing given back; a credit's share. -/
def ticketRefundOf [SalesRules] (seat : SeatSnapshot) (refunds : List OrderRefund) :
    Option TicketRefundView :=
  match seat.state, seat.creditAmount with
  | .credited, some creditAmount => some
    { amount := creditAmount
      delayCode := SalesRules.refundDelayCodeOf .accountCredit
      method := .accountCredit
      refundReasonCode := none }
  | _, _ => do
    let refund ← refunds.find? fun r => some r.id = seat.refundId
    let amount ← seat.refundAmount
    return {
      amount
      delayCode := SalesRules.refundDelayCodeOf .originalPaymentMethod
      method := .originalPaymentMethod
      refundReasonCode := some refund.reason }

/-- In the order of their codes, as every read serves them. -/
def ticketViewsOf [SalesRules] (order : SeatOrderSnapshot) : List TicketView :=
  (order.seats.mergeSort fun a b => decide (a.code ≤ b.code)).map fun seat =>
    { seatId := seat.id
      dateId := order.dateId
      orderId := order.id
      seatCode := seat.code
      tier := seat.tier
      state := seat.state
      cancelDeadline := seat.cancelDeadline
      refund := ticketRefundOf seat order.refunds }

/-- Nothing once the order stopped waiting for the buyer, or for an intent that carries no secret. -/
def handoffOf (order : SeatOrderSnapshot) (returnUrl : String) : Option PaymentHandoffView := do
  let intent ← order.intent
  let clientSecret ← intent.clientSecret
  if order.state ∈ orderStatesAwaitingPayment then
    some {
      orderId := order.id
      state := order.state
      paymentIntentRef := intent.ref
      clientSecret
      nextAction := intent.nextAction
      returnUrl
      expiresAt := order.expiresAt }
  else none

/-- What a purchase whose order ended without seats answers, first time or replayed. -/
def refusalOfUnpaid (order : SeatOrderSnapshot) (salesEndAt : Option Instant) : Refusal :=
  match order.failure with
  | none => .soldOut
  | some failure =>
    if failure.code = some .paymentDeclined then .paymentDeclined failure.declineCode
    else
      match salesEndAt with
      | some salesEndAt => if failure.code = some .salesClosed then .salesClosed salesEndAt else .soldOut
      | none => .soldOut

end Arthome.Ticketing
