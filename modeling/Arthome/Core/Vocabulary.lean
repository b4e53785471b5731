import Mathlib.Data.Int.Order.Basic

/-!
# The shared vocabulary

The enumerations and values every service shares through the `@arthome/core`
package. Only their members and fields appear in this repository; what core
computes with them is the interface of `Arthome.Core.Rules`.

An instant is its number of milliseconds, an entity's id the number its UUID
spells, an amount of money a number of minor units in a named currency.
-/

namespace Arthome.Core

/-- Milliseconds since the epoch. -/
abbrev Instant := ℤ

/-- An entity's UUID; the code only compares them. -/
abbrev Uuid := ℕ

structure Money where
  amountMinor : ℤ
  currencyCode : String
  deriving Repr, DecidableEq

inductive OrderState where
  | pending
  | awaitingAction
  | processing
  | failed
  | paid
  | partiallyRefunded
  | refunded
  | disputed
  deriving Repr, DecidableEq

/-- The state as error texts spell it. -/
def OrderState.text : OrderState → String
  | .pending => "pending"
  | .awaitingAction => "awaiting_action"
  | .processing => "processing"
  | .failed => "failed"
  | .paid => "paid"
  | .partiallyRefunded => "partially_refunded"
  | .refunded => "refunded"
  | .disputed => "disputed"

inductive SeatState where
  | active
  | cancelled
  | refunded
  | credited
  deriving Repr, DecidableEq

inductive SeatHoldState where
  | active
  | consumed
  | released
  | expired
  deriving Repr, DecidableEq

inductive SeatHoldOrigin where
  | checkout
  deriving Repr, DecidableEq

inductive DateOutcome where
  | postponed
  | cancelled
  | interrupted
  deriving Repr, DecidableEq

inductive RefundReason where
  | viewerRequest
  | dateCancelled
  | holdExpiredCapacityLost
  | goodwill
  | duplicate
  | dispute
  | accountDeletion
  deriving Repr, DecidableEq

inductive SeatCancelReason where
  | viewerRequest
  | dateCancelled
  | accountDeletion
  deriving Repr, DecidableEq

inductive WaitlistEntryState where
  | waiting
  | notified
  | converted
  | left
  | lapsed
  | closed
  deriving Repr, DecidableEq

inductive PriceTier where
  | full
  | reduced
  | support
  deriving Repr, DecidableEq

/-- What the provider says of an intent just created. -/
inductive IntentStatus where
  | succeeded
  | requiresAction
  | processing
  | declined
  deriving Repr, DecidableEq

/-- What the provider's webhooks tell. -/
inductive PaymentEventKind where
  | intentSucceeded
  | intentRequiresAction
  | intentProcessing
  | intentFailed
  | intentCancelled
  | refundSucceeded
  | disputeOpened
  | unhandled
  deriving Repr, DecidableEq

inductive RefundMethod where
  | originalPaymentMethod
  | accountCredit
  deriving Repr, DecidableEq

/-- What a date sells a tier at, while the tier is active. -/
structure TierPrice where
  tier : PriceTier
  amount : Money
  active : Bool
  deriving Repr, DecidableEq

/-- What a buyer arriving after the start is told. -/
structure LateEntry where
  startedAt : Instant
  minutesElapsed : ℕ
  salesEndAt : Instant
  deriving Repr, DecidableEq

/-- The order error codes this service writes on an order or answers with. -/
inductive OrderErrorCode where
  | seatNotActive
  | soldOut
  | salesClosed
  | paymentDeclined
  | priceStale
  | tierUnavailable
  | lateEntryUnacknowledged
  | refundAmountExceedsRemaining
  deriving Repr, DecidableEq

/-- Why a call was refused: a coded domain error with its parameters, or a plain error's text. -/
inductive Refusal where
  | seatNotActive (state : SeatState)
  | soldOut
  | salesClosed (salesEndAt : Instant)
  | priceStale (expected current : Money)
  | tierUnavailable
  | lateEntryUnacknowledged (lateEntry : LateEntry)
  | holdQuantityInvalid (quantity : ℤ)
  | stateConflict (currentVersion : ℕ)
  | pricesLocked (lockedAt : Instant)
  | outcomeFinal (outcome : DateOutcome)
  | paymentDeclined (declineCode : Option String)
  | keyReused
  | keyInFlight (retryAfterMs : ℕ)
  | paymentUnavailable
  | notFound
  | refundAmountExceedsRemaining (remainingMinor : ℤ) (currencyCode : String)
  | core (code : String)
  | error (message : String)
  deriving Repr, DecidableEq

end Arthome.Core
