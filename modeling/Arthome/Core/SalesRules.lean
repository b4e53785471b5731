import Arthome.Core.Vocabulary

/-!
# Core's rules for dates, holds, seats and waiting lists

The functions of `@arthome/core` that a date's sale calls. `SalesRules` is what
the code calls; `LawfulSalesRules` is the little of it the results rely on: a
tier widens the capacity, a hold carries its purchase's quantity and its intent's
expiry, a cancelled date names its own refund reason, no studio reason but a
cancelled date's gives a seat up, and a date an outcome ended lets nobody join its
waiting list. `LawfulSalesClock` says what it makes of two instants, and
`LawfulWaitlistRules` what it makes of an account that joins.
-/

namespace Arthome.Core

/-- The four lines of a quote. -/
structure QuoteLines where
  tierTotal : Money
  serviceFee : Money
  discount : Money
  total : Money
  deriving Repr, DecidableEq

structure ServiceFeeSchedule where
  perSeat : Money
  rateBps : ℕ
  deriving Repr, DecidableEq

/-- What a hold is placed with. -/
structure HoldTerms where
  quantity : ℕ
  expiresAt : Instant
  deriving Repr, DecidableEq

/-- What a join is decided from. -/
structure WaitlistJoin where
  publicSeatsAvailable : ℤ
  salesEndAt : Instant
  outcome : Option DateOutcome
  now : Instant
  deriving Repr, DecidableEq

/-- What core computes for a date's sale. -/
class SalesRules where
  isBefore : Instant → Instant → Bool
  salesEndedBy : Option Instant → Instant → Bool
  seatSalesEndAt : Instant → Instant
  seatCancelDeadline : Instant → Instant
  lateEntryOf : Option Instant → Instant → Option LateEntry
  priorityUntilOf : Instant → Instant
  isPriorityWindowOpen : Option Instant → Instant → Bool
  assertTierWidens : ℤ → ℤ → Except Refusal Unit
  assertTechnicalProvisionCovers : ℤ → Option ℤ → Option Instant → Except Refusal Unit
  assertTechnicalProvisionRecordable : ℤ → ℤ → Option Instant → Instant → Except Refusal Unit
  assertPricesShareCurrency : List TierPrice → Except Refusal Unit
  priceOfTier : List TierPrice → PriceTier → Option Money
  /-- The unit price, the quantity, the discount's basis points and the fee schedule. -/
  quoteSeats : Money → ℕ → ℕ → ServiceFeeSchedule → Except Refusal QuoteLines
  holdFor : ℕ → Instant → Except Refusal HoldTerms
  checkoutIntentExpiry : Instant → Instant
  paymentReturnPath : Uuid → String
  waitlistEntryMayMove : WaitlistEntryState → WaitlistEntryState → Bool
  waitlistStateOnJoin : Bool → WaitlistEntryState
  assertWaitlistJoinable : WaitlistJoin → Except Refusal Unit
  outcomeEndsWaitlist : DateOutcome → Bool
  refundReasonOnDate : Option DateOutcome → RefundReason → RefundReason
  refundCancelsSeat : RefundReason → Bool
  seatCancelReasonOf : RefundReason → Option SeatCancelReason
  assertSeatCancellable : SeatState → Option Instant → Instant → Except Refusal Unit
  seatSharesOf : Money → ℕ → List Money
  min : Money → Money → Except Refusal Money
  creditAmountFor : Money → Money
  refundDelayCodeOf : RefundMethod → Option String

/-- What the code relies on core for. -/
class LawfulSalesRules [SalesRules] : Prop where
  tier_widens (capacity widened : ℤ) :
    SalesRules.assertTierWidens capacity widened = .ok () → capacity < widened
  holdFor_ok (quantity : ℕ) (expiresAt : Instant) (terms : HoldTerms) :
    SalesRules.holdFor quantity expiresAt = .ok terms →
    terms = ⟨quantity, expiresAt⟩ ∧ 0 < quantity
  reason_on_cancelled (reason : RefundReason) :
    SalesRules.refundReasonOnDate (some .cancelled) reason = .dateCancelled
  reason_otherwise (outcome : Option DateOutcome) (reason : RefundReason) :
    outcome ≠ some .cancelled → SalesRules.refundReasonOnDate outcome reason = reason
  studio_keeps_seat (reason : RefundReason) :
    reason = .goodwill ∨ reason = .duplicate ∨ reason = .dispute →
    SalesRules.refundCancelsSeat reason = false
  cancelReason_viewer : SalesRules.seatCancelReasonOf .viewerRequest = some .viewerRequest
  cancelReason_date : SalesRules.seatCancelReasonOf .dateCancelled = some .dateCancelled
  joinable_open (join : WaitlistJoin) : SalesRules.assertWaitlistJoinable join = .ok () →
    join.outcome ≠ some .cancelled ∧ join.outcome ≠ some .interrupted
  min_same (a b : Money) : a.currencyCode = b.currencyCode →
    SalesRules.min a b = .ok (if a.amountMinor ≤ b.amountMinor then a else b)

/-- Core's instants are ordered, and a sale has ended from its end on. -/
class LawfulSalesClock [SalesRules] : Prop where
  isBefore_iff (a b : Instant) : SalesRules.isBefore a b = true ↔ a < b
  never_ended (now : Instant) : SalesRules.salesEndedBy none now = false
  ended_iff (salesEndAt now : Instant) :
    SalesRules.salesEndedBy (some salesEndAt) now = true ↔ salesEndAt ≤ now

/-- An account joins into the window open to it, or waits; no window is open where none was. -/
class LawfulWaitlistRules [SalesRules] : Prop where
  state_on_join (windowOpen : Bool) :
    SalesRules.waitlistStateOnJoin windowOpen = if windowOpen then .notified else .waiting
  window_until (priorityUntil : Option Instant) (now : Instant) :
    SalesRules.isPriorityWindowOpen priorityUntil now = true → priorityUntil.isSome

end Arthome.Core
