import Arthome.Core.OrderRules
import Arthome.Core.SalesRules

/-!
# One lawful core

A concrete core that behaves as the laws say, so that the results that assume
them are about something, and so that a run can be computed.
-/

namespace Arthome.Core.Sample

/-- What core answers for two amounts in different currencies. -/
def currencyMismatch : Refusal := .core "money.currency_mismatch"

scoped instance orderRules : OrderRules where
  compare a b :=
    if a.currencyCode = b.currencyCode then .ok (a.amountMinor - b.amountMinor)
    else .error currencyMismatch
  sum ms c :=
    if ∀ m ∈ ms, m.currencyCode = c then .ok ⟨minorSum ms, c⟩ else .error currencyMismatch
  subtract a b :=
    if a.currencyCode = b.currencyCode then
      .ok ⟨a.amountMinor - b.amountMinor, a.currencyCode⟩
    else .error currencyMismatch
  refundableRemaining total refunded :=
    if total.currencyCode = refunded.currencyCode then
      .ok ⟨total.amountMinor - refunded.amountMinor, total.currencyCode⟩
    else .error currencyMismatch
  assertRefundWithinRemaining amount left :=
    if amount.currencyCode = left.currencyCode then
      if amount.amountMinor ≤ left.amountMinor then .ok ()
      else .error (.core "order.refund_amount_exceeds_remaining")
    else .error currencyMismatch
  refundIdempotencyKey id := s!"refund:{id}"
  orderStateMovesForward a b := decide (a.rank < b.rank)
  seatStateMayMove a b :=
    match b with
    | .cancelled => decide (a = .active)
    | .credited => decide (a = .active)
    | .refunded => decide (a = .cancelled)
    | .active => false

scoped instance lawfulOrderRules : LawfulOrderRules where
  compare_same a b h := by
    refine ⟨a.amountMinor - b.amountMinor, ?_, ?_, ?_⟩
    · simp [OrderRules.compare, h]
    · omega
    · omega
  sum_same ms c h := by simp only [OrderRules.sum]; rw [if_pos h]
  sum_mixed ms c h := by
    refine ⟨currencyMismatch, ?_⟩
    simp only [OrderRules.sum]
    rw [if_neg]
    push Not
    exact h
  subtract_same a b h := by simp [OrderRules.subtract, h]
  refundableRemaining_same total refunded h _ := by simp [OrderRules.refundableRemaining, h]
  refundableRemaining_currency total refunded left h := by
    simp only [OrderRules.refundableRemaining] at h
    split_ifs at h
    rw [← Except.ok.inj h]
  within_of_assert amount left h := by
    simp only [OrderRules.assertRefundWithinRemaining] at h
    split_ifs at h with hcurrency hle
    exact ⟨hcurrency, hle⟩
  assert_of_within amount left h _ hle := by
    simp [OrderRules.assertRefundWithinRemaining, h, hle]
  movesForward_iff a b := by simp [OrderRules.orderStateMovesForward]
  mayCancel_iff s := by simp [OrderRules.seatStateMayMove]
  mayCredit_iff s := by simp [OrderRules.seatStateMayMove]
  mayRefund_iff s := by simp [OrderRules.seatStateMayMove]

/-- The shares of a total split over seats, the remainder on the first. -/
def sharesOf (total : Money) (seats : ℕ) : List Money :=
  (List.range seats).map fun i =>
    ⟨total.amountMinor / seats + if i = 0 then total.amountMinor % seats else 0,
      total.currencyCode⟩

scoped instance salesRules : SalesRules where
  isBefore a b := decide (a < b)
  salesEndedBy endAt now := endAt.any fun endAt => decide (endAt ≤ now)
  seatSalesEndAt startsAt := startsAt + 1800
  seatCancelDeadline startsAt := startsAt - 3600
  lateEntryOf startsAt now := startsAt.bind fun startsAt =>
    if startsAt ≤ now then some ⟨startsAt, ((now - startsAt) / 60).toNat, startsAt + 1800⟩ else none
  priorityUntilOf now := now + 86400
  isPriorityWindowOpen priorityUntil now := priorityUntil.any fun endAt => decide (now < endAt)
  assertTierWidens capacity widened :=
    if capacity < widened then .ok () else .error (.core "capacity.not_widened")
  assertTechnicalProvisionCovers _ _ _ := .ok ()
  assertTechnicalProvisionRecordable _ _ _ _ := .ok ()
  assertPricesShareCurrency tiers :=
    if ∀ a ∈ tiers, ∀ b ∈ tiers, a.amount.currencyCode = b.amount.currencyCode then .ok ()
    else .error currencyMismatch
  priceOfTier tiers tier := (tiers.find? fun t => t.active && t.tier = tier).map TierPrice.amount
  quoteSeats unit quantity _ _ := .ok
    { tierTotal := ⟨unit.amountMinor * quantity, unit.currencyCode⟩
      serviceFee := ⟨0, unit.currencyCode⟩
      discount := ⟨0, unit.currencyCode⟩
      total := ⟨unit.amountMinor * quantity, unit.currencyCode⟩ }
  holdFor quantity expiresAt :=
    if 0 < quantity then .ok ⟨quantity, expiresAt⟩ else .error (.holdQuantityInvalid quantity)
  checkoutIntentExpiry now := now + 900
  paymentReturnPath id := s!"/orders/{id}/return"
  waitlistEntryMayMove a b :=
    match a, b with
    | .waiting, .notified | .waiting, .left | .waiting, .closed => true
    | .notified, .notified | .notified, .left | .notified, .closed => true
    | .notified, .converted | .notified, .lapsed => true
    | .left, .waiting | .left, .notified | .lapsed, .waiting | .lapsed, .notified => true
    | .converted, .waiting | .converted, .notified => true
    | _, _ => false
  waitlistStateOnJoin windowOpen := if windowOpen then .notified else .waiting
  assertWaitlistJoinable join :=
    if join.salesEndAt ≤ join.now ∨ join.outcome = some .cancelled ∨
        join.outcome = some .interrupted then .error (.salesClosed join.salesEndAt)
    else if 0 < join.publicSeatsAvailable then .error (.core "waitlist.not_sold_out")
    else .ok ()
  outcomeEndsWaitlist outcome := decide (outcome = .cancelled ∨ outcome = .interrupted)
  refundReasonOnDate outcome reason := if outcome = some .cancelled then .dateCancelled else reason
  refundCancelsSeat reason := decide (reason = .viewerRequest ∨ reason = .dateCancelled)
  seatCancelReasonOf reason :=
    match reason with
    | .viewerRequest => some .viewerRequest
    | .dateCancelled => some .dateCancelled
    | .accountDeletion => some .accountDeletion
    | _ => none
  assertSeatCancellable state deadline now :=
    if state ≠ .active then .error (.seatNotActive state)
    else if deadline.any fun deadline => decide (deadline ≤ now) then
      .error (.core "seat.cancel_deadline_passed")
    else .ok ()
  seatSharesOf := sharesOf
  min a b :=
    if a.currencyCode = b.currencyCode then .ok (if a.amountMinor ≤ b.amountMinor then a else b)
    else .error currencyMismatch
  creditAmountFor amount := amount
  refundDelayCodeOf _ := none

scoped instance lawfulSalesRules : LawfulSalesRules where
  tier_widens capacity widened h := by
    simp only [SalesRules.assertTierWidens] at h
    split_ifs at h with hlt
    exact hlt
  holdFor_ok quantity expiresAt terms h := by
    simp only [SalesRules.holdFor] at h
    split_ifs at h with hpos
    exact ⟨(Except.ok.inj h).symm, hpos⟩
  reason_on_cancelled reason := by simp [SalesRules.refundReasonOnDate]
  reason_otherwise outcome reason h := by simp [SalesRules.refundReasonOnDate, h]
  studio_keeps_seat reason h := by
    rcases h with rfl | rfl | rfl <;> simp [SalesRules.refundCancelsSeat]
  cancelReason_viewer := rfl
  cancelReason_date := rfl
  joinable_open join h := by
    simp only [SalesRules.assertWaitlistJoinable] at h
    split_ifs at h with hclosed
    push Not at hclosed
    exact hclosed.2
  min_same a b h := by simp [SalesRules.min, h]

scoped instance lawfulSalesClock : LawfulSalesClock where
  isBefore_iff a b := by simp [SalesRules.isBefore]
  never_ended now := rfl
  ended_iff salesEndAt now := by simp [SalesRules.salesEndedBy]

scoped instance lawfulWaitlistRules : LawfulWaitlistRules where
  state_on_join windowOpen := rfl
  window_until priorityUntil now h := by
    cases priorityUntil with
    | none => cases h
    | some endAt => rfl

end Arthome.Core.Sample
