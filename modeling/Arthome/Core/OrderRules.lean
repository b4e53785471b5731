import Arthome.Core.Vocabulary
import Mathlib.Algebra.BigOperators.Group.List.Basic
import Mathlib.Algebra.Ring.Int.Defs

/-!
# Core's rules for orders and money

The functions of `@arthome/core` that orders, seats and refunds call. Their code
is not in this repository, so they are parameters: `OrderRules` is what the
code calls, `LawfulOrderRules` what it relies on. Amounts are compared and summed
in one currency, and mixing two is refused. An order's states are passed in one
direction. A refund is bounded by what remains. Nothing else is assumed.
-/

namespace Arthome.Core

/-- What core computes for an order, its seats and its refunds. -/
class OrderRules where
  /-- Positive, zero or negative as the first amount is above, at or below the second. -/
  compare : Money → Money → Except Refusal ℤ
  sum : List Money → String → Except Refusal Money
  subtract : Money → Money → Except Refusal Money
  refundableRemaining : Money → Money → Except Refusal Money
  assertRefundWithinRemaining : Money → Money → Except Refusal Unit
  refundIdempotencyKey : Uuid → String
  orderStateMovesForward : OrderState → OrderState → Bool
  seatStateMayMove : SeatState → SeatState → Bool

/-- The place of a state in the order states are passed in. -/
def OrderState.rank : OrderState → ℕ
  | .pending => 0
  | .awaitingAction => 1
  | .processing => 2
  | .failed => 3
  | .paid => 4
  | .partiallyRefunded => 5
  | .refunded => 6
  | .disputed => 7

/-- The amounts' total, whatever their currencies. -/
def minorSum (ms : List Money) : ℤ := (ms.map Money.amountMinor).sum

@[simp] theorem minorSum_nil : minorSum [] = 0 := rfl

@[simp] theorem minorSum_cons (m : Money) (ms : List Money) :
    minorSum (m :: ms) = m.amountMinor + minorSum ms := by simp [minorSum]

@[simp] theorem minorSum_append (ms ns : List Money) :
    minorSum (ms ++ ns) = minorSum ms + minorSum ns := by simp [minorSum]

/-- What the code relies on core for. -/
class LawfulOrderRules [OrderRules] : Prop where
  compare_same (a b : Money) : a.currencyCode = b.currencyCode →
    ∃ n, OrderRules.compare a b = .ok n ∧ (0 < n ↔ b.amountMinor < a.amountMinor) ∧
      (n < 0 ↔ a.amountMinor < b.amountMinor)
  sum_same (ms : List Money) (c : String) : (∀ m ∈ ms, m.currencyCode = c) →
    OrderRules.sum ms c = .ok ⟨minorSum ms, c⟩
  sum_mixed (ms : List Money) (c : String) : (∃ m ∈ ms, m.currencyCode ≠ c) →
    ∃ e, OrderRules.sum ms c = .error e
  subtract_same (a b : Money) : a.currencyCode = b.currencyCode →
    OrderRules.subtract a b = .ok ⟨a.amountMinor - b.amountMinor, a.currencyCode⟩
  refundableRemaining_same (total refunded : Money) :
    total.currencyCode = refunded.currencyCode → refunded.amountMinor ≤ total.amountMinor →
    OrderRules.refundableRemaining total refunded =
      .ok ⟨total.amountMinor - refunded.amountMinor, total.currencyCode⟩
  refundableRemaining_currency (total refunded left : Money) :
    OrderRules.refundableRemaining total refunded = .ok left →
    left.currencyCode = total.currencyCode
  within_of_assert (amount left : Money) :
    OrderRules.assertRefundWithinRemaining amount left = .ok () →
    amount.currencyCode = left.currencyCode ∧ amount.amountMinor ≤ left.amountMinor
  assert_of_within (amount left : Money) : amount.currencyCode = left.currencyCode →
    0 ≤ amount.amountMinor → amount.amountMinor ≤ left.amountMinor →
    OrderRules.assertRefundWithinRemaining amount left = .ok ()
  movesForward_iff (a b : OrderState) :
    OrderRules.orderStateMovesForward a b = true ↔ a.rank < b.rank
  mayCancel_iff (s : SeatState) : OrderRules.seatStateMayMove s .cancelled = true ↔ s = .active
  mayCredit_iff (s : SeatState) : OrderRules.seatStateMayMove s .credited = true ↔ s = .active
  mayRefund_iff (s : SeatState) :
    OrderRules.seatStateMayMove s .refunded = true ↔ s = .cancelled

end Arthome.Core
