import Arthome.Library.Machine
import Arthome.Library.Table
import Arthome.Ticketing.SeatOrderChanges

/-!
# The refund ledger of an order

An order's refunds are owed one by one and made in any order, each shared over
the seats it gives back. The ledger is kept when no more is ever owed than was
paid, no seat is given a share past its refund, a seat is refunded exactly with
the refund that cancelled it, and the order reads as refunded exactly when the
refunds made add up to its total. `Ledger` is that invariant, in the terms of
one snapshot; every change an operation can make preserves it, the two that
draw on what the callers promise included: the seats a payment issues are
distinct, and a cancellation names a refund only with the call that owes it.
-/

namespace Arthome.Ticketing

open Arthome.Core Library

/-- The amounts of refunds, made or not. -/
def amountsOf (refunds : List OrderRefund) : List Money := refunds.map fun r => r.amount

/-- The refund of that id was made. -/
def Made (refunds : List OrderRefund) (id : Uuid) : Prop :=
  ∃ r ∈ refunds, r.id = id ∧ r.refundedAt.isSome = true

/-- What a seat was given of a refund. -/
def shareOf (refundId : Uuid) (seat : SeatSnapshot) : ℤ :=
  if seat.refundId = some refundId then (seat.refundAmount.map Money.amountMinor).getD 0 else 0

/-- One seat, against the refunds of its order. -/
structure SeatKept (s : SeatOrderSnapshot) (seat : SeatSnapshot) : Prop where
  active_iff : seat.state = .active ↔ seat.endedAt = none
  cancelled_iff : seat.cancelReason.isSome = true ↔
    seat.state = .cancelled ∨ seat.state = .refunded
  refunded_iff : seat.state = .refunded ↔
    ∃ id, seat.refundId = some id ∧ Made s.refunds id
  named : ∀ id, seat.refundId = some id →
    (seat.state = .cancelled ∨ seat.state = .refunded) ∧ ∃ r ∈ s.refunds, r.id = id
  share : ∀ m, seat.refundAmount = some m →
    0 < m.amountMinor ∧ m.currencyCode = s.quote.total.currencyCode ∧ seat.refundId ≠ none


/-- The ledger of refunds, kept. -/
structure Ledger (s : SeatOrderSnapshot) : Prop where
  total : 0 ≤ s.quote.total.amountMinor
  currency : ∀ r ∈ s.refunds, r.amount.currencyCode = s.quote.total.currencyCode
  nonneg : ∀ r ∈ s.refunds, 0 ≤ r.amount.amountMinor
  bounded : minorSum (amountsOf s.refunds) ≤ s.quote.total.amountMinor
  refundIds : (s.refunds.map fun r => r.id).Nodup
  seatIds : (s.seats.map fun seat => seat.id).Nodup
  unpaid : s.state.rank < OrderState.paid.rank → s.seats = [] ∧
    (s.refunds = [] ∨ ∃ r, s.refunds = [r] ∧ r.amount = s.quote.total ∧ r.refundedAt = none)
  seats : ∀ seat ∈ s.seats, SeatKept s seat
  shares : ∀ r ∈ s.refunds, (s.seats.map (shareOf r.id)).sum ≤ r.amount.amountMinor
  paid : s.state = .paid → SeatOrder.madeOf s.refunds = []
  partly : s.state = .partiallyRefunded → SeatOrder.madeOf s.refunds ≠ [] ∧
    minorSum (amountsOf (SeatOrder.madeOf s.refunds)) < s.quote.total.amountMinor
  wholly : s.state = .refunded → SeatOrder.madeOf s.refunds ≠ [] ∧
    minorSum (amountsOf (SeatOrder.madeOf s.refunds)) = s.quote.total.amountMinor

section Amounts

@[simp] theorem amountsOf_append (rs qs : List OrderRefund) :
    amountsOf (rs ++ qs) = amountsOf rs ++ amountsOf qs := by simp [amountsOf]

theorem minorSum_heldAlready (seats : List SeatSnapshot) (id : Uuid) :
    minorSum (SeatOrder.heldAlready seats (some id)) = (seats.map (shareOf id)).sum := by
  induction seats with
  | nil => rfl
  | cons seat seats ih =>
      simp only [SeatOrder.heldAlready, List.filterMap_cons, List.map_cons, List.sum_cons,
        shareOf] at ih ⊢
      split_ifs with h
      · cases seat.refundAmount <;> simp [ih]
      · simp [ih]

/-- Amounts that are not negative sum to no less than those of a sublist. -/
theorem minorSum_madeOf_le (rs : List OrderRefund) (h : ∀ r ∈ rs, 0 ≤ r.amount.amountMinor) :
    minorSum (amountsOf (SeatOrder.madeOf rs)) ≤ minorSum (amountsOf rs) := by
  induction rs with
  | nil => rfl
  | cons r rs ih =>
      rw [List.forall_mem_cons] at h
      have hrest := ih h.2
      simp only [SeatOrder.madeOf, amountsOf, List.filter_cons, List.map_cons,
        minorSum_cons] at hrest ⊢
      split_ifs
      · simpa using hrest
      · linarith [h.1]

variable (rs : List OrderRefund) (id : Uuid) (ref : String) (now : Instant)

@[simp] theorem refundsWithMade_ids :
    (SeatOrder.refundsWithMade rs id ref now).map (fun r => r.id) = rs.map fun r => r.id := by
  simp only [SeatOrder.refundsWithMade, List.map_map]
  exact List.map_congr_left fun r _ => by simp only [Function.comp]; split_ifs <;> rfl

@[simp] theorem amountsOf_refundsWithMade :
    amountsOf (SeatOrder.refundsWithMade rs id ref now) = amountsOf rs := by
  simp only [SeatOrder.refundsWithMade, amountsOf, List.map_map]
  exact List.map_congr_left fun r _ => by simp only [Function.comp]; split_ifs <;> rfl

theorem mem_refundsWithMade {r' : OrderRefund} :
    r' ∈ SeatOrder.refundsWithMade rs id ref now ↔ ∃ r ∈ rs, r' =
      if r.id = id then { r with ref := some ref, refundedAt := some now } else r := by
  simp only [SeatOrder.refundsWithMade, List.mem_map]
  exact exists_congr fun r => and_congr_right fun _ => eq_comm

theorem made_refundsWithMade {j : Uuid} :
    Made (SeatOrder.refundsWithMade rs id ref now) j ↔
      Made rs j ∨ j = id ∧ ∃ r ∈ rs, r.id = id := by
  constructor
  · rintro ⟨r', hr', hid, hmade⟩
    obtain ⟨r, hr, rfl⟩ := (mem_refundsWithMade rs id ref now).mp hr'
    split_ifs at hid hmade with h
    · exact .inr ⟨hid.symm.trans h, r, hr, h⟩
    · exact .inl ⟨r, hr, hid, hmade⟩
  · rintro (⟨r, hr, hid, hmade⟩ | ⟨rfl, r, hr, hid⟩)
    · refine ⟨_, (mem_refundsWithMade rs id ref now).mpr ⟨r, hr, rfl⟩, ?_, ?_⟩ <;>
        split_ifs <;> simp [hid, hmade]
    · refine ⟨_, (mem_refundsWithMade rs j ref now).mpr ⟨r, hr, rfl⟩, ?_, ?_⟩ <;>
        simp [hid]

theorem madeOf_eq_nil_iff {rs : List OrderRefund} :
    SeatOrder.madeOf rs = [] ↔ ∀ r ∈ rs, r.refundedAt = none := by
  simp [SeatOrder.madeOf, List.filter_eq_nil_iff]

/-- Marking a refund made adds to the refunds made, if anything. -/
theorem minorSum_madeOf_le_refundsWithMade (rs : List OrderRefund) (id : Uuid) (ref : String)
    (now : Instant) (h : ∀ r ∈ rs, 0 ≤ r.amount.amountMinor) :
    minorSum (amountsOf (SeatOrder.madeOf rs)) ≤
      minorSum (amountsOf (SeatOrder.madeOf (SeatOrder.refundsWithMade rs id ref now))) := by
  induction rs with
  | nil => rfl
  | cons r rs ih =>
      rw [List.forall_mem_cons] at h
      have hrest := ih h.2
      simp only [SeatOrder.madeOf, SeatOrder.refundsWithMade, amountsOf, List.filter_cons,
        List.map_cons] at hrest ⊢
      by_cases hid : r.id = id <;> by_cases hmade : r.refundedAt.isSome = true <;>
        simp only [hid, hmade, if_true, if_false, Option.isSome_some, List.map_cons,
          minorSum_cons, Bool.false_eq_true] <;> linarith [h.1]

end Amounts

section Quiet

variable {s s' : SeatOrderSnapshot}

/-- Changes that leave the refunds, the seats and the total alone keep the ledger when they leave
the state, stay among the unpaid states, or open a dispute. -/
theorem Ledger.quiet (h : Ledger s) (htotal : s'.quote.total = s.quote.total)
    (hrefunds : s'.refunds = s.refunds) (hseats : s'.seats = s.seats)
    (hstate : s'.state = s.state ∨ s'.state = .disputed ∨
      s.state.rank < OrderState.paid.rank ∧ s'.state.rank < OrderState.paid.rank) :
    Ledger s' where
  total := htotal ▸ h.total
  currency := by
    rw [htotal, hrefunds]
    exact h.currency
  nonneg := by
    rw [hrefunds]
    exact h.nonneg
  bounded := by
    rw [htotal, hrefunds]
    exact h.bounded
  refundIds := by
    rw [hrefunds]
    exact h.refundIds
  seatIds := by
    rw [hseats]
    exact h.seatIds
  unpaid hunpaid := by
    rw [hseats, hrefunds, htotal]
    refine h.unpaid ?_
    rcases hstate with hs | hs | hs
    · rwa [hs] at hunpaid
    · rw [hs] at hunpaid
      exact absurd hunpaid (by decide)
    · exact hs.1
  seats seat hseat := by
    rw [hseats] at hseat
    obtain ⟨hactive, hcancelled, hrefunded, hnamed, hshare⟩ := h.seats seat hseat
    refine ⟨hactive, hcancelled, ?_, ?_, ?_⟩
    · rwa [hrefunds]
    · rwa [hrefunds]
    · rwa [htotal]
  shares := by
    rw [hrefunds, hseats]
    exact h.shares
  paid hpaid := by
    rw [hrefunds]
    rcases hstate with hs | hs | hs
    · exact h.paid (hs ▸ hpaid)
    · exact absurd (hs.symm.trans hpaid) (by decide)
    · rw [hpaid] at hs
      exact absurd hs.2 (by decide)
  partly hpartly := by
    rw [hrefunds, htotal]
    rcases hstate with hs | hs | hs
    · exact h.partly (hs ▸ hpartly)
    · exact absurd (hs.symm.trans hpartly) (by decide)
    · rw [hpartly] at hs
      exact absurd hs.2 (by decide)
  wholly hwholly := by
    rw [hrefunds, htotal]
    rcases hstate with hs | hs | hs
    · exact h.wholly (hs ▸ hwholly)
    · exact absurd (hs.symm.trans hwholly) (by decide)
    · rw [hwholly] at hs
      exact absurd hs.2 (by decide)

end Quiet

section Steps

variable [OrderRules] [LawfulOrderRules] {s : SeatOrderSnapshot}

theorem SeatOrderSnapshot.AcceptsPayment.unpaid (h : s.AcceptsPayment) :
    s.state.rank < OrderState.paid.rank :=
  (LawfulOrderRules.movesForward_iff _ _).mp h.2

omit [OrderRules] [LawfulOrderRules] in
theorem SeatOrderSnapshot.AwaitsPayment.rank_lt (h : s.AwaitsPayment) :
    s.state.rank < OrderState.failed.rank := by
  simp only [SeatOrderSnapshot.AwaitsPayment, orderStatesAwaitingPayment, List.mem_cons,
    List.not_mem_nil, or_false] at h
  rcases h with h | h | h <;> rw [h] <;> decide

omit [OrderRules] [LawfulOrderRules] in
theorem SeatOrderSnapshot.AwaitsPayment.ne_failed (h : s.AwaitsPayment) : s.state ≠ .failed := by
  intro hfailed
  have hlt := h.rank_lt
  rw [hfailed] at hlt
  exact lt_irrefl _ hlt

omit [OrderRules] [LawfulOrderRules] in
theorem owing_state (h : s.state ∈ statesOwingRefunds) :
    s.state = .paid ∨ s.state = .partiallyRefunded := by
  simpa [statesOwingRefunds] using h

/-- What is left to refund is the total less every refund owed. -/
theorem refundableLeft_eq (hcurrency : ∀ r ∈ s.refunds,
      r.amount.currencyCode = s.quote.total.currencyCode)
    (hbounded : minorSum (amountsOf s.refunds) ≤ s.quote.total.amountMinor) :
    (SeatOrder.restore s).refundableLeft =
      .ok ⟨s.quote.total.amountMinor - minorSum (amountsOf s.refunds),
        s.quote.total.currencyCode⟩ := by
  have hsum : OrderRules.sum (s.refunds.map fun r => r.amount) s.quote.total.currencyCode =
      .ok ⟨minorSum (amountsOf s.refunds), s.quote.total.currencyCode⟩ := by
    refine LawfulOrderRules.sum_same _ _ fun m hm => ?_
    obtain ⟨r, hr, rfl⟩ := List.mem_map.mp hm
    exact hcurrency r hr
  simp only [SeatOrder.refundableLeft, SeatOrder.restore_current, hsum, bind, Except.bind]
  exact LawfulOrderRules.refundableRemaining_same _ _ rfl hbounded

theorem Ledger.refundableLeft_eq (h : Ledger s) :
    (SeatOrder.restore s).refundableLeft =
      .ok ⟨s.quote.total.amountMinor - minorSum (amountsOf s.refunds),
        s.quote.total.currencyCode⟩ :=
  Ticketing.refundableLeft_eq h.currency h.bounded

omit [OrderRules] [LawfulOrderRules] in
/-- A refund just owed adds nothing to those made. -/
theorem madeOf_append_owed (rs : List OrderRefund) (refund : OwedRefund) (now : Instant) :
    SeatOrder.madeOf (rs ++ [⟨refund, now, none, none⟩]) = SeatOrder.madeOf rs := by
  simp [SeatOrder.madeOf]

omit [OrderRules] [LawfulOrderRules] in
theorem made_append_owed {rs : List OrderRefund} {refund : OwedRefund} {now : Instant}
    {id : Uuid} : Made (rs ++ [⟨refund, now, none, none⟩]) id ↔ Made rs id := by
  simp [Made]

omit [OrderRules] [LawfulOrderRules] in
/-- A refund under a new id leaves the ids distinct. -/
theorem nodup_append_fresh {rs : List OrderRefund} {refund : OwedRefund} {now : Instant}
    (hids : (rs.map fun r => r.id).Nodup) (hfresh : ∀ r ∈ rs, r.id ≠ refund.id) :
    ((rs ++ [(⟨refund, now, none, none⟩ : OrderRefund)]).map fun r => r.id).Nodup := by
  rw [List.map_append, List.nodup_append]
  refine ⟨hids, List.nodup_singleton _, ?_⟩
  intro id hid id' hid' heq
  obtain ⟨r, hr, rfl⟩ := List.mem_map.mp hid
  simp only [List.map_cons, List.map_nil, List.mem_singleton] at hid'
  exact hfresh r hr (heq.trans hid')

omit [OrderRules] [LawfulOrderRules] in
/-- No seat names a refund the order does not owe yet. -/
theorem Ledger.not_named (h : Ledger s) {id : Uuid} (hfresh : ∀ r ∈ s.refunds, r.id ≠ id) :
    ∀ seat ∈ s.seats, seat.refundId ≠ some id := by
  intro seat hseat hid
  obtain ⟨r, hr, hrid⟩ := ((h.seats seat hseat).named id hid).2
  exact hfresh r hr hrid

omit [OrderRules] [LawfulOrderRules] in
theorem sum_shareOf_eq_zero {seats : List SeatSnapshot} {id : Uuid}
    (h : ∀ seat ∈ seats, seat.refundId ≠ some id) : (seats.map (shareOf id)).sum = 0 := by
  have hzero : seats.map (shareOf id) = seats.map fun _ => 0 :=
    List.map_congr_left fun seat hseat => if_neg (h seat hseat)
  rw [hzero]
  simp

theorem Ledger.refundOwed (h : Ledger s) {refund : OwedRefund} {now : Instant} {left : Money}
    (hfresh : ∀ r ∈ s.refunds, r.id ≠ refund.id ∧ r.idempotencyKey ≠ refund.idempotencyKey)
    (hstate : s.state ∈ statesOwingRefunds) (hpos : 0 < refund.amount.amountMinor)
    (hleft : (SeatOrder.restore s).refundableLeft = .ok left)
    (hwithin : OrderRules.assertRefundWithinRemaining refund.amount left = .ok ()) :
    Ledger { s with
      refunds := s.refunds ++ [⟨refund, now, none, none⟩], version := s.version + 1 } := by
  rw [h.refundableLeft_eq, Except.ok.injEq] at hleft
  subst hleft
  obtain ⟨hcurrency, hle⟩ := LawfulOrderRules.within_of_assert _ _ hwithin
  have hpaid : ¬ s.state.rank < OrderState.paid.rank := by
    rcases owing_state hstate with hs | hs <;> rw [hs] <;> decide
  refine
    { total := h.total, currency := ?_, nonneg := ?_, bounded := ?_, refundIds := ?_,
      seatIds := h.seatIds, unpaid := fun hs => absurd hs hpaid, seats := ?_, shares := ?_,
      paid := ?_, partly := ?_, wholly := ?_ }
  · intro r hr
    rcases List.mem_append.mp hr with hr | hr
    · exact h.currency r hr
    · rw [List.mem_singleton] at hr
      rw [hr]
      exact hcurrency
  · intro r hr
    rcases List.mem_append.mp hr with hr | hr
    · exact h.nonneg r hr
    · rw [List.mem_singleton] at hr
      rw [hr]
      exact hpos.le
  · simp only [amountsOf_append, minorSum_append]
    simp only [amountsOf, List.map_cons, List.map_nil, minorSum_cons, minorSum_nil] at hle ⊢
    linarith
  · exact nodup_append_fresh h.refundIds fun r hr => (hfresh r hr).1
  · intro seat hseat
    obtain ⟨hactive, hcancelled, hrefunded, hnamed, hshare⟩ := h.seats seat hseat
    refine ⟨hactive, hcancelled, ?_, ?_, hshare⟩
    · simp only [made_append_owed]
      exact hrefunded
    · intro id hid
      obtain ⟨hs, r, hr, hrid⟩ := hnamed id hid
      exact ⟨hs, r, List.mem_append_left _ hr, hrid⟩
  · intro r hr
    rcases List.mem_append.mp hr with hr | hr
    · exact h.shares r hr
    · rw [List.mem_singleton] at hr
      subst hr
      have hzero := sum_shareOf_eq_zero (h.not_named fun r hr => (hfresh r hr).1)
      exact hzero.le.trans hpos.le
  · simp only [madeOf_append_owed]
    exact h.paid
  · simp only [madeOf_append_owed]
    exact h.partly
  · simp only [madeOf_append_owed]
    exact h.wholly

omit [LawfulOrderRules] in
theorem Ledger.paidNow (h : Ledger s) {intentRef : String} {issues : List SeatIssue}
    {now : Instant} (haccepts : s.AcceptsPayment)
    (hissues : (issues.map fun issue => issue.id).Nodup) :
    Ledger { s with
      state := .paid
      intent := some (s.intent.getD ⟨intentRef, none, none⟩)
      failure := none
      intentCancelOwedAt := none
      paidAt := some now
      seats := issues.map (SeatOrder.issuedSeat s.tier now)
      version := s.version + 1 } := by
  have hnone : s.refunds = [] := haccepts.1
  refine
    { total := h.total, currency := h.currency, nonneg := h.nonneg, bounded := h.bounded,
      refundIds := h.refundIds, seatIds := ?_, unpaid := fun hs => absurd hs (lt_irrefl _),
      seats := ?_, shares := ?_, paid := ?_, partly := ?_, wholly := ?_ }
  · simpa [Function.comp_def, SeatOrder.issuedSeat] using hissues
  · intro seat hseat
    obtain ⟨issue, -, rfl⟩ := List.mem_map.mp hseat
    constructor <;> simp [SeatOrder.issuedSeat]
  · simp [hnone]
  · simp [hnone, SeatOrder.madeOf]
  · simp
  · simp

theorem Ledger.unseatedOwed (h : Ledger s) {reason : RefundReason} {intentRef key : String}
    {id : Uuid} {now : Instant} (haccepts : s.AcceptsPayment) :
    Ledger { s with
      intent := some (s.intent.getD ⟨intentRef, none, none⟩)
      intentCancelOwedAt := none
      refunds := [⟨⟨id, s.quote.total, reason, key, none⟩, now, none, none⟩]
      version := s.version + 1 } := by
  have hseats : s.seats = [] := (h.unpaid haccepts.unpaid).1
  have hstate := haccepts.unpaid
  refine
    { total := h.total, currency := ?_, nonneg := ?_, bounded := ?_, refundIds := ?_,
      seatIds := h.seatIds, unpaid := fun _ => ⟨hseats, .inr ⟨_, rfl, rfl, rfl⟩⟩, seats := ?_,
      shares := ?_, paid := ?_, partly := ?_, wholly := ?_ }
  · simp
  · simpa using h.total
  · simp [amountsOf]
  · simp
  · simp [hseats]
  · simpa [hseats] using h.total
  all_goals
    intro hs
    rw [show s.state = _ from hs] at hstate
    exact absurd hstate (by decide)

/-- The refunds made after one more, in the total's currency, reach the total or stay below it. -/
theorem Ledger.made_reaches (h : Ledger s) {refund : OrderRefund} {refundRef : String}
    {now : Instant} {made : Money} {sign : ℤ}
    (hmade : OrderRules.sum ((SeatOrder.madeOf
      (SeatOrder.refundsWithMade s.refunds refund.id refundRef now)).map fun r => r.amount)
      s.quote.total.currencyCode = .ok made)
    (hsign : OrderRules.compare made s.quote.total = .ok sign) :
    (0 ≤ sign ↔ minorSum (amountsOf (SeatOrder.madeOf
      (SeatOrder.refundsWithMade s.refunds refund.id refundRef now))) =
      s.quote.total.amountMinor) ∧
    minorSum (amountsOf (SeatOrder.madeOf
      (SeatOrder.refundsWithMade s.refunds refund.id refundRef now))) ≤
      s.quote.total.amountMinor := by
  set rs := SeatOrder.refundsWithMade s.refunds refund.id refundRef now with hrs
  have hmem : ∀ r' ∈ rs, ∃ r ∈ s.refunds, r'.amount = r.amount := by
    intro r' hr'
    obtain ⟨r, hr, rfl⟩ := (mem_refundsWithMade _ _ _ _).mp hr'
    exact ⟨r, hr, by split_ifs <;> rfl⟩
  have hsum := LawfulOrderRules.sum_same ((SeatOrder.madeOf rs).map fun r => r.amount)
    s.quote.total.currencyCode fun m hm => by
      obtain ⟨r', hr', rfl⟩ := List.mem_map.mp hm
      obtain ⟨r, hr, heq⟩ := hmem r' (List.mem_of_mem_filter hr')
      rw [heq]
      exact h.currency r hr
  rw [hsum, Except.ok.injEq] at hmade
  subst hmade
  obtain ⟨n, hn, -, hneg⟩ := LawfulOrderRules.compare_same
    (⟨minorSum (amountsOf (SeatOrder.madeOf rs)), s.quote.total.currencyCode⟩ : Money)
    s.quote.total rfl
  have hsame : n = sign := by
    have := hn.symm.trans hsign
    simpa using this
  have hle : minorSum (amountsOf (SeatOrder.madeOf rs)) ≤ s.quote.total.amountMinor := by
    calc minorSum (amountsOf (SeatOrder.madeOf rs)) ≤ minorSum (amountsOf rs) := by
          refine minorSum_madeOf_le rs fun r' hr' => ?_
          obtain ⟨r, hr, heq⟩ := hmem r' hr'
          rw [heq]
          exact h.nonneg r hr
      _ = minorSum (amountsOf s.refunds) := by rw [hrs, amountsOf_refundsWithMade]
      _ ≤ s.quote.total.amountMinor := h.bounded
  refine ⟨?_, hle⟩
  rw [← hsame, ← not_lt, hneg]
  exact ⟨fun hnot => le_antisymm hle (not_lt.mp hnot), fun heq => not_lt.mpr heq.ge⟩

/-- The seats a refund gives back are refunded with it, the others as they were. -/
theorem SeatKept.refunded {seat : SeatSnapshot} (h : SeatKept s seat) {refund : OrderRefund}
    {refundRef : String} {now : Instant} (hmem : refund ∈ s.refunds)
    {s' : SeatOrderSnapshot} (htotal : s'.quote.total = s.quote.total)
    (hrefunds : s'.refunds = SeatOrder.refundsWithMade s.refunds refund.id refundRef now) :
    SeatKept s' (if seat.refundId = some refund.id ∧
        OrderRules.seatStateMayMove seat.state .refunded = true then
      { seat with state := .refunded } else seat) := by
  have hmadeNow : Made s'.refunds refund.id := by
    rw [hrefunds, made_refundsWithMade]
    exact .inr ⟨rfl, refund, hmem, rfl⟩
  have hkept : ∀ id, (∃ r ∈ s.refunds, r.id = id) → ∃ r ∈ s'.refunds, r.id = id := by
    rintro id ⟨r, hr, hid⟩
    rw [hrefunds]
    refine ⟨_, (mem_refundsWithMade _ _ _ _).mpr ⟨r, hr, rfl⟩, ?_⟩
    split_ifs <;> exact hid
  obtain ⟨hactive, hcancelled, hrefunded, hnamed, hshare⟩ := h
  by_cases hid : seat.refundId = some refund.id
  · -- Given back by this refund: it was cancelled with it, or refunded before.
    obtain ⟨hstate, -⟩ := hnamed refund.id hid
    have hseat : (if seat.refundId = some refund.id ∧
        OrderRules.seatStateMayMove seat.state .refunded = true then
        { seat with state := .refunded } else seat) = { seat with state := .refunded } := by
      split_ifs with hmove
      · rfl
      · rcases hstate with hs | hs
        · exact absurd ⟨hid, (LawfulOrderRules.mayRefund_iff _).mpr hs⟩ hmove
        · rw [← hs]
    have hended : seat.endedAt ≠ none := fun hnone => by
      rw [hactive.mpr hnone] at hstate
      exact absurd hstate (by decide)
    rw [hseat]
    refine ⟨?_, ?_, ?_, ?_, by rwa [htotal]⟩
    · simpa using hended
    · simpa using hcancelled.mpr hstate
    · exact ⟨fun _ => ⟨refund.id, hid, hmadeNow⟩, fun _ => rfl⟩
    · exact fun id hid' => ⟨.inr rfl, hkept id (hnamed id hid').2⟩
  · rw [if_neg fun hand => hid hand.1]
    refine ⟨hactive, hcancelled, ?_, fun id hid' => ⟨(hnamed id hid').1,
      hkept id (hnamed id hid').2⟩, by rwa [htotal]⟩
    rw [hrefunded, hrefunds]
    refine exists_congr fun id => and_congr_right fun hid' => ?_
    rw [made_refundsWithMade]
    exact ⟨.inl, fun hor => hor.resolve_right fun hand => hid (hand.1 ▸ hid')⟩

omit [LawfulOrderRules] in
/-- A seat refunded keeps its id and its share. -/
theorem seatsRefundedBy_map {β : Type} (seats : List SeatSnapshot) (id : Uuid)
    (f : SeatSnapshot → β) (hf : ∀ seat : SeatSnapshot, f { seat with state := .refunded } = f seat) :
    (SeatOrder.seatsRefundedBy seats id).map f = seats.map f := by
  simp only [SeatOrder.seatsRefundedBy, List.map_map]
  refine List.map_congr_left fun seat _ => ?_
  simp only [Function.comp]
  split_ifs
  · exact hf seat
  · rfl

theorem Ledger.refundMade (h : Ledger s) {refund : OrderRefund} {refundRef : String}
    {now : Instant} {made : Money} {sign : ℤ} {reached : OrderState}
    {changed : SeatOrderSnapshot}
    (hfind : s.refunds.find? (fun r => r.id = refund.id) = some refund)
    (hmade : OrderRules.sum ((SeatOrder.madeOf
      (SeatOrder.refundsWithMade s.refunds refund.id refundRef now)).map fun r => r.amount)
      s.quote.total.currencyCode = .ok made)
    (hsign : OrderRules.compare made s.quote.total = .ok sign)
    (hreached : reached = if 0 ≤ sign then .refunded else .partiallyRefunded)
    (hchanged : changed = if OrderRules.orderStateMovesForward s.state reached = true
      then { s with state := reached, failure := none } else s) :
    Ledger { changed with
      refunds := SeatOrder.refundsWithMade s.refunds refund.id refundRef now
      seats := SeatOrder.seatsRefundedBy s.seats refund.id
      version := s.version + 1 } := by
  have hmem := List.mem_of_find?_eq_some hfind
  obtain ⟨hfull, hle⟩ := h.made_reaches hmade hsign
  have hforward := LawfulOrderRules.movesForward_iff s.state reached
  have hquote : changed.quote = s.quote := by rw [hchanged]; split_ifs <;> rfl
  have hstate : changed.state = if s.state.rank < reached.rank then reached else s.state := by
    rw [hchanged]
    simp only [hforward]
    split_ifs <;> rfl
  have hnonempty : SeatOrder.madeOf
      (SeatOrder.refundsWithMade s.refunds refund.id refundRef now) ≠ [] := by
    rw [Ne, madeOf_eq_nil_iff]
    intro hall
    have := hall _ ((mem_refundsWithMade _ _ _ _).mpr ⟨refund, hmem, rfl⟩)
    simp at this
  have hrank : OrderState.paid.rank < reached.rank := by
    rw [hreached]
    split_ifs <;> decide
  refine
    { total := hquote ▸ h.total, currency := ?_, nonneg := ?_, bounded := ?_,
      refundIds := ?_, seatIds := ?_, unpaid := ?_, seats := ?_, shares := ?_, paid := ?_,
      partly := ?_, wholly := ?_ }
  · intro r' hr'
    obtain ⟨r, hr, rfl⟩ := (mem_refundsWithMade _ _ _ _).mp hr'
    simp only [hquote]
    split_ifs <;> exact h.currency r hr
  · intro r' hr'
    obtain ⟨r, hr, rfl⟩ := (mem_refundsWithMade _ _ _ _).mp hr'
    split_ifs <;> exact h.nonneg r hr
  · simpa [hquote] using h.bounded
  · simpa using h.refundIds
  · simpa [seatsRefundedBy_map] using h.seatIds
  · intro hunpaid
    simp only [hstate] at hunpaid
    split_ifs at hunpaid with hlt
    · exact absurd hunpaid (not_lt.mpr hrank.le)
    · exact absurd (hunpaid.trans hrank) hlt
  · intro seat' hseat'
    obtain ⟨seat, hseat, rfl⟩ := List.mem_map.mp hseat'
    exact (h.seats seat hseat).refunded hmem (congrArg OrderQuote.total hquote) rfl
  · intro r' hr'
    obtain ⟨r, hr, rfl⟩ := (mem_refundsWithMade _ _ _ _).mp hr'
    simp only [seatsRefundedBy_map _ _ (shareOf _) fun _ => rfl]
    split_ifs <;> exact h.shares r hr
  · intro hpaid
    simp only [hstate] at hpaid
    split_ifs at hpaid with hlt
    · rw [hpaid] at hrank
      exact absurd hrank (lt_irrefl _)
    · rw [hpaid] at hlt
      exact absurd hrank hlt
  · intro hpartly
    refine ⟨hnonempty, ?_⟩
    simp only [hstate, hquote] at hpartly ⊢
    refine lt_of_le_of_ne hle fun heq => ?_
    rw [if_pos (hfull.mpr heq)] at hreached
    rw [hreached] at hpartly
    split_ifs at hpartly with hlt
    rw [hpartly] at hlt
    exact hlt (by decide)
  · intro hwholly
    refine ⟨hnonempty, ?_⟩
    simp only [hstate, hquote] at hwholly ⊢
    split_ifs at hwholly with hlt
    · by_contra hne
      rw [if_neg fun hs => hne (hfull.mp hs)] at hreached
      rw [hreached] at hwholly
      exact absurd hwholly (by decide)
    · refine le_antisymm hle ?_
      rw [← (h.wholly hwholly).2]
      exact minorSum_madeOf_le_refundsWithMade _ _ _ _ h.nonneg

/-- A named seat is the order's own, and active when it may be cancelled or credited. -/
theorem SeatsMayMove.active_of_named {seats : List SeatSnapshot} {seatIds : List Uuid}
    {target : SeatState} (htarget : target = .cancelled ∨ target = .credited)
    (hmove : SeatsMayMove seats seatIds target)
    (hids : (seats.map fun seat => seat.id).Nodup) {seat : SeatSnapshot}
    (hseat : seat ∈ seats) (hnamed : seat.id ∈ seatIds) : seat.state = .active := by
  obtain ⟨found, hfind, hmay⟩ := hmove.mayMove seat.id hnamed
  have hid : found.id = seat.id := by simpa using List.find?_some hfind
  have hsame : found = seat :=
    List.inj_on_of_nodup_map hids (List.mem_of_find?_eq_some hfind) hseat hid
  rw [hsame] at hmay
  rcases htarget with rfl | rfl
  · exact (LawfulOrderRules.mayCancel_iff _).mp hmay
  · exact (LawfulOrderRules.mayCredit_iff _).mp hmay

omit [OrderRules] [LawfulOrderRules] in
/-- An active seat has ended nowhere and was given back nothing. -/
theorem SeatKept.of_active {seat : SeatSnapshot} (h : SeatKept s seat)
    (hactive : seat.state = .active) :
    seat.refundId = none ∧ seat.refundAmount = none ∧ seat.cancelReason = none := by
  have hid : seat.refundId = none := by
    by_contra hsome
    obtain ⟨id, hid⟩ := Option.ne_none_iff_exists'.mp hsome
    have hstate := (h.named id hid).1
    rw [hactive] at hstate
    exact absurd hstate (by decide)
  refine ⟨hid, ?_, ?_⟩
  · by_contra hsome
    obtain ⟨m, hm⟩ := Option.ne_none_iff_exists'.mp hsome
    exact (h.share m hm).2.2 hid
  · by_contra hsome
    have hstate := h.cancelled_iff.mp (Option.isSome_iff_ne_none.mpr hsome)
    rw [hactive] at hstate
    exact absurd hstate (by decide)

omit [OrderRules] [LawfulOrderRules] in
/-- Changes of the seats alone, from the two facts they have to bring. -/
theorem Ledger.seatsMoved (h : Ledger s) (move : SeatSnapshot → SeatSnapshot)
    (hid : ∀ seat, (move seat).id = seat.id)
    (hseats : ∀ seat ∈ s.seats, SeatKept s (move seat))
    (hshares : ∀ r ∈ s.refunds,
      (s.seats.map fun seat => shareOf r.id (move seat)).sum ≤ r.amount.amountMinor) :
    Ledger { s with seats := s.seats.map move, version := s.version + 1 } := by
  refine
    { total := h.total, currency := h.currency, nonneg := h.nonneg, bounded := h.bounded,
      refundIds := h.refundIds, seatIds := ?_, unpaid := ?_, seats := ?_, shares := ?_,
      paid := h.paid, partly := h.partly, wholly := h.wholly }
  · simpa [Function.comp_def, hid] using h.seatIds
  · intro hunpaid
    obtain ⟨hnone, hrefunds⟩ := h.unpaid hunpaid
    exact ⟨by simp [hnone], hrefunds⟩
  · intro seat' hseat'
    obtain ⟨seat, hseat, rfl⟩ := List.mem_map.mp hseat'
    obtain ⟨hactive, hcancelled, hrefunded, hnamed, hshare⟩ := hseats seat hseat
    exact ⟨hactive, hcancelled, hrefunded, hnamed, hshare⟩
  · intro r hr
    simpa only [List.map_map, Function.comp_def] using hshares r hr

omit [OrderRules] [LawfulOrderRules] in
@[simp] theorem cancelledSeat_id (cancellation : SeatCancellation) (now : Instant)
    (seat : SeatSnapshot) : (SeatOrder.cancelledSeat cancellation now seat).id = seat.id := by
  unfold SeatOrder.cancelledSeat
  split <;> rfl

omit [OrderRules] [LawfulOrderRules] in
@[simp] theorem creditedSeat_id (crediting : SeatCrediting) (now : Instant)
    (seat : SeatSnapshot) : (SeatOrder.creditedSeat crediting now seat).id = seat.id := by
  unfold SeatOrder.creditedSeat
  split <;> rfl

theorem Ledger.seatsCredited (h : Ledger s) {crediting : SeatCrediting} {now : Instant}
    (hmove : SeatsMayMove s.seats (crediting.seats.map fun named => named.seatId) .credited) :
    Ledger { s with
      seats := s.seats.map (SeatOrder.creditedSeat crediting now)
      version := s.version + 1 } := by
  have hcases : ∀ seat ∈ s.seats, SeatOrder.creditedSeat crediting now seat = seat ∨
      seat.state = .active ∧ ∃ named : SeatCreditShare,
        SeatOrder.creditedSeat crediting now seat = { seat with
          state := .credited, endedAt := some now, creditId := some crediting.creditId
          creditAmount := some named.creditAmount } := by
    intro seat hseat
    unfold SeatOrder.creditedSeat
    split
    · exact .inl rfl
    · rename_i named hfind
      have hname : named.seatId = seat.id := by simpa using List.find?_some hfind
      refine .inr ⟨hmove.active_of_named (.inr rfl) h.seatIds hseat ?_, named, rfl⟩
      exact List.mem_map.mpr ⟨named, List.mem_of_find?_eq_some hfind, hname⟩
  refine h.seatsMoved _ (creditedSeat_id crediting now) ?_ ?_
  · intro seat hseat
    rcases hcases seat hseat with hsame | ⟨hactive, named, hcredited⟩
    · rw [hsame]
      exact h.seats seat hseat
    · obtain ⟨hid, hamount, hreason⟩ := (h.seats seat hseat).of_active hactive
      rw [hcredited]
      constructor <;> simp [hid, hamount, hreason]
  · intro r hr
    refine le_trans (le_of_eq ?_) (h.shares r hr)
    congr 1
    refine List.map_congr_left fun seat hseat => ?_
    rcases hcases seat hseat with hsame | ⟨-, named, hcredited⟩
    · rw [hsame]
    · rw [hcredited]
      rfl

/-- What a cancellation names: no refund, or one that is unmade and that no seat names yet. -/
def SeatCancellation.Fresh (s : SeatOrderSnapshot) (cancellation : SeatCancellation) : Prop :=
  ∀ id, cancellation.refundId = some id →
    ¬ Made s.refunds id ∧ ∀ seat ∈ s.seats, seat.refundId ≠ some id

/-- Shares are summed in their refund's currency. -/
theorem currency_of_sharesWithin {r : OrderRefund} {cancellation : SeatCancellation}
    {givenBack : List Money}
    (hwithin : SeatOrder.cancelSeats.sharesWithin (SeatOrder.restore s) cancellation (some r)
      givenBack = .ok ()) :
    ∀ m ∈ SeatOrder.heldAlready s.seats cancellation.refundId ++ givenBack,
      m.currencyCode = r.amount.currencyCode := by
  by_contra hmixed
  push Not at hmixed
  obtain ⟨e, he⟩ := LawfulOrderRules.sum_mixed _ r.amount.currencyCode hmixed
  simp [SeatOrder.cancelSeats.sharesWithin, he, bind, Except.bind] at hwithin

/-- The shares a cancellation gives back are in its refund's currency and within its amount, when
no seat holds a share of that refund yet. -/
theorem givenBack_within {r : OrderRefund} {cancellation : SeatCancellation}
    (hnamed : cancellation.refundId = some r.id)
    (hnone : ∀ seat ∈ s.seats, seat.refundId ≠ some r.id)
    (hwithin : SeatOrder.cancelSeats.sharesWithin (SeatOrder.restore s) cancellation (some r)
      (cancellation.seats.filterMap fun named => named.refundAmount) = .ok ()) :
    (∀ named ∈ cancellation.seats, ∀ share, named.refundAmount = some share →
      share.currencyCode = r.amount.currencyCode) ∧
    minorSum (cancellation.seats.filterMap fun named => named.refundAmount) ≤
      r.amount.amountMinor := by
  set givenBack := cancellation.seats.filterMap fun named => named.refundAmount with hgiven
  have hheld : SeatOrder.heldAlready s.seats (some r.id) = [] := by
    refine List.filterMap_eq_nil_iff.mpr fun seat hseat => ?_
    rw [if_neg (hnone seat hseat)]
  have hcurrency : ∀ m ∈ givenBack, m.currencyCode = r.amount.currencyCode :=
    fun m hm => currency_of_sharesWithin hwithin m (List.mem_append_right _ hm)
  simp only [SeatOrder.cancelSeats.sharesWithin, SeatOrder.restore_current, hnamed, hheld,
    List.nil_append] at hwithin
  rw [LawfulOrderRules.sum_same givenBack _ hcurrency] at hwithin
  obtain ⟨n, hn, hpos, -⟩ := LawfulOrderRules.compare_same
    (⟨minorSum givenBack, r.amount.currencyCode⟩ : Money) r.amount rfl
  simp only [bind, Except.bind, hn] at hwithin
  refine ⟨fun named hmem share hshare => hcurrency share ?_, ?_⟩
  · exact List.mem_filterMap.mpr ⟨named, hmem, hshare⟩
  · by_contra hlt
    rw [if_pos (hpos.mpr (not_le.mp hlt))] at hwithin
    cases hwithin

/-- The weight of a name in a cancellation: what it gives back. -/
def weightOf (named : SeatRefundShare) : ℤ := (named.refundAmount.map Money.amountMinor).getD 0

omit [OrderRules] [LawfulOrderRules] in
/-- The amounts named, counted per name. -/
theorem minorSum_filterMap (named : List SeatRefundShare) :
    minorSum (named.filterMap fun n => n.refundAmount) = (named.map weightOf).sum := by
  induction named with
  | nil => rfl
  | cons n named ih =>
      cases hshare : n.refundAmount with
      | none => simp [weightOf, hshare, ih]
      | some m => simp [weightOf, hshare, ih]

omit [OrderRules] [LawfulOrderRules] in
/-- Named with a share or not at all, a seat is given no more than its name weighs. -/
theorem shareOf_cancelledSeat_le (cancellation : SeatCancellation) (now : Instant)
    (seat : SeatSnapshot) {id : Uuid} (hunnamed : seat.refundId ≠ some id)
    (hweight : ∀ named ∈ cancellation.seats, 0 ≤ weightOf named) :
    shareOf id (SeatOrder.cancelledSeat cancellation now seat) ≤
      ((cancellation.seats.find? fun named => named.seatId = seat.id).map weightOf).getD 0 := by
  unfold SeatOrder.cancelledSeat
  cases hfind : cancellation.seats.find? fun named => named.seatId = seat.id with
  | none => simp [shareOf, hunnamed]
  | some named =>
      have hle := hweight named (List.mem_of_find?_eq_some hfind)
      simp only [Option.map_some, Option.getD_some]
      unfold shareOf
      by_cases hid : (if (named.refundAmount.filter fun share => 0 < share.amountMinor).isNone
          then none else cancellation.refundId) = some id
      · rw [if_pos hid]
        unfold weightOf at hle ⊢
        cases hshare : named.refundAmount with
        | none => simp
        | some share =>
            rw [hshare] at hle
            by_cases hpos : 0 < share.amountMinor
            · simp [Option.filter, hpos]
            · simpa [Option.filter, hpos] using hle
      · rw [if_neg hid]
        exact hle

omit [OrderRules] [LawfulOrderRules] in
/-- A cancellation gives a seat nothing of a refund it does not name. -/
theorem shareOf_cancelledSeat_of_ne (cancellation : SeatCancellation) (now : Instant)
    (seat : SeatSnapshot) {id : Uuid} (hid : cancellation.refundId ≠ some id)
    (hnamed : ∀ named, cancellation.seats.find? (fun named => named.seatId = seat.id) =
      some named → seat.refundId = none) :
    shareOf id (SeatOrder.cancelledSeat cancellation now seat) = shareOf id seat := by
  unfold SeatOrder.cancelledSeat
  split
  · rfl
  · rename_i named hfind
    simp only [shareOf, hnamed named hfind]
    rw [if_neg, if_neg (by simp)]
    split_ifs
    · simp
    · exact hid

omit [OrderRules] [LawfulOrderRules] in
/-- A seat cancelled now, its share positive and of a refund not made yet. -/
theorem SeatKept.cancelledNow {seat : SeatSnapshot} {reason : SeatCancelReason} {now : Instant}
    {refundId : Option Uuid} {givenBack : Option Money}
    (hgiven : ∀ share, givenBack = some share → 0 < share.amountMinor ∧
      share.currencyCode = s.quote.total.currencyCode ∧ ∃ id, refundId = some id ∧
        ¬ Made s.refunds id ∧ ∃ r ∈ s.refunds, r.id = id) :
    SeatKept s { seat with
      state := .cancelled
      endedAt := some now
      cancelReason := some reason
      refundId := if givenBack.isNone then none else refundId
      refundAmount := givenBack } := by
  cases givenBack with
  | none => constructor <;> simp
  | some share =>
      obtain ⟨hpos, hcurrency, id, rfl, hmade, r, hr, hrid⟩ := hgiven share rfl
      constructor
      · simp
      · simp
      · simp [hmade]
      · intro id' hid'
        have hsame : id = id' := by simpa using hid'
        exact ⟨.inl rfl, r, hr, hrid.trans hsame⟩
      · intro m hm
        have hsame : share = m := by simpa using hm
        subst hsame
        exact ⟨hpos, hcurrency, by simp⟩

theorem Ledger.seatsCancelled (h : Ledger s) {cancellation : SeatCancellation} {now : Instant}
    (hfresh : cancellation.Fresh s)
    (hrefund : cancellation.refundId.isSome →
      ∃ r, s.refunds.find? (fun r => some r.id = cancellation.refundId) = some r)
    (hnonneg : ∀ named ∈ cancellation.seats, ∀ share, named.refundAmount = some share →
      0 ≤ share.amountMinor)
    (hwithin : SeatOrder.cancelSeats.sharesWithin (SeatOrder.restore s) cancellation
      (s.refunds.find? fun r => some r.id = cancellation.refundId)
      (cancellation.seats.filterMap fun named => named.refundAmount) = .ok ())
    (hnone : cancellation.refundId = none → ∀ named ∈ cancellation.seats,
      named.refundAmount = none)
    (hmove : SeatsMayMove s.seats (cancellation.seats.map fun named => named.seatId)
      .cancelled) :
    Ledger { s with
      seats := s.seats.map (SeatOrder.cancelledSeat cancellation now)
      version := s.version + 1 } := by
  have hactive : ∀ seat ∈ s.seats, ∀ named,
      cancellation.seats.find? (fun named => named.seatId = seat.id) = some named →
      seat.state = .active := by
    intro seat hseat named hfind
    have hname : named.seatId = seat.id := by simpa using List.find?_some hfind
    exact hmove.active_of_named (.inl rfl) h.seatIds hseat
      (List.mem_map.mpr ⟨named, List.mem_of_find?_eq_some hfind, hname⟩)
  have howed : ∀ id, cancellation.refundId = some id → ∃ r ∈ s.refunds, r.id = id ∧
      (∀ named ∈ cancellation.seats, ∀ share, named.refundAmount = some share →
        share.currencyCode = r.amount.currencyCode) ∧
      (cancellation.seats.map weightOf).sum ≤ r.amount.amountMinor := by
    intro id hid
    obtain ⟨r, hfind⟩ := hrefund (by rw [hid]; rfl)
    have hname : some r.id = cancellation.refundId := by simpa using List.find?_some hfind
    rw [hfind] at hwithin
    obtain ⟨hcurrency, hle⟩ := givenBack_within hname.symm (hfresh r.id hname.symm).2 hwithin
    rw [minorSum_filterMap] at hle
    exact ⟨r, List.mem_of_find?_eq_some hfind, Option.some.inj (hname.trans hid), hcurrency, hle⟩
  refine h.seatsMoved _ (cancelledSeat_id cancellation now) ?_ ?_
  · intro seat hseat
    unfold SeatOrder.cancelledSeat
    split
    · exact h.seats seat hseat
    · rename_i named hfind
      have hmem := List.mem_of_find?_eq_some hfind
      refine SeatKept.cancelledNow fun share hgiven => ?_
      obtain ⟨hshare, hpos⟩ := Option.filter_eq_some_iff.mp hgiven
      obtain ⟨id, hid⟩ : ∃ id, cancellation.refundId = some id := by
        refine Option.ne_none_iff_exists'.mp fun hid => ?_
        rw [hnone hid named hmem] at hshare
        cases hshare
      obtain ⟨r, hr, hrid, hcurrency, -⟩ := howed id hid
      exact ⟨by simpa using hpos, (hcurrency named hmem share hshare).trans (h.currency r hr),
        id, hid, (hfresh id hid).1, r, hr, hrid⟩
  · intro r hr
    by_cases hid : cancellation.refundId = some r.id
    · -- The refund of this cancellation: no seat named it before, its shares are within it.
      obtain ⟨r', hr', hrid, -, hle⟩ := howed r.id hid
      have hsame : r' = r := List.inj_on_of_nodup_map h.refundIds hr' hr hrid
      have hweight : ∀ named ∈ cancellation.seats, 0 ≤ weightOf named := by
        intro named hmem
        unfold weightOf
        cases hshare : named.refundAmount with
        | none => simp
        | some share => simpa using hnonneg named hmem share hshare
      have hseats : (s.seats.map fun seat =>
          shareOf r.id (SeatOrder.cancelledSeat cancellation now seat)).sum ≤
          (s.seats.map fun seat => ((cancellation.seats.find? fun named =>
            named.seatId = seat.id).map weightOf).getD 0).sum :=
        List.sum_le_sum fun seat hseat => shareOf_cancelledSeat_le cancellation now seat
          ((hfresh r.id hid).2 seat hseat) hweight
      have hnames := sum_find_le s.seats (fun seat => seat.id) h.seatIds cancellation.seats
        (fun named => named.seatId) weightOf hweight
      rw [hsame] at hle
      exact hseats.trans (hnames.trans hle)
    · refine le_trans (le_of_eq ?_) (h.shares r hr)
      congr 1
      refine List.map_congr_left fun seat hseat => ?_
      refine shareOf_cancelledSeat_of_ne cancellation now seat hid fun named hfind => ?_
      exact ((h.seats seat hseat).of_active (hactive seat hseat named hfind)).1

end Steps

end Arthome.Ticketing
