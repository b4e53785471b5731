import Arthome.Ticketing.SeatOrderReload
import Arthome.Ticketing.Outcomes
import Arthome.Ticketing.SeatOrderCalls

/-!
# The settlement of one order

What an outcome's settlement asks of an order is computed from its snapshot, and the
aggregate has guards of its own: the bound of a refund, the sum of the shares, the
seats' moves. Over every run of the aggregate's operations the two agree. A cancelled
date's steps are all accepted and leave no seat active and nothing to refund, the
shares adding up to the refund; an interrupted date's credits add up to the credit,
which never exceeds what was left.
-/

namespace Arthome.Ticketing

open Arthome.Core Library

/-- Core splits an amount into as many shares as asked, and credits at most what it is given. -/
class LawfulShareRules [SalesRules] : Prop where
  shares_length (total : Money) (n : ℕ) : 0 ≤ total.amountMinor → 0 < n →
    (SalesRules.seatSharesOf total n).length = n
  shares_nonneg (total : Money) (n : ℕ) : 0 ≤ total.amountMinor → 0 < n →
    ∀ share ∈ SalesRules.seatSharesOf total n,
      0 ≤ share.amountMinor ∧ share.currencyCode = total.currencyCode
  shares_sum (total : Money) (n : ℕ) : 0 ≤ total.amountMinor → 0 < n →
    minorSum (SalesRules.seatSharesOf total n) = total.amountMinor
  credit_within (amount : Money) : 0 ≤ amount.amountMinor →
    0 ≤ (SalesRules.creditAmountFor amount).amountMinor ∧
      (SalesRules.creditAmountFor amount).amountMinor ≤ amount.amountMinor

/-- The seats a payment issues have ids of their own, drawn by the service. -/
def Operation.IssuesDistinct : Operation → Prop
  | .pay _ issues _ => (issues.map fun issue => issue.id).Nodup
  | _ => True

/-- The refund id the service draws is the id and the key of no refund of the order. -/
def FreshRefund [OrderRules] (o : SeatOrder) (refundId : Uuid) : Prop :=
  ∀ r ∈ o.current.refunds,
    r.id ≠ refundId ∧ r.idempotencyKey ≠ OrderRules.refundIdempotencyKey refundId

/-- What the settlement reads off an order, kept by every operation. -/
structure Settleable (s : SeatOrderSnapshot) : Prop where
  currency : ∀ r ∈ s.refunds, r.amount.currencyCode = s.quote.total.currencyCode
  bounded : minorSum (amountsOf s.refunds) ≤ s.quote.total.amountMinor
  total : 0 ≤ s.quote.total.amountMinor
  seatIds : (s.seats.map fun seat => seat.id).Nodup
  named : ∀ seat ∈ s.seats, ∀ id, seat.refundId = some id → ∃ r ∈ s.refunds, r.id = id

section Kept

variable {s s' : SeatOrderSnapshot}

theorem Settleable.quiet (h : Settleable s) (htotal : s'.quote.total = s.quote.total)
    (hrefunds : s'.refunds = s.refunds) (hseats : s'.seats = s.seats) : Settleable s' := by
  obtain ⟨hcurrency, hbounded, hnonneg, hids, hnamed⟩ := h
  constructor
  · rw [hrefunds, htotal]
    exact hcurrency
  · rw [hrefunds, htotal]
    exact hbounded
  · rw [htotal]
    exact hnonneg
  · rw [hseats]
    exact hids
  · rw [hseats, hrefunds]
    exact hnamed

theorem Settleable.placed {placement : SeatOrderPlacement} (placedAt : Instant)
    (htotal : 0 ≤ placement.quote.total.amountMinor) :
    Settleable (SeatOrder.place placement placedAt).current where
  currency := by simp [SeatOrder.place, SeatOrder.restore, SeatOrder.apply]
  bounded := htotal
  total := htotal
  seatIds := List.nodup_nil
  named := by simp [SeatOrder.place, SeatOrder.restore, SeatOrder.apply]

/-- Seats moved one by one, none onto a refund the order does not owe. -/
theorem Settleable.seatsMoved (h : Settleable s) (move : SeatSnapshot → SeatSnapshot)
    (hid : ∀ seat, (move seat).id = seat.id)
    (hnamed : ∀ seat ∈ s.seats, ∀ id, (move seat).refundId = some id → ∃ r ∈ s.refunds, r.id = id) :
    Settleable { s with seats := s.seats.map move, version := s.version + 1 } where
  currency := h.currency
  bounded := h.bounded
  total := h.total
  seatIds := by simpa [Function.comp_def, hid] using h.seatIds
  named := by
    intro seat' hseat'
    obtain ⟨seat, hseat, rfl⟩ := List.mem_map.mp hseat'
    exact hnamed seat hseat

variable [OrderRules] [LawfulOrderRules] {op : Operation}

theorem Settleable.refundOwed (h : Settleable s) {refund : OwedRefund} {now : Instant} {left : Money}
    (hleft : (SeatOrder.restore s).refundableLeft = .ok left)
    (hwithin : OrderRules.assertRefundWithinRemaining refund.amount left = .ok ()) :
    Settleable { s with
      refunds := s.refunds ++ [⟨refund, now, none, none⟩], version := s.version + 1 } := by
  rw [refundableLeft_eq h.currency h.bounded, Except.ok.injEq] at hleft
  subst hleft
  obtain ⟨hcurrency, hle⟩ := LawfulOrderRules.within_of_assert _ _ hwithin
  refine ⟨?_, ?_, h.total, h.seatIds, ?_⟩
  · intro r hr
    rcases List.mem_append.mp hr with hr | hr
    · exact h.currency r hr
    · rw [List.mem_singleton.mp hr]
      exact hcurrency
  · simp only [amountsOf_append, minorSum_append]
    simp only [amountsOf, List.map_cons, List.map_nil, minorSum_cons, minorSum_nil]
    simp only at hle
    unfold amountsOf at hle
    omega
  · intro seat hseat id hid
    obtain ⟨r, hr, hrid⟩ := h.named seat hseat id hid
    exact ⟨r, List.mem_append_left _ hr, hrid⟩

omit [LawfulOrderRules] in
theorem Settleable.refundMade (h : Settleable s) (refundId : Uuid) (refundRef : String)
    (now : Instant) {changed : SeatOrderSnapshot} (htotal : changed.quote.total = s.quote.total) :
    Settleable { changed with
      refunds := SeatOrder.refundsWithMade s.refunds refundId refundRef now
      seats := SeatOrder.seatsRefundedBy s.seats refundId
      version := s.version + 1 } := by
  have hamounts : amountsOf (SeatOrder.refundsWithMade s.refunds refundId refundRef now) =
      amountsOf s.refunds := by
    unfold amountsOf SeatOrder.refundsWithMade
    rw [List.map_map]
    apply List.map_congr_left
    intro r _
    simp only [Function.comp_apply]
    split_ifs <;> rfl
  refine ⟨?_, ?_, ?_, ?_, ?_⟩
  · intro r hr
    rw [htotal]
    obtain ⟨r₀, hr₀, rfl⟩ := List.mem_map.mp hr
    have hkept := h.currency r₀ hr₀
    split_ifs
    · exact hkept
    · exact hkept
  · show minorSum (amountsOf _) ≤ changed.quote.total.amountMinor
    rw [htotal, hamounts]
    exact h.bounded
  · show 0 ≤ changed.quote.total.amountMinor
    rw [htotal]
    exact h.total
  · have hids := seatsRefundedBy_map s.seats refundId (fun seat => seat.id) (fun _ => rfl)
    show ((SeatOrder.seatsRefundedBy s.seats refundId).map fun seat => seat.id).Nodup
    rw [hids]
    exact h.seatIds
  · intro seat' hseat' id hid
    obtain ⟨seat, hseat, rfl⟩ := List.mem_map.mp hseat'
    have hkept : seat.refundId = some id := by
      split_ifs at hid
      · exact hid
      · exact hid
    obtain ⟨r, hr, hrid⟩ := h.named seat hseat id hkept
    refine ⟨_, List.mem_map.mpr ⟨r, hr, rfl⟩, ?_⟩
    split_ifs
    · exact hrid
    · exact hrid

/-- Every operation keeps what the settlement reads. -/
theorem Settleable.step (h : Settleable s) (hop : op.IssuesDistinct) (hc : Change s op s') :
    Settleable s' := by
  cases hc with
  | none => exact h
  | paid intentRef issues now haccepts =>
      refine ⟨h.currency, h.bounded, h.total, ?_, ?_⟩
      · have hids : (issues.map fun issue => issue.id).Nodup := hop
        simpa [Function.comp_def, SeatOrder.issuedSeat] using hids
      · intro seat hseat id hid
        obtain ⟨issue, -, rfl⟩ := List.mem_map.mp hseat
        cases hid
  | refundOwed refund now left _ _ _ hleft hwithin => exact h.refundOwed hleft hwithin
  | unseatedOwed reason intentRef id now haccepts =>
      have hnone : s.refunds = [] := haccepts.1
      refine ⟨?_, ?_, h.total, h.seatIds, ?_⟩
      · intro r hr
        rw [List.mem_singleton.mp hr]
      · simp [amountsOf]
      · intro seat hseat id hid
        obtain ⟨r, hr, -⟩ := h.named seat hseat id hid
        rw [hnone] at hr
        cases hr
  | refundMade refund refundRef now made sign reached changed _ _ _ _ _ hchanged =>
      apply h.refundMade
      rw [hchanged]
      split_ifs
      · rfl
      · rfl
  | seatsCancelled cancellation now hrefund _ _ _ _ =>
      apply h.seatsMoved
      · exact cancelledSeat_id cancellation now
      · intro seat hseat id hid
        unfold SeatOrder.cancelledSeat at hid
        split at hid
        · exact h.named seat hseat id hid
        · simp only at hid
          split_ifs at hid
          obtain ⟨r, hfind⟩ := hrefund (by rw [hid]; rfl)
          refine ⟨r, List.mem_of_find?_eq_some hfind, ?_⟩
          have hsame : some r.id = cancellation.refundId := by simpa using List.find?_some hfind
          rw [hid] at hsame
          exact Option.some.inj hsame
  | seatsCredited crediting now hmove =>
      apply h.seatsMoved
      · exact creditedSeat_id crediting now
      · intro seat hseat id hid
        unfold SeatOrder.creditedSeat at hid
        split at hid
        · exact h.named seat hseat id hid
        · exact h.named seat hseat id hid
  | _ => exact h.quiet rfl rfl rfl

end Kept

/-! ## The steps a settlement asks for -/

section Steps

variable [OrderRules]

/-- The refund owed first, if any, then the seats cancelled. -/
def CancelledDateSettlement.applied (settlement : CancelledDateSettlement) (o : SeatOrder)
    (now : Instant) : Reply SeatOrder Refusal Unit :=
  match settlement.refund with
  | none => o.cancelSeats settlement.cancellation now
  | some refund =>
    let owed := o.oweRefund refund now
    match owed.result with
    | .error e => .refuse owed.state e
    | .ok _ => owed.state.cancelSeats settlement.cancellation now

/-- The pass commits the steps asked for, or nothing. -/
theorem settleOrder_cancelled [SalesRules] (db : Db) (orderId drawnId : Uuid) (now : Instant) :
    settleOrder db .cancelled orderId drawnId now = (do
      let order ← orRefuse (db.findOrder orderId) (.error s!"order {orderId} vanished")
      match ← cancelledDateSettlementOf order drawnId with
      | none => return db
      | some settled => do
        let (order, _) ← (settled.applied order now).commit
        db.saveOrder order) := by
  unfold settleOrder
  simp only [if_true]
  congr 1
  funext order
  congr 1
  funext settled
  cases settled with
  | none => rfl
  | some settled =>
      obtain ⟨refund, cancellation⟩ := settled
      cases refund with
      | none => rfl
      | some refund =>
          unfold CancelledDateSettlement.applied
          dsimp only
          generalize order.oweRefund refund now = owed
          obtain ⟨state, result⟩ := owed
          cases result with
          | error e => rfl
          | ok refund => rfl

end Steps

section Accepted

variable [OrderRules] [LawfulOrderRules] {o : SeatOrder}

/-- Seats named once each and active may be cancelled or credited. -/
theorem assertSeatsMayMove_ok {seatIds : List Uuid} {target : SeatState}
    (htarget : target = .cancelled ∨ target = .credited)
    (hids : (o.current.seats.map fun seat => seat.id).Nodup) (hnodup : seatIds.Nodup)
    (hactive : ∀ id ∈ seatIds, ∃ seat ∈ o.current.seats, seat.id = id ∧ seat.state = .active) :
    o.assertSeatsMayMove seatIds target = .ok () := by
  unfold SeatOrder.assertSeatsMayMove
  rw [if_neg (not_not.mpr hnodup), forM_ok_iff]
  intro id hid
  obtain ⟨seat, hseat, hseatId, hstate⟩ := hactive id hid
  rw [(find?_eq_some_iff_of_nodup hids).mpr ⟨hseat, hseatId⟩]
  have hmay : OrderRules.seatStateMayMove seat.state target = true := by
    rcases htarget with rfl | rfl
    · exact (LawfulOrderRules.mayCancel_iff _).mpr hstate
    · exact (LawfulOrderRules.mayCredit_iff _).mpr hstate
  simp only [hmay, if_true]

/-- Shares of one refund that no seat holds yet pass its bound when they sum to no more. -/
theorem sharesWithin_ok {cancellation : SeatCancellation} {refund : OrderRefund}
    (hheld : SeatOrder.heldAlready o.current.seats cancellation.refundId = [])
    {givenBack : List Money}
    (hcurrency : ∀ share ∈ givenBack, share.currencyCode = refund.amount.currencyCode)
    (hsum : minorSum givenBack ≤ refund.amount.amountMinor) :
    SeatOrder.cancelSeats.sharesWithin o cancellation (some refund) givenBack = .ok () := by
  unfold SeatOrder.cancelSeats.sharesWithin
  rw [hheld, List.nil_append]
  simp only [LawfulOrderRules.sum_same _ _ hcurrency, bind, Except.bind]
  obtain ⟨sign, hsign, hover, -⟩ := LawfulOrderRules.compare_same
    ⟨minorSum givenBack, refund.amount.currencyCode⟩ refund.amount rfl
  have hnot : ¬ 0 < sign := by
    rw [hover]
    exact not_lt.mpr hsum
  simp only [hsign, if_neg hnot]

/-- A cancellation of active seats, within the refund it names, is accepted. -/
theorem cancelSeats_ok (o : SeatOrder) (c : SeatCancellation) (now : Instant)
    (hids : (o.current.seats.map fun seat => seat.id).Nodup)
    (hnodup : (c.seats.map fun named => named.seatId).Nodup)
    (hactive : ∀ named ∈ c.seats, ∃ seat ∈ o.current.seats, seat.id = named.seatId ∧
      seat.state = .active)
    (hrefund : c.refundId.isSome →
      (o.current.refunds.find? fun r => some r.id = c.refundId).isSome)
    (hnonneg : ∀ share ∈ c.seats.filterMap fun named => named.refundAmount,
      0 ≤ share.amountMinor)
    (hwithin : SeatOrder.cancelSeats.sharesWithin o c
      (o.current.refunds.find? fun r => some r.id = c.refundId)
      (c.seats.filterMap fun named => named.refundAmount) = .ok ())
    (hnone : c.refundId = none → ∀ named ∈ c.seats,
      named.refundAmount = none) :
    (o.cancelSeats c now).result = .ok () ∧
      (o.cancelSeats c now).state.current = { o.current with
        seats := o.current.seats.map (SeatOrder.cancelledSeat c now)
        version := o.current.version + 1 } := by
  have hmove : o.assertSeatsMayMove (c.seats.map fun named => named.seatId) .cancelled =
      .ok () := by
    apply assertSeatsMayMove_ok (.inl rfl) hids hnodup
    intro id hid
    obtain ⟨named, hnamed, rfl⟩ := List.mem_map.mp hid
    exact hactive named hnamed
  have howed : ¬ (c.refundId.isSome ∧
      (o.current.refunds.find? fun r => some r.id = c.refundId).isNone) := by
    rintro ⟨hsome, hmissing⟩
    have hfound := hrefund hsome
    rw [Option.isNone_iff_eq_none.mp hmissing] at hfound
    cases hfound
  have hpositive : ¬ ∃ share ∈ c.seats.filterMap fun named => named.refundAmount,
      share.amountMinor < 0 := by
    rintro ⟨share, hshare, hneg⟩
    exact absurd (hnonneg share hshare) (not_le.mpr hneg)
  have hgiven : ¬ (c.refundId.isNone ∧ ∃ named ∈ c.seats,
      named.refundAmount.isSome) := by
    rintro ⟨hmissing, named, hnamed, hshare⟩
    rw [hnone (Option.isNone_iff_eq_none.mp hmissing) named hnamed] at hshare
    cases hshare
  unfold SeatOrder.cancelSeats
  simp only [if_neg howed, if_neg hpositive, hwithin, if_neg hgiven, hmove, Reply.guard_ok]
  refine ⟨rfl, ?_⟩
  rw [Reply.answer_state, SeatOrder.foldl_apply_current]
  rfl

/-- A refund of all that is left, under an id and a key of its own, is accepted. -/
theorem oweRefund_ok {refund : OwedRefund} {now : Instant} {left : Money}
    (hfresh : ∀ r ∈ o.current.refunds,
      r.id ≠ refund.id ∧ r.idempotencyKey ≠ refund.idempotencyKey)
    (hstate : o.current.state ∈ statesOwingRefunds) (hleft : o.refundableLeft = .ok left)
    (hamount : refund.amount = left) (hpos : 0 < left.amountMinor) :
    o.oweRefund refund now = .answer (o.owe refund now o.current) ⟨refund, now, none, none⟩ := by
  have hnone : (o.current.refunds.find? fun r =>
      r.id = refund.id || r.idempotencyKey = refund.idempotencyKey) = none := by
    rw [List.find?_eq_none]
    intro r hr
    simp [hfresh r hr]
  have hwithin : OrderRules.assertRefundWithinRemaining refund.amount left = .ok () := by
    rw [hamount]
    exact LawfulOrderRules.assert_of_within _ _ rfl hpos.le le_rfl
  have hsome : ¬ refund.amount.amountMinor ≤ 0 := by
    rw [hamount]
    exact not_le.mpr hpos
  unfold SeatOrder.oweRefund
  simp only [hnone, hstate, not_true_eq_false, if_false, if_neg hsome, hleft, Reply.guard_ok,
    hwithin]

end Accepted

/-! ## The active seats and their shares -/

theorem mem_activeSeatsOf {o : SeatOrder} {seat : SeatSnapshot} :
    seat ∈ activeSeatsOf o ↔ seat ∈ o.current.seats ∧ seat.state = .active := by
  simp [activeSeatsOf, List.mem_mergeSort]

theorem nodup_activeSeatsOf {o : SeatOrder}
    (hids : (o.current.seats.map fun seat => seat.id).Nodup) :
    ((activeSeatsOf o).map fun seat => seat.id).Nodup := by
  have hperm : ((activeSeatsOf o).map fun seat => seat.id).Perm
      ((o.current.seats.filter fun seat => seat.state = .active).map fun seat => seat.id) :=
    (List.mergeSort_perm _ _).map _
  rw [hperm.nodup_iff]
  exact hids.sublist (List.filter_sublist.map _)

section Shares

variable [SalesRules] [LawfulShareRules] {seats : List SeatSnapshot} {total : Money}

/-- Each seat with its share, and the shares are core's. -/
theorem sharedOver_ok (hseats : seats ≠ []) (htotal : 0 ≤ total.amountMinor) :
    ∃ shared, sharedOver seats total = .ok shared ∧ shared.map Prod.fst = seats ∧
      shared.map Prod.snd = SalesRules.seatSharesOf total seats.length := by
  have hlength := LawfulShareRules.shares_length total seats.length htotal
    (List.length_pos_of_ne_nil hseats)
  refine ⟨seats.zip (SalesRules.seatSharesOf total seats.length), ?_, ?_, ?_⟩
  · simp [sharedOver, hlength, require, bind, Except.bind, pure, Except.pure]
  · exact List.map_fst_zip hlength.ge
  · exact List.map_snd_zip hlength.le

/-- What is split over the seats is each seat's share, and the shares add up to it. -/
theorem shared_shares {shared : List (SeatSnapshot × Money)} (hseats : seats ≠ [])
    (htotal : 0 ≤ total.amountMinor)
    (hshares : shared.map Prod.snd = SalesRules.seatSharesOf total seats.length) :
    (∀ pair ∈ shared, 0 ≤ pair.2.amountMinor ∧ pair.2.currencyCode = total.currencyCode) ∧
      minorSum (shared.map Prod.snd) = total.amountMinor := by
  have hlength := List.length_pos_of_ne_nil hseats
  constructor
  · intro pair hpair
    apply LawfulShareRules.shares_nonneg total seats.length htotal hlength
    rw [← hshares]
    exact List.mem_map.mpr ⟨pair, hpair, rfl⟩
  · rw [hshares]
    exact LawfulShareRules.shares_sum total seats.length htotal hlength

end Shares

/-! ## Every reachable order is settled -/

/-- What settling a cancelled date's order comes to. -/
structure CancelledSettled [OrderRules] (o : SeatOrder) (settlement : CancelledDateSettlement)
    (now : Instant) : Prop where
  accepted : (settlement.applied o now).result = .ok ()
  noneActive : ∀ seat ∈ (settlement.applied o now).state.current.seats, seat.state ≠ .active
  nothingLeft : o.current.state ∈ statesOwingRefunds →
    (settlement.applied o now).state.refundableLeft = .ok ⟨0, o.current.quote.total.currencyCode⟩
  shares : ∀ refund, settlement.refund = some refund →
    (∀ named ∈ settlement.cancellation.seats, ∃ share, named.refundAmount = some share ∧
      0 ≤ share.amountMinor ∧ share.currencyCode = refund.amount.currencyCode) ∧
    minorSum (settlement.cancellation.seats.filterMap fun named => named.refundAmount) =
      refund.amount.amountMinor ∧
    ((settlement.applied o now).state.current.seats.map (shareOf refund.id)).sum =
      refund.amount.amountMinor
  nothingShared : settlement.refund = none →
    ∀ named ∈ settlement.cancellation.seats, named.refundAmount = none

/-- What settling an interrupted date's order comes to. -/
structure InterruptedSettled [OrderRules] (o : SeatOrder) (credit : CreditIssue)
    (crediting : SeatCrediting) (now : Instant) : Prop where
  accepted : (o.creditSeats crediting now).result = .ok ()
  noneActive : ∀ seat ∈ (o.creditSeats crediting now).state.current.seats, seat.state ≠ .active
  shares : ∀ named ∈ crediting.seats, 0 ≤ named.creditAmount.amountMinor ∧
    named.creditAmount.currencyCode = credit.amount.currencyCode
  total : minorSum (crediting.seats.map fun named => named.creditAmount) = credit.amount.amountMinor
  within : ∃ left, o.refundableLeft = .ok left ∧ credit.amount.amountMinor ≤ left.amountMinor

section Settled

variable [OrderRules] [LawfulOrderRules] [SalesRules] {o : SeatOrder} {now : Instant}

omit [OrderRules] [LawfulOrderRules] [SalesRules] in
/-- Once every active seat is named, none is active. -/
theorem noneActive_of_cancelled {cancellation : SeatCancellation}
    (hnamed : ∀ seat ∈ o.current.seats, seat.state = .active →
      seat.id ∈ cancellation.seats.map fun named => named.seatId) :
    ∀ seat ∈ o.current.seats.map (SeatOrder.cancelledSeat cancellation now),
      seat.state ≠ .active := by
  intro seat' hseat'
  obtain ⟨seat, hseat, rfl⟩ := List.mem_map.mp hseat'
  unfold SeatOrder.cancelledSeat
  split
  · rename_i hfind
    intro hactive
    exact find?_eq_none_iff_not_mem.mp hfind (hnamed seat hseat hactive)
  · simp

omit [OrderRules] [LawfulOrderRules] [SalesRules] in
theorem noneActive_of_credited {crediting : SeatCrediting}
    (hnamed : ∀ seat ∈ o.current.seats, seat.state = .active →
      seat.id ∈ crediting.seats.map fun named => named.seatId) :
    ∀ seat ∈ o.current.seats.map (SeatOrder.creditedSeat crediting now),
      seat.state ≠ .active := by
  intro seat' hseat'
  obtain ⟨seat, hseat, rfl⟩ := List.mem_map.mp hseat'
  unfold SeatOrder.creditedSeat
  split
  · rename_i hfind
    intro hactive
    exact find?_eq_none_iff_not_mem.mp hfind (hnamed seat hseat hactive)
  · simp

omit [SalesRules] in
/-- What is left of the money an order holds, and that it is nothing when none is answered. -/
theorem moneyLeftOf_ok (h : Settleable o.current) :
    ∃ left, o.refundableLeft = .ok left ∧ 0 ≤ left.amountMinor ∧
      left.currencyCode = o.current.quote.total.currencyCode ∧
      moneyLeftOf o = .ok (if o.current.state ∈ statesOwingRefunds ∧ 0 < left.amountMinor
        then some left else none) := by
  have hleft : o.refundableLeft = _ := refundableLeft_eq h.currency h.bounded
  refine ⟨_, hleft, sub_nonneg.mpr h.bounded, rfl, ?_⟩
  unfold moneyLeftOf
  by_cases hstate : o.current.state ∈ statesOwingRefunds
  · simp only [hstate, not_true_eq_false, if_false, hleft, bind, Except.bind, pure, Except.pure,
      true_and]
  · simp only [hstate, not_false_eq_true, if_true, false_and, if_false, pure, Except.pure]

omit [LawfulOrderRules] [SalesRules] in
/-- A cancellation moves no money. -/
theorem refundableLeft_of_cancelled {changed : SeatOrder} {seats : List SeatSnapshot} {version : ℕ}
    (h : changed.current = { o.current with seats, version }) :
    changed.refundableLeft = o.refundableLeft := by
  unfold SeatOrder.refundableLeft
  rw [h]

omit [SalesRules] in
/-- All that is left, once owed, leaves nothing. -/
theorem refundableLeft_owed (h : Settleable o.current) {refund : OwedRefund}
    (hleft : o.refundableLeft = .ok refund.amount) :
    (o.owe refund now o.current).refundableLeft = .ok ⟨0, o.current.quote.total.currencyCode⟩ := by
  have hbefore : o.refundableLeft = _ := refundableLeft_eq h.currency h.bounded
  have hamount : refund.amount = ⟨o.current.quote.total.amountMinor -
      minorSum (amountsOf o.current.refunds), o.current.quote.total.currencyCode⟩ := by
    rw [hbefore] at hleft
    exact (Except.ok.inj hleft).symm
  have hcurrency : refund.amount.currencyCode = o.current.quote.total.currencyCode := by
    rw [hamount]
  have hsum : minorSum (amountsOf (o.current.refunds ++
      [(⟨refund, now, none, none⟩ : OrderRefund)])) = o.current.quote.total.amountMinor := by
    rw [amountsOf_append, minorSum_append]
    simp only [amountsOf, List.map_cons, List.map_nil, minorSum_cons, minorSum_nil, hamount]
    ring
  have hafter := refundableLeft_eq (s := (o.owe refund now o.current).current)
    (fun r hr => by
      rcases List.mem_append.mp hr with hr | hr
      · exact h.currency r hr
      · rw [List.mem_singleton.mp hr]
        exact hcurrency)
    hsum.le
  have hzero : o.current.quote.total.amountMinor - minorSum (amountsOf (o.current.refunds ++
      [(⟨refund, now, none, none⟩ : OrderRefund)])) = 0 := by
    rw [hsum]
    ring
  calc (o.owe refund now o.current).refundableLeft
      = .ok ⟨o.current.quote.total.amountMinor - minorSum (amountsOf (o.current.refunds ++
          [(⟨refund, now, none, none⟩ : OrderRefund)])),
          o.current.quote.total.currencyCode⟩ := hafter
    _ = .ok ⟨0, o.current.quote.total.currencyCode⟩ := by rw [hzero]

omit [OrderRules] [LawfulOrderRules] [SalesRules] in
/-- Named, a seat that held nothing of the refund holds its share of it. -/
theorem shareOf_cancelledSeat_eq {cancellation : SeatCancellation} {seat : SeatSnapshot} {id : Uuid}
    (hid : cancellation.refundId = some id) (hunshared : seat.refundId ≠ some id)
    (hweight : ∀ named ∈ cancellation.seats, 0 ≤ weightOf named) :
    shareOf id (SeatOrder.cancelledSeat cancellation now seat) =
      ((cancellation.seats.find? fun named => named.seatId = seat.id).map weightOf).getD 0 := by
  unfold SeatOrder.cancelledSeat
  cases hfind : cancellation.seats.find? fun named => named.seatId = seat.id with
  | none => simp [shareOf, hunshared]
  | some named =>
      have hle := hweight named (List.mem_of_find?_eq_some hfind)
      unfold weightOf at hle
      unfold shareOf weightOf
      cases hshare : named.refundAmount with
      | none => simp [hshare]
      | some share =>
          rw [hshare] at hle
          by_cases hpos : 0 < share.amountMinor
          · simp [hshare, Option.filter, hpos, hid]
          · have hzero : share.amountMinor = 0 := le_antisymm (not_lt.mp hpos) hle
            simp [hshare, Option.filter, hzero]

omit [SalesRules] in
/-- With nothing to give back, the seats are cancelled and share nothing. -/
theorem cancelledSettled_nothing (h : Settleable o.current) {left : Money}
    (hleft : o.refundableLeft = .ok left) (hnonneg : 0 ≤ left.amountMinor)
    (hcurrency : left.currencyCode = o.current.quote.total.currencyCode)
    (hnot : ¬ (o.current.state ∈ statesOwingRefunds ∧ 0 < left.amountMinor)) :
    CancelledSettled o
      { refund := none
        cancellation :=
          { reason := .dateCancelled
            refundId := none
            seats := (activeSeatsOf o).map fun seat => ⟨seat.id, none⟩ } } now := by
  let cancellation : SeatCancellation :=
    { reason := .dateCancelled
      refundId := none
      seats := (activeSeatsOf o).map fun seat => ⟨seat.id, none⟩ }
  have hids : cancellation.seats.map (fun named => named.seatId) =
      (activeSeatsOf o).map fun seat => seat.id := by simp [cancellation]
  have hnone : cancellation.seats.filterMap (fun named => named.refundAmount) = [] := by
    simp [cancellation]
  have hmissing : (o.current.refunds.find? fun r => some r.id = cancellation.refundId) = none := by
    simp [cancellation]
  obtain ⟨haccepted, hstate⟩ := cancelSeats_ok o cancellation now
    h.seatIds (hids ▸ nodup_activeSeatsOf h.seatIds)
    (by
      intro named hnamed
      obtain ⟨seat, hseat, rfl⟩ := List.mem_map.mp hnamed
      obtain ⟨hmem, hactive⟩ := mem_activeSeatsOf.mp hseat
      exact ⟨seat, hmem, rfl, hactive⟩)
    (by simp [cancellation])
    (by
      rw [hnone]
      simp)
    (by
      rw [hmissing]
      rfl)
    (by simp [cancellation])
  change CancelledSettled o ⟨none, cancellation⟩ now
  refine ⟨haccepted, ?_, ?_, by simp, by simp [cancellation]⟩
  · show ∀ seat ∈ (o.cancelSeats cancellation now).state.current.seats, seat.state ≠ .active
    rw [hstate]
    apply noneActive_of_cancelled
    intro seat hseat hactive
    rw [hids]
    exact List.mem_map.mpr ⟨seat, mem_activeSeatsOf.mpr ⟨hseat, hactive⟩, rfl⟩
  · intro howing
    have hzero : left.amountMinor = 0 :=
      le_antisymm (not_lt.mp fun hpos => hnot ⟨howing, hpos⟩) hnonneg
    show (o.cancelSeats cancellation now).state.refundableLeft = _
    rw [refundableLeft_of_cancelled hstate, hleft, ← hcurrency, ← hzero]

omit [SalesRules] in
/-- With money left, all of it is owed in one refund and the seats cancelled with their shares. -/
theorem cancelledSettled_refunded (h : Settleable o.current) {left : Money} {refundId : Uuid}
    {shared : List (SeatSnapshot × Money)} (hfresh : FreshRefund o refundId)
    (hleft : o.refundableLeft = .ok left) (hstate : o.current.state ∈ statesOwingRefunds)
    (hpos : 0 < left.amountMinor) (hseats : shared.map Prod.fst = activeSeatsOf o)
    (hshares : ∀ pair ∈ shared, 0 ≤ pair.2.amountMinor ∧ pair.2.currencyCode = left.currencyCode)
    (hsum : minorSum (shared.map Prod.snd) = left.amountMinor) :
    CancelledSettled o
      { refund := some
          { id := refundId
            amount := left
            reason := .dateCancelled
            idempotencyKey := OrderRules.refundIdempotencyKey refundId
            seatId := none }
        cancellation :=
          { reason := .dateCancelled
            refundId := some refundId
            seats := shared.map fun pair => ⟨pair.1.id, some pair.2⟩ } } now := by
  let refund : OwedRefund :=
    { id := refundId
      amount := left
      reason := .dateCancelled
      idempotencyKey := OrderRules.refundIdempotencyKey refundId
      seatId := none }
  let cancellation : SeatCancellation :=
    { reason := .dateCancelled
      refundId := some refundId
      seats := shared.map fun pair => ⟨pair.1.id, some pair.2⟩ }
  let owed := o.owe refund now o.current
  have howe : o.oweRefund refund now = .answer owed ⟨refund, now, none, none⟩ :=
    oweRefund_ok hfresh hstate hleft rfl hpos
  have hids : cancellation.seats.map (fun named => named.seatId) =
      (activeSeatsOf o).map fun seat => seat.id := by
    rw [← hseats]
    simp [cancellation]
  have hgiven : cancellation.seats.filterMap (fun named => named.refundAmount) =
      shared.map Prod.snd := by
    simp [cancellation, List.filterMap_map]
  have hactive : ∀ named ∈ cancellation.seats, ∃ seat ∈ o.current.seats,
      seat.id = named.seatId ∧ seat.state = .active := by
    intro named hnamed
    obtain ⟨pair, hpair, rfl⟩ := List.mem_map.mp hnamed
    have hseat : pair.1 ∈ activeSeatsOf o := by
      rw [← hseats]
      exact List.mem_map.mpr ⟨pair, hpair, rfl⟩
    obtain ⟨hmem, hstate⟩ := mem_activeSeatsOf.mp hseat
    exact ⟨pair.1, hmem, rfl, hstate⟩
  have hfound : owed.current.refunds.find? (fun r => some r.id = cancellation.refundId) =
      some ⟨refund, now, none, none⟩ := by
    have hnone : (o.current.refunds.find? fun r => some r.id = cancellation.refundId) = none := by
      rw [List.find?_eq_none]
      intro r hr
      simpa [cancellation] using (hfresh r hr).1
    show (o.current.refunds ++ [(⟨refund, now, none, none⟩ : OrderRefund)]).find? _ = _
    rw [List.find?_append, hnone]
    simp [cancellation, refund]
  have hunshared : ∀ seat ∈ o.current.seats, seat.refundId ≠ some refundId := by
    intro seat hseat hid
    obtain ⟨r, hr, hrid⟩ := h.named seat hseat refundId hid
    exact (hfresh r hr).1 hrid
  have hheld : SeatOrder.heldAlready owed.current.seats cancellation.refundId = [] := by
    unfold SeatOrder.heldAlready
    rw [List.filterMap_eq_nil_iff]
    intro seat hseat
    exact if_neg (hunshared seat hseat)
  obtain ⟨haccepted, hafter⟩ := cancelSeats_ok owed cancellation now
    h.seatIds (hids ▸ nodup_activeSeatsOf h.seatIds) hactive
    (by
      rw [hfound]
      simp)
    (by
      rw [hgiven]
      intro share hshare
      obtain ⟨pair, hpair, rfl⟩ := List.mem_map.mp hshare
      exact (hshares pair hpair).1)
    (by
      rw [hfound, hgiven]
      apply sharesWithin_ok hheld
      · intro share hshare
        obtain ⟨pair, hpair, rfl⟩ := List.mem_map.mp hshare
        exact (hshares pair hpair).2
      · exact hsum.le)
    (by simp [cancellation])
  have happlied : CancelledDateSettlement.applied ⟨some refund, cancellation⟩ o now =
      owed.cancelSeats cancellation now := by
    unfold CancelledDateSettlement.applied
    simp only [howe, Reply.answer_result, Reply.answer_state]
  change CancelledSettled o ⟨some refund, cancellation⟩ now
  refine ⟨?_, ?_, ?_, ?_, by simp⟩
  · rw [happlied]
    exact haccepted
  · rw [happlied, hafter]
    apply noneActive_of_cancelled
    intro seat hseat hstate
    rw [hids]
    exact List.mem_map.mpr ⟨seat, mem_activeSeatsOf.mpr ⟨hseat, hstate⟩, rfl⟩
  · intro _
    rw [happlied, refundableLeft_of_cancelled hafter]
    exact refundableLeft_owed h hleft
  · intro refund' hrefund'
    obtain rfl : refund = refund' := Option.some.inj hrefund'
    refine ⟨?_, ?_, ?_⟩
    · intro named hnamed
      obtain ⟨pair, hpair, rfl⟩ := List.mem_map.mp hnamed
      exact ⟨pair.2, rfl, hshares pair hpair⟩
    · rw [hgiven]
      exact hsum
    · have hweight : ∀ named ∈ cancellation.seats, 0 ≤ weightOf named := by
        intro named hnamed
        obtain ⟨pair, hpair, rfl⟩ := List.mem_map.mp hnamed
        exact (hshares pair hpair).1
      have hshare : (o.current.seats.map fun seat =>
          shareOf refundId (SeatOrder.cancelledSeat cancellation now seat)) =
          o.current.seats.map fun seat =>
            ((cancellation.seats.find? fun named => named.seatId = seat.id).map weightOf).getD 0 := by
        apply List.map_congr_left
        intro seat hseat
        exact shareOf_cancelledSeat_eq rfl (hunshared seat hseat) hweight
      have hnames : (cancellation.seats.map fun named => named.seatId).Nodup :=
        hids ▸ nodup_activeSeatsOf h.seatIds
      rw [happlied, hafter]
      show ((o.current.seats.map (SeatOrder.cancelledSeat cancellation now)).map
        (shareOf refundId)).sum = _
      rw [List.map_map]
      show (o.current.seats.map fun seat =>
        shareOf refundId (SeatOrder.cancelledSeat cancellation now seat)).sum = _
      rw [hshare, sum_find_eq _ _ h.seatIds _ _ hnames, ← minorSum_filterMap, hgiven, hsum]
      intro named hnamed
      obtain ⟨seat, hseat, hid, -⟩ := hactive named hnamed
      exact List.mem_map.mpr ⟨seat, hseat, hid⟩

omit [SalesRules] in
/-- The credit is shared over the active seats, which are credited with it. -/
theorem interruptedSettled (h : Settleable o.current) {left : Money} {credit : CreditIssue}
    {creditId : Uuid} {shared : List (SeatSnapshot × Money)} (hleft : o.refundableLeft = .ok left)
    (hseats : shared.map Prod.fst = activeSeatsOf o)
    (hshares : ∀ pair ∈ shared, 0 ≤ pair.2.amountMinor ∧
      pair.2.currencyCode = credit.amount.currencyCode)
    (hsum : minorSum (shared.map Prod.snd) = credit.amount.amountMinor)
    (hwithin : credit.amount.amountMinor ≤ left.amountMinor) :
    InterruptedSettled o credit
      { creditId
        seats := shared.map fun (seat, share) => ⟨seat.id, share⟩ } now := by
  let crediting : SeatCrediting :=
    { creditId
      seats := shared.map fun (seat, share) => ⟨seat.id, share⟩ }
  have hids : crediting.seats.map (fun named => named.seatId) =
      (activeSeatsOf o).map fun seat => seat.id := by
    rw [← hseats]
    simp [crediting]
  have hmove : o.assertSeatsMayMove (crediting.seats.map fun named => named.seatId) .credited =
      .ok () := by
    rw [hids]
    apply assertSeatsMayMove_ok (.inr rfl) h.seatIds (nodup_activeSeatsOf h.seatIds)
    intro id hid
    obtain ⟨seat, hseat, rfl⟩ := List.mem_map.mp hid
    obtain ⟨hmem, hactive⟩ := mem_activeSeatsOf.mp hseat
    exact ⟨seat, hmem, rfl, hactive⟩
  have hanswer : (o.creditSeats crediting now).result = .ok () ∧
      (o.creditSeats crediting now).state.current = { o.current with
        seats := o.current.seats.map (SeatOrder.creditedSeat crediting now)
        version := o.current.version + 1 } := by
    unfold SeatOrder.creditSeats
    simp only [hmove, Reply.guard_ok]
    exact ⟨rfl, rfl⟩
  change InterruptedSettled o credit crediting now
  refine ⟨hanswer.1, ?_, ?_, ?_, left, hleft, hwithin⟩
  · rw [hanswer.2]
    apply noneActive_of_credited
    intro seat hseat hactive
    rw [hids]
    exact List.mem_map.mpr ⟨seat, mem_activeSeatsOf.mpr ⟨hseat, hactive⟩, rfl⟩
  · intro named hnamed
    obtain ⟨pair, hpair, rfl⟩ := List.mem_map.mp hnamed
    exact hshares pair hpair
  · rw [← hsum]
    simp [crediting, Function.comp_def]

section Shared

variable [LawfulShareRules]

/-- A cancelled date's order with an active seat is settled, whatever refunds and cancellations came
before. -/
theorem cancelled_settles (h : Settleable o.current)
    (hactive : ∃ seat ∈ o.current.seats, seat.state = .active) {refundId : Uuid}
    (hfresh : FreshRefund o refundId) :
    ∃ settlement, cancelledDateSettlementOf o refundId = .ok (some settlement) ∧
      CancelledSettled o settlement now := by
  obtain ⟨seat, hseat, hstate⟩ := hactive
  have hseats : activeSeatsOf o ≠ [] :=
    List.ne_nil_of_mem (mem_activeSeatsOf.mpr ⟨hseat, hstate⟩)
  obtain ⟨left, hleft, hnonneg, hcurrency, hmoney⟩ := moneyLeftOf_ok h
  unfold cancelledDateSettlementOf
  rw [if_neg hseats, hmoney]
  split_ifs with hsome
  · obtain ⟨shared, hshared, hfst, hsnd⟩ := sharedOver_ok hseats hnonneg
    obtain ⟨hshares, hsum⟩ := shared_shares hseats hnonneg hsnd
    refine ⟨_, by simp only [bind, Except.bind, hshared]; rfl, ?_⟩
    exact cancelledSettled_refunded h hfresh hleft hsome.1 hsome.2 hfst hshares hsum
  · exact ⟨_, rfl, cancelledSettled_nothing h hleft hnonneg hcurrency hsome⟩

/-- What an interrupted date's order is owed is always computed. -/
theorem interrupted_computed (h : Settleable o.current) (creditId : Uuid) :
    ∃ settlement, interruptedDateSettlementOf o creditId = .ok settlement := by
  obtain ⟨left, -, hnonneg, -, hmoney⟩ := moneyLeftOf_ok h
  simp only [interruptedDateSettlementOf]
  split_ifs with hseats
  · exact ⟨_, rfl⟩
  rw [hmoney]
  split_ifs with hsome
  · cases haccount : o.current.accountId with
    | none => exact ⟨_, rfl⟩
    | some accountId =>
        obtain ⟨shared, hshared, -⟩ := sharedOver_ok hseats
          (LawfulShareRules.credit_within left hnonneg).1
        simp only [bind, Except.bind, hshared]
        exact ⟨_, rfl⟩
  · exact ⟨_, rfl⟩

/-- An interrupted date's order that is owed a credit gets it, shared over its active seats. -/
theorem interrupted_settles (h : Settleable o.current) {creditId : Uuid} {credit : CreditIssue}
    {crediting : SeatCrediting}
    (hsettled : interruptedDateSettlementOf o creditId = .ok (.creditOwed credit crediting)) :
    InterruptedSettled o credit crediting now := by
  obtain ⟨left, hleft, hnonneg, hcurrency, hmoney⟩ := moneyLeftOf_ok h
  simp only [interruptedDateSettlementOf] at hsettled
  split_ifs at hsettled with hseats
  · cases hsettled
  rw [hmoney] at hsettled
  split_ifs at hsettled with hsome
  · cases haccount : o.current.accountId with
    | none =>
        simp only [bind, Except.bind, haccount] at hsettled
        cases hsettled
    | some accountId =>
        obtain ⟨hcredit, hwithin⟩ := LawfulShareRules.credit_within left hnonneg
        obtain ⟨shared, hshared, hfst, hsnd⟩ := sharedOver_ok hseats hcredit
        obtain ⟨hshares, hsum⟩ := shared_shares hseats hcredit hsnd
        simp only [bind, Except.bind, haccount, hshared] at hsettled
        obtain ⟨rfl, rfl⟩ := InterruptedDateSettlement.creditOwed.inj (Except.ok.inj hsettled)
        exact interruptedSettled h hleft hfst hshares hsum hwithin
  · simp only [bind, Except.bind] at hsettled
    cases hsettled

end Shared

omit [SalesRules] in
/-- The aggregate's operations, each with any arguments, the seats issued having ids of their own. -/
theorem settleable_of_reaches {placement : SeatOrderPlacement} {placedAt : Instant}
    (htotal : 0 ≤ placement.quote.total.amountMinor)
    (h : Reaches (fun _ op => op.IssuesDistinct) Operation.step
      (SeatOrder.place placement placedAt) o) : Settleable o.current := by
  apply h.invariant (P := fun o => Settleable o.current)
  · exact .placed placedAt htotal
  · intro v op w hv hop hstep
    rw [← Option.some.inj hstep]
    exact hv.step hop (op.perform_changes v).change

/-- Every order with an active seat that any run of the aggregate's operations leads to: a cancelled
date's settlement is computed and each of its steps accepted, no seat is active afterwards, nothing
is left to refund where the order held money, and the shares are the refund; an interrupted date's
credits add up to the credit, which what was left bounds. -/
theorem order_settled [LawfulShareRules] (placement : SeatOrderPlacement)
    (htotal : 0 ≤ placement.quote.total.amountMinor) (placedAt : Instant) (o : SeatOrder)
    (h : Reaches (fun _ op => op.IssuesDistinct) Operation.step
      (SeatOrder.place placement placedAt) o)
    (hactive : ∃ seat ∈ o.current.seats, seat.state = .active) (now : Instant) :
    (∀ refundId, FreshRefund o refundId →
      ∃ settlement, cancelledDateSettlementOf o refundId = .ok (some settlement) ∧
        CancelledSettled o settlement now) ∧
    ∀ creditId, ∃ settlement, interruptedDateSettlementOf o creditId = .ok settlement ∧
      ∀ credit crediting, settlement = .creditOwed credit crediting →
        InterruptedSettled o credit crediting now := by
  have hsettleable := settleable_of_reaches htotal h
  refine ⟨fun refundId hfresh => cancelled_settles hsettleable hactive hfresh, ?_⟩
  intro creditId
  obtain ⟨settlement, hsettled⟩ := interrupted_computed hsettleable creditId
  refine ⟨settlement, hsettled, ?_⟩
  rintro credit crediting rfl
  exact interrupted_settles hsettleable hsettled

end Settled

section Sample

open Arthome.Core.Sample

theorem minorSum_sharesOf (total : Money) (n : ℕ) (hn : 0 < n) :
    minorSum (sharesOf total n) = total.amountMinor := by
  obtain ⟨m, rfl⟩ : ∃ m, n = m + 1 := ⟨n - 1, by omega⟩
  have hrest : ∀ i ∈ List.range m, (total.amountMinor / (m + 1 : ℕ) +
      if i + 1 = 0 then total.amountMinor % (m + 1 : ℕ) else 0) =
      total.amountMinor / (m + 1 : ℕ) := by
    intro i _
    simp
  have hsplit := Int.mul_ediv_add_emod total.amountMinor (m + 1 : ℕ)
  simp only [minorSum, sharesOf, List.map_map, Function.comp_def]
  rw [List.range_succ_eq_map, List.map_cons, List.sum_cons, List.map_map]
  simp only [Function.comp_def, Nat.succ_eq_add_one]
  rw [List.map_congr_left hrest, List.map_const', List.sum_replicate, List.length_range]
  simp only [if_true, nsmul_eq_mul]
  push_cast at hsplit ⊢
  linarith

scoped instance lawfulShareRules : LawfulShareRules where
  shares_length total n _ _ := by simp [SalesRules.seatSharesOf, sharesOf]
  shares_nonneg total n htotal hn := by
    intro share hshare
    obtain ⟨i, -, rfl⟩ := List.mem_map.mp hshare
    have hdiv : 0 ≤ total.amountMinor / n := Int.ediv_nonneg htotal (by omega)
    have hmod : 0 ≤ total.amountMinor % n := Int.emod_nonneg _ (by omega)
    refine ⟨?_, rfl⟩
    split_ifs
    · exact add_nonneg hdiv hmod
    · simpa using hdiv
  shares_sum total n _ hn := minorSum_sharesOf total n hn
  credit_within amount h := ⟨h, le_rfl⟩

/-- Two seats bought, six euros given back for one of them, and the other's still active. -/
def sampleOrder : SeatOrder := afterCalls (SeatOrder.place samplePlacement 0) (sampleCalls 11)

theorem order_settled_sample :
    ∃ settlement, cancelledDateSettlementOf sampleOrder 30 = .ok (some settlement) ∧
      CancelledSettled sampleOrder settlement 300 := by
  have hreaches : Reaches (fun _ op => op.IssuesDistinct) Operation.step
      (SeatOrder.place samplePlacement 0) sampleOrder := by
    refine Reaches.tail (a := .cancelSeats ⟨.viewerRequest, some 20, [⟨10, some ⟨600, "EUR"⟩⟩]⟩ 200)
      (Reaches.tail (a := .oweRefund ⟨20, ⟨600, "EUR"⟩, .goodwill, "refund:20", some 10⟩ 200)
        (Reaches.tail (a := .pay "pi_1" [⟨10, "A", none⟩, ⟨11, "B", none⟩] 100) .refl ?_ rfl)
        trivial rfl) trivial rfl
    show [10, 11].Nodup
    decide
  have hsettled := order_settled samplePlacement (by decide) 0 sampleOrder hreaches (by decide) 300
  apply hsettled.1
  unfold FreshRefund
  decide

end Sample

end Arthome.Ticketing
