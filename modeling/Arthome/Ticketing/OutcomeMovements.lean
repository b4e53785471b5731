import Arthome.Ticketing.ExpiryMovements
import Arthome.Ticketing.SeatMovements

/-!
# The movements of a date's settlement

Each order of a batch is settled by movements of its own record, then marked; a
cancelled date's order is marked with no active seat left. The settlement's row
moves last.
-/

namespace Arthome.Ticketing

open Arthome.Core Library

variable [OrderRules] [SalesRules]

section Decided

variable {order : SeatOrder} {drawnId : Uuid}

omit [OrderRules] in
theorem sharedOver_seats {seats : List SeatSnapshot} {total : Money}
    {shared : List (SeatSnapshot × Money)} (h : sharedOver seats total = .ok shared) :
    shared.map Prod.fst = seats := by
  unfold sharedOver at h
  simp only [bind_ok_iff, require_ok_iff, pure_ok_iff] at h
  obtain ⟨_, hlength, rfl⟩ := h
  exact List.map_fst_zip hlength

/-- A cancelled date's settlement names every active seat of the order, for its date. -/
theorem cancelledDateSettlementOf_some {settled : CancelledDateSettlement}
    (h : cancelledDateSettlementOf order drawnId = .ok (some settled)) :
    settled.cancellation.reason = .dateCancelled ∧
      (settled.cancellation.seats.map fun named => named.seatId) =
        (activeSeatsOf order).map fun seat => seat.id := by
  unfold cancelledDateSettlementOf at h
  dsimp only at h
  split_ifs at h with hnone
  · cases pure_ok_iff.mp h
  · simp only [bind_ok_iff] at h
    obtain ⟨left, -, h⟩ := h
    split at h
    · obtain rfl := Option.some.inj (pure_ok_iff.mp h)
      exact ⟨rfl, by simp [Function.comp_def]⟩
    · simp only [bind_ok_iff, pure_ok_iff, Option.some.injEq] at h
      obtain ⟨shared, hshared, rfl⟩ := h
      refine ⟨rfl, ?_⟩
      rw [← sharedOver_seats hshared]
      simp [Function.comp_def]

/-- An order with nothing to settle has no active seat. -/
theorem cancelledDateSettlementOf_none
    (h : cancelledDateSettlementOf order drawnId = .ok none) : activeSeatsOf order = [] := by
  unfold cancelledDateSettlementOf at h
  dsimp only at h
  split_ifs at h with hnone
  · exact hnone
  · simp only [bind_ok_iff] at h
    obtain ⟨left, -, h⟩ := h
    split at h
    · cases pure_ok_iff.mp h
    · simp only [bind_ok_iff, pure_ok_iff] at h
      obtain ⟨shared, -, h⟩ := h
      cases h

omit [OrderRules] [SalesRules] in
theorem hasActiveSeat_false {record : OrderRecord}
    (h : ∀ seat ∈ record.order.seats, seat.state ≠ .active) : Db.hasActiveSeat record = false := by
  unfold Db.hasActiveSeat
  rw [List.any_eq_false]
  intro seat hseat hactive
  exact h seat hseat (by simpa using hactive)

end Decided

section Settling

variable {db db' : Db} {record : OrderRecord} {now : Instant}

omit [SalesRules] in
/-- No movement of an order's record takes it back. -/
theorem RecordMove.rank_le [LawfulOrderRules] {record' : OrderRecord} {label : Label}
    (h : RecordMove record record' label) : record.order.state.rank ≤ record'.order.state.rank := by
  cases h with
  | waiting intent state now hc => exact hc.rank_le
  | booked op hbooks hc => exact hc.rank_le
  | disputed hsettled hc => exact hc.rank_le
  | cancelled cancellation now hreason hc => exact hc.rank_le
  | _ => exact le_rfl

omit [OrderRules] [SalesRules] in
theorem issueCredit_some {credit : CreditIssue} (h : db.issueCredit credit = some db') :
    ∃ credits, db' = { db with credits } := by
  unfold Db.issueCredit at h
  split_ifs at h
  obtain ⟨credits, -, rfl⟩ := Option.map_eq_some_iff.mp h
  exact ⟨credits, rfl⟩

omit [SalesRules] in
theorem oweRefund_seats {s s' : SeatOrderSnapshot} {refund : OwedRefund}
    (hc : Change s (.oweRefund refund now) s') : s'.seats = s.seats := by
  cases hc with
  | none => rfl
  | refundOwed => rfl

/-- What the settlement of one order leaves: its record moved, and no active seat on a cancelled
date. -/
structure SettledOrder (outcome : DateOutcome) (record record' : OrderRecord) : Prop where
  same : SamePurchase record record'
  rank : record.order.state.rank ≤ record'.order.state.rank
  cancelled : outcome = .cancelled → Db.hasActiveSeat record' = false

/-- One order settled: movements of its own record, and a credit at most. -/
theorem settleOrder_moved [LawfulOrderRules] {settlement : DateOutcomeSettlement}
    {drawnId : Uuid} (hrecord : db.orders.find? record.id = some record)
    (hsettlement : db.settlements.find? record.order.dateId = some settlement)
    (h : settleOrder db settlement.outcome record.id drawnId now = .ok db') :
    Db.Moved IsOfSeats db db' ∧ ∃ record' credits, SettledOrder settlement.outcome record record' ∧
      db' = { db with credits }.putOrder record' := by
  have hself : db = { db with credits := db.credits }.putOrder record :=
    (Db.putOrder_self db hrecord).symm
  unfold settleOrder at h
  simp only [bind_ok_iff] at h
  obtain ⟨order, horder, h⟩ := h
  obtain ⟨found, hfound, rfl⟩ := findOrder_ok (orRefuse_ok_iff.mp horder)
  rw [hrecord] at hfound
  obtain rfl := Option.some.inj hfound
  split_ifs at h with hcancelled
  · simp only [bind_ok_iff] at h
    obtain ⟨settled, hsettled, h⟩ := h
    cases settled with
    | none =>
        obtain rfl := pure_ok_iff.mp h
        refine ⟨.refl, record, db.credits, ⟨.refl _, le_rfl, fun _ => ?_⟩, hself⟩
        refine hasActiveSeat_false fun seat hseat hactive => ?_
        have hmem := mem_activeSeatsOf.mpr (show seat ∈ (SeatOrder.restore record.order).current.seats ∧
          seat.state = .active from ⟨hseat, hactive⟩)
        rw [cancelledDateSettlementOf_none hsettled] at hmem
        cases hmem
    | some settled =>
        obtain ⟨hreason, hnamed⟩ := cancelledDateSettlementOf_some hsettled
        have howed : ∃ (owed : SeatOrder) (cancelled : SeatOrder × Unit),
            RecordMove record { record with order := owed.current } .quiet ∧
            owed.current.seats = record.order.seats ∧
            (owed.cancelSeats settled.cancellation now).commit = .ok cancelled ∧
            db.saveOrder cancelled.1 = .ok db' := by
          dsimp only at h
          split at h
          · simp only [bind_ok_iff, pure_ok_iff] at h
            obtain ⟨_, rfl, cancelled, hcancel, hsave⟩ := h
            exact ⟨_, cancelled, .booked .intentCancelled trivial (.none _), rfl, hcancel, hsave⟩
          · rename_i refund _
            simp only [bind_ok_iff, pure_ok_iff] at h
            obtain ⟨owed, hcommit, _, rfl, cancelled, hcancel, hsave⟩ := h
            have hchange := oweRefund_commit hcommit
            refine ⟨_, cancelled, .booked (.oweRefund refund now) trivial hchange, ?_, hcancel, hsave⟩
            exact oweRefund_seats hchange
        obtain ⟨owed, cancelled, hmove, hseats, hcancel, hsave⟩ := howed
        obtain ⟨hchange, hcancelled⟩ := cancelSeats_commit hcancel
        have hdate : settled.cancellation.reason ≠ .viewerRequest := by simp [hreason]
        have hsecond : RecordMove { record with order := owed.current }
            { record with order := cancelled.1.current } _ :=
          .cancelled settled.cancellation now hdate hchange
        have hsame := hmove.samePurchase.trans hsecond.samePurchase
        refine ⟨dateCancelled_moved hrecord hmove hdate hcancel hsave,
          { record with order := cancelled.1.current }, db.credits,
          ⟨hsame, hmove.rank_le.trans hsecond.rank_le, fun _ => hasActiveSeat_false ?_⟩,
          saveOrder_applied hrecord hsame.id hsave⟩
        have hleft : cancelled.1.current.seats = (SeatOrder.restore record.order).current.seats.map
            (SeatOrder.cancelledSeat settled.cancellation now) := by
          rw [hcancelled]
          exact congrArg (List.map _) hseats
        show ∀ seat ∈ cancelled.1.current.seats, seat.state ≠ .active
        rw [hleft]
        refine noneActive_of_cancelled fun seat hseat hactive => ?_
        rw [hnamed]
        exact List.mem_map_of_mem (mem_activeSeatsOf.mpr ⟨hseat, hactive⟩)
  · simp only [bind_ok_iff] at h
    obtain ⟨settled, hsettled, h⟩ := h
    split at h
    · obtain rfl := pure_ok_iff.mp h
      exact ⟨.refl, record, db.credits, ⟨.refl _, le_rfl, fun hdate => (hcancelled hdate).elim⟩,
        hself⟩
    · rename_i credit crediting
      split at h
      · obtain rfl := pure_ok_iff.mp h
        exact ⟨.refl, record, db.credits, ⟨.refl _, le_rfl, fun hdate => (hcancelled hdate).elim⟩,
          hself⟩
      · rename_i credited hcredit
        simp only [bind_ok_iff] at h
        obtain ⟨moved, hcommit, hsave⟩ := h
        obtain ⟨hchange, -⟩ := creditSeats_commit hcommit
        obtain ⟨credits, rfl⟩ := issueCredit_some hcredit
        have hsame : SamePurchase record { record with order := moved.1.current } :=
          hchange.samePurchase
        have hstored : ({ db with credits } : Db).orders.find? record.id = some record := hrecord
        rw [saveOrder_applied hstored hsame.id hsave]
        have hissued : Db.Moved IsOfSeats db { db with credits } := .single (.inl rfl) .creditIssued
        refine ⟨hissued.tail (.inl rfl) ?_, _, credits,
          ⟨hsame, hchange.rank_le, fun hdate => (hcancelled hdate).elim⟩, rfl⟩
        exact .credited hrecord hsettlement hcancelled crediting now hchange

omit [OrderRules] [SalesRules] in
/-- An order with a seat was paid. -/
theorem Standing.paid_of_activeSeat (h : Standing record) (hactive : Db.hasActiveSeat record = true) :
    OrderState.paid.rank ≤ record.order.state.rank := by
  have hseats : record.order.seats ≠ [] := by
    intro hnil
    unfold Db.hasActiveSeat at hactive
    rw [hnil] at hactive
    cases hactive
  cases h with
  | «open» h => exact (hseats h.seats).elim
  | seated h hstate => exact hstate
  | unseated h => exact (hseats h.seats).elim

/-- A paid order of the date, found under its id. -/
def PaidOn (db : Db) (dateId orderId : Uuid) (record : OrderRecord) : Prop :=
  db.orders.find? orderId = some record ∧ record.order.dateId = dateId ∧
    OrderState.paid.rank ≤ record.order.state.rank

/-- The orders of a batch, settled one after the other. -/
theorem settleEach_moved [LawfulOrderRules] {settlement : DateOutcomeSettlement} {dateId : Uuid}
    {draw : Uuid → Uuid} {orderIds : List Uuid} (hnodup : orderIds.Nodup)
    (hsettlement : db.settlements.find? dateId = some settlement)
    (hids : ∀ orderId ∈ orderIds, ∃ record, PaidOn db dateId orderId record)
    (h : orderIds.foldlM
      (fun db orderId => settleOrder db settlement.outcome orderId (draw orderId) now) db =
        .ok db') :
    Db.Moved IsOfSeats db db' ∧ db'.settlements = db.settlements ∧
      (∀ orderId ∉ orderIds, db'.orders.find? orderId = db.orders.find? orderId) ∧
      ∀ orderId ∈ orderIds, ∃ record, PaidOn db' dateId orderId record ∧
        (settlement.outcome = .cancelled → Db.hasActiveSeat record = false) := by
  induction orderIds generalizing db with
  | nil =>
      obtain rfl := pure_ok_iff.mp h
      exact ⟨.refl, rfl, fun _ _ => rfl, fun _ hmem => by cases hmem⟩
  | cons orderId orderIds ih =>
      rw [List.foldlM_cons, bind_ok_iff] at h
      obtain ⟨mid, hsettle, hrest⟩ := h
      obtain ⟨hfresh, hrestNodup⟩ := List.nodup_cons.mp hnodup
      obtain ⟨record, hrecord, hdate, hpaid⟩ := hids orderId (List.mem_cons_self ..)
      obtain rfl : record.id = orderId := Table.key_of_find? hrecord
      obtain ⟨hmoved, record', credits, hsettled, rfl⟩ :=
        settleOrder_moved hrecord (hdate ▸ hsettlement) hsettle
      have hid : record'.id = record.id := hsettled.same.id
      have hother : ∀ other, other ≠ record.id →
          (({ db with credits } : Db).putOrder record').orders.find? other =
            db.orders.find? other := fun other hne =>
        Table.find?_put_of_ne (hid ▸ Ne.symm hne)
      have hself : (({ db with credits } : Db).putOrder record').orders.find? record.id =
          some record' := by
        have hput := Table.find?_put_self (a := record') (hid ▸ hrecord)
        rwa [hid] at hput
      have hpaidRest : ∀ other ∈ orderIds, ∃ found,
          PaidOn (({ db with credits } : Db).putOrder record') dateId other found := by
        intro other hmem
        obtain ⟨found, hfound, hfoundDate, hfoundPaid⟩ := hids other (List.mem_cons_of_mem _ hmem)
        refine ⟨found, ?_, hfoundDate, hfoundPaid⟩
        rw [hother other fun heq => hfresh (heq ▸ hmem)]
        exact hfound
      have hsettlementMid :
          (({ db with credits } : Db).putOrder record').settlements.find? dateId =
            some settlement := hsettlement
      obtain ⟨hmovedRest, hsettlements, hkept, hsettledRest⟩ :=
        ih hrestNodup hsettlementMid hpaidRest hrest
      refine ⟨hmoved.trans hmovedRest, hsettlements, fun other hnot => ?_, fun other hmem => ?_⟩
      · rw [List.mem_cons, not_or] at hnot
        exact (hkept other hnot.2).trans (hother other hnot.1)
      · rcases List.mem_cons.mp hmem with rfl | hmem
        · refine ⟨record', ⟨?_, hsettled.same.dateId.trans hdate, hpaid.trans hsettled.rank⟩,
            hsettled.cancelled⟩
          rw [hkept _ hfresh]
          exact hself
        · exact hsettledRest other hmem

omit [SalesRules] in
/-- The batch's orders are marked, whatever their settlement gave. -/
theorem markSettled_moved [LawfulOrderRules] {settlement : DateOutcomeSettlement} {dateId : Uuid}
    {orderIds : List Uuid} (hsettlement : db.settlements.find? dateId = some settlement)
    (hids : ∀ orderId ∈ orderIds, ∃ record, PaidOn db dateId orderId record ∧
      (settlement.outcome = .cancelled → Db.hasActiveSeat record = false)) :
    Db.Moved IsQuiet db (db.markSettled orderIds now) := by
  have hmoved : Db.Moved IsQuiet db _ := Db.orders_updated
    (fun record => decide (record.id ∈ orderIds))
    (fun record => { record with outcomeSettledAt := some now }) (fun _ => rfl)
    fun orders record hmem hchosen hfind => by
      obtain ⟨found, ⟨hfound, hdate, hpaid⟩, hnone⟩ := hids record.id (of_decide_eq_true hchosen)
      rw [Table.find?_of_mem hmem] at hfound
      obtain rfl := Option.some.inj hfound
      refine ⟨.quiet, rfl, .marked hfind now (fun ha => ?_) fun other hother houtcome => ?_⟩
      · exact absurd ha.unpaid (not_lt.mpr hpaid)
      · have hsame : settlement = other := by
          rw [← Option.some.injEq, ← hsettlement, ← hdate]
          exact hother
        exact hnone (hsame ▸ houtcome)
  simpa only [Db.markSettled, decide_eq_true_eq] using hmoved

theorem settleOrders_moved [LawfulOrderRules] {dateId : Uuid} {orderBatch : ℕ}
    {locked : List Uuid} {draw : Uuid → Uuid} {r : Db × Option ℕ} (hc : Consistent db)
    (h : settleOrders db dateId orderBatch now locked draw = .ok r) :
    Db.Moved IsOfSeats db r.1 := by
  unfold settleOrders at h
  split at h
  · exact pure_ok_iff.mp h ▸ .refl
  rename_i settlement hclaimed
  obtain ⟨hsettlement, hclaim⟩ := Option.filter_eq_some_iff.mp hclaimed
  have hkey : settlement.dateId = dateId := Table.key_of_find? hsettlement
  rw [Bool.and_eq_true, Option.isNone_iff_eq_none, Option.isNone_iff_eq_none] at hclaim
  simp only [bind_ok_iff, pure_ok_iff] at h
  obtain ⟨settled, hsettle, rfl⟩ := h
  have hnodup : (db.ordersToSettle dateId orderBatch locked).Nodup := by
    unfold Db.ordersToSettle
    refine List.Nodup.sublist (List.take_sublist _ _) ?_
    refine (List.mergeSort_perm _ _).nodup_iff.mpr ?_
    exact db.orders.nodup.sublist (List.filter_sublist.map _)
  have hids : ∀ orderId ∈ db.ordersToSettle dateId orderBatch locked,
      ∃ record, PaidOn db dateId orderId record := by
    intro orderId hmem
    have hsorted := List.mem_mergeSort.mp (List.mem_of_mem_take hmem)
    obtain ⟨record, hrecord, rfl⟩ := List.mem_map.mp hsorted
    obtain ⟨hmemRow, hchosen⟩ := List.mem_filter.mp hrecord
    simp only [Db.isUnsettled, Bool.and_eq_true, decide_eq_true_eq] at hchosen
    obtain ⟨⟨⟨hdate, hactive⟩, -⟩, -⟩ := hchosen
    exact ⟨record, Table.find?_of_mem hmemRow, hdate,
      (hc.standing record hmemRow).paid_of_activeSeat hactive⟩
  obtain ⟨hmoved, hsettlements, -, hnone⟩ := settleEach_moved hnodup hsettlement hids hsettle
  have hmid : settled.settlements.find? dateId = some settlement := by
    rw [hsettlements]
    exact hsettlement
  have hmarked : Db.Moved IsQuiet settled
      (settled.markSettled (db.ordersToSettle dateId orderBatch locked) now) :=
    markSettled_moved hmid hnone
  have hquiet : Db.Moved IsOfSeats settled
      (settled.markSettled (db.ordersToSettle dateId orderBatch locked) now) :=
    hmarked.mono fun _ _ => .inl
  have hself : (settled.markSettled (db.ordersToSettle dateId orderBatch locked)
      now).settlements.find? settlement.dateId = some settlement := by
    rw [hkey]
    exact hmid
  refine (hmoved.trans hquiet).tail (.inl rfl) (.settlement hself ?_)
  split_ifs with hdone
  · simp only [Bool.and_eq_true, decide_eq_true_eq] at hdone
    exact .decided now hdone.1.2 (hkey ▸ hdone.2)
  · have hstill : ({ settlement with failedAt := none, decidedAt := none } :
        DateOutcomeSettlement) = { settlement with failedAt := none } := by
      rw [← hclaim.2]
    rw [hstill]
    exact .failedAt none

omit [SalesRules] in
theorem stampSettled_moved (dateId : Uuid) : Db.Moved IsQuiet db (stampSettled db dateId) := by
  unfold stampSettled
  split
  · exact .refl
  · rename_i settlement hfind
    have hself : db.settlements.find? settlement.dateId = some settlement := by
      rw [Table.key_of_find? hfind]
      exact hfind
    exact .single rfl (.settlement hself .stamped)

omit [SalesRules] in
theorem setAside_moved (dateId : Uuid) : Db.Moved IsQuiet db (setAside db dateId now) := by
  unfold setAside
  split
  · exact .refl
  · rename_i settlement hfind
    have hself : db.settlements.find? settlement.dateId = some settlement := by
      rw [Table.key_of_find? hfind]
      exact hfind
    exact .single rfl (.settlement hself (.failedAt (some now)))

end Settling

end Arthome.Ticketing
