import Arthome.Ticketing.OrderSettlement
import Arthome.Ticketing.PaymentMovements
import Arthome.Ticketing.Seats

/-!
# The movements of a seat given up

A seat's refund is owed first, where there is one, and the seat cancelled next: two
movements of its order's record, saved as one. A viewer's seat goes back on sale
with the second.
-/

namespace Arthome.Ticketing

open Arthome.Core Library

variable [OrderRules]

section Orders

variable {db db' : Db} {record : OrderRecord} {label : Label}

/-- The order as it is saved moves its record. -/
theorem saveOrder_moved {order : SeatOrder} (hrecord : db.orders.find? record.id = some record)
    (hmove : RecordMove record { record with order := order.current } label)
    (h : db.saveOrder order = .ok db') : Movement db label db' := by
  have hid : order.current.id = record.id := hmove.samePurchase.id
  rw [saveOrder_applied hrecord hid h]
  exact .order hrecord hmove

/-- An order saved after two moves of its record. -/
theorem saveOrder_moved_twice {order : SeatOrder} {s : SeatOrderSnapshot} {label' : Label}
    (hrecord : db.orders.find? record.id = some record)
    (hfirst : RecordMove record { record with order := s } label)
    (hsecond : RecordMove { record with order := s } { record with order := order.current } label')
    (h : db.saveOrder order = .ok db') :
    ∃ mid, Movement db label mid ∧ Movement mid label' db' := by
  have hid : s.id = record.id := hfirst.samePurchase.id
  have hid' : order.current.id = record.id := hsecond.samePurchase.id.trans hid
  refine ⟨db.putOrder { record with order := s }, .order hrecord hfirst, ?_⟩
  have hput : db' = (db.putOrder { record with order := s }).putOrder
      { record with order := order.current } := by
    rw [saveOrder_applied hrecord hid' h, Db.putOrder_putOrder]
    exact hsecond.samePurchase.id.symm
  rw [hput]
  refine .order ?_ hsecond
  exact Table.find?_put_self (a := ({ record with order := s } : OrderRecord)) (hid ▸ hrecord)

/-- A cancellation accepted: its seats cancelled, the others as they are. -/
theorem cancelSeats_commit {o : SeatOrder} {cancellation : SeatCancellation} {now : Instant}
    {r : SeatOrder × Unit} (h : (o.cancelSeats cancellation now).commit = .ok r) :
    Change o.current (.cancelSeats cancellation now) r.1.current ∧
      r.1.current = { o.current with
        seats := o.current.seats.map (SeatOrder.cancelledSeat cancellation now)
        version := o.current.version + 1 } := by
  rw [Reply.commit_ok_iff] at h
  obtain ⟨hstate, hresult⟩ := h
  refine ⟨hstate ▸ (o.cancelSeats_changes cancellation now).change, ?_⟩
  rw [← hstate]
  revert hresult
  unfold SeatOrder.cancelSeats
  dsimp only
  split_ifs
  · exact fun hresult => by cases hresult
  · exact fun hresult => by cases hresult
  · refine Reply.guard_rule (P := fun reply => reply.result = .ok r.2 → reply.state.current = _)
      o _ _ ?_ ?_
    · exact fun e hresult => by cases hresult
    · exact fun _ _ hresult => by cases hresult
  · refine Reply.guard_rule (P := fun reply => reply.result = .ok r.2 → reply.state.current = _)
      o _ _ ?_ ?_
    · exact fun e hresult => by cases hresult
    · intro _ _
      refine Reply.guard_rule (P := fun reply => reply.result = .ok r.2 → reply.state.current = _)
        o _ _ ?_ ?_
      · exact fun e hresult => by cases hresult
      · exact fun _ _ _ => SeatOrder.foldl_apply_current _ _ _

theorem creditSeats_commit {o : SeatOrder} {crediting : SeatCrediting} {now : Instant}
    {r : SeatOrder × Unit} (h : (o.creditSeats crediting now).commit = .ok r) :
    Change o.current (.creditSeats crediting now) r.1.current ∧
      r.1.current = { o.current with
        seats := o.current.seats.map (SeatOrder.creditedSeat crediting now)
        version := o.current.version + 1 } := by
  rw [Reply.commit_ok_iff] at h
  obtain ⟨hstate, hresult⟩ := h
  refine ⟨hstate ▸ (o.creditSeats_changes crediting now).change, ?_⟩
  rw [← hstate]
  revert hresult
  unfold SeatOrder.creditSeats
  refine Reply.guard_rule (P := fun reply => reply.result = .ok r.2 → reply.state.current = _) o _ _ ?_ ?_
  · exact fun e hresult => by cases hresult
  · exact fun _ _ _ => rfl

/-- A refund owed, or one owed already. -/
theorem oweRefund_commit {o : SeatOrder} {refund : OwedRefund} {now : Instant}
    {r : SeatOrder × OrderRefund} (h : (o.oweRefund refund now).commit = .ok r) :
    Change o.current (.oweRefund refund now) r.1.current := by
  have hchange := (o.oweRefund_changes refund now).change
  rw [Reply.commit_ok_iff] at h
  rwa [h.1] at hchange

end Orders

section Seats

variable [SalesRules] {db db' : Db} {record : OrderRecord} {now : Instant}

/-- The movements of an order's seats: nothing counted, or seats of it cancelled. -/
def IsOfSeats (_ : Db) (label : Label) : Prop :=
  label = .quiet ∨ ∃ orderId cancellation, label = .seatsCancelled orderId cancellation

/-- A seat's share owed, or nothing: a move of its order's record that books it. -/
theorem oweShare_ok {order : SeatOrder} {seatId : Uuid} {reason : RefundReason} {refundId : Uuid}
    {r : SeatOrder × Option OrderRefund} (horder : order.current = record.order)
    (h : oweShare order seatId reason refundId now = .ok r) :
    RecordMove record { record with order := r.1.current } .quiet := by
  have hnone : RecordMove record { record with order := order.current } .quiet := by
    rw [horder]
    exact .booked .intentCancelled trivial (.none _)
  unfold oweShare at h
  split_ifs at h
  · exact pure_ok_iff.mp h ▸ hnone
  · simp only [bind_ok_iff] at h
    obtain ⟨left, -, amount, -, h⟩ := h
    split_ifs at h
    · exact pure_ok_iff.mp h ▸ hnone
    · simp only [bind_ok_iff, pure_ok_iff] at h
      obtain ⟨⟨order', owed⟩, hcommit, rfl⟩ := h
      exact .booked (.oweRefund _ now) trivial (horder ▸ oweRefund_commit hcommit)

omit [SalesRules] in
/-- A seat cancelled at its viewer's request goes back on sale. -/
theorem viewerCancelled_moved {order order' : SeatOrder} {refundId : Option Uuid} {seatId : Uuid}
    {amount : Option Money} {saved : Db} (hrecord : db.orders.find? record.id = some record)
    (howed : RecordMove record { record with order := order.current } .quiet)
    (hcancel : (order.cancelSeats ⟨.viewerRequest, refundId, [⟨seatId, amount⟩]⟩ now).commit =
      .ok (order', ()))
    (hsave : db.saveOrder order' = .ok saved)
    (hrelease : saved.releaseSoldSeats record.order.dateId 1 = some db') :
    Db.Moved IsOfSeats db db' := by
  obtain ⟨hchange, hcancelled⟩ := cancelSeats_commit hcancel
  have hid : order.current.id = record.id := howed.samePurchase.id
  have hid' : order'.current.id = record.id := (congrArg (fun s => s.id) hcancelled).trans hid
  obtain rfl := saveOrder_applied hrecord hid' hsave
  obtain ⟨row, hrow, hcondition, rfl⟩ := updateSales_some hrelease
  simp only [Nat.cast_one, Bool.and_eq_true, decide_eq_true_eq] at hcondition
  let owed : OrderRecord := { record with order := order.current }
  let cancellation : SeatCancellation := ⟨.viewerRequest, refundId, [⟨seatId, amount⟩]⟩
  have hfind : (db.putOrder owed).orders.find? owed.id = some owed :=
    Table.find?_put_self (a := owed) (hid ▸ hrecord)
  have hsold : (db.putOrder owed).sales.find? owed.order.dateId = some row := by
    have hdate : owed.order.dateId = record.order.dateId := howed.samePurchase.dateId
    rw [hdate]
    exact hrow
  have hmoved : order'.current ≠ owed.order := by
    intro hsame
    have hversion := congrArg SeatOrderSnapshot.version hsame
    rw [hcancelled] at hversion
    exact Nat.succ_ne_self _ hversion
  have hfirst : Db.Moved IsOfSeats db (db.putOrder owed) :=
    .single (.inl rfl) (.order hrecord howed)
  have hgiven := Movement.viewerCancelled hfind seatId _ now rfl rfl hchange hmoved hsold
    hcondition.1
  rw [Db.putOrder_putOrder _ (by exact hid.trans hid'.symm)] at hgiven
  exact hfirst.tail (.inr ⟨_, cancellation, rfl⟩) hgiven

omit [SalesRules] in
/-- A seat cancelled for its date keeps the date's counters as they were. -/
theorem dateCancelled_moved {order order' : SeatOrder} {cancellation : SeatCancellation}
    (hrecord : db.orders.find? record.id = some record)
    (howed : RecordMove record { record with order := order.current } .quiet)
    (hreason : cancellation.reason ≠ .viewerRequest)
    (hcancel : (order.cancelSeats cancellation now).commit = .ok (order', ()))
    (hsave : db.saveOrder order' = .ok db') : Db.Moved IsOfSeats db db' := by
  obtain ⟨hchange, -⟩ := cancelSeats_commit hcancel
  have hid : order.current.id = record.id := howed.samePurchase.id
  obtain ⟨mid, hfirst, hsecond⟩ :=
    saveOrder_moved_twice hrecord howed (.cancelled cancellation now hreason hchange) hsave
  have hmid : Db.Moved IsOfSeats db mid := .single (.inl rfl) hfirst
  exact hmid.tail (.inr ⟨_, cancellation, rfl⟩) hsecond

theorem cancelSeat_moved [LawfulSalesRules] {seen : Unlocked} {seatId accountId refundId : Uuid}
    {r : Db × TicketView} (h : cancelSeat db seen seatId accountId now refundId = .ok r) :
    Db.Moved IsOfSeats db r.1 := by
  unfold cancelSeat at h
  simp only [bind_ok_iff] at h
  obtain ⟨⟨orderId, owner⟩, -, _, -, order, horder, seat, -, _, -, ⟨owed, refund⟩, howe, reason,
    hreason, ⟨cancelled, ⟨⟩⟩, hcancel, saved, hsave, ticket, -, h⟩ := h
  obtain ⟨record, hrecord, rfl⟩ := findOrder_ok (orRefuse_ok_iff.mp horder)
  rw [← Table.key_of_find? hrecord] at hrecord
  have hbooked := oweShare_ok rfl howe
  have hcancelReason := orRefuse_ok_iff.mp hreason
  split_ifs at h with hdate
  · obtain rfl := pure_ok_iff.mp h
    rw [decide_eq_true_eq] at hdate
    rw [hdate, LawfulSalesRules.cancelReason_date, Option.some.injEq] at hcancelReason
    subst hcancelReason
    exact dateCancelled_moved hrecord hbooked (by simp) hcancel hsave
  · simp only [bind_ok_iff, pure_ok_iff] at h
    obtain ⟨released, hrelease, rfl⟩ := h
    rw [decide_eq_true_eq] at hdate
    have hviewer : SalesRules.refundReasonOnDate
        ((seen.sales.sales.find? record.order.dateId).bind fun sales => sales.outcome)
        .viewerRequest = .viewerRequest := by
      refine LawfulSalesRules.reason_otherwise _ _ fun houtcome => hdate ?_
      exact houtcome ▸ LawfulSalesRules.reason_on_cancelled _
    have hsame : SeatCancelReason.viewerRequest = reason := by
      rw [← Option.some.injEq, ← LawfulSalesRules.cancelReason_viewer, ← hcancelReason]
      exact congrArg _ hviewer.symm
    subst hsame
    exact viewerCancelled_moved hrecord hbooked hcancel hsave (orRefuse_ok_iff.mp hrelease)

theorem refundSeat_moved [LawfulSalesRules] {seen : Unlocked} {seatId refundId : Uuid}
    {body : RefundSeatBody} {r : Db × Money}
    (h : refundSeat db seen seatId body now refundId = .ok r) :
    Db.Moved IsOfSeats db r.1 := by
  unfold refundSeat at h
  simp only [bind_ok_iff] at h
  obtain ⟨⟨orderId, owner⟩, -, order, horder, seat, -, _, -, _, -, h⟩ := h
  obtain ⟨record, hrecord, rfl⟩ := findOrder_ok (orRefuse_ok_iff.mp horder)
  rw [← Table.key_of_find? hrecord] at hrecord
  by_cases hcode : body.refundReasonCode.reason = .dateCancelled
  · simp only [hcode, if_pos, bind_ok_iff] at h
    obtain ⟨sales, -, _, -, amount, -, ⟨owed, refund⟩, howe, h⟩ := h
    have hbooked : RecordMove record { record with order := owed.current } .quiet :=
      .booked (.oweRefund _ now) trivial (oweRefund_commit howe)
    split_ifs at h with hcancels
    · simp only [bind_ok_iff, pure_ok_iff] at h
      obtain ⟨reason, hreason, ⟨cancelled, ⟨⟩⟩, hcancel, _, rfl, saved, hsave, rfl⟩ := h
      have hcancelReason := orRefuse_ok_iff.mp hreason
      rw [LawfulSalesRules.cancelReason_date, Option.some.injEq] at hcancelReason
      subst hcancelReason
      exact dateCancelled_moved hrecord hbooked (by simp) hcancel hsave
    · simp only [bind_ok_iff, pure_ok_iff] at h
      obtain ⟨_, rfl, saved, hsave, rfl⟩ := h
      exact .single (.inl rfl) (saveOrder_moved hrecord hbooked hsave)
  · have hkeeps : SalesRules.refundCancelsSeat body.refundReasonCode.reason = false := by
      refine LawfulSalesRules.studio_keeps_seat _ ?_
      cases hreason : body.refundReasonCode with
      | dateCancelled => exact (hcode (by rw [hreason]; rfl)).elim
      | goodwill => exact .inl rfl
      | duplicate => exact .inr (.inl rfl)
      | dispute => exact .inr (.inr rfl)
    simp only [hcode, hkeeps, if_false, if_neg Bool.false_ne_true, bind_ok_iff, pure_ok_iff] at h
    obtain ⟨amount, -, ⟨owed, refund⟩, howe, saved, rfl, db₁, hsave, rfl⟩ := h
    have hbooked : RecordMove record { record with order := owed.current } .quiet :=
      .booked (.oweRefund _ now) trivial (oweRefund_commit howe)
    exact .single (.inl rfl) (saveOrder_moved hrecord hbooked hsave)

end Seats

end Arthome.Ticketing
