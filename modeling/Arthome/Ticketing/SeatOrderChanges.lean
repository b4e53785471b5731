import Arthome.Ticketing.SeatOrder

/-!
# What an operation may do to an order

`Change s s'` lists, once, every way an operation of the aggregate moves a
snapshot, with the facts its code has checked when it does. Each operation is
shown to make one of these changes or none, and a refused operation none; what
any sequence of operations preserves is then a matter of the thirteen cases of
`Change`, never of the operations' code again.
-/

namespace Arthome.Ticketing

open Arthome.Core Library

/-- An operation of the aggregate, with its arguments. -/
inductive Operation where
  | renewHold (holdId : Uuid) (expiresAt now : Instant)
  | recordIntent (intent : PaymentIntentRecord) (state : WaitingState) (now : Instant)
  | pay (intentRef : String) (issues : List SeatIssue) (now : Instant)
  | fail (failure : OrderFailure) (now : Instant)
  | oweRefund (refund : OwedRefund) (now : Instant)
  | oweUnseatedPaymentBack (reason : RefundReason) (intentRef : String) (id : Uuid)
      (now : Instant)
  | refundMade (refundId : Uuid) (refundRef : String) (now : Instant)
  | cancelSeats (cancellation : SeatCancellation) (now : Instant)
  | creditSeats (crediting : SeatCrediting) (now : Instant)
  | dispute
  | intentCancelled
  deriving Repr, DecidableEq

variable [OrderRules]

/-- The operation called on an order, its answer forgotten. -/
def Operation.perform (o : SeatOrder) : Operation → Reply SeatOrder Refusal Unit
  | .renewHold holdId expiresAt now => o.renewHold holdId expiresAt now
  | .recordIntent intent state now => (o.recordIntent intent state now).void
  | .pay intentRef issues now => o.pay intentRef issues now
  | .fail failure now => (o.fail failure now).void
  | .oweRefund refund now => (o.oweRefund refund now).void
  | .oweUnseatedPaymentBack reason intentRef id now =>
    (o.oweUnseatedPaymentBack reason intentRef id now).void
  | .refundMade refundId refundRef now => o.refundMade refundId refundRef now
  | .cancelSeats cancellation now => o.cancelSeats cancellation now
  | .creditSeats crediting now => o.creditSeats crediting now
  | .dispute => o.dispute.void
  | .intentCancelled => o.intentCancelled

namespace SeatOrderSnapshot

/-- The aggregate's readings, of a snapshot. -/
def AwaitsPayment (s : SeatOrderSnapshot) : Prop := s.state ∈ orderStatesAwaitingPayment

def AcceptsPayment (s : SeatOrderSnapshot) : Prop :=
  s.refunds = [] ∧ OrderRules.orderStateMovesForward s.state .paid = true

omit [OrderRules] in
theorem awaitsPayment_iff (o : SeatOrder) :
    o.awaitsPayment = true ↔ o.current.AwaitsPayment := by
  simp [SeatOrder.awaitsPayment, AwaitsPayment]

theorem acceptsPayment_iff (o : SeatOrder) :
    o.acceptsPayment = true ↔ o.current.AcceptsPayment := by
  simp [SeatOrder.acceptsPayment, AcceptsPayment]

end SeatOrderSnapshot

/-- The seats a cancellation or a crediting names are held, each named once, and may move. -/
structure SeatsMayMove (seats : List SeatSnapshot) (seatIds : List Uuid) (target : SeatState) :
    Prop where
  nodup : seatIds.Nodup
  mayMove : ∀ seatId ∈ seatIds, ∃ seat, seats.find? (fun seat => seat.id = seatId) = some seat ∧
    OrderRules.seatStateMayMove seat.state target = true

/-- Every way an operation moves a snapshot. -/
inductive Change (s : SeatOrderSnapshot) : Operation → SeatOrderSnapshot → Prop
  | none (op : Operation) : Change s op s
  | holdRenewed (holdId : Uuid) (expiresAt now : Instant) (hstate : s.state = .pending)
      (hintent : s.intent = .none) :
      Change s (.renewHold holdId expiresAt now)
        { s with holdId, expiresAt, version := s.version + 1 }
  | intentOfFailed (intent : PaymentIntentRecord) (state : WaitingState) (now : Instant)
      (hstate : s.state = .failed) :
      Change s (.recordIntent intent state now) { s with
        intent := s.intent.or (some intent)
        intentCancelOwedAt := s.intentCancelOwedAt.or (some now)
        version := s.version + 1 }
  | intentRecorded (intent : PaymentIntentRecord) (state : WaitingState) (now : Instant)
      (hwaits : s.AwaitsPayment)
      (hforward : OrderRules.orderStateMovesForward s.state state.orderState = true) :
      Change s (.recordIntent intent state now) { s with
        state := state.orderState
        intent := some (completedIntent s.intent intent)
        version := s.version + 1 }
  | intentCompleted (intent : PaymentIntentRecord) (state : WaitingState) (now : Instant)
      (hwaits : s.AwaitsPayment)
      (hstay : ¬ OrderRules.orderStateMovesForward s.state state.orderState = true) :
      Change s (.recordIntent intent state now) { s with
        intent := some (completedIntent s.intent intent), version := s.version + 1 }
  | paid (intentRef : String) (issues : List SeatIssue) (now : Instant)
      (haccepts : s.AcceptsPayment) (hlength : issues.length = s.quantity) :
      Change s (.pay intentRef issues now) { s with
        state := .paid
        intent := some (s.intent.getD ⟨intentRef, .none, .none⟩)
        failure := .none
        intentCancelOwedAt := .none
        paidAt := some now
        seats := issues.map (SeatOrder.issuedSeat s.tier now)
        version := s.version + 1 }
  | failed (failure : OrderFailure) (now : Instant) (hwaits : s.AwaitsPayment) :
      Change s (.fail failure now) { s with
        state := .failed, failure := some failure, version := s.version + 1 }
  | refundOwed (refund : OwedRefund) (now : Instant) (left : Money)
      (hfresh : ∀ r ∈ s.refunds, r.id ≠ refund.id ∧ r.idempotencyKey ≠ refund.idempotencyKey)
      (hstate : s.state ∈ statesOwingRefunds) (hpos : 0 < refund.amount.amountMinor)
      (hleft : (SeatOrder.restore s).refundableLeft = .ok left)
      (hwithin : OrderRules.assertRefundWithinRemaining refund.amount left = .ok ()) :
      Change s (.oweRefund refund now) { s with
        refunds := s.refunds ++ [⟨refund, now, .none, .none⟩], version := s.version + 1 }
  | unseatedOwed (reason : RefundReason) (intentRef : String) (id : Uuid) (now : Instant)
      (haccepts : s.AcceptsPayment) :
      Change s (.oweUnseatedPaymentBack reason intentRef id now) { s with
        intent := some (s.intent.getD ⟨intentRef, .none, .none⟩)
        intentCancelOwedAt := .none
        refunds := [⟨⟨id, s.quote.total, reason, OrderRules.refundIdempotencyKey id, .none⟩,
          now, .none, .none⟩]
        version := s.version + 1 }
  | refundMade (refund : OrderRefund) (refundRef : String) (now : Instant) (made : Money)
      (sign : ℤ) (reached : OrderState) (changed : SeatOrderSnapshot)
      (hfind : s.refunds.find? (fun r => r.id = refund.id) = some refund)
      (hunmade : refund.refundedAt = .none)
      (hmade : OrderRules.sum ((SeatOrder.madeOf
        (SeatOrder.refundsWithMade s.refunds refund.id refundRef now)).map fun r => r.amount)
        s.quote.total.currencyCode = .ok made)
      (hsign : OrderRules.compare made s.quote.total = .ok sign)
      (hreached : reached = if 0 ≤ sign then .refunded else .partiallyRefunded)
      (hchanged : changed = if OrderRules.orderStateMovesForward s.state reached = true
        then { s with state := reached, failure := .none } else s) :
      Change s (.refundMade refund.id refundRef now) { changed with
        refunds := SeatOrder.refundsWithMade s.refunds refund.id refundRef now
        seats := SeatOrder.seatsRefundedBy s.seats refund.id
        version := s.version + 1 }
  | seatsCancelled (cancellation : SeatCancellation) (now : Instant)
      (hrefund : cancellation.refundId.isSome →
        ∃ r, s.refunds.find? (fun r => some r.id = cancellation.refundId) = some r)
      (hnonneg : ∀ named ∈ cancellation.seats, ∀ share, named.refundAmount = some share →
        0 ≤ share.amountMinor)
      (hwithin : SeatOrder.cancelSeats.sharesWithin (SeatOrder.restore s) cancellation
        (s.refunds.find? fun r => some r.id = cancellation.refundId)
        (cancellation.seats.filterMap fun named => named.refundAmount) = .ok ())
      (hnone : cancellation.refundId = .none → ∀ named ∈ cancellation.seats,
        named.refundAmount = .none)
      (hmove : SeatsMayMove s.seats (cancellation.seats.map fun named => named.seatId)
        .cancelled) :
      Change s (.cancelSeats cancellation now) { s with
        seats := s.seats.map (SeatOrder.cancelledSeat cancellation now)
        version := s.version + 1 }
  | seatsCredited (crediting : SeatCrediting) (now : Instant)
      (hmove : SeatsMayMove s.seats (crediting.seats.map fun named => named.seatId) .credited) :
      Change s (.creditSeats crediting now) { s with
        seats := s.seats.map (SeatOrder.creditedSeat crediting now)
        version := s.version + 1 }
  | disputed (hforward : OrderRules.orderStateMovesForward s.state .disputed = true) :
      Change s .dispute { s with state := .disputed, failure := .none, version := s.version + 1 }
  | intentCancelled (howed : s.intentCancelOwedAt ≠ .none) :
      Change s .intentCancelled { s with intentCancelOwedAt := .none, version := s.version + 1 }

/-- What is asked of every operation: it makes one of the changes, and none when it refuses. -/
structure Changes {α : Type} (o : SeatOrder) (op : Operation)
    (r : Reply SeatOrder Refusal α) : Prop where
  change : Change o.current op r.state.current
  refused : r.Refused → r.state = o

namespace Changes

variable {α : Type} {o : SeatOrder} {op : Operation}

theorem refuse (e : Refusal) : Changes o op (.refuse o e : Reply SeatOrder Refusal α) :=
  ⟨.none op, fun _ => rfl⟩

theorem answerSelf (a : α) : Changes o op (.answer o a) := ⟨.none op, fun _ => rfl⟩

theorem answer {o' : SeatOrder} (a : α) (h : Change o.current op o'.current) :
    Changes o op (.answer o' a) :=
  ⟨h, fun hr => absurd hr (Reply.not_refused_answer _ _)⟩

theorem void {r : Reply SeatOrder Refusal α} (h : Changes o op r) : Changes o op r.void :=
  ⟨h.change, fun hr => h.refused ((Reply.refused_void r).mp hr)⟩

end Changes

namespace SeatOrder

variable (o : SeatOrder)

omit [OrderRules] in
@[simp] theorem advance_current (s : SeatOrderSnapshot) :
    (o.advance s).current = { s with version := o.current.version + 1 } := rfl

omit [OrderRules] in
@[simp] theorem apply_current (e : SeatOrderEvent) : (o.apply e).current = o.current := rfl

omit [OrderRules] in
@[simp] theorem restore_current (s : SeatOrderSnapshot) : (restore s).current = s := rfl

omit [OrderRules] in
/-- Events do not move the snapshot. -/
theorem foldl_apply_current {β : Type} (event : β → SeatOrderEvent) (xs : List β) :
    (xs.foldl (fun order x => order.apply (event x)) o).current = o.current := by
  induction xs generalizing o with
  | nil => rfl
  | cons x xs ih => rw [List.foldl_cons, ih, apply_current]

theorem seatsMayMove_of_assert {seatIds : List Uuid} {target : SeatState}
    (h : o.assertSeatsMayMove seatIds target = .ok ()) :
    SeatsMayMove o.current.seats seatIds target := by
  unfold assertSeatsMayMove at h
  split_ifs at h with hnodup
  · refine ⟨hnodup, fun seatId hid => ?_⟩
    have hseat := (forM_ok_iff _ _).mp h seatId hid
    split at hseat
    · cases hseat
    · rename_i seat hfind
      split_ifs at hseat with hmove
      exact ⟨seat, hfind, hmove⟩

theorem renewHold_changes (holdId : Uuid) (expiresAt now : Instant) :
    Changes o (.renewHold holdId expiresAt now) (o.renewHold holdId expiresAt now) := by
  unfold renewHold
  split_ifs with h
  · simp only [awaitsIntent, Bool.and_eq_true, decide_eq_true_eq, Option.isNone_iff_eq_none] at h
    exact Changes.answer _ (.holdRenewed holdId expiresAt now h.1 h.2)
  · exact Changes.refuse _

theorem recordIntent_changes (intent : PaymentIntentRecord) (state : WaitingState)
    (now : Instant) :
    Changes o (.recordIntent intent state now) (o.recordIntent intent state now) := by
  unfold recordIntent
  split_ifs with hfailed hwaits hforward
  · exact Changes.answer _ (.intentOfFailed intent state now hfailed)
  · rw [SeatOrderSnapshot.awaitsPayment_iff] at hwaits
    exact Changes.answer _ (.intentRecorded intent state now hwaits hforward)
  · rw [SeatOrderSnapshot.awaitsPayment_iff] at hwaits
    simp only []
    split_ifs
    · exact Changes.answer _ (.intentCompleted intent state now hwaits hforward)
    · exact Changes.answerSelf _
  · exact Changes.answerSelf _

theorem pay_changes (intentRef : String) (issues : List SeatIssue) (now : Instant) :
    Changes o (.pay intentRef issues now) (o.pay intentRef issues now) := by
  unfold pay
  split_ifs with haccepts hlength
  · rw [SeatOrderSnapshot.acceptsPayment_iff] at haccepts
    exact Changes.answer _ (.paid intentRef issues now haccepts hlength)
  · exact Changes.refuse _
  · exact Changes.answerSelf _

theorem fail_changes (failure : OrderFailure) (now : Instant) :
    Changes o (.fail failure now) (o.fail failure now) := by
  unfold fail
  split_ifs with h
  · rw [SeatOrderSnapshot.awaitsPayment_iff] at h
    exact Changes.answer _ (.failed failure now h)
  · exact Changes.answerSelf _

theorem oweRefund_changes (refund : OwedRefund) (now : Instant) :
    Changes o (.oweRefund refund now) (o.oweRefund refund now) := by
  unfold oweRefund
  split
  · split_ifs
    · exact Changes.answerSelf _
    · exact Changes.refuse _
  · rename_i hnew
    split_ifs with hstate hpos
    · exact Changes.refuse _
    · refine Reply.guard_rule _ _ _ (fun _ => Changes.refuse _) fun left hleft => ?_
      refine Reply.guard_rule _ _ _ (fun _ => Changes.refuse _) fun _ hwithin => ?_
      refine Changes.answer _ (.refundOwed refund now left ?_ hstate
        (not_le.mp hpos) hleft hwithin)
      intro r hr
      simpa using List.find?_eq_none.mp hnew r hr
    · exact Changes.refuse _

theorem oweUnseatedPaymentBack_changes (reason : RefundReason) (intentRef : String) (id : Uuid)
    (now : Instant) : Changes o (.oweUnseatedPaymentBack reason intentRef id now)
      (o.oweUnseatedPaymentBack reason intentRef id now) := by
  unfold oweUnseatedPaymentBack
  split_ifs with h
  · rw [SeatOrderSnapshot.acceptsPayment_iff] at h
    have hc := Change.unseatedOwed reason intentRef id now h
    refine Changes.answer _ ?_
    simpa [owe, intentKnownOr, h.1] using hc
  · exact Changes.answerSelf _

theorem refundMade_changes (refundId : Uuid) (refundRef : String) (now : Instant) :
    Changes o (.refundMade refundId refundRef now) (o.refundMade refundId refundRef now) := by
  unfold refundMade
  split
  · exact Changes.refuse _
  · rename_i refund hfind
    have hid : refund.id = refundId := by simpa using List.find?_some hfind
    subst hid
    split_ifs with hmade
    · exact Changes.answerSelf _
    · refine Reply.guard_rule _ _ _ (fun _ => Changes.refuse _) fun made hsum => ?_
      refine Reply.guard_rule _ _ _ (fun _ => Changes.refuse _) fun sign hsign => ?_
      refine Changes.answer _ ?_
      have hc := Change.refundMade (s := o.current) refund refundRef now made sign _ _ hfind
        (by simpa using hmade) hsum hsign rfl rfl
      simp only [apply_current, advance_current]
      split_ifs at hc ⊢ <;> exact hc

theorem cancelSeats_changes (cancellation : SeatCancellation) (now : Instant) :
    Changes o (.cancelSeats cancellation now) (o.cancelSeats cancellation now) := by
  unfold cancelSeats
  simp only []
  split_ifs with hrefund hneg hnone
  · exact Changes.refuse _
  · exact Changes.refuse _
  · exact Reply.guard_rule _ _ _ (fun _ => Changes.refuse _) fun _ _ => Changes.refuse _
  · refine Reply.guard_rule _ _ _ (fun _ => Changes.refuse _) fun _ hwithin => ?_
    · refine Reply.guard_rule _ _ _ (fun _ => Changes.refuse _) fun _ hmove => ?_
      refine Changes.answer _ ?_
      rw [foldl_apply_current]
      refine .seatsCancelled cancellation now ?_ ?_ hwithin ?_ (seatsMayMove_of_assert o hmove)
      · intro hsome
        cases hfind : o.current.refunds.find? fun r => some r.id = cancellation.refundId with
        | none => exact absurd ⟨hsome, by simp [hfind]⟩ hrefund
        | some r => exact ⟨r, rfl⟩
      · intro named hnamed share hshare
        by_contra hlt
        exact hneg ⟨share, List.mem_filterMap.mpr ⟨named, hnamed, hshare⟩, not_le.mp hlt⟩
      · intro hid named hnamed
        by_contra hshare
        exact hnone ⟨by simp [hid], named, hnamed, Option.isSome_iff_ne_none.mpr hshare⟩

theorem creditSeats_changes (crediting : SeatCrediting) (now : Instant) :
    Changes o (.creditSeats crediting now) (o.creditSeats crediting now) := by
  unfold creditSeats
  refine Reply.guard_rule _ _ _ (fun _ => Changes.refuse _) fun _ hmove => ?_
  exact Changes.answer _ (.seatsCredited crediting now (seatsMayMove_of_assert o hmove))

theorem dispute_changes : Changes o .dispute o.dispute := by
  unfold dispute
  split_ifs with h
  · exact Changes.answer _ (.disputed h)
  · exact Changes.answerSelf _

theorem intentCancelled_changes : Changes o .intentCancelled o.intentCancelled := by
  unfold intentCancelled
  split_ifs with h
  · exact Changes.answerSelf _
  · exact Changes.answer _ (.intentCancelled (by simpa using h))

end SeatOrder

/-- Every operation makes one of the changes, and none when it refuses. -/
theorem Operation.perform_changes (o : SeatOrder) (op : Operation) :
    Changes o op (op.perform o) := by
  cases op with
  | renewHold holdId expiresAt now => exact o.renewHold_changes holdId expiresAt now
  | recordIntent intent state now => exact (o.recordIntent_changes intent state now).void
  | pay intentRef issues now => exact o.pay_changes intentRef issues now
  | fail failure now => exact (o.fail_changes failure now).void
  | oweRefund refund now => exact (o.oweRefund_changes refund now).void
  | oweUnseatedPaymentBack reason intentRef id now =>
      exact (o.oweUnseatedPaymentBack_changes reason intentRef id now).void
  | refundMade refundId refundRef now => exact o.refundMade_changes refundId refundRef now
  | cancelSeats cancellation now => exact o.cancelSeats_changes cancellation now
  | creditSeats crediting now => exact o.creditSeats_changes crediting now
  | dispute => exact o.dispute_changes.void
  | intentCancelled => exact o.intentCancelled_changes

end Arthome.Ticketing
