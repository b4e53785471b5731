import Arthome.Core.Sample
import Arthome.Ticketing.SeatOrderLedger

/-!
# Runs of an order's operations

The callers of the aggregate make its operations one at a time, except a
cancellation that gives money back, which comes with the `oweRefund` that owes
it in one transaction. A run is any sequence of such calls, with any arguments,
from any placement. Two promises are the callers': that a cancellation names a
refund only in that way, and that the seats a payment issues have distinct ids,
drawn by the service. The first is part of what a call is here; without the
second the shares of one refund can exceed it.
-/

namespace Arthome.Ticketing

open Arthome.Core Library

/-- One transaction's use of an order. -/
inductive Call where
  | alone (op : Operation)
  | oweAndCancel (refund : OwedRefund) (owedAt : Instant) (cancellation : SeatCancellation)
      (cancelledAt : Instant)
  deriving Repr, DecidableEq

namespace Call

/-- A cancellation names a refund only with the `oweRefund` that owes it. -/
def Together (o : SeatOrder) : Call → Prop
  | .alone (.cancelSeats cancellation _) => cancellation.refundId = none
  | .alone _ => True
  | .oweAndCancel refund _ cancellation _ =>
    cancellation.refundId = some refund.id ∧ ∀ r ∈ o.current.refunds, r.id ≠ refund.id

/-- The seats a payment issues are distinct. -/
def IssuesDistinct : Call → Prop
  | .alone (.pay _ issues _) => (issues.map fun issue => issue.id).Nodup
  | _ => True

/-- What the callers of the aggregate keep to. -/
def Promised (o : SeatOrder) (call : Call) : Prop := call.Together o ∧ call.IssuesDistinct

variable [OrderRules]

/-- The call made on an order; a refused `oweRefund` ends it. -/
def perform (o : SeatOrder) : Call → Reply SeatOrder Refusal Unit
  | .alone op => op.perform o
  | .oweAndCancel refund owedAt cancellation cancelledAt =>
    let owed := o.oweRefund refund owedAt
    match owed.result with
    | .error e => .refuse owed.state e
    | .ok _ => owed.state.cancelSeats cancellation cancelledAt

def step (o : SeatOrder) (call : Call) : Option SeatOrder := some (call.perform o).state

end Call

/-- What an operation is owed by its caller for the ledger to be kept. -/
def Operation.Promised (s : SeatOrderSnapshot) : Operation → Prop
  | .pay _ issues _ => (issues.map fun issue => issue.id).Nodup
  | .cancelSeats cancellation _ => cancellation.Fresh s
  | _ => True

section Steps

variable [OrderRules] [LawfulOrderRules] {s s' : SeatOrderSnapshot} {op : Operation}

omit [OrderRules] [LawfulOrderRules] in
theorem WaitingState.rank_lt_paid (state : WaitingState) :
    state.orderState.rank < OrderState.paid.rank := by cases state <;> decide

/-- Every change keeps the ledger, given what its caller promises. -/
theorem Ledger.step (h : Ledger s) (hop : op.Promised s) (hc : Change s op s') : Ledger s' := by
  cases hc with
  | none => exact h
  | holdRenewed => exact h.quiet rfl rfl rfl (.inl rfl)
  | intentOfFailed => exact h.quiet rfl rfl rfl (.inl rfl)
  | intentRecorded intent state now hwaits =>
      exact h.quiet rfl rfl rfl
        (.inr (.inr ⟨hwaits.rank_lt.trans (by decide), state.rank_lt_paid⟩))
  | intentCompleted => exact h.quiet rfl rfl rfl (.inl rfl)
  | paid intentRef issues now haccepts => exact h.paidNow haccepts hop
  | failed failure now hwaits =>
      have hfailed : OrderState.failed.rank < OrderState.paid.rank := by decide
      exact h.quiet rfl rfl rfl (.inr (.inr ⟨hwaits.rank_lt.trans hfailed, hfailed⟩))
  | refundOwed refund now left hfresh hstate hpos hleft hwithin =>
      exact h.refundOwed hfresh hstate hpos hleft hwithin
  | unseatedOwed reason intentRef id now haccepts => exact h.unseatedOwed haccepts
  | refundMade refund refundRef now made sign reached changed hfind _ hmade hsign hreached
      hchanged => exact h.refundMade hfind hmade hsign hreached hchanged
  | seatsCancelled cancellation now hrefund hnonneg hwithin hnone hmove =>
      exact h.seatsCancelled hop hrefund hnonneg hwithin hnone hmove
  | seatsCredited crediting now hmove => exact h.seatsCredited hmove
  | disputed => exact h.quiet rfl rfl rfl (.inr (.inl rfl))
  | intentCancelled => exact h.quiet rfl rfl rfl (.inl rfl)

/-- No change moves an order's state back. -/
theorem Change.rank_le (hc : Change s op s') : s.state.rank ≤ s'.state.rank := by
  cases hc with
  | intentRecorded intent state now _ hforward =>
      exact ((LawfulOrderRules.movesForward_iff _ _).mp hforward).le
  | paid intentRef issues now haccepts => exact haccepts.unpaid.le
  | failed failure now hwaits => exact hwaits.rank_lt.le
  | refundMade refund refundRef now made sign reached changed hfind _ hmade hsign hreached
      hchanged =>
      rw [hchanged]
      split_ifs with hforward
      · exact ((LawfulOrderRules.movesForward_iff _ _).mp hforward).le
      · exact le_rfl
  | disputed hforward => exact ((LawfulOrderRules.movesForward_iff _ _).mp hforward).le
  | _ => exact le_rfl

omit [LawfulOrderRules] in
/-- An `oweRefund` under a new id leaves that refund unmade, and named by no seat. -/
theorem Ledger.fresh_of_owed {refund : OwedRefund} {now : Instant} (h : Ledger s)
    (hnew : ∀ r ∈ s.refunds, r.id ≠ refund.id) (hc : Change s (.oweRefund refund now) s') :
    ¬ Made s'.refunds refund.id ∧ ∀ seat ∈ s'.seats, seat.refundId ≠ some refund.id := by
  have hunmade : ¬ Made s.refunds refund.id := fun ⟨r, hr, hid, _⟩ => hnew r hr hid
  cases hc with
  | none => exact ⟨hunmade, h.not_named hnew⟩
  | refundOwed refund now left hfresh =>
      refine ⟨?_, h.not_named hnew⟩
      rw [made_append_owed]
      exact hunmade

theorem Ledger.call {o : SeatOrder} {call : Call} (h : Ledger o.current)
    (hcall : call.Promised o) : Ledger (call.perform o).state.current := by
  obtain ⟨htogether, hissues⟩ := hcall
  cases call with
  | alone op =>
      refine h.step ?_ (op.perform_changes o).change
      cases op with
      | pay => exact hissues
      | cancelSeats cancellation now =>
          intro id hid
          rw [show cancellation.refundId = none from htogether] at hid
          cases hid
      | _ => trivial
  | oweAndCancel refund owedAt cancellation cancelledAt =>
      have howe := (o.oweRefund_changes refund owedAt).change
      have hpromised : Operation.Promised o.current (.oweRefund refund owedAt) := trivial
      have howed : Ledger (o.oweRefund refund owedAt).state.current := h.step hpromised howe
      simp only [Call.perform]
      split
      · exact howed
      · refine howed.step ?_ (SeatOrder.cancelSeats_changes _ cancellation cancelledAt).change
        intro id hid
        rw [htogether.1, Option.some.injEq] at hid
        rw [← hid]
        exact h.fresh_of_owed htogether.2 howe

theorem Call.rank_le (o : SeatOrder) (call : Call) :
    o.current.state.rank ≤ (call.perform o).state.current.state.rank := by
  cases call with
  | alone op => exact (op.perform_changes o).change.rank_le
  | oweAndCancel refund owedAt cancellation cancelledAt =>
      have howe := (o.oweRefund_changes refund owedAt).change.rank_le
      simp only [Call.perform]
      split
      · exact howe
      · exact howe.trans
          (SeatOrder.cancelSeats_changes _ cancellation cancelledAt).change.rank_le

omit [OrderRules] [LawfulOrderRules] in
theorem OrderState.rank_injective {a b : OrderState} (h : a.rank = b.rank) : a = b := by
  cases a <;> cases b <;> first | rfl | exact absurd h (by decide)

end Steps

section Runs

variable [OrderRules]

omit [OrderRules] in
/-- The ledger of an order just placed. -/
theorem Ledger.placed {placement : SeatOrderPlacement} (placedAt : Instant)
    (htotal : 0 ≤ placement.quote.total.amountMinor) :
    Ledger (SeatOrder.place placement placedAt).current := by
  constructor <;> simp [SeatOrder.place, amountsOf, htotal]

/-- What is asked of the refunds of an order, in the aggregate's own terms. -/
structure RefundLedger (o : SeatOrder) : Prop where
  bounded : minorSum (amountsOf o.current.refunds) ≤ o.current.quote.total.amountMinor
  refundableLeft : ∃ left, o.refundableLeft = .ok left ∧ 0 ≤ left.amountMinor
  refundIds : (o.current.refunds.map fun r => r.id).Nodup
  shares : ∀ r ∈ o.current.refunds,
    minorSum (SeatOrder.heldAlready o.current.seats (some r.id)) ≤ r.amount.amountMinor
  refunded_iff : ∀ seat ∈ o.current.seats, seat.state = .refunded ↔
    seat.cancelReason.isSome = true ∧
      ∃ r ∈ o.current.refunds, seat.refundId = some r.id ∧ r.refundedAt.isSome = true
  active_iff : ∀ seat ∈ o.current.seats, seat.state = .active ↔ seat.endedAt = none
  reaches : o.current.state ≠ .disputed → (o.current.state = .refunded ↔
    SeatOrder.madeOf o.current.refunds ≠ [] ∧
      minorSum (amountsOf (SeatOrder.madeOf o.current.refunds)) =
        o.current.quote.total.amountMinor)

theorem Ledger.refundLedger [LawfulOrderRules] {o : SeatOrder} (h : Ledger o.current) :
    RefundLedger o where
  bounded := h.bounded
  refundableLeft := ⟨_, h.refundableLeft_eq, sub_nonneg.mpr h.bounded⟩
  refundIds := h.refundIds
  shares r hr := by
    rw [minorSum_heldAlready]
    exact h.shares r hr
  refunded_iff seat hseat := by
    have hkept := h.seats seat hseat
    constructor
    · intro hs
      obtain ⟨id, hid, r, hr, rfl, hmade⟩ := hkept.refunded_iff.mp hs
      exact ⟨hkept.cancelled_iff.mpr (.inr hs), r, hr, hid, hmade⟩
    · rintro ⟨-, r, hr, hid, hmade⟩
      exact hkept.refunded_iff.mpr ⟨r.id, hid, r, hr, rfl, hmade⟩
  active_iff seat hseat := (h.seats seat hseat).active_iff
  reaches hdispute := by
    constructor
    · exact h.wholly
    · rintro ⟨hmade, hsum⟩
      cases hstate : o.current.state with
      | refunded => rfl
      | paid => exact absurd (h.paid hstate) hmade
      | partiallyRefunded => exact absurd hsum (h.partly hstate).2.ne
      | disputed => exact absurd hstate hdispute
      | _ =>
          -- Not paid yet: the one refund it may owe is not made.
          refine absurd ?_ hmade
          obtain ⟨-, hrefunds⟩ := h.unpaid (by rw [hstate]; decide)
          rw [madeOf_eq_nil_iff]
          rcases hrefunds with hnil | ⟨r, hone, -, hr⟩
          · simp [hnil]
          · simpa [hone] using hr

/-- In every run of the aggregate's operations that keeps to the two promises, from any placement:
the ledger is kept, a refused operation leaves the aggregate as it was, and the order's state only
moves forward. -/
theorem refundLedger_of_calls [LawfulOrderRules] (placement : SeatOrderPlacement)
    (htotal : 0 ≤ placement.quote.total.amountMinor) (placedAt : Instant) (o : SeatOrder)
    (h : Reaches Call.Promised Call.step (SeatOrder.place placement placedAt) o) :
    RefundLedger o ∧
    (∀ op : Operation, (op.perform o).Refused → (op.perform o).state = o) ∧
    ∀ o', Reaches Call.Promised Call.step o o' → o'.current.state = o.current.state ∨
      OrderRules.orderStateMovesForward o.current.state o'.current.state = true := by
  refine ⟨?_, fun op => (op.perform_changes o).refused, fun o' h' => ?_⟩
  · have hledger : Ledger o.current := by
      refine h.invariant (P := fun o => Ledger o.current) (Ledger.placed placedAt htotal) ?_
      intro v call w hv hcall hstep
      rw [← Option.some.inj hstep]
      exact hv.call hcall
    exact hledger.refundLedger
  · have hrank : o.current.state.rank ≤ o'.current.state.rank := by
      refine h'.relates (R := fun v w => v.current.state.rank ≤ w.current.state.rank)
        (fun _ => le_rfl) le_trans ?_
      intro v call w _ hstep
      rw [← Option.some.inj hstep]
      exact call.rank_le v
    rcases hrank.eq_or_lt with heq | hlt
    · exact .inl (OrderState.rank_injective heq.symm)
    · exact .inr ((LawfulOrderRules.movesForward_iff _ _).mpr hlt)

end Runs

section Sample

open Sample

/-- Two seats for ten euros. -/
def samplePlacement : SeatOrderPlacement where
  id := 1
  reference := "AR-2026-000001"
  dateId := 2
  channelId := 3
  accountId := some 4
  profileId := none
  tier := .full
  quantity := 2
  quote := ⟨⟨500, "EUR"⟩, ⟨1000, "EUR"⟩, ⟨0, "EUR"⟩, ⟨0, "EUR"⟩, ⟨1000, "EUR"⟩⟩
  declaredTaxLocation := none
  holdId := 5
  expiresAt := 900

/-- Paid, then six euros given back for its first seat. -/
def sampleCalls (secondSeat : Uuid) : List Call :=
  [.alone (.pay "pi_1" [⟨10, "A", none⟩, ⟨secondSeat, "B", none⟩] 100),
    .oweAndCancel ⟨20, ⟨600, "EUR"⟩, .goodwill, "refund:20", some 10⟩ 200
      ⟨.viewerRequest, some 20, [⟨10, some ⟨600, "EUR"⟩⟩]⟩ 200]

def afterCalls (o : SeatOrder) (calls : List Call) : SeatOrder :=
  calls.foldl (fun o call => (call.perform o).state) o

theorem refundLedger_of_calls_sample :
    let o := afterCalls (SeatOrder.place samplePlacement 0) (sampleCalls 11)
    RefundLedger o ∧
    (∀ op : Operation, (op.perform o).Refused → (op.perform o).state = o) ∧
    ∀ o', Reaches Call.Promised Call.step o o' → o'.current.state = o.current.state ∨
      OrderRules.orderStateMovesForward o.current.state o'.current.state = true := by
  refine refundLedger_of_calls samplePlacement (by decide) 0 _ ?_
  refine Reaches.tail (Reaches.tail .refl (a := (sampleCalls 11)[0]) ?_ rfl)
    (a := (sampleCalls 11)[1]) ?_ rfl
  · exact ⟨trivial, show [10, 11].Nodup by decide⟩
  · exact ⟨⟨rfl, by decide⟩, trivial⟩

/-- With one id for both seats a payment issues, both hold the whole share: the promise that the
ids are distinct is needed. -/
theorem shares_exceed_of_same_issue_ids :
    ¬ ∀ o, Reaches Call.Together Call.step (SeatOrder.place samplePlacement 0) o →
      ∀ r ∈ o.current.refunds,
        minorSum (SeatOrder.heldAlready o.current.seats (some r.id)) ≤ r.amount.amountMinor := by
  intro hall
  have h := hall (afterCalls (SeatOrder.place samplePlacement 0) (sampleCalls 10)) (by
    refine Reaches.tail (Reaches.tail .refl (a := (sampleCalls 10)[0]) trivial rfl)
      (a := (sampleCalls 10)[1]) ⟨rfl, by decide⟩ rfl)
  revert h
  decide

end Sample

end Arthome.Ticketing
