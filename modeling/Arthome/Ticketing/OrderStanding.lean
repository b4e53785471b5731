import Arthome.Ticketing.Movements
import Arthome.Ticketing.SeatOrderCalls

/-!
# Where an order stands with its payment

An order is open until a confirmed payment is applied to it. From then on it is
seated, with a seat for each one bought, or unseated, with one refund of its whole
total owed; whatever is done to it next, it stays what it became.
-/

namespace Arthome.Ticketing

open Arthome.Core Library

/-- Paid, with the seats it bought and nothing owed for a payment without a seat. -/
structure Seated (record : OrderRecord) : Prop where
  paidAt : record.order.paidAt.isSome
  seats : record.order.seats.length = record.order.quantity
  unseatedRefunds : record.unseatedRefunds = []

/-- Not paid, with no seat, and one refund: of the whole total. -/
structure Unseated (record : OrderRecord) : Prop where
  paidAt : record.order.paidAt = none
  seats : record.order.seats = []
  refund : ∃ r, record.order.refunds = [r] ∧ r.amount = record.order.quote.total ∧
    record.unseatedRefunds = [r.id]

/-- What a confirmed payment has not been applied to. -/
structure Open (record : OrderRecord) : Prop where
  confirmed : record.confirmed = false
  refunds : record.order.refunds = []
  state : record.order.state.rank < OrderState.paid.rank
  paidAt : record.order.paidAt = none
  seats : record.order.seats = []
  unseatedRefunds : record.unseatedRefunds = []

/-- Where an order stands, with what its state and its intent say of it. -/
inductive Standing (record : OrderRecord) : Prop
  | open (h : Open record)
  | seated (h : Seated record) (hstate : OrderState.paid.rank ≤ record.order.state.rank)
  | unseated (h : Unseated record) (hstate : record.order.state ∉ statesOwingRefunds)
      (hintent : record.order.intent.isSome)
      (hunmade : record.order.AwaitsPayment → ∀ r ∈ record.order.refunds, r.refundedAt = none)

section

variable [OrderRules] [LawfulOrderRules] {db db' : Db} {label : Label} {record record' : OrderRecord}

omit [OrderRules] [LawfulOrderRules] in
theorem Open.not_seated (h : Open record) : ¬ Seated record := fun hseated => by
  have := hseated.paidAt
  rw [h.paidAt] at this
  cases this

omit [OrderRules] [LawfulOrderRules] in
theorem Unseated.not_seated (h : Unseated record) : ¬ Seated record := fun hseated => by
  have := hseated.paidAt
  rw [h.paidAt] at this
  cases this

theorem Open.accepts (h : Open record) : record.order.AcceptsPayment :=
  ⟨h.refunds, (LawfulOrderRules.movesForward_iff _ _).mpr h.state⟩

/-- A payment is accepted by an open order alone. -/
theorem Standing.open_of_accepts (h : Standing record) (ha : record.order.AcceptsPayment) :
    Open record := by
  cases h with
  | «open» h => exact h
  | seated h hstate => exact absurd ha.unpaid (not_lt.mpr hstate)
  | unseated h =>
      obtain ⟨r, hr, -⟩ := h.refund
      rw [ha.1] at hr
      cases hr

theorem Standing.accepts_iff (h : Standing record) :
    record.order.AcceptsPayment ↔ Open record := ⟨h.open_of_accepts, Open.accepts⟩

omit [OrderRules] [LawfulOrderRules] in
/-- An order awaiting its payment is open, or waits beside the refund it owes. -/
theorem Standing.of_awaits (h : Standing record) (ha : record.order.AwaitsPayment) :
    Open record ∨ Unseated record ∧ ∀ r ∈ record.order.refunds, r.refundedAt = none := by
  cases h with
  | «open» h => exact .inl h
  | seated h hstate =>
      have hlt : record.order.state.rank < OrderState.paid.rank :=
        ha.rank_lt.trans (by decide)
      exact absurd hlt (not_lt.mpr hstate)
  | unseated h _ _ hunmade => exact .inr ⟨h, hunmade ha⟩

omit [OrderRules] [LawfulOrderRules] in
theorem Standing.open_of_awaitsIntent (h : Standing record) (hstate : record.order.state = .pending)
    (hintent : record.order.intent = none) : Open record := by
  cases h with
  | «open» h => exact h
  | seated h hrank =>
      rw [hstate] at hrank
      exact absurd hrank (by decide)
  | unseated _ _ hsome =>
      rw [hintent] at hsome
      cases hsome

omit [OrderRules] [LawfulOrderRules] in
/-- An order that keeps its seats' number, its refunds and its payment stands where it stood. -/
theorem Standing.quiet (h : Standing record) {s' : SeatOrderSnapshot}
    (hpaid : s'.paidAt = record.order.paidAt) (hseats : s'.seats.length = record.order.seats.length)
    (hquantity : s'.quantity = record.order.quantity)
    (htotal : s'.quote.total = record.order.quote.total)
    (hrefunds : s'.refunds = record.order.refunds)
    (hintent : record.order.intent.isSome → s'.intent.isSome)
    (hstate : s'.state = record.order.state ∨
      (record.order.AwaitsPayment ∧ s'.state.rank < OrderState.paid.rank)) :
    Standing { record with order := s' } := by
  have hnil : record.order.seats = [] → s'.seats = [] := fun hnil => by
    rw [← List.length_eq_zero_iff, hseats, hnil, List.length_nil]
  cases h with
  | «open» h =>
      refine .open ⟨h.confirmed, hrefunds.trans h.refunds, ?_, hpaid.trans h.paidAt,
        hnil h.seats, h.unseatedRefunds⟩
      rcases hstate with hsame | ⟨-, hrank⟩
      · show s'.state.rank < _
        rw [hsame]
        exact h.state
      · exact hrank
  | seated h hrank =>
      have hsame : s'.state = record.order.state := by
        rcases hstate with hsame | ⟨hawaits, -⟩
        · exact hsame
        · have hlt : record.order.state.rank < OrderState.paid.rank :=
            hawaits.rank_lt.trans (by decide)
          exact absurd hlt (not_lt.mpr hrank)
      refine .seated ⟨hpaid ▸ h.paidAt, ?_, h.unseatedRefunds⟩ (hsame ▸ hrank)
      exact hseats.trans (h.seats.trans hquantity.symm)
  | unseated h howing hsome hunmade =>
      obtain ⟨r, hr, hamount, hid⟩ := h.refund
      refine .unseated ⟨hpaid.trans h.paidAt, hnil h.seats,
        r, hrefunds.trans hr, hamount.trans htotal.symm, hid⟩ ?_ (hintent hsome) ?_
      · rcases hstate with hsame | ⟨-, hrank⟩
        · show s'.state ∉ _
          rw [hsame]
          exact howing
        · show s'.state ∉ _
          intro hmem
          rcases owing_state hmem with hpaid | hpartly
          · rw [hpaid] at hrank
            exact absurd hrank (by decide)
          · rw [hpartly] at hrank
            exact absurd hrank (by decide)
      · show s'.AwaitsPayment → ∀ r ∈ s'.refunds, _
        rw [hrefunds]
        rcases hstate with hsame | ⟨hawaits, -⟩
        · intro ha
          refine hunmade ?_
          unfold SeatOrderSnapshot.AwaitsPayment at ha ⊢
          rwa [← hsame]
        · exact fun _ => hunmade hawaits

omit [OrderRules] [LawfulOrderRules] in
/-- An order that owes a refund for a payment without a seat, or is paid, has closed: its state and
its refunds may move on. -/
theorem Standing.closed (h : Standing record) (hopen : ¬ Open record) {s' : SeatOrderSnapshot}
    (hpaid : s'.paidAt = record.order.paidAt) (hseats : s'.seats.length = record.order.seats.length)
    (hquantity : s'.quantity = record.order.quantity)
    (htotal : s'.quote.total = record.order.quote.total)
    (hintent : s'.intent = record.order.intent)
    (hrank : record.order.state.rank ≤ s'.state.rank)
    (hunseated : ∀ r, record.order.refunds = [r] → r.amount = record.order.quote.total →
      record.order.state ∉ statesOwingRefunds → s'.state ∉ statesOwingRefunds ∧
        ¬ s'.AwaitsPayment ∧ ∃ r', s'.refunds = [r'] ∧ r'.amount = r.amount ∧ r'.id = r.id) :
    Standing { record with order := s' } := by
  cases h with
  | «open» h => exact absurd h hopen
  | seated h hstate =>
      exact .seated ⟨hpaid ▸ h.paidAt, hseats.trans (h.seats.trans hquantity.symm),
        h.unseatedRefunds⟩ (hstate.trans hrank)
  | unseated h howing hsome hunmade =>
      obtain ⟨r, hr, hamount, hid⟩ := h.refund
      obtain ⟨howing', hawaits', r', hr', hamount', hid'⟩ := hunseated r hr hamount howing
      refine .unseated ⟨hpaid.trans h.paidAt, ?_, r', hr', ?_, ?_⟩ howing' (hintent ▸ hsome)
        fun ha => absurd ha hawaits'
      · show s'.seats = []
        rw [← List.length_eq_zero_iff, hseats, h.seats, List.length_nil]
      · exact hamount'.trans (hamount.trans htotal.symm)
      · rw [hid']
        exact hid

/-- A refund owed to the account of money taken and held. -/
theorem Standing.booked (h : Standing record) {s' : SeatOrderSnapshot} {op : Operation}
    (hbooks : op.Books) (hc : Change record.order op s') :
    Standing { record with order := s' } := by
  cases hc with
  | none => exact h
  | refundOwed refund now left hfresh hstate =>
      refine h.closed (fun hopen => ?_) rfl rfl rfl rfl rfl le_rfl ?_
      · have hrank := hopen.state
        rcases owing_state hstate with hs | hs <;> rw [hs] at hrank <;> exact absurd hrank (by decide)
      · exact fun _ _ _ howing => absurd hstate howing
  | intentCancelled => exact h.quiet rfl rfl rfl rfl rfl id (.inl rfl)
  | refundMade refund refundRef now made sign reached changed hfind hunmade hmade hsign hreached
      hchanged =>
      have hmem : refund ∈ record.order.refunds := List.mem_of_find?_eq_some hfind
      have hopen : ¬ Open record := fun hopen => by
        rw [hopen.refunds] at hmem
        cases hmem
      have hrank := (Change.refundMade (s := record.order) refund refundRef now made sign reached
        changed hfind hunmade hmade hsign hreached hchanged).rank_le
      have hsame : changed.paidAt = record.order.paidAt ∧ changed.quantity = record.order.quantity ∧
          changed.quote = record.order.quote ∧ changed.intent = record.order.intent := by
        rw [hchanged]
        split_ifs <;> exact ⟨rfl, rfl, rfl, rfl⟩
      refine h.closed hopen hsame.1 (by simp [SeatOrder.seatsRefundedBy]) hsame.2.1
        (congrArg OrderQuote.total hsame.2.2.1) hsame.2.2.2 hrank ?_
      -- The one refund of an unseated order is its whole total: made, the order is refunded.
      intro r hr hamount howing
      have hrefund : refund = r := by
        rw [hr] at hmem
        simpa using hmem
      have hmadeOf : SeatOrder.madeOf (SeatOrder.refundsWithMade record.order.refunds refund.id
          refundRef now) = [{ r with ref := some refundRef, refundedAt := some now }] := by
        simp [hr, hrefund, SeatOrder.refundsWithMade, SeatOrder.madeOf]
      have hmadeTotal : made = record.order.quote.total := by
        rw [hmadeOf, LawfulOrderRules.sum_same _ _ (by simp [hamount])] at hmade
        rw [← Except.ok.inj hmade]
        simp [hamount]
      have hsigned : 0 ≤ sign := by
        obtain ⟨n, hn, -, hneg⟩ := LawfulOrderRules.compare_same made record.order.quote.total
          (by rw [hmadeTotal])
        rw [hn] at hsign
        rw [← Except.ok.inj hsign]
        by_contra hlt
        have := hneg.mp (not_le.mp hlt)
        rw [hmadeTotal] at this
        exact lt_irrefl _ this
      rw [if_pos hsigned] at hreached
      have hstate : changed.state = .refunded ∨
          OrderState.refunded.rank ≤ record.order.state.rank ∧ changed.state = record.order.state := by
        rw [hchanged, hreached]
        split_ifs with hforward
        · exact .inl rfl
        · rw [LawfulOrderRules.movesForward_iff, not_lt] at hforward
          exact .inr ⟨hforward, rfl⟩
      refine ⟨?_, ?_, { r with ref := some refundRef, refundedAt := some now }, ?_, rfl, rfl⟩
      · show changed.state ∉ _
        rcases hstate with hs | ⟨-, hs⟩
        · rw [hs]
          decide
        · rw [hs]
          exact howing
      · intro hawaits
        have hlt := hawaits.rank_lt
        rcases hstate with hs | ⟨hle, hs⟩
        · exact absurd (hs ▸ hlt) (by decide)
        · have hlt' : record.order.state.rank < OrderState.failed.rank := hs ▸ hlt
          exact absurd (hle.trans hlt'.le) (by decide)
      · simp [hr, hrefund, SeatOrder.refundsWithMade]
  | _ => exact hbooks.elim

omit [OrderRules] [LawfulOrderRules] in
/-- Standing is a matter of the order, and of whether a payment was confirmed to it. -/
theorem Standing.congr (h : Standing record) (horder : record'.order = record.order)
    (hconfirmed : record'.confirmed = record.confirmed)
    (hunseated : record'.unseatedRefunds = record.unseatedRefunds) : Standing record' := by
  cases record'
  cases record
  cases horder
  cases hconfirmed
  cases hunseated
  cases h with
  | «open» h => exact .open ⟨h.1, h.2, h.3, h.4, h.5, h.6⟩
  | seated h hstate => exact .seated ⟨h.1, h.2, h.3⟩ hstate
  | unseated h howing hsome hunmade => exact .unseated ⟨h.1, h.2, h.3⟩ howing hsome hunmade

omit [OrderRules] [LawfulOrderRules] in
theorem Standing.confirmedAgain (h : Standing record) (hopen : ¬ Open record) :
    Standing { record with confirmed := true } := by
  cases h with
  | «open» h => exact absurd h hopen
  | seated h hstate => exact .seated ⟨h.1, h.2, h.3⟩ hstate
  | unseated h howing hsome hunmade => exact .unseated ⟨h.1, h.2, h.3⟩ howing hsome hunmade

omit [LawfulOrderRules] in
theorem Standing.waiting (h : Standing record) {s' : SeatOrderSnapshot}
    {intent : PaymentIntentRecord} {state : WaitingState} {now : Instant}
    (hc : Change record.order (.recordIntent intent state now) s') :
    Standing { record with order := s' } := by
  cases hc with
  | none => exact h
  | intentOfFailed => exact h.quiet rfl rfl rfl rfl rfl (by simp) (.inl rfl)
  | intentRecorded intent state now hwaits =>
      exact h.quiet rfl rfl rfl rfl rfl (by simp) (.inr ⟨hwaits, state.rank_lt_paid⟩)
  | intentCompleted => exact h.quiet rfl rfl rfl rfl rfl (by simp) (.inl rfl)

omit [LawfulOrderRules] in
/-- Seats given up stay seats of the order. -/
theorem Standing.cancelled (h : Standing record) {s' : SeatOrderSnapshot}
    {cancellation : SeatCancellation} {now : Instant}
    (hc : Change record.order (.cancelSeats cancellation now) s') :
    Standing { record with order := s' } := by
  cases hc with
  | none => exact h
  | seatsCancelled => exact h.quiet rfl (by simp) rfl rfl rfl id (.inl rfl)

theorem Standing.disputed (h : Standing record) (hsettled : ¬ record.order.AcceptsPayment)
    {s' : SeatOrderSnapshot} (hc : Change record.order .dispute s') :
    Standing { record with order := s' } := by
  cases hc with
  | none => exact h
  | disputed hforward =>
      refine h.closed (fun hopen => hsettled hopen.accepts) rfl rfl rfl rfl rfl ?_ ?_
      · exact ((LawfulOrderRules.movesForward_iff _ _).mp hforward).le
      · intro r hr _ _
        have hstate : OrderState.disputed ∉ statesOwingRefunds := by decide
        have hwaits : ¬ OrderState.disputed.rank < OrderState.failed.rank := by decide
        exact ⟨hstate, fun hawaits => hwaits hawaits.rank_lt, r, hr, rfl, rfl⟩

theorem Standing.move (h : Standing record) (hmove : RecordMove record record' label) :
    Standing record' := by
  cases hmove with
  | waiting intent state now hc => exact h.waiting hc
  | booked op hbooks hc => exact h.booked hbooks hc
  | disputed hsettled hc => exact h.disputed hsettled hc
  | cancelled cancellation now _ hc => exact h.cancelled hc
  | answered => exact h.congr rfl rfl rfl
  | confirmedAgain hsettled => exact h.confirmedAgain fun hopen => hsettled hopen.accepts
  | deadlines deadline =>
      exact h.quiet rfl (by simp [movedDeadlines]) rfl rfl rfl id (.inl rfl)

/-- Where an order stands after a movement. -/
theorem Standing.step (h : Standing record) (hstep : RecordStep db label record record') :
    Standing record' := by
  cases hstep with
  | same => exact h
  | moved hmove => exact h.move hmove
  | credited _ _ crediting now hc =>
      cases hc with
      | none => exact h
      | seatsCredited => exact h.quiet rfl (by simp) rfl rfl rfl id (.inl rfl)
  | marked => exact h.congr rfl rfl rfl
  | stopped hstops =>
      have hfailed : OrderState.failed.rank < OrderState.paid.rank := by decide
      cases hstops with
      | failed failure hwaits => exact h.quiet rfl rfl rfl rfl rfl id (.inr ⟨hwaits, hfailed⟩)
      | swept now hwaits _ => exact h.quiet rfl rfl rfl rfl rfl id (.inr ⟨hwaits, hfailed⟩)
      | unseated reason intentRef id now haccepts =>
          have hopen := h.open_of_accepts haccepts
          refine .unseated ⟨hopen.paidAt, hopen.seats, _, rfl, rfl, by
            simp [hopen.unseatedRefunds]⟩ ?_ rfl ?_
          · intro hmem
            have hrank := hopen.state
            rcases owing_state hmem with hs | hs <;>
              exact absurd (hs ▸ hrank) (by decide)
          · intro _ r hr
            rw [List.mem_singleton.mp hr]
  | paid haccepts intentRef issues hlength _ now =>
      refine .seated ⟨rfl, ?_, (h.open_of_accepts haccepts).unseatedRefunds⟩ le_rfl
      simpa [paidOrder] using hlength
  | renewed => exact h.quiet rfl rfl rfl rfl rfl id (.inl rfl)
  | viewerCancelled cancellation now _ hc => exact h.cancelled hc

omit [OrderRules] [LawfulOrderRules] in
/-- An order just placed is open. -/
theorem Standing.placed (placement : SeatOrderPlacement) (now : Instant)
    (binding : IdempotencyBinding) :
    Standing (.opened (SeatOrder.place placement now).current binding) :=
  .open ⟨rfl, rfl, show OrderState.pending.rank < OrderState.paid.rank by decide, rfl, rfl, rfl⟩

/-- Every movement keeps every order standing somewhere. -/
theorem Movement.standing (h : Movement db label db')
    (hstanding : ∀ r ∈ db.orders.rows, Standing r) : ∀ r ∈ db'.orders.rows, Standing r := by
  intro r' hr'
  rcases h.record_cases hr' with ⟨r, hfind, hstep⟩ | ⟨placement, binding, now, -, -, rfl, -⟩
  · exact (hstanding r (Table.mem_of_find? hfind)).step hstep
  · exact .placed placement now binding

omit [LawfulOrderRules] in
theorem Change.paidAt_eq {s s' : SeatOrderSnapshot} {op : Operation} (hc : Change s op s')
    (hop : ∀ intentRef issues now, op ≠ .pay intentRef issues now) : s'.paidAt = s.paidAt := by
  cases hc with
  | paid intentRef issues now => exact absurd rfl (hop intentRef issues now)
  | refundMade refund refundRef now made sign reached changed hfind hunmade hmade hsign hreached
      hchanged =>
      rw [hchanged]
      split_ifs <;> rfl
  | _ => rfl

omit [LawfulOrderRules] in
/-- Nothing pays or unseats an order that takes no payment any more. -/
theorem RecordStep.settled (hstep : RecordStep db label record record')
    (hsettled : ¬ record.order.AcceptsPayment) :
    record'.order.paidAt = record.order.paidAt ∧
      record'.unseatedRefunds = record.unseatedRefunds := by
  cases hstep with
  | moved hmove =>
      cases hmove with
      | waiting intent state now hc => exact ⟨hc.paidAt_eq (by simp), rfl⟩
      | booked op hbooks hc =>
          refine ⟨hc.paidAt_eq ?_, rfl⟩
          rintro intentRef issues now rfl
          exact hbooks
      | disputed _ hc => exact ⟨hc.paidAt_eq (by simp), rfl⟩
      | cancelled cancellation now _ hc => exact ⟨hc.paidAt_eq (by simp), rfl⟩
      | _ => exact ⟨rfl, rfl⟩
  | credited _ _ crediting now hc => exact ⟨hc.paidAt_eq (by simp), rfl⟩
  | stopped hstops =>
      cases hstops with
      | unseated _ _ _ _ haccepts => exact absurd haccepts hsettled
      | _ => exact ⟨rfl, rfl⟩
  | paid haccepts => exact absurd haccepts hsettled
  | viewerCancelled cancellation now _ hc => exact ⟨hc.paidAt_eq (by simp), rfl⟩
  | _ => exact ⟨rfl, rfl⟩

/-- Seated once, seated for ever. -/
theorem RecordStep.seated (hstep : RecordStep db label record record') (h : Standing record)
    (hseated : Seated record) : Seated record' := by
  have hsettled : ¬ record.order.AcceptsPayment := fun ha =>
    (h.open_of_accepts ha).not_seated hseated
  have hpaid : record'.order.paidAt.isSome := by
    rw [(hstep.settled hsettled).1]
    exact hseated.paidAt
  cases h.step hstep with
  | seated h => exact h
  | «open» h =>
      rw [h.paidAt] at hpaid
      cases hpaid
  | unseated h =>
      rw [h.paidAt] at hpaid
      cases hpaid

/-- Unseated once, unseated for ever. -/
theorem RecordStep.unseated (hstep : RecordStep db label record record') (h : Standing record)
    (hunseated : Unseated record) : Unseated record' := by
  obtain ⟨r, hr, hamount, hid⟩ := hunseated.refund
  have hsettled : ¬ record.order.AcceptsPayment := fun ha => by
    rw [(h.open_of_accepts ha).refunds] at hr
    cases hr
  obtain ⟨hpaid, hsame⟩ := hstep.settled hsettled
  cases h.step hstep with
  | unseated h => exact h
  | «open» h =>
      rw [h.unseatedRefunds, hid] at hsame
      cases hsame
  | seated h =>
      have hsome := h.paidAt
      rw [hpaid, hunseated.paidAt] at hsome
      cases hsome

omit [LawfulOrderRules] in
/-- A payment confirmed to an order stays confirmed. -/
theorem RecordStep.confirmed (hstep : RecordStep db label record record')
    (h : record.confirmed = true) : record'.confirmed = true := by
  cases hstep with
  | moved hmove =>
      cases hmove with
      | confirmedAgain => rfl
      | _ => exact h
  | stopped hstops =>
      cases hstops with
      | unseated => rfl
      | _ => exact h
  | paid => rfl
  | _ => exact h

end

end Arthome.Ticketing
