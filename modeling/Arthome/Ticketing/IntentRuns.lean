import Arthome.Ticketing.PaymentRuns

/-!
# Intents to cancel

An order owes its intent's cancellation once it failed with the intent still open.
A confirmation takes that back. A waiting intent recorded afterwards, on an order
failed and owing its payment back, owes it again: those are the runs in which a
cancellation is asked for an intent whose money was taken.
-/

namespace Arthome.Ticketing

open Arthome.Core Library

/-- The transaction records an intent of the order still waiting for its buyer or the bank. -/
def Transaction.RecordsWaiting (orderId : Uuid) : Transaction → Prop
  | .applyEvent event .. => event.Waits orderId
  | .recordIntent id intent .. => orderId = id ∧ intent.Waits
  | _ => False

section Movements

variable [OrderRules] {db db' : Db}

/-- One movement and quiet ones after it, under a guard that asks something of the first alone. -/
theorem Db.MovedOnce.guarded {labels : Label → Prop} {ok : Db → Label → Prop}
    (h : Db.MovedOnce labels db db') (hquiet : ∀ mid, ok mid .quiet)
    (hfirst : ∀ label, labels label → ok db label) : Db.Moved ok db db' := by
  have hrest : ∀ {a b : Db}, Db.Moved IsQuiet a b → Db.Moved ok a b := fun hmoved =>
    hmoved.mono fun mid label hl => by
      rw [show label = .quiet from hl]
      exact hquiet mid
  rcases h with hmoved | ⟨label, mid, hl, hmove, hmoved⟩
  · exact hrest hmoved
  · have hmoved₁ : Db.Moved ok db mid := .single (hfirst label hl) hmove
    exact hmoved₁.trans (hrest hmoved)

omit [OrderRules] in
theorem IsFact.not_waiting [SalesRules] {dateId orderId : Uuid} {fact : CatalogDateFact}
    {label : Label} (h : IsFact dateId fact db label) : label ≠ .waitingIntent orderId := by
  rintro rfl
  rcases h with h | ⟨outcome, statedAt, sales, -, h, -⟩ <;> cases h

omit [OrderRules] in
theorem IsCounted.not_waiting {orderId : Uuid} {label : Label} (h : IsCounted db label) :
    label ≠ .waitingIntent orderId := by
  rintro rfl
  rcases h with h | h <;> cases h

omit [OrderRules] in
theorem IsOfSeats.not_waiting {orderId : Uuid} {label : Label} (h : IsOfSeats db label) :
    label ≠ .waitingIntent orderId := by
  rintro rfl
  rcases h with h | ⟨id, cancellation, h⟩ <;> cases h

omit [OrderRules] in
theorem IsQuiet.not_waiting {orderId : Uuid} {label : Label} (h : IsQuiet db label) :
    label ≠ .waitingIntent orderId := by
  rintro rfl
  cases h

variable [LawfulOrderRules] [SalesRules] [LawfulSalesRules] {publicWebOrigin : String} {w : World}

/-- A waiting intent is recorded by the transactions that say so, in the state they find. -/
theorem Transaction.perform_guarded {transaction : Transaction} {ok : Db → Label → Prop}
    (hs : w.Sound) (h : transaction.perform publicWebOrigin w = .ok db')
    (hother : ∀ mid label, (∀ orderId, label ≠ .waitingIntent orderId) → ok mid label)
    (hwaits : ∀ orderId, transaction.RecordsWaiting orderId → ok w.db (.waitingIntent orderId)) :
    Db.Moved ok w.db db' := by
  have hquiet : ∀ mid, ok mid .quiet := fun mid => hother mid .quiet (by simp)
  have hpayment : ∀ {waits : Uuid → Prop}, (∀ id, waits id → ok w.db (.waitingIntent id)) →
      ∀ label, PaymentLabel waits label → ok w.db label := by
    intro waits hfirst label hl
    cases label with
    | waitingIntent id => exact hfirst id hl
    | _ => exact hother _ _ (by simp)
  have hnever : ∀ labels : Db → Label → Prop,
      (∀ {mid orderId label}, labels mid label → label ≠ .waitingIntent orderId) →
      ∀ mid label, labels mid label → ok mid label :=
    fun _ hnot mid label hl => hother mid label fun _ => hnot hl
  have hmoved := Transaction.perform_moved hs.consistent hs.holdsLeft h
  cases transaction with
  | recordIntent orderId intent reads now servedAt draw =>
      obtain ⟨resumption, hrecord⟩ := map_fst_ok (refusing_ok_iff.mp h)
      exact (recordIntentIn_moved hs.consistent hrecord).1.guarded hquiet (hpayment hwaits)
  | applyEvent event reads now draw =>
      exact (applyIn_moved hs.consistent (refusing_ok_iff.mp h)).guarded hquiet (hpayment hwaits)
  | place => exact hmoved.mono (hnever IsCounted IsCounted.not_waiting)
  | resume => exact hmoved.mono (hnever IsCounted IsCounted.not_waiting)
  | failSoldOut => exact hmoved.mono (hnever IsQuiet IsQuiet.not_waiting)
  | releaseHold =>
      refine hmoved.mono fun _ _ hl => hother _ _ fun _ hlabel => ?_
      rcases hl with hl | ⟨holdId, hl⟩ <;> cases hl.symm.trans hlabel
  | intentCancelled => exact hmoved.mono (hnever IsQuiet IsQuiet.not_waiting)
  | refundMade => exact hmoved.mono (hnever IsQuiet IsQuiet.not_waiting)
  | expireHolds =>
      refine hmoved.mono fun _ _ hl => hother _ _ fun _ hlabel => ?_
      rcases hl with hl | ⟨holdId, hl⟩ <;> cases hl.symm.trans hlabel
  | cancelSeat => exact hmoved.mono (hnever IsOfSeats IsOfSeats.not_waiting)
  | refundSeat => exact hmoved.mono (hnever IsOfSeats IsOfSeats.not_waiting)
  | settleOrders => exact hmoved.mono (hnever IsOfSeats IsOfSeats.not_waiting)
  | stampSettled => exact hmoved.mono (hnever IsQuiet IsQuiet.not_waiting)
  | setAside => exact hmoved.mono (hnever IsQuiet IsQuiet.not_waiting)
  | sale action =>
      cases action with
      | applyFact => exact hmoved.mono (hnever _ IsFact.not_waiting)
      | _ => exact hmoved.mono (hnever IsCounted IsCounted.not_waiting)

end Movements

/-! ## Cancellations owed -/

/-- An intent whose cancellation is owed is that of an order failed, not paid, owing nothing back. -/
def CancelOwedUnpaid (order : SeatOrderSnapshot) : Prop :=
  order.intentCancelOwedAt.isSome →
    order.state = .failed ∧ order.paidAt = none ∧ order.refunds = []

/-- The order failed and owes its payment back. -/
def FailedOwing (order : SeatOrderSnapshot) : Prop := order.state = .failed ∧ order.refunds ≠ []

section Steps

variable [OrderRules] [LawfulOrderRules] {db db' : Db} {label : Label} {record record' : OrderRecord}

omit [OrderRules] [LawfulOrderRules] in
theorem CancelOwedUnpaid.of_eq {s s' : SeatOrderSnapshot} (h : CancelOwedUnpaid s)
    (howed : s'.intentCancelOwedAt = s.intentCancelOwedAt) (hstate : s'.state = s.state)
    (hpaid : s'.paidAt = s.paidAt) (hrefunds : s'.refunds = s.refunds) : CancelOwedUnpaid s' := by
  unfold CancelOwedUnpaid
  rw [howed, hstate, hpaid, hrefunds]
  exact h

omit [OrderRules] [LawfulOrderRules] in
/-- Only a failed order without refunds owes a cancellation. -/
theorem CancelOwedUnpaid.not_owed {s : SeatOrderSnapshot} (h : CancelOwedUnpaid s)
    (hne : s.state ≠ .failed ∨ s.refunds ≠ []) : s.intentCancelOwedAt = none := by
  by_contra howed
  obtain ⟨hfailed, -, hrefunds⟩ := h (Option.isSome_iff_ne_none.mpr howed)
  rcases hne with hstate | hrefund
  · exact hstate hfailed
  · exact hrefund hrefunds

omit [OrderRules] [LawfulOrderRules] in
theorem CancelOwedUnpaid.of_none {s : SeatOrderSnapshot} (h : s.intentCancelOwedAt = none) :
    CancelOwedUnpaid s := by
  intro howed
  rw [h] at howed
  cases howed

omit [OrderRules] [LawfulOrderRules] in
theorem Standing.paidAt_of_failed (h : Standing record)
    (hrank : record.order.state.rank < OrderState.paid.rank) : record.order.paidAt = none := by
  cases h with
  | «open» hopen => exact hopen.paidAt
  | seated _ hstate => exact absurd hrank (not_lt.mpr hstate)
  | unseated hunseated => exact hunseated.paidAt

omit [LawfulOrderRules] in
theorem CancelOwedUnpaid.waiting (h : CancelOwedUnpaid record.order) (hstanding : Standing record)
    (hspared : ¬ FailedOwing record.order) {s' : SeatOrderSnapshot} {intent : PaymentIntentRecord}
    {state : WaitingState} {now : Instant}
    (hc : Change record.order (.recordIntent intent state now) s') : CancelOwedUnpaid s' := by
  cases hc with
  | none => exact h
  | intentOfFailed _ _ _ hfailed =>
      have hrank : record.order.state.rank < OrderState.paid.rank := by
        rw [hfailed]
        decide
      have hrefunds : record.order.refunds = [] := by
        by_contra hne
        exact hspared ⟨hfailed, hne⟩
      exact fun _ => ⟨hfailed, hstanding.paidAt_of_failed hrank, hrefunds⟩
  | intentRecorded _ _ _ hwaits =>
      refine .of_none (h.not_owed (.inl ?_))
      exact hwaits.ne_failed
  | intentCompleted => exact h.of_eq rfl rfl rfl rfl

omit [LawfulOrderRules] in
theorem CancelOwedUnpaid.booked (h : CancelOwedUnpaid record.order) {op : Operation}
    (hbooks : op.Books) {s' : SeatOrderSnapshot} (hc : Change record.order op s') :
    CancelOwedUnpaid s' := by
  cases hc with
  | none => exact h
  | refundOwed _ _ _ _ howing =>
      refine .of_none (h.not_owed (.inl ?_))
      rcases owing_state howing with hstate | hstate <;> rw [hstate] <;> decide
  | intentCancelled => exact .of_none rfl
  | refundMade refund refundRef now made sign reached changed hfind hunmade hmade hsign hreached
      hchanged =>
      have hmem := List.mem_of_find?_eq_some hfind
      have hnone := h.not_owed (.inr (List.ne_nil_of_mem hmem))
      refine .of_none ?_
      show changed.intentCancelOwedAt = none
      rw [hchanged]
      split_ifs <;> exact hnone
  | _ => exact hbooks.elim

/-- A step of an order keeps it, unless it records a waiting intent of one that failed and owes. -/
theorem RecordStep.cancelOwedUnpaid (hstep : RecordStep db label record record')
    (hstanding : Standing record) (h : CancelOwedUnpaid record.order)
    (hspared : label = .waitingIntent record.id → ¬ FailedOwing record.order) :
    CancelOwedUnpaid record'.order := by
  cases hstep with
  | same => exact h
  | moved hmove =>
      cases hmove with
      | waiting intent state now hc => exact h.waiting hstanding (hspared rfl) hc
      | booked op hbooks hc => exact h.booked hbooks hc
      | disputed hsettled hc =>
          cases hc with
          | none => exact h
          | disputed hforward =>
              refine .of_none ?_
              show record.order.intentCancelOwedAt = none
              by_contra howed
              obtain ⟨hfailed, -, hrefunds⟩ := h (Option.isSome_iff_ne_none.mpr howed)
              refine hsettled ⟨hrefunds, (LawfulOrderRules.movesForward_iff _ _).mpr ?_⟩
              rw [hfailed]
              decide
      | cancelled cancellation now _ hc => cases hc <;> exact h.of_eq rfl rfl rfl rfl
      | _ => exact h.of_eq rfl rfl rfl rfl
  | credited _ _ crediting now hc => cases hc <;> exact h.of_eq rfl rfl rfl rfl
  | stopped hstops =>
      cases hstops with
      | failed failure hwaits => exact .of_none (h.not_owed (.inl hwaits.ne_failed))
      | swept now hwaits hrefunds =>
          exact fun _ => ⟨rfl, hstanding.paidAt_of_failed (hwaits.rank_lt.trans (by decide)), hrefunds⟩
      | unseated => exact .of_none rfl
  | paid => exact .of_none rfl
  | renewed hstate =>
      refine .of_none (h.not_owed (.inl ?_))
      rw [hstate]
      decide
  | viewerCancelled cancellation now _ hc => cases hc <;> exact h.of_eq rfl rfl rfl rfl
  | _ => exact h.of_eq rfl rfl rfl rfl

end Steps

/-- No waiting intent is recorded of an order that failed and owes its payment back. -/
def SparesOwing (db : Db) (label : Label) : Prop :=
  ∀ orderId, label = .waitingIntent orderId →
    ∀ record, db.orders.find? orderId = some record → ¬ FailedOwing record.order

/-- The transaction records no waiting intent of an order that failed and owes its payment back. -/
def World.SparesOwing (w : World) (transaction : Transaction) : Prop :=
  ∀ orderId, transaction.RecordsWaiting orderId →
    ∀ record, w.db.orders.find? orderId = some record → ¬ FailedOwing record.order

section Runs

variable [OrderRules] [LawfulOrderRules] {db db' : Db}

theorem Db.Moved.cancelOwedUnpaid (hm : Db.Moved SparesOwing db db') (hc : Consistent db)
    (h : ∀ record ∈ db.orders.rows, CancelOwedUnpaid record.order) :
    ∀ record ∈ db'.orders.rows, CancelOwedUnpaid record.order := by
  have hrun : Consistent db' ∧ ∀ record ∈ db'.orders.rows, CancelOwedUnpaid record.order := by
    apply hm.invariant
      (P := fun mid => Consistent mid ∧ ∀ record ∈ mid.orders.rows, CancelOwedUnpaid record.order)
    · exact ⟨hc, h⟩
    · rintro mid label mid' ⟨hc, h⟩ hspares hmove
      refine ⟨hmove.consistent hc, fun record' hrecord' => ?_⟩
      rcases hmove.record_cases hrecord' with
        ⟨record, hfind, hstep⟩ | ⟨placement, binding, now, -, -, rfl, -⟩
      · have hmem := Table.mem_of_find? hfind
        refine hstep.cancelOwedUnpaid (hc.standing record hmem) (h record hmem) fun hlabel => ?_
        refine hspares record.id hlabel record ?_
        exact Table.find?_of_mem hmem
      · exact .of_none rfl
  exact hrun.2

variable [SalesRules] [LawfulSalesRules] {w : World} (publicWebOrigin : String)

theorem World.Sound.cancelOwedUnpaid (hs : w.Sound) (transactions : List Transaction)
    (hspared : Admitted World.SparesOwing (World.advance publicWebOrigin) w transactions)
    (h : ∀ record ∈ w.db.orders.rows, CancelOwedUnpaid record.order) :
    ∀ record ∈ (transactions.foldl (World.advance publicWebOrigin) w).db.orders.rows,
      CancelOwedUnpaid record.order := by
  induction transactions generalizing w with
  | nil => exact h
  | cons transaction transactions ih =>
      obtain ⟨hfirst, hrest⟩ := hspared
      refine ih (hs.advance transaction) hrest ?_
      have hmoved : Db.Moved Ticketing.SparesOwing w.db
          (w.advance publicWebOrigin transaction).db := by
        unfold World.advance
        split
        · rename_i after hperform
          refine Transaction.perform_guarded hs hperform ?_ ?_
          · exact fun mid label hnever orderId hlabel => absurd hlabel (hnever orderId)
          · rintro orderId hrecords id hlabel
            cases hlabel
            exact hfirst orderId hrecords
        · exact .refl
        · exact .refl
      exact hmoved.cancelOwedUnpaid hs.consistent h

/-- While no waiting intent is recorded of an order that failed and owes its payment back, a
cancellation is owed only for the intent of a failed order whose money was never taken. -/
theorem cancellation_owed_unpaid (transactions : List Transaction)
    (hspared : Admitted World.SparesOwing (World.advance publicWebOrigin) .empty transactions)
    (record : OrderRecord) (hrecord : record ∈ (World.reached publicWebOrigin transactions).db.orders.rows)
    (howed : record.order.intentCancelOwedAt.isSome) :
    record.order.state = .failed ∧ record.order.paidAt = none ∧ record.unseatedRefunds = [] ∧
      record.confirmed = false := by
  have hinvariant := World.sound_empty.cancelOwedUnpaid publicWebOrigin transactions hspared
    fun record hnone => by cases hnone
  obtain ⟨hfailed, hpaid, hrefunds⟩ := hinvariant record hrecord howed
  have hopen : Open record := by
    cases (World.sound_reached publicWebOrigin transactions).consistent.standing record hrecord with
    | «open» hopen => exact hopen
    | seated hseated =>
        have hsome := hseated.paidAt
        rw [hpaid] at hsome
        cases hsome
    | unseated hunseated =>
        obtain ⟨r, hr, -⟩ := hunseated.refund
        rw [hrefunds] at hr
        cases hr
  exact ⟨hfailed, hpaid, hopen.unseatedRefunds, hopen.confirmed⟩

end Runs

section Sample

open Sample

/-- A webhook's event about the sample order's intent. -/
def sampleEvent (kind : PaymentEventKind) (now : Instant) : Transaction :=
  .applyEvent ⟨kind, some "pi_51", some 51, none⟩ .latest now ⟨71, [(81, "SEAT-81"), (82, "SEAT-82")]⟩

/-- A failed attempt gives the seats back, another account takes all five, and the intent succeeds
after all: its money is owed back. -/
def sampleOwing : List Transaction :=
  samplePlaced ++ [sampleEvent .intentFailed 150,
    .place { samplePurchase with
      body := ⟨1, .full, 5, ⟨5000, "EUR"⟩, none⟩
      buyer := ⟨some 12, none⟩
      idempotency := ⟨some 12, 62, "five seats"⟩ } .latest 160 ⟨52, 42, "ORDER-52", false⟩,
    sampleSucceeded]

/-- A processing event delivered after the success: the intent's cancellation is owed, beside the
refund of its money. -/
theorem cancellation_owed_after_success :
    ¬ ∀ (transactions : List Transaction) (record : OrderRecord),
      record ∈ (World.reached "https://arthome.example" transactions).db.orders.rows →
      record.order.intentCancelOwedAt.isSome →
        record.order.state = .failed ∧ record.order.paidAt = none ∧ record.unseatedRefunds = [] := by
  intro hall
  have hviolates : (World.reached "https://arthome.example"
      (sampleOwing ++ [sampleEvent .intentProcessing 250])).db.orders.rows.any (fun record =>
        record.order.intentCancelOwedAt.isSome && record.unseatedRefunds ≠ []) = true := by
    decide +kernel
  obtain ⟨record, hrecord, hboth⟩ := List.any_eq_true.mp hviolates
  simp only [Bool.and_eq_true, decide_eq_true_eq] at hboth
  exact hboth.2 (hall _ record hrecord hboth.1).2.2

def sampleFailedOnce : List Transaction := samplePlaced ++ [sampleEvent .intentFailed 150]

def sampleFailed : List Transaction := sampleFailedOnce ++ [sampleEvent .intentProcessing 160]

/-- A processing event delivered after a failed attempt, before any success. -/
theorem cancellation_owed_unpaid_sample :
    ∃ record ∈ (World.reached "https://arthome.example" sampleFailed).db.orders.rows,
      record.order.intentCancelOwedAt.isSome ∧ record.order.state = .failed ∧
        record.confirmed = false := by
  have howed : ∃ record ∈ (World.reached "https://arthome.example" sampleFailed).db.orders.rows,
      record.order.intentCancelOwedAt.isSome := by decide +kernel
  have hspared : Admitted World.SparesOwing (World.advance "https://arthome.example") .empty
      sampleFailed := by
    refine ⟨fun _ h => h.elim, fun _ h => h.elim, fun _ h => h.elim, fun _ h => h.elim,
      fun _ h => h.elim, fun _ h => h.elim, fun _ h => ?_, fun orderId h record hrecord => ?_,
      trivial⟩
    · rcases h.2 with hkind | hkind <;> cases hkind
    · obtain rfl : 51 = orderId := Option.some.inj h.1
      have hrefunds : ((World.reached "https://arthome.example" sampleFailedOnce).db.orders.find? 51).all
          (fun record => record.order.refunds.isEmpty) = true := by decide +kernel
      have hfind : (World.reached "https://arthome.example" sampleFailedOnce).db.orders.find? 51 =
          some record := hrecord
      rw [hfind] at hrefunds
      exact fun howing => howing.2 (List.isEmpty_iff.mp hrefunds)
  obtain ⟨record, hrecord, howed⟩ := howed
  obtain ⟨hfailed, -, -, hconfirmed⟩ := cancellation_owed_unpaid "https://arthome.example"
    sampleFailed hspared record hrecord howed
  exact ⟨record, hrecord, howed, hfailed, hconfirmed⟩

end Sample

end Arthome.Ticketing
