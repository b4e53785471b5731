import Arthome.Ticketing.Conservation

/-!
# The movements of a payment

What a confirmed payment, an abandoned one and a webhook's event do, as movements:
one that moves the order with its hold and its seats, and quiet ones after it.
-/

namespace Arthome.Ticketing

open Arthome.Core Library

variable [OrderRules]

/-- Movements, each under a label `ok` admits where it is made. -/
abbrev Db.Moved (ok : Db → Label → Prop) : Db → Db → Prop := Moves ok Movement

def IsQuiet (_ : Db) (label : Label) : Prop := label = .quiet

/-- At most one movement that is not quiet, and it comes first. -/
def Db.MovedOnce (labels : Label → Prop) (db db' : Db) : Prop :=
  Db.Moved IsQuiet db db' ∨
    ∃ label mid, labels label ∧ Movement db label mid ∧ Db.Moved IsQuiet mid db'

section Statements

variable {db db' : Db} {record : OrderRecord}

theorem Db.MovedOnce.refl {labels : Label → Prop} : Db.MovedOnce labels db db := .inl .refl

theorem Db.MovedOnce.single {labels : Label → Prop} {label : Label}
    (h : Movement db label db') (hl : labels label) : Db.MovedOnce labels db db' :=
  .inr ⟨label, db', hl, h, .refl⟩

theorem Db.MovedOnce.quiet {labels : Label → Prop} (h : Movement db .quiet db') :
    Db.MovedOnce labels db db' := .inl (.single rfl h)

theorem Db.MovedOnce.then {labels : Label → Prop} {mid : Db} (h : Db.MovedOnce labels db mid)
    (hq : Db.Moved IsQuiet mid db') : Db.MovedOnce labels db db' := by
  rcases h with h | ⟨label, mid', hl, hm, h⟩
  · exact .inl (h.trans hq)
  · exact .inr ⟨label, mid', hl, hm, h.trans hq⟩

theorem Db.MovedOnce.mono {labels labels' : Label → Prop} (h : Db.MovedOnce labels db db')
    (hl : ∀ label, labels label → labels' label) : Db.MovedOnce labels' db db' := by
  rcases h with h | ⟨label, mid, hlabel, hm, h⟩
  · exact .inl h
  · exact .inr ⟨label, mid, hl label hlabel, hm, h⟩

omit [OrderRules] in
theorem saveOrder_ok {order : SeatOrder} (h : db.saveOrder order = .ok db') :
    ∃ record, db.orders.find? order.current.id = some record ∧
      db' = db.putOrder { record with order := order.current } ∧
      Db.OrdersAccepted db'.orders := by
  unfold Db.saveOrder at h
  simp only [bind_ok_iff, orRefuse_ok_iff, require_ok_iff, pure_ok_iff] at h
  obtain ⟨record, hfind, -, haccepted, rfl⟩ := h
  exact ⟨record, hfind, rfl, haccepted⟩

omit [OrderRules] in
/-- A saved order has distinct seats. -/
theorem saveOrder_seats {order : SeatOrder} (h : db.saveOrder order = .ok db') :
    (order.current.seats.map fun seat => seat.id).Nodup := by
  obtain ⟨record, hfind, rfl, hnodup, -⟩ := saveOrder_ok h
  have hmem : ({ record with order := order.current } : OrderRecord) ∈
      (db.orders.put { record with order := order.current }).rows :=
    (Table.mem_put hfind).mpr (.inl rfl)
  exact (List.nodup_flatMap.mp hnodup).1 _ hmem

omit [OrderRules] in
theorem saveHold_ok {hold : SeatHoldSnapshot} (h : db.saveHold hold = .ok db') :
    ∃ row, db.holds.find? hold.id = some row ∧
      db' = db.putHold { row with state := hold.state, version := hold.version } := by
  unfold Db.saveHold at h
  simp only [bind_ok_iff, orRefuse_ok_iff, pure_ok_iff] at h
  obtain ⟨row, hfind, rfl⟩ := h
  exact ⟨row, hfind, rfl⟩

omit [OrderRules] in
/-- A hold found, left and saved. -/
theorem saveHold_left {hold left : SeatHoldSnapshot} {holdId : Uuid} {state : SeatHoldState}
    (hhold : db.holds.find? holdId = some hold) (hleave : SeatHold.leave hold state = .ok left)
    (h : db.saveHold left = .ok db') : hold.state = .active ∧ db' = db.putHold (leftHold hold state) := by
  obtain ⟨hactive, rfl⟩ := SeatHold.leave_ok hleave
  obtain ⟨row, hfind, rfl⟩ := saveHold_ok h
  have hsame : row = hold := by
    have hid : db.holds.find? hold.id = some hold := (Table.key_of_find? hhold).symm ▸ hhold
    rw [hid] at hfind
    exact (Option.some.inj hfind).symm
  exact ⟨hactive, by rw [hsame]; rfl⟩

omit [OrderRules] in
theorem findOrder_ok {orderId : Uuid} {order : SeatOrder} (h : db.findOrder orderId = some order) :
    ∃ record, db.orders.find? orderId = some record ∧ order = SeatOrder.restore record.order := by
  simp only [Db.findOrder, Option.map_eq_some_iff] at h
  obtain ⟨record, hfind, rfl⟩ := h
  exact ⟨record, hfind, rfl⟩

omit [OrderRules] in
theorem noteOrder_eq {orderId : Uuid} (hrecord : db.orders.find? orderId = some record)
    (note : OrderRecord → OrderRecord) :
    db.noteOrder orderId note = db.putOrder { note record with order := record.order } := by
  unfold Db.noteOrder
  rw [hrecord]
  rfl

omit [OrderRules] in
theorem updateSales_eq {dateId : Uuid} {row : DateSalesSnapshot}
    (hrow : db.sales.find? dateId = some row) (condition : DateSalesSnapshot → Bool)
    (set : DateSalesSnapshot → DateSalesSnapshot) :
    db.updateSales dateId condition set =
      if condition row then some (db.putSales (set row)) else none := by
  unfold Db.updateSales
  rw [hrow]
  rfl

omit [OrderRules] in
theorem updateSales_some {dateId : Uuid} {condition : DateSalesSnapshot → Bool}
    {set : DateSalesSnapshot → DateSalesSnapshot} (h : db.updateSales dateId condition set = some db') :
    ∃ row, db.sales.find? dateId = some row ∧ condition row = true ∧ db' = db.putSales (set row) := by
  unfold Db.updateSales at h
  split at h
  · cases h
  · rename_i row hrow
    split_ifs at h with hcond
    exact ⟨row, hrow, hcond, (Option.some.inj h).symm⟩

omit [OrderRules] in
theorem sellHeldSeats_eq {dateId : Uuid} {row : DateSalesSnapshot}
    (hrow : db.sales.find? dateId = some row) (quantity : ℕ) :
    db.sellHeldSeats dateId quantity =
      db.putSales { row with seatsSold := row.seatsSold + quantity } := by
  unfold Db.sellHeldSeats
  rw [updateSales_eq hrow, if_pos rfl]
  rfl

omit [OrderRules] in
theorem returnHeldSeats_eq {dateId : Uuid} {row : DateSalesSnapshot}
    (hrow : db.sales.find? dateId = some row) (quantity poolSeats : ℤ) (now : Instant) :
    db.returnHeldSeats dateId quantity poolSeats now =
      db.putSales (Db.returned row quantity poolSeats now) := by
  unfold Db.returnHeldSeats
  rw [updateSales_eq hrow, if_pos rfl]
  rfl

omit [OrderRules] in
/-- The seats a direct sale takes. -/
theorem takeAndSellSeats_some {dateId : Uuid} {quantity : ℕ} {now : Instant} {fromPool : Bool}
    (h : db.takeAndSellSeats dateId quantity now fromPool = some db') :
    ∃ row mid poolSeats, db.sales.find? dateId = some row ∧ Taken row quantity poolSeats mid ∧
      db' = db.putSales { mid with seatsSold := mid.seatsSold + quantity } := by
  unfold Db.takeAndSellSeats at h
  obtain ⟨row, hrow, hcond, rfl⟩ := updateSales_some h
  simp only [Bool.and_eq_true, decide_eq_true_eq] at hcond
  refine ⟨row, _, _, hrow, ⟨if fromPool then Db.openPoolAt row now else 0, ?_, hcond.1.1, hcond.1.2,
    rfl, rfl⟩, rfl⟩
  unfold Db.openPoolAt
  split_ifs <;> simp

end Statements

section Settling

variable [SalesRules] {db db' : Db} {record : OrderRecord}

/-- A record to which a payment was confirmed. -/
def OrderRecord.confirmedNow (record : OrderRecord) : OrderRecord := { record with confirmed := true }

def OrderRecord.unseatedNow (record : OrderRecord) (order : SeatOrderSnapshot) (id : Uuid) :
    OrderRecord :=
  { record with
    order
    confirmed := true
    unseatedRefunds := record.unseatedRefunds ++ [id] }

/-- What the application of a confirmed payment leaves: the rows so far, the order to save, and the
counters to move last. -/
inductive Settled (db : Db) (record : OrderRecord) :
    Db → SeatOrderSnapshot → Option PendingCounterMove → Prop
  | again (hsettled : ¬ record.order.AcceptsPayment) :
      Settled db record (db.putOrder record.confirmedNow) record.order none
  | sold {hold : SeatHoldSnapshot} (haccepts : record.order.AcceptsPayment)
      (hhold : db.holds.find? record.order.holdId = some hold) (hactive : hold.state = .active)
      (intentRef : String) (issues : List SeatIssue)
      (hlength : issues.length = record.order.quantity) (now : Instant) :
      Settled db record ((db.putOrder record.confirmedNow).putHold (leftHold hold .consumed))
        (paidOrder record.order intentRef issues now)
        (some (.sellHeldSeats record.order.dateId record.order.quantity))
  | soldDirect {row mid : DateSalesSnapshot} {poolSeats : ℤ}
      (haccepts : record.order.AcceptsPayment) (hgone : db.HoldGone record.order)
      (hrow : db.sales.find? record.order.dateId = some row)
      (htaken : Taken row record.order.quantity poolSeats mid) (intentRef : String)
      (issues : List SeatIssue) (hlength : issues.length = record.order.quantity) (now : Instant) :
      Settled db record ((db.putOrder record.confirmedNow).putSales
          { mid with seatsSold := mid.seatsSold + record.order.quantity })
        (paidOrder record.order intentRef issues now) none
  | returned {hold : SeatHoldSnapshot} (haccepts : record.order.AcceptsPayment)
      (hhold : db.holds.find? record.order.holdId = some hold) (hactive : hold.state = .active)
      (reason : RefundReason) (intentRef : String) (id : Uuid) (now : Instant) :
      Settled db record (((db.putOrder record.confirmedNow).putHold (leftHold hold .released)).putOrder
          (record.unseatedNow (unseatedOrder record.order reason intentRef id now) id))
        (unseatedOrder record.order reason intentRef id now)
        (some (.returnHeldSeats record.order.dateId hold.quantity hold.poolSeats now))
  | stopped (haccepts : record.order.AcceptsPayment) (hgone : db.HoldGone record.order)
      (reason : RefundReason) (intentRef : String) (id : Uuid) (now : Instant) :
      Settled db record ((db.putOrder record.confirmedNow).putOrder
          (record.unseatedNow (unseatedOrder record.order reason intentRef id now) id))
        (unseatedOrder record.order reason intentRef id now) none

omit [OrderRules] [SalesRules] in
theorem filter_active_some {hold : Option SeatHoldSnapshot} {h : SeatHoldSnapshot}
    (hf : hold.filter SeatHold.isActive = some h) : hold = some h ∧ h.state = .active := by
  cases hold with
  | none => cases hf
  | some held =>
      simp only [Option.filter_some] at hf
      split_ifs at hf with hactive
      cases hf
      exact ⟨rfl, by simpa [SeatHold.isActive] using hactive⟩

omit [OrderRules] [SalesRules] in
theorem filter_active_none {hold : Option SeatHoldSnapshot}
    (hf : hold.filter SeatHold.isActive = none) : ∀ h, hold = some h → h.state ≠ .active := by
  rintro h rfl
  simp only [Option.filter_some] at hf
  split_ifs at hf with hactive
  simpa [SeatHold.isActive] using hactive

omit [SalesRules] in
theorem oweUnseated_commit {order : SeatOrder} {reason : RefundReason} {intentRef : String}
    {id : Uuid} {now : Instant} {r : SeatOrder × Option Uuid}
    (haccepts : order.current.AcceptsPayment)
    (h : (order.oweUnseatedPaymentBack reason intentRef id now).commit = .ok r) :
    r.1.current = unseatedOrder order.current reason intentRef id now ∧ r.2 = some id := by
  have hb := (SeatOrderSnapshot.acceptsPayment_iff order).mpr haccepts
  rw [SeatOrder.oweUnseatedPaymentBack, if_pos hb, Reply.commit_ok_iff] at h
  obtain ⟨hstate, hresult⟩ := h
  refine ⟨?_, (Except.ok.inj hresult).symm⟩
  rw [← hstate]
  simp [SeatOrder.owe, SeatOrder.intentKnownOr, unseatedOrder, haccepts.1]

omit [SalesRules] in
theorem pay_commit {order : SeatOrder} {intentRef : String} {issues : List SeatIssue}
    {now : Instant} {r : SeatOrder × Unit} (haccepts : order.current.AcceptsPayment)
    (h : (order.pay intentRef issues now).commit = .ok r) :
    r.1.current = paidOrder order.current intentRef issues now ∧
      issues.length = order.current.quantity := by
  have hb := (SeatOrderSnapshot.acceptsPayment_iff order).mpr haccepts
  rw [SeatOrder.pay, if_pos hb, Reply.commit_ok_iff] at h
  split_ifs at h with hlength
  · obtain ⟨hstate, -⟩ := h
    exact ⟨by rw [← hstate]; rfl, hlength⟩
  · cases h.2

omit [OrderRules] [SalesRules] in
theorem fail_commit {order : SeatOrder} {failure : OrderFailure} {now : Instant}
    {r : SeatOrder × Bool} (h : (order.fail failure now).commit = .ok r) :
    (order.current.AwaitsPayment ∧ r.1.current = failedOrder order.current failure ∧ r.2 = true) ∨
      (r.1 = order ∧ r.2 = false) := by
  unfold SeatOrder.fail at h
  split_ifs at h with hawaits
  · rw [Reply.commit_ok_iff] at h
    exact .inl ⟨(SeatOrderSnapshot.awaitsPayment_iff order).mp hawaits, by rw [← h.1]; rfl,
      (Except.ok.inj h.2).symm⟩
  · rw [Reply.commit_ok_iff] at h
    exact .inr ⟨h.1.symm, (Except.ok.inj h.2).symm⟩

/-- All of it owed back: the order, saved with its refund. -/
theorem owePaymentBack_ok {order : SeatOrder} {outcome : Option DateOutcome} {intentRef : String}
    {id : Uuid} {now : Instant} {r : Db × SeatOrder}
    (hrecord : db.orders.find? record.id = some record) (horder : order.current = record.order)
    (haccepts : record.order.AcceptsPayment)
    (h : owePaymentBack db order outcome intentRef id now = .ok r) :
    ∃ reason, r.2.current = unseatedOrder record.order reason intentRef id now ∧
      r.1 = db.putOrder { record with
        order := unseatedOrder record.order reason intentRef id now
        unseatedRefunds := record.unseatedRefunds ++ [id] } := by
  unfold owePaymentBack at h
  simp only [bind_ok_iff] at h
  obtain ⟨⟨order', owed⟩, hcommit, h⟩ := h
  obtain ⟨hcurrent, howed⟩ := oweUnseated_commit (horder ▸ haccepts) hcommit
  simp only at hcurrent howed
  rw [howed] at h
  simp only [bind_ok_iff, pure_ok_iff] at h
  obtain ⟨db₁, hsave, rfl⟩ := h
  rw [horder] at hcurrent
  refine ⟨_, hcurrent, ?_⟩
  obtain ⟨record₁, hfind, rfl, -⟩ := saveOrder_ok hsave
  have hid : order'.current.id = record.id := by
    rw [hcurrent]
    rfl
  have hsame : record₁ = record := by
    rw [hid, hrecord] at hfind
    exact (Option.some.inj hfind).symm
  subst hsame
  have hself : (db.putOrder { record₁ with order := order'.current }).orders.find?
      order'.current.id = some { record₁ with order := order'.current } :=
    Table.find?_put_self (a := ({ record₁ with order := order'.current } : OrderRecord)) hfind
  rw [noteOrder_eq hself, Db.putOrder_putOrder, hcurrent]
  rfl

/-- The application of a confirmed payment, in each of its ways. -/
theorem settle_ok {seen : Unlocked} {intentRef : String} {now : Instant} {draw : PaymentDraw}
    {r : Db × SeatOrder × Option PendingCounterMove}
    (hrecord : db.orders.find? record.id = some record)
    (h : settleConfirmedPayment db seen (SeatOrder.restore record.order) intentRef now draw = .ok r) :
    Settled db record r.1 r.2.1.current r.2.2 := by
  unfold settleConfirmedPayment at h
  dsimp only at h
  have hnote : (db.noteOrder (SeatOrder.restore record.order).current.id fun record => { record with confirmed := true }) =
      db.putOrder record.confirmedNow := noteOrder_eq hrecord _
  have hself : (db.putOrder record.confirmedNow).orders.find? record.confirmedNow.id =
      some record.confirmedNow := Table.find?_put_self (a := record.confirmedNow) hrecord
  rw [hnote] at h
  by_cases haccepts : (SeatOrder.restore record.order).acceptsPayment = true
  swap
  · rw [if_neg haccepts, pure_ok_iff] at h
    rw [← h]
    exact .again fun ha => haccepts ((SeatOrderSnapshot.acceptsPayment_iff _).mpr ha)
  rw [if_pos haccepts] at h
  have ha := (SeatOrderSnapshot.acceptsPayment_iff _).mp haccepts
  split_ifs at h with hcancelled <;> simp only [SeatOrder.restore_current] at h
  · split at h
    · rename_i hold hfilter
      obtain ⟨hhold, hactive⟩ := filter_active_some hfilter
      have hheld : db.holds.find? record.order.holdId = some hold := hhold
      simp only [bind_ok_iff, pure_ok_iff] at h
      obtain ⟨left, hleave, db₁, hsave, ⟨db₂, order₂⟩, howe, rfl⟩ := h
      obtain ⟨-, rfl⟩ := saveHold_left hhold hleave hsave
      obtain ⟨-, rfl⟩ := SeatHold.leave_ok hleave
      have hleft : ((db.putOrder record.confirmedNow).putHold (leftHold hold .released)).orders.find?
          record.confirmedNow.id = some record.confirmedNow := hself
      obtain ⟨reason, hcurrent, hdb⟩ := owePaymentBack_ok hleft rfl ha howe
      simp only at hcurrent hdb
      rw [hcurrent, hdb]
      exact .returned ha hheld hactive reason intentRef _ now
    · rename_i hfilter
      have hgone : db.HoldGone record.order := filter_active_none hfilter
      simp only [bind_ok_iff, pure_ok_iff] at h
      obtain ⟨⟨db₂, order₂⟩, howe, rfl⟩ := h
      obtain ⟨reason, hcurrent, hdb⟩ := owePaymentBack_ok hself rfl ha howe
      simp only at hcurrent hdb
      rw [hcurrent, hdb]
      exact .stopped ha hgone reason intentRef _ now
  · split at h
    · rename_i hold hfilter
      obtain ⟨hhold, hactive⟩ := filter_active_some hfilter
      have hheld : db.holds.find? record.order.holdId = some hold := hhold
      simp only [bind_ok_iff, pure_ok_iff] at h
      obtain ⟨left, hleave, db₁, hsave, ⟨order₁, u⟩, hpay, rfl⟩ := h
      obtain ⟨-, rfl⟩ := saveHold_left hhold hleave hsave
      obtain ⟨hcurrent, hlength⟩ := pay_commit ha hpay
      simp only at hcurrent
      rw [hcurrent]
      exact .sold ha hheld hactive intentRef _ hlength now
    · rename_i hfilter
      have hgone : db.HoldGone record.order := filter_active_none hfilter
      split at h
      · simp only [bind_ok_iff, pure_ok_iff] at h
        obtain ⟨⟨db₂, order₂⟩, howe, rfl⟩ := h
        obtain ⟨reason, hcurrent, hdb⟩ := owePaymentBack_ok hself rfl ha howe
        simp only at hcurrent hdb
        rw [hcurrent, hdb]
        exact .stopped ha hgone reason intentRef _ now
      · rename_i db₁ htake
        simp only [bind_ok_iff, pure_ok_iff] at h
        obtain ⟨⟨order₁, u⟩, hpay, rfl⟩ := h
        obtain ⟨row, mid, poolSeats, hrow, htaken, rfl⟩ := takeAndSellSeats_some htake
        replace hrow : db.sales.find? record.order.dateId = some row := hrow
        obtain ⟨hcurrent, hlength⟩ := pay_commit ha hpay
        simp only at hcurrent
        rw [hcurrent]
        exact .soldDirect ha hgone hrow htaken intentRef _ hlength now

/-- What an answer of the provider's leaves of an order: the rows so far, the order to save, and the
counters to move last. `waits` says for which orders an intent may be still waiting. -/
inductive Applied (waits : Uuid → Prop) (db : Db) (record : OrderRecord) :
    Db → SeatOrderSnapshot → Option PendingCounterMove → Prop
  | settled {db₁ : Db} {s' : SeatOrderSnapshot} {pending : Option PendingCounterMove}
      (h : Settled db record db₁ s' pending) : Applied waits db record db₁ s' pending
  | waiting {s' : SeatOrderSnapshot} (hwaits : waits record.id) (intent : PaymentIntentRecord)
      (state : WaitingState) (now : Instant)
      (hc : Change record.order (.recordIntent intent state now) s') :
      Applied waits db record db s' none
  | unchanged : Applied waits db record db record.order none
  | failed (failure : OrderFailure) (hawaits : record.order.AwaitsPayment)
      (hgone : db.HoldGone record.order) :
      Applied waits db record db (failedOrder record.order failure) none
  | failedReturned {hold : SeatHoldSnapshot} (failure : OrderFailure)
      (hawaits : record.order.AwaitsPayment)
      (hhold : db.holds.find? record.order.holdId = some hold) (hactive : hold.state = .active)
      (now : Instant) :
      Applied waits db record (db.putHold (leftHold hold .released))
        (failedOrder record.order failure)
        (some (.returnHeldSeats hold.dateId hold.quantity hold.poolSeats now))

omit [SalesRules] in
theorem failUnpaidOrder_ok {waits : Uuid → Prop} {failure : OrderFailure} {now : Instant}
    {r : Db × SeatOrder × Option PendingCounterMove}
    (h : failUnpaidOrder db (SeatOrder.restore record.order) failure now = .ok r) :
    Applied waits db record r.1 r.2.1.current r.2.2 := by
  unfold failUnpaidOrder at h
  simp only [bind_ok_iff] at h
  obtain ⟨⟨order, failed⟩, hcommit, h⟩ := h
  rcases fail_commit hcommit with ⟨hawaits, hcurrent, hfailed⟩ | ⟨hsame, hfailed⟩
  · simp only [SeatOrder.restore_current] at hawaits hcurrent hfailed
    subst hfailed
    rw [if_pos rfl] at h
    split at h
    · rename_i hold hfilter
      rw [hcurrent] at hfilter
      obtain ⟨hhold, hactive⟩ := filter_active_some hfilter
      replace hhold : db.holds.find? record.order.holdId = some hold := hhold
      simp only [bind_ok_iff, pure_ok_iff] at h
      obtain ⟨left, hleave, db₁, hsave, rfl⟩ := h
      obtain ⟨-, rfl⟩ := saveHold_left hhold hleave hsave
      obtain ⟨-, rfl⟩ := SeatHold.leave_ok hleave
      rw [hcurrent]
      exact .failedReturned failure hawaits hhold hactive now
    · rename_i hfilter
      rw [hcurrent] at hfilter
      rw [pure_ok_iff] at h
      rw [← h, hcurrent]
      exact .failed failure hawaits (filter_active_none hfilter)
  · simp only at hsame hfailed
    subst hsame hfailed
    simp only [Bool.false_eq_true, if_false, pure_ok_iff] at h
    rw [← h]
    exact .unchanged

omit [SalesRules] in
theorem recordWaitingIntent_ok {order order' : SeatOrder} {intent : PaymentIntentRecord}
    {state : WaitingState} {now : Instant}
    (h : recordWaitingIntent order intent state now = .ok order') :
    Change order.current (.recordIntent intent state now) order'.current := by
  unfold recordWaitingIntent at h
  simp only [bind_ok_iff, Reply.commit_ok_iff, pure_ok_iff] at h
  obtain ⟨⟨order₁, u⟩, ⟨hstate, -⟩, rfl⟩ := h
  simp only at hstate
  rw [← hstate]
  exact (order.recordIntent_changes intent state now).change

omit [SalesRules] in
/-- After a confirmed payment was applied, an order accepts none. -/
theorem Settled.not_accepts [LawfulOrderRules] {db₁ : Db} {s' : SeatOrderSnapshot}
    {pending : Option PendingCounterMove} (h : Settled db record db₁ s' pending) :
    ¬ s'.AcceptsPayment := by
  cases h with
  | again hsettled => exact hsettled
  | sold => exact fun ha => absurd ha.unpaid (lt_irrefl _)
  | soldDirect => exact fun ha => absurd ha.unpaid (lt_irrefl _)
  | returned => exact fun ha => absurd ha.1 (List.cons_ne_nil _ _)
  | stopped => exact fun ha => absurd ha.1 (List.cons_ne_nil _ _)

/-- The labels of what a provider's answer does, its intent still waiting for the orders of
`waits`. -/
def PaymentLabel (waits : Uuid → Prop) : Label → Prop
  | .quiet => False
  | .counters => True
  | .holdLeft _ => True
  | .waitingIntent id => waits id
  | .seatsCancelled _ _ => False
  | .outcomeStated _ _ => False

omit [SalesRules] in
/-- A confirmed payment applied, its order saved and its counters moved: one movement. -/
theorem Settled.movement {waits : Uuid → Prop} {db₁ : Db} {s' : SeatOrderSnapshot}
    {pending : Option PendingCounterMove} (hc : Consistent db)
    (hrecord : db.orders.find? record.id = some record) (h : Settled db record db₁ s' pending)
    (hseats : (s'.seats.map fun seat => seat.id).Nodup) :
    ∃ record₁, db₁.orders.find? record.id = some record₁ ∧
      Db.MovedOnce (PaymentLabel waits) db
        (runPending (db₁.putOrder { record₁ with order := s' }) pending) := by
  have hself : (db.putOrder record.confirmedNow).orders.find? record.id =
      some record.confirmedNow := Table.find?_put_self (a := record.confirmedNow) hrecord
  have hissued : ∀ {issues : List SeatIssue} {intentRef : String} {now : Instant},
      s' = paidOrder record.order intentRef issues now →
        (issues.map fun issue => issue.id).Nodup := by
    rintro issues intentRef now rfl
    simpa [paidOrder, SeatOrder.issuedSeat, Function.comp_def] using hseats
  cases h with
  | again hsettled =>
      refine ⟨record.confirmedNow, hself, .quiet ?_⟩
      exact (Db.putOrder_putOrder db rfl).symm ▸ .order hrecord (.confirmedAgain hsettled)
  | sold haccepts hhold hactive intentRef issues hlength now =>
      obtain ⟨row, hrow⟩ := Option.isSome_iff_exists.mp (hc.dated record (Table.mem_of_find? hrecord))
      have hmove := Movement.sold hrecord hhold hactive hrow haccepts intentRef issues hlength
        (hissued rfl) now
      refine ⟨record.confirmedNow, hself, ?_⟩
      rw [Db.putHold_putOrder] at hmove
      rw [Db.putHold_putOrder, Db.putOrder_putOrder, runPending, PendingCounterMove.run,
        sellHeldSeats_eq]
      · exact .single hmove trivial
      · exact hrow
      · rfl
  | soldDirect haccepts hgone hrow htaken intentRef issues hlength now =>
      have hmove := Movement.soldDirect hrecord hgone hrow htaken haccepts intentRef issues hlength
        (hissued rfl) now
      refine ⟨record.confirmedNow, hself, ?_⟩
      rw [Db.putSales_putOrder, Db.putOrder_putOrder]
      · exact .single hmove trivial
      · rfl
  | @returned hold haccepts hhold hactive reason intentRef id now =>
      obtain ⟨found, hfound, hon⟩ := hc.current record (Table.mem_of_find? hrecord)
      rw [hhold] at hfound
      cases hfound
      obtain ⟨row, hrow⟩ := Option.isSome_iff_exists.mp (hc.dated record (Table.mem_of_find? hrecord))
      have hmove := Movement.returned hrecord hhold hactive (hon.dateId.symm ▸ hrow) .released (.inl rfl)
        now (.inr (.unseated reason intentRef id now haccepts))
      refine ⟨_, Table.find?_put_self (a := record.unseatedNow _ id) (r := record.confirmedNow) hself,
        ?_⟩
      rw [Db.putHold_putOrder] at hmove
      rw [Db.putHold_putOrder, Db.putOrder_putOrder, Db.putHold_putOrder, Db.putOrder_putOrder,
        runPending, PendingCounterMove.run, returnHeldSeats_eq]
      · exact .single hmove trivial
      · exact hrow
      · rfl
      · rfl
  | stopped haccepts hgone reason intentRef id now =>
      have hmove := Movement.stopped hrecord hgone (.unseated reason intentRef id now haccepts)
      refine ⟨_, Table.find?_put_self (a := record.unseatedNow _ id) (r := record.confirmedNow) hself,
        ?_⟩
      rw [Db.putOrder_putOrder, Db.putOrder_putOrder]
      · exact .quiet hmove
      · rfl
      · rfl

omit [OrderRules] [SalesRules] in
theorem updateSales_putOrder (dateId : Uuid) (condition : DateSalesSnapshot → Bool)
    (set : DateSalesSnapshot → DateSalesSnapshot) :
    ((db.putOrder record).updateSales dateId condition set).getD (db.putOrder record) =
      ((db.updateSales dateId condition set).getD db).putOrder record := by
  unfold Db.updateSales
  simp only [Db.putOrder_sales]
  cases db.sales.find? dateId with
  | none => rfl
  | some row =>
      simp only
      split_ifs <;> rfl

omit [OrderRules] [SalesRules] in
/-- The counters move apart from the orders. -/
theorem runPending_putOrder (pending : Option PendingCounterMove) :
    runPending (db.putOrder record) pending = (runPending db pending).putOrder record := by
  cases pending with
  | none => rfl
  | some move => cases move <;> exact updateSales_putOrder _ _ _

omit [OrderRules] [SalesRules] in
theorem runPending_orders (pending : Option PendingCounterMove) :
    (runPending db pending).orders = db.orders := by
  have hup : ∀ dateId condition set,
      ((db.updateSales dateId condition set).getD db).orders = db.orders := by
    intro dateId condition set
    unfold Db.updateSales
    cases db.sales.find? dateId with
    | none => rfl
    | some row =>
        simp only
        split_ifs <;> rfl
  cases pending with
  | none => rfl
  | some move => cases move <;> exact hup _ _ _

omit [SalesRules] in
theorem Applied.id {waits : Uuid → Prop} {db₁ : Db} {s' : SeatOrderSnapshot}
    {pending : Option PendingCounterMove} (h : Applied waits db record db₁ s' pending) :
    s'.id = record.id := by
  cases h with
  | settled h => cases h <;> rfl
  | waiting hwaits intent state now hc => exact hc.samePurchase.id
  | _ => rfl

omit [SalesRules] in
/-- A provider's answer applied, its order saved and its counters moved: one movement. -/
theorem Applied.movement {waits : Uuid → Prop} {db₁ : Db} {s' : SeatOrderSnapshot}
    {pending : Option PendingCounterMove} (hc : Consistent db)
    (hrecord : db.orders.find? record.id = some record) (h : Applied waits db record db₁ s' pending)
    (hseats : (s'.seats.map fun seat => seat.id).Nodup) :
    ∃ record₁, db₁.orders.find? record.id = some record₁ ∧
      Db.MovedOnce (PaymentLabel waits) db
        (runPending (db₁.putOrder { record₁ with order := s' }) pending) := by
  cases h with
  | settled h => exact h.movement hc hrecord hseats
  | waiting hwaits intent state now hchange =>
      exact ⟨record, hrecord, .single (.order hrecord (.waiting intent state now hchange)) hwaits⟩
  | unchanged =>
      refine ⟨record, hrecord, ?_⟩
      rw [show ({ record with order := record.order } : OrderRecord) = record from rfl,
        Db.putOrder_self db hrecord]
      exact .refl
  | failed failure hawaits hgone =>
      exact ⟨record, hrecord, .quiet (.stopped hrecord hgone (.failed failure hawaits))⟩
  | @failedReturned hold failure hawaits hhold hactive now =>
      obtain ⟨found, hfound, hon⟩ := hc.current record (Table.mem_of_find? hrecord)
      rw [hhold] at hfound
      cases hfound
      obtain ⟨row, hrow⟩ := Option.isSome_iff_exists.mp (hc.dated record (Table.mem_of_find? hrecord))
      replace hrow := hon.dateId.symm ▸ hrow
      have hmove := Movement.returned hrecord hhold hactive hrow .released (.inl rfl) now
        (.inr (.failed failure hawaits))
      refine ⟨record, hrecord, ?_⟩
      rw [runPending, PendingCounterMove.run, returnHeldSeats_eq]
      · exact .single hmove trivial
      · exact hrow

omit [OrderRules] [SalesRules] in
/-- The record a save rewrites is the one the payment was applied to. -/
theorem saveOrder_applied {db₁ db₂ : Db} {record₁ : OrderRecord} {order : SeatOrder}
    (hrecord : db₁.orders.find? record.id = some record₁) (hid : order.current.id = record.id)
    (h : db₁.saveOrder order = .ok db₂) :
    db₂ = db₁.putOrder { record₁ with order := order.current } := by
  obtain ⟨found, hfound, rfl, -⟩ := saveOrder_ok h
  rw [hid, hrecord] at hfound
  cases hfound
  rfl

/-- The event says that the intent of the order still waits. -/
def PaymentEvent.Waits (event : PaymentEvent) (orderId : Uuid) : Prop :=
  event.orderId = some orderId ∧
    (event.kind = .intentRequiresAction ∨ event.kind = .intentProcessing)

/-- What an event does to its order: what an answer does, or what a dispute adds to it. -/
theorem applyTo_ok {seen : Unlocked} {event : PaymentEvent} {now : Instant} {draw : PaymentDraw}
    {r : Db × SeatOrder × Option PendingCounterMove} (hevent : event.orderId = some record.id)
    (hrecord : db.orders.find? record.id = some record)
    (h : applyTo db seen (SeatOrder.restore record.order) event now draw = .ok r) :
    Applied event.Waits db record r.1 r.2.1.current r.2.2 ∨
      ∃ s', Settled db record r.1 s' r.2.2 ∧ Change s' .dispute r.2.1.current := by
  unfold applyTo at h
  simp only at h
  split at h <;> rename_i hkind
  · simp only [bind_ok_iff] at h
    obtain ⟨intentRef, -, h⟩ := h
    exact .inl (.settled (settle_ok hrecord h))
  · simp only [bind_ok_iff, pure_ok_iff] at h
    obtain ⟨order', hwait, rfl⟩ := h
    exact .inl (.waiting ⟨hevent, .inl hkind⟩ _ _ now (recordWaitingIntent_ok hwait))
  · simp only [bind_ok_iff, pure_ok_iff] at h
    obtain ⟨order', hwait, rfl⟩ := h
    exact .inl (.waiting ⟨hevent, .inr hkind⟩ _ _ now (recordWaitingIntent_ok hwait))
  · exact .inl (failUnpaidOrder_ok h)
  · exact .inl (failUnpaidOrder_ok h)
  · rw [pure_ok_iff] at h
    rw [← h]
    exact .inl .unchanged
  · unfold applyDispute at h
    simp only [bind_ok_iff, Reply.commit_ok_iff, pure_ok_iff] at h
    obtain ⟨intentRef, -, ⟨db₁, order₁, pending⟩, hsettle, ⟨order₂, u⟩, ⟨hstate, -⟩, rfl⟩ := h
    refine .inr ⟨order₁.current, settle_ok hrecord hsettle, ?_⟩
    simp only at hstate
    rw [← hstate]
    exact order₁.dispute_changes.change
  · rw [pure_ok_iff] at h
    rw [← h]
    exact .inl .unchanged

omit [SalesRules] in
/-- A dispute is of the same order, with its seats. -/
theorem Change.disputed_same {s s' : SeatOrderSnapshot} (h : Change s .dispute s') :
    s'.id = s.id ∧ s'.seats = s.seats := by
  cases h <;> exact ⟨rfl, rfl⟩

/-- One recorded event, applied. -/
theorem applyIn_moved [LawfulOrderRules] {seen : Unlocked} {event : PaymentEvent} {now : Instant}
    {draw : PaymentDraw} (hc : Consistent db) (h : applyIn db seen event now draw = .ok db') :
    Db.MovedOnce (PaymentLabel event.Waits) db db' := by
  unfold applyIn at h
  split at h
  · rw [pure_ok_iff] at h
    exact h ▸ .refl
  · rw [pure_ok_iff] at h
    exact h ▸ .refl
  · rename_i orderId horder hhandled
    simp only [bind_ok_iff, orRefuse_ok_iff, pure_ok_iff] at h
    obtain ⟨order, hfind, ⟨db₁, order₁, pending⟩, happly, db₂, hsave, rfl⟩ := h
    obtain ⟨record, hrecord, rfl⟩ := findOrder_ok hfind
    have hid : record.id = orderId := Table.key_of_find? hrecord
    rw [← hid] at hrecord horder
    have hseats := saveOrder_seats hsave
    rcases applyTo_ok horder hrecord happly with happlied | ⟨s', hsettled, hdispute⟩
    · obtain ⟨record₁, hrecord₁, hmoved⟩ := happlied.movement hc hrecord hseats
      rw [saveOrder_applied hrecord₁ happlied.id hsave]
      exact hmoved
    · obtain ⟨hsame, hsameSeats⟩ := hdispute.disputed_same
      rw [hsameSeats] at hseats
      obtain ⟨record₁, hrecord₁, hmoved⟩ := hsettled.movement hc hrecord hseats
      have happlied : Applied event.Waits db record db₁ s' pending := .settled hsettled
      have hid' : s'.id = record.id := happlied.id
      have hid₁ : order₁.current.id = record.id := hsame.trans hid'
      rw [saveOrder_applied hrecord₁ hid₁ hsave]
      let settled : OrderRecord := { record₁ with order := s' }
      have hfound : (runPending (db₁.putOrder settled) pending).orders.find? settled.id =
          some settled := by
        rw [runPending_orders]
        have hkey : settled.id = record.id := hid'
        exact Table.find?_put_self (r := record₁) (by rw [hkey]; exact hrecord₁)
      have hmove := Movement.order hfound (.disputed hsettled.not_accepts hdispute)
      rw [← runPending_putOrder, Db.putOrder_putOrder] at hmove
      · exact hmoved.then (.single rfl hmove)
      · exact hid'.trans hid₁.symm

omit [SalesRules] in
/-- An order saved with a change that books nothing on its seats. -/
theorem saveOrder_booked {order : SeatOrder} {op : Operation}
    (hrecord : db.orders.find? record.id = some record)
    (hchange : Change record.order op order.current) (hbooks : op.Books) (h : db.saveOrder order = .ok db') :
    Movement db .quiet db' := by
  have hid : order.current.id = record.id := hchange.samePurchase.id
  rw [saveOrder_applied hrecord hid h]
  exact .order hrecord (.booked op hbooks hchange)

omit [SalesRules] in
theorem intentCancelledIn_moved {orderId : Uuid} (h : intentCancelledIn db orderId = .ok db') :
    Db.Moved IsQuiet db db' := by
  unfold intentCancelledIn at h
  split at h
  · rw [pure_ok_iff] at h
    exact h ▸ .refl
  · rename_i order hfind
    obtain ⟨record, hrecord, rfl⟩ := findOrder_ok hfind
    rw [← Table.key_of_find? hrecord] at hrecord
    simp only [bind_ok_iff, Reply.commit_ok_iff] at h
    obtain ⟨⟨order', u⟩, ⟨hstate, -⟩, hsave⟩ := h
    have hchange := (SeatOrder.restore record.order).intentCancelled_changes.change
    rw [hstate] at hchange
    exact .single rfl (saveOrder_booked hrecord hchange trivial hsave)

omit [SalesRules] in
theorem refundMadeIn_moved {orderId refundId : Uuid} {refundRef : String} {now : Instant}
    (h : refundMadeIn db orderId refundId refundRef now = .ok db') : Db.Moved IsQuiet db db' := by
  unfold refundMadeIn at h
  split at h
  · rw [pure_ok_iff] at h
    exact h ▸ .refl
  · rename_i order hfind
    obtain ⟨record, hrecord, rfl⟩ := findOrder_ok hfind
    rw [← Table.key_of_find? hrecord] at hrecord
    simp only [bind_ok_iff, Reply.commit_ok_iff] at h
    obtain ⟨⟨order', u⟩, ⟨hstate, -⟩, hsave⟩ := h
    have hchange := ((SeatOrder.restore record.order).refundMade_changes refundId refundRef now).change
    rw [hstate] at hchange
    exact .single rfl (saveOrder_booked hrecord hchange trivial hsave)

end Settling

end Arthome.Ticketing
