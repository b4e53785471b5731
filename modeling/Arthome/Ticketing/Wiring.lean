import Arthome.Ticketing.OrderStanding

/-!
# Holds and their orders

Every order is on a hold, and every hold was placed for an order, of its date and
its quantity. An active hold is its order's current one, and that order still
waits for its payment and owes nothing: so a hold that leaves does so once, with
its order, and an order never has two active holds.
-/

namespace Arthome.Ticketing

open Arthome.Core Library

variable [OrderRules]

/-- Still waiting for its payment, and owing nothing. -/
def SeatOrderSnapshot.Unpaid (s : SeatOrderSnapshot) : Prop := s.AwaitsPayment ∧ s.refunds = []

/-- The order of a hold, and what the hold's being active says of it. -/
structure PlacedFor (hold : SeatHoldSnapshot) (order : SeatOrderSnapshot) : Prop
    extends HeldFor hold order where
  active : hold.state = .active → order.holdId = hold.id ∧ order.Unpaid

/-- The rows refer to one another as they should. -/
structure Wired (db : Db) : Prop where
  current : ∀ record ∈ db.orders.rows, ∃ hold,
    db.holds.find? record.order.holdId = some hold ∧ OnHold hold record.order
  placedFor : ∀ hold ∈ db.holds.rows, ∃ record,
    db.orders.find? hold.originRef = some record ∧ PlacedFor hold record.order
  dated : ∀ record ∈ db.orders.rows, (db.sales.find? record.order.dateId).isSome

/-- What is kept of the orders and of their wiring by every movement. -/
structure Consistent (db : Db) : Prop extends Wired db where
  standing : ∀ record ∈ db.orders.rows, Standing record

section Parts

variable {db : Db} {record record' : OrderRecord} {hold : SeatHoldSnapshot}

omit [OrderRules]

/-- An order that waits and owes nothing is open. -/
theorem Standing.open_of_unpaid (h : Standing record) (hunpaid : record.order.Unpaid) :
    Open record := by
  rcases h.of_awaits hunpaid.1 with hopen | ⟨hunseated, -⟩
  · exact hopen
  · obtain ⟨r, hr, -⟩ := hunseated.refund
    rw [hunpaid.2] at hr
    cases hr

/-- An active hold placed for an order is the one it is on. -/
theorem Wired.active_current (h : Wired db) (hhold : hold ∈ db.holds.rows)
    (hactive : hold.state = .active) :
    ∃ record, db.orders.find? hold.originRef = some record ∧ OnHold hold record.order ∧
      record.order.Unpaid := by
  obtain ⟨record, hfind, hplaced⟩ := h.placedFor hold hhold
  obtain ⟨hid, hunpaid⟩ := hplaced.active hactive
  obtain ⟨current, hcurrent, hon⟩ := h.current record (Table.mem_of_find? hfind)
  rw [hid] at hcurrent
  have hsame : current = hold := by
    rw [Table.find?_of_mem hhold] at hcurrent
    exact (Option.some.inj hcurrent).symm
  exact ⟨record, hfind, hsame ▸ hon, hunpaid⟩

/-- An order is moved by itself: it keeps waiting, or its hold is gone. -/
theorem Wired.putOrder (h : Wired db) (hrecord : db.orders.find? record.id = some record)
    (hsame : SamePurchase record record')
    (hhold : record'.order.holdId = record.order.holdId ∧
      record'.order.expiresAt = record.order.expiresAt)
    (hwaits : (record.order.Unpaid → record'.order.Unpaid) ∨ db.HoldGone record.order) :
    Wired (db.putOrder record') := by
  have hid : record'.id = record.id := hsame.id
  have hfind : ∀ {r}, r ∈ (db.orders.put record').rows ↔ r = record' ∨ r ∈ db.orders.rows ∧
      r.id ≠ record'.id := Table.mem_put (hid ▸ hrecord)
  constructor
  · intro r hr
    rcases hfind.mp hr with rfl | ⟨hmem, -⟩
    · obtain ⟨hold, hcurrent, hon⟩ := h.current record (Table.mem_of_find? hrecord)
      refine ⟨hold, by rw [hhold.1]; exact hcurrent, ⟨?_, ?_, ?_⟩, ?_, ?_⟩
      · exact hon.originRef.trans hsame.id.symm
      · exact hon.dateId.trans hsame.dateId.symm
      · exact hon.quantity.trans hsame.quantity.symm
      · exact hhold.1.trans hon.holdId
      · exact hhold.2.trans hon.expiresAt
    · exact h.current r hmem
  · intro hold hmem
    obtain ⟨r, hr, hplaced⟩ := h.placedFor hold hmem
    by_cases hkey : hold.originRef = record'.id
    · have heq : r = record := by
        rw [hkey, hid, hrecord] at hr
        exact (Option.some.inj hr).symm
      subst heq
      refine ⟨record', hkey ▸ Table.find?_put_self (hid ▸ hrecord), ⟨?_, ?_, ?_⟩, ?_⟩
      · exact hplaced.originRef.trans hsame.id.symm
      · exact hplaced.dateId.trans hsame.dateId.symm
      · exact hplaced.quantity.trans hsame.quantity.symm
      · intro hactive
        obtain ⟨hcurrent, hunpaid⟩ := hplaced.active hactive
        refine ⟨hhold.1.trans hcurrent, ?_⟩
        rcases hwaits with hwaits | hgone
        · exact hwaits hunpaid
        · exact absurd hactive (hgone hold (hcurrent ▸ Table.find?_of_mem hmem))
    · exact ⟨r, (Table.find?_put_of_ne (Ne.symm hkey)).trans hr, hplaced⟩
  · intro r hr
    rcases hfind.mp hr with rfl | ⟨hmem, -⟩
    · rw [hsame.dateId]
      exact h.dated record (Table.mem_of_find? hrecord)
    · exact h.dated r hmem

theorem Wired.putHold (h : Wired db) (hhold : db.holds.find? hold.id = some hold)
    {state : SeatHoldState} (hstate : state ≠ .active) : Wired (db.putHold (leftHold hold state)) := by
  constructor
  · intro r hr
    obtain ⟨current, hcurrent, hon⟩ := h.current r hr
    by_cases hkey : r.order.holdId = hold.id
    · rw [hkey, hhold] at hcurrent
      cases hcurrent
      refine ⟨leftHold hold state, ?_, ⟨hon.originRef, hon.dateId, hon.quantity⟩, hon.holdId,
        hon.expiresAt⟩
      exact hkey ▸ Table.find?_put_self (a := leftHold hold state) hhold
    · have hne : (leftHold hold state).id ≠ r.order.holdId := Ne.symm hkey
      exact ⟨current, (Table.find?_put_of_ne hne).trans hcurrent, hon⟩
  · intro other hother
    rcases (Table.mem_put (a := leftHold hold state) hhold).mp hother with rfl | ⟨hmem, -⟩
    · obtain ⟨r, hr, hplaced⟩ := h.placedFor hold (Table.mem_of_find? hhold)
      exact ⟨r, hr, ⟨hplaced.originRef, hplaced.dateId, hplaced.quantity⟩,
        fun hactive => absurd hactive hstate⟩
    · exact h.placedFor other hmem
  · exact h.dated

/-- A hold that left is no longer active. -/
theorem holdGone_leftHold (hhold : db.holds.find? record.order.holdId = some hold)
    {state : SeatHoldState} (hstate : state ≠ .active) :
    (db.putHold (leftHold hold state)).HoldGone record.order := by
  intro current hcurrent
  have hid : record.order.holdId = hold.id := (Table.key_of_find? hhold).symm
  have hself := Table.find?_put_self (t := db.holds) (a := leftHold hold state) (r := hold)
    (by rw [← hhold, hid]; rfl)
  rw [Db.putHold_holds, hid, show hold.id = (leftHold hold state).id from rfl, hself] at hcurrent
  rw [← Option.some.inj hcurrent]
  exact hstate

theorem Wired.putSales (h : Wired db) {row row' : DateSalesSnapshot} {dateId : Uuid}
    (hrow : db.sales.find? dateId = some row) (hid : row'.dateId = row.dateId) :
    Wired (db.putSales row') := by
  have hfind : db.sales.find? row'.dateId = some row := by
    rw [hid, Table.key_of_find? hrow]
    exact hrow
  refine ⟨h.current, h.placedFor, fun r hr => ?_⟩
  rw [Db.putSales_sales, Table.find?_put hfind]
  split_ifs
  · rfl
  · exact h.dated r hr

/-- A hold placed for an order whose last one is gone, the order moved to it. -/
theorem Wired.renewed (h : Wired db) (hrecord : db.orders.find? record.id = some record)
    (hunpaid : record.order.Unpaid) (hgone : db.HoldGone record.order)
    (hfor : HeldFor hold record.order) {holds : Table SeatHoldSnapshot.id}
    (hholds : db.holds.insert hold = some holds) :
    Wired ({ db with holds }.putOrder
      { record with order := renewedOrder record.order hold.id hold.expiresAt }) := by
  let record' : OrderRecord :=
    { record with order := renewedOrder record.order hold.id hold.expiresAt }
  have hfind : ∀ {r}, r ∈ (db.orders.put record').rows ↔ r = record' ∨ r ∈ db.orders.rows ∧
      r.id ≠ record'.id := Table.mem_put (a := record') hrecord
  have hself : (db.orders.put record').find? record.id = some record' :=
    Table.find?_put_self (a := record') hrecord
  have hfor' : HeldFor hold record'.order := ⟨hfor.originRef, hfor.dateId, hfor.quantity⟩
  constructor
  · intro r hr
    rcases hfind.mp hr with rfl | ⟨hmem, -⟩
    · exact ⟨hold, Table.find?_insert_self hholds, hfor', rfl, rfl⟩
    · obtain ⟨current, hcurrent, hon⟩ := h.current r hmem
      exact ⟨current, Table.find?_of_insert hholds hcurrent, hon⟩
  · intro other hother
    rcases (Table.mem_insert hholds).mp hother with hmem | rfl
    · obtain ⟨r, hr, hplaced⟩ := h.placedFor other hmem
      by_cases hkey : other.originRef = record.id
      · have heq : r = record := by
          rw [hkey, hrecord] at hr
          exact (Option.some.inj hr).symm
        subst heq
        refine ⟨record', by rw [hkey]; exact hself,
          ⟨hplaced.originRef, hplaced.dateId, hplaced.quantity⟩, fun hactive => ?_⟩
        have hcurrent := (hplaced.active hactive).1
        exact absurd hactive (hgone other (hcurrent ▸ Table.find?_of_mem hmem))
      · have hne : record'.id ≠ other.originRef := Ne.symm hkey
        exact ⟨r, (Table.find?_put_of_ne hne).trans hr, hplaced⟩
    · refine ⟨record', ?_, hfor', fun _ => ⟨rfl, hunpaid⟩⟩
      rw [hfor.originRef]
      exact hself
  · intro r hr
    rcases hfind.mp hr with rfl | ⟨hmem, -⟩
    · exact h.dated record (Table.mem_of_find? hrecord)
    · exact h.dated r hmem

/-- A new order, on a new hold. -/
theorem Wired.placed (h : Wired db) {placed : OrderRecord} (hon : OnHold hold placed.order)
    (hunpaid : placed.order.Unpaid) (hdated : (db.sales.find? placed.order.dateId).isSome)
    {holds : Table SeatHoldSnapshot.id} {orders : Table OrderRecord.id}
    (horders : db.orders.insert placed = some orders) (hholds : db.holds.insert hold = some holds) :
    Wired { db with orders, holds } := by
  constructor
  · intro r hr
    rcases (Table.mem_insert horders).mp hr with hmem | rfl
    · obtain ⟨current, hcurrent, hcurrentOn⟩ := h.current r hmem
      exact ⟨current, Table.find?_of_insert hholds hcurrent, hcurrentOn⟩
    · refine ⟨hold, ?_, hon⟩
      rw [hon.holdId]
      exact Table.find?_insert_self hholds
  · intro other hother
    rcases (Table.mem_insert hholds).mp hother with hmem | rfl
    · obtain ⟨r, hr, hplaced⟩ := h.placedFor other hmem
      exact ⟨r, Table.find?_of_insert horders hr, hplaced⟩
    · refine ⟨placed, ?_, hon.toHeldFor, fun _ => ⟨hon.holdId, hunpaid⟩⟩
      rw [hon.originRef]
      exact Table.find?_insert_self horders
  · intro r hr
    rcases (Table.mem_insert horders).mp hr with hmem | rfl
    · exact h.dated r hmem
    · exact hdated

end Parts

section Steps

variable {db db' : Db} {label : Label} {record record' : OrderRecord}

omit [OrderRules] in
theorem Open.unpaid (h : Open record) (hwaits : record.order.AwaitsPayment) :
    record.order.Unpaid := ⟨hwaits, h.refunds⟩

/-- What an order does without its hold leaves it waiting, if it was. -/
theorem RecordMove.unpaid [LawfulOrderRules] (h : RecordMove record record' label)
    (hunpaid : record.order.Unpaid) : record'.order.Unpaid := by
  obtain ⟨hwaits, hrefunds⟩ := hunpaid
  have hstate := hwaits.rank_lt
  have haccepts : record.order.AcceptsPayment :=
    ⟨hrefunds, (LawfulOrderRules.movesForward_iff _ _).mpr (hstate.trans (by decide))⟩
  cases h with
  | waiting intent state now hc =>
      cases hc with
      | intentOfFailed _ _ _ hfailed =>
          rw [hfailed] at hstate
          exact absurd hstate (lt_irrefl _)
      | intentRecorded =>
          refine ⟨?_, hrefunds⟩
          show state.orderState ∈ orderStatesAwaitingPayment
          cases state <;> decide
      | _ => exact ⟨hwaits, hrefunds⟩
  | booked op hbooks hc =>
      cases hc with
      | refundOwed refund now left hfresh howing =>
          rcases owing_state howing with hs | hs <;>
            exact absurd (hs ▸ hstate) (show ¬ _ by decide)
      | refundMade refund _ _ _ _ _ _ hfind =>
          rw [hrefunds] at hfind
          cases hfind
      | none => exact ⟨hwaits, hrefunds⟩
      | intentCancelled => exact ⟨hwaits, hrefunds⟩
      | _ => exact hbooks.elim
  | disputed hsettled => exact absurd haccepts hsettled
  | cancelled cancellation now hreason hc =>
      cases hc with
      | none => exact ⟨hwaits, hrefunds⟩
      | seatsCancelled => exact ⟨hwaits, hrefunds⟩
  | _ => exact ⟨hwaits, hrefunds⟩

theorem Change.seats_unpaid {s s' : SeatOrderSnapshot} {op : Operation} (hc : Change s op s')
    (hop : (∃ cancellation now, op = .cancelSeats cancellation now) ∨
      ∃ crediting now, op = .creditSeats crediting now) (h : s.Unpaid) : s'.Unpaid := by
  rcases hop with ⟨cancellation, now, rfl⟩ | ⟨crediting, now, rfl⟩ <;> cases hc <;> exact h

/-- Every movement keeps the rows wired and the orders standing. -/
theorem Movement.consistent [LawfulOrderRules] (hm : Movement db label db') (h : Consistent db) :
    Consistent db' := by
  refine ⟨?_, hm.standing h.standing⟩
  have hw := h.toWired
  cases hm with
  | sale hrow hmove => exact hw.putSales hrow (Table.key_of_find? hrow).symm
  | dateOpened hcounters houtcome hinsert =>
      refine ⟨hw.current, hw.placedFor, fun r hr => ?_⟩
      obtain ⟨row, hrow⟩ := Option.isSome_iff_exists.mp (hw.dated r hr)
      exact Option.isSome_iff_exists.mpr ⟨row, Table.find?_of_insert hinsert hrow⟩
  | order hrecord hmove =>
      exact hw.putOrder hrecord hmove.samePurchase hmove.sameHold (.inl hmove.unpaid)
  | credited hrecord hsettlement houtcome crediting now hc =>
      exact hw.putOrder hrecord hc.samePurchase (hc.sameHold (by simp))
        (.inl (hc.seats_unpaid (.inr ⟨_, _, rfl⟩)))
  | marked hrecord => exact hw.putOrder hrecord ⟨rfl, rfl, rfl, rfl, rfl, rfl⟩ ⟨rfl, rfl⟩ (.inl id)
  | stopped hrecord hgone hstops =>
      exact hw.putOrder hrecord hstops.samePurchase hstops.sameHold (.inr hgone)
  | returned hrecord hhold hactive hrow state hstate now hleave =>
      have hne : state ≠ .active := by
        rcases hstate with rfl | rfl <;> decide
      have hself := (Table.key_of_find? hhold).symm ▸ hhold
      refine Wired.putSales ?_ hrow rfl
      refine (hw.putHold hself hne).putOrder hrecord ?_ ?_ (.inr (holdGone_leftHold hhold hne))
      · rcases hleave with ⟨rfl, -, -⟩ | hstops
        · exact .refl _
        · exact hstops.samePurchase
      · rcases hleave with ⟨rfl, -, -⟩ | hstops
        · exact ⟨rfl, rfl⟩
        · exact hstops.sameHold
  | sold hrecord hhold hactive hrow haccepts intentRef issues hlength hissues now =>
      have hself := (Table.key_of_find? hhold).symm ▸ hhold
      refine Wired.putSales ?_ hrow rfl
      exact (hw.putHold hself (by decide)).putOrder hrecord ⟨rfl, rfl, rfl, rfl, rfl, rfl⟩
        ⟨rfl, rfl⟩ (.inr (holdGone_leftHold hhold (by decide)))
  | soldDirect hrecord hgone hrow htaken =>
      refine Wired.putSales ?_ hrow htaken.dateId
      exact hw.putOrder hrecord ⟨rfl, rfl, rfl, rfl, rfl, rfl⟩ ⟨rfl, rfl⟩ (.inr hgone)
  | placed placement binding now hquantity htotal hon hactive hrow htaken hunbound horders hholds =>
      let placed : OrderRecord := .opened (SeatOrder.place placement now).current binding
      have hopened : OnHold _ placed.order := hon
      refine Wired.putSales (hw.placed hopened ⟨?_, rfl⟩ ?_ horders hholds)
        hrow htaken.dateId
      · show OrderState.pending ∈ orderStatesAwaitingPayment
        decide
      · exact Option.isSome_iff_exists.mpr ⟨_, hrow⟩
  | renewed hrecord hstate hintent hgone hfor hactive hrow htaken hholds =>
      have hopen := (h.standing _ (Table.mem_of_find? hrecord)).open_of_awaitsIntent hstate hintent
      refine Wired.putSales (hw.renewed hrecord (hopen.unpaid ?_) hgone hfor hholds) hrow
        htaken.dateId
      unfold SeatOrderSnapshot.AwaitsPayment
      rw [hstate]
      decide
  | viewerCancelled hrecord seatId cancellation now _ _ hc _ hrow =>
      refine Wired.putSales ?_ hrow rfl
      exact hw.putOrder hrecord hc.samePurchase (hc.sameHold (by simp))
        (.inl (hc.seats_unpaid (.inl ⟨_, _, rfl⟩)))
  | _ => exact ⟨hw.current, hw.placedFor, hw.dated⟩

end Steps

end Arthome.Ticketing
