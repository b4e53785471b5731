import Arthome.Ticketing.IntentRuns

/-!
# Orders left to the sweep

An order that waits for its payment fails at its expiry: with its hold while the hold
is active, and by itself once the hold went back, as long as it is pending with no
intent. A waiting intent recorded after the hold went back leaves the order between
the two queries of the pass, and no pass ever fails it.
-/

namespace Arthome.Ticketing

open Arthome.Core Library

/-- Once its hold went back, an unpaid order is one that the pass fails by itself. -/
def Db.Swept (db : Db) (order : SeatOrderSnapshot) : Prop :=
  order.Unpaid → db.HoldGone order → order.state = .pending ∧ order.intent = none

/-- No waiting intent is recorded of an unpaid order whose hold went back. -/
def HeldWhenWaiting (db : Db) (label : Label) : Prop :=
  ∀ orderId, label = .waitingIntent orderId → ∀ record, db.orders.find? orderId = some record →
    record.order.Unpaid → ¬ db.HoldGone record.order

/-- The transaction records no waiting intent of an unpaid order whose hold went back. -/
def World.HeldWhenWaiting (w : World) (transaction : Transaction) : Prop :=
  ∀ orderId, transaction.RecordsWaiting orderId →
    ∀ record, w.db.orders.find? orderId = some record →
      record.order.Unpaid → ¬ w.db.HoldGone record.order

section Steps

variable [OrderRules] {db db' : Db} {label : Label} {record record' : OrderRecord}

/-- What an order that still waits after a step was before it. -/
structure StillWaits (label : Label) (record record' : OrderRecord) : Prop where
  unpaid : record.order.Unpaid
  same : (record'.order.state = .pending ∧ record'.order.intent = none) ∨
    (record'.order.holdId = record.order.holdId ∧ (label = .waitingIntent record.id ∨
      record'.order.state = record.order.state ∧ record'.order.intent = record.order.intent))

omit [OrderRules] in
theorem StillWaits.of_eq (h : record'.order.Unpaid) (hstate : record'.order.state = record.order.state)
    (hintent : record'.order.intent = record.order.intent)
    (hhold : record'.order.holdId = record.order.holdId)
    (hrefunds : record'.order.refunds = record.order.refunds) : StillWaits label record record' := by
  refine ⟨⟨?_, hrefunds ▸ h.2⟩, .inr ⟨hhold, .inr ⟨hstate, hintent⟩⟩⟩
  unfold SeatOrderSnapshot.AwaitsPayment
  rw [← hstate]
  exact h.1

omit [OrderRules] in
theorem SeatOrderSnapshot.Unpaid.state_ne {s : SeatOrderSnapshot} (h : s.Unpaid) (state : OrderState)
    (hrank : OrderState.failed.rank ≤ state.rank) : s.state ≠ state := by
  rintro rfl
  exact absurd h.1.rank_lt (not_lt.mpr hrank)

theorem Stops.not_unpaid (hstops : Stops record record') : ¬ record'.order.Unpaid := by
  rintro ⟨hwaits, hrefunds⟩
  cases hstops with
  | failed => exact hwaits.ne_failed rfl
  | swept => exact hwaits.ne_failed rfl
  | unseated => cases hrefunds

theorem Change.stillWaits_booked {s' : SeatOrderSnapshot} {op : Operation} (hbooks : op.Books)
    (hc : Change record.order op s') (h : s'.Unpaid) :
    StillWaits label record { record with order := s' } := by
  cases hc with
  | none => exact .of_eq h rfl rfl rfl rfl
  | refundOwed => exact absurd h.2 (by simp)
  | refundMade refund refundRef now made sign reached changed hfind =>
      have hnone : SeatOrder.refundsWithMade record.order.refunds refund.id refundRef now = [] := h.2
      have hmem := List.mem_of_find?_eq_some hfind
      rw [List.map_eq_nil_iff.mp hnone] at hmem
      cases hmem
  | intentCancelled => exact .of_eq h rfl rfl rfl rfl
  | _ => exact hbooks.elim

/-- A waiting intent recorded leaves an order unpaid that was. -/
theorem Change.unpaid_before {s s' : SeatOrderSnapshot} {intent : PaymentIntentRecord}
    {state : WaitingState} {now : Instant} (hc : Change s (.recordIntent intent state now) s')
    (h : s'.Unpaid) : s.Unpaid := by
  cases hc with
  | none => exact h
  | intentOfFailed _ _ _ hfailed => exact absurd hfailed h.1.ne_failed
  | intentRecorded _ _ _ hwaits => exact ⟨hwaits, h.2⟩
  | intentCompleted _ _ _ hwaits => exact ⟨hwaits, h.2⟩

/-- An order that still waits after a step waited before it. -/
theorem RecordStep.stillWaits (hstep : RecordStep db label record record')
    (h : record'.order.Unpaid) : StillWaits label record record' := by
  cases hstep with
  | same => exact .of_eq h rfl rfl rfl rfl
  | moved hmove =>
      cases hmove with
      | waiting intent state now hc =>
          exact ⟨hc.unpaid_before h, .inr ⟨(hc.sameHold (by simp)).1, .inl rfl⟩⟩
      | booked op hbooks hc => exact hc.stillWaits_booked hbooks h
      | disputed _ hc =>
          cases hc with
          | none => exact .of_eq h rfl rfl rfl rfl
          | disputed => exact absurd rfl (h.state_ne .disputed (by decide))
      | cancelled cancellation now _ hc => cases hc <;> exact .of_eq h rfl rfl rfl rfl
      | _ => exact .of_eq h rfl rfl rfl rfl
  | credited _ _ crediting now hc => cases hc <;> exact .of_eq h rfl rfl rfl rfl
  | marked => exact .of_eq h rfl rfl rfl rfl
  | stopped hstops => exact absurd h hstops.not_unpaid
  | paid => exact absurd rfl (h.state_ne .paid (by decide))
  | renewed hstate hintent => exact ⟨⟨awaits_of_pending hstate, h.2⟩, .inl ⟨hstate, hintent⟩⟩
  | viewerCancelled cancellation now _ hc => cases hc <;> exact .of_eq h rfl rfl rfl rfl

/-- The movement in which an order's hold leaves and the order still waits finds it pending. -/
theorem Movement.returned_pending (hc : Consistent db) {hold : SeatHoldSnapshot}
    (hm : Movement db (.holdLeft hold.id) db')
    (hrecord : db.orders.find? record.id = some record)
    (hhold : db.holds.find? record.order.holdId = some hold)
    (hrecord' : db'.orders.find? record.id = some record') (h : record'.order.Unpaid) :
    record'.order.state = .pending ∧ record'.order.intent = none := by
  have hsame : ∀ {left : SeatHoldSnapshot} {moved : OrderRecord}, hold.id = left.id →
      db.orders.find? moved.id = some moved → db.holds.find? moved.order.holdId = some left →
      moved = record := by
    intro left moved hid hmoved hleft
    obtain ⟨_, hfound, hon⟩ := hc.current record (Table.mem_of_find? hrecord)
    cases hfound.symm.trans hhold
    obtain ⟨_, hfound', hon'⟩ := hc.current moved (Table.mem_of_find? hmoved)
    cases hfound'.symm.trans hleft
    have heq : left = hold :=
      Table.eq_of_mem (Table.mem_of_find? hleft) (Table.mem_of_find? hhold) hid.symm
    refine Table.eq_of_mem (Table.mem_of_find? hmoved) (Table.mem_of_find? hrecord) ?_
    exact hon'.originRef.symm.trans (heq ▸ hon.originRef)
  generalize hlabel : Label.holdLeft hold.id = label at hm
  cases hm with
  | @returned left moved moved' row hmoved hleft hactive hrow state hstate now hleave =>
      cases hsame (Label.holdLeft.inj hlabel) hmoved hleft
      have hid : moved'.id = record.id := by
        rcases hleave with ⟨rfl, -, -⟩ | hstops
        · rfl
        · exact hstops.samePurchase.id
      have hput : (db.orders.put moved').find? record.id = some moved' :=
        hid ▸ Table.find?_put_self (hid ▸ hrecord)
      cases hput.symm.trans hrecord'
      rcases hleave with ⟨rfl, hpending, hintent⟩ | hstops
      · exact ⟨hpending, hintent⟩
      · exact absurd h hstops.not_unpaid
  | @sold left moved row hmoved hleft hactive hrow haccepts intentRef issues hlength hissues now =>
      cases hsame (Label.holdLeft.inj hlabel) hmoved hleft
      have hput := Table.find?_put_self (t := db.orders) (r := record) (a := { record with
        order := paidOrder record.order intentRef issues now, confirmed := true }) hrecord
      cases hput.symm.trans hrecord'
      exact absurd rfl (h.state_ne .paid (by decide))
  | order hmoved hmove => subst hlabel; cases hmove
  | sale hrow hmove => subst hlabel; cases hmove
  | _ => cases hlabel

/-- A movement keeps every order within the pass's reach, if its waiting intents find holds. -/
theorem Movement.swept (hc : Consistent db) (hm : Movement db label db')
    (hheld : HeldWhenWaiting db label) (hswept : ∀ record ∈ db.orders.rows, db.Swept record.order)
    (hrecord' : record' ∈ db'.orders.rows) : db'.Swept record'.order := by
  intro hunpaid hgone
  rcases hm.record_cases hrecord' with
    ⟨record, hfind, hstep⟩ | ⟨placement, binding, now, -, -, rfl, -⟩
  · have hmem := Table.mem_of_find? hfind
    have hrecord : db.orders.find? record.id = some record := Table.find?_of_mem hmem
    have hfind' : db'.orders.find? record.id = some record' := by
      rw [show record.id = record'.id from Table.key_of_find? hfind]
      exact Table.find?_of_mem hrecord'
    have hgoneBefore : record'.order.holdId = record.order.holdId →
        (∀ holdId, label ≠ .holdLeft holdId) → db.HoldGone record.order := by
      intro hcurrent hstays hold hhold
      obtain ⟨hold', hfound, hleft⟩ := hm.hold_find hhold
      cases hleft with
      | same => exact hgone hold (hcurrent ▸ hfound)
      | left _ _ _ hlabel => exact absurd hlabel (hstays _)
    obtain ⟨hbefore, hpending | ⟨hcurrent, hsame⟩⟩ := hstep.stillWaits hunpaid
    · exact hpending
    by_cases hleft : ∃ holdId, label = .holdLeft holdId
    · obtain ⟨holdId, rfl⟩ := hleft
      obtain ⟨hstate, hintent⟩ := hsame.resolve_left (by simp)
      by_cases hactive : db.HoldGone record.order
      · obtain ⟨hpending, hnone⟩ := hswept record hmem hbefore hactive
        exact ⟨hstate.trans hpending, hintent.trans hnone⟩
      · simp only [Db.HoldGone, not_forall, not_not] at hactive
        obtain ⟨hold, hhold, hstill⟩ := hactive
        obtain ⟨hold', hfound, hstep⟩ := hm.hold_find hhold
        cases hstep with
        | same => exact absurd hstill (hgone hold (hcurrent ▸ hfound))
        | left _ state _ hlabel =>
            exact Movement.returned_pending hc (hlabel ▸ hm) hrecord hhold hfind' hunpaid
    · have hactive := hgoneBefore hcurrent fun holdId hlabel => hleft ⟨holdId, hlabel⟩
      rcases hsame with hwaiting | ⟨hstate, hintent⟩
      · exact absurd hactive (hheld record.id hwaiting record hrecord hbefore)
      · obtain ⟨hpending, hnone⟩ := hswept record hmem hbefore hactive
        exact ⟨hstate.trans hpending, hintent.trans hnone⟩
  · exact ⟨rfl, rfl⟩

end Steps

/-! ## One pass -/

section Pass

variable {db : Db} {now : Instant} {batch : ℕ} {locked : List Uuid} {record : OrderRecord}

/-- What the pass makes of one order's record. -/
def Db.sweptRecord (db : Db) (now : Instant) (batch : ℕ) (locked : List Uuid) (placed : OrderRecord) :
    OrderRecord :=
  let alone := if db.isPendingWithoutHold placed now && placed.id ∉ locked then
    { placed with order := sweptOrder placed.order } else placed
  if alone.id ∈ (db.dueHolds now batch locked).map (fun row => row.order.id) &&
      alone.order.state ∈ orderStatesAwaitingPayment then
    Db.sweptWithHold alone now
  else alone

theorem expireDueHolds_tables (db : Db) (now : Instant) (batch : ℕ) (locked : List Uuid) :
    (expireDueHolds db now batch locked).1.orders =
        ((db.failPendingOrdersWithoutHold now locked).failOrders
          ((db.dueHolds now batch locked).map fun row => row.order.id) now).orders ∧
      (expireDueHolds db now batch locked).1.holds =
        (db.expireHolds ((db.dueHolds now batch locked).map fun row => row.hold.id)).holds := by
  obtain ⟨sales, hfold, -⟩ := foldl_returnHeldSeats now (seatsByDate (db.dueHolds now batch locked))
    (((db.failPendingOrdersWithoutHold now locked).expireHolds
      ((db.dueHolds now batch locked).map fun row => row.hold.id)).failOrders
      ((db.dueHolds now batch locked).map fun row => row.order.id) now)
  have hdb := congrArg Db.orders hfold
  have hholds := congrArg Db.holds hfold
  exact ⟨hdb, hholds⟩

theorem expireDueHolds_find (id : Uuid) :
    (expireDueHolds db now batch locked).1.orders.find? id =
      (db.orders.find? id).map (db.sweptRecord now batch locked) := by
  rw [(expireDueHolds_tables db now batch locked).1]
  unfold Db.failOrders Db.failPendingOrdersWithoutHold
  simp only
  rw [Table.find?_update, Table.find?_update, Option.map_map]
  rfl

theorem sweptRecord_id (placed : OrderRecord) :
    (db.sweptRecord now batch locked placed).id = placed.id := by
  unfold Db.sweptRecord
  simp only
  split_ifs <;> rfl

/-- The pass leaves an order as it was, or fails it. -/
theorem sweptRecord_cases (db : Db) (now : Instant) (batch : ℕ) (locked : List Uuid)
    (placed : OrderRecord) : db.sweptRecord now batch locked placed = placed ∨
      (db.sweptRecord now batch locked placed).order.state = .failed := by
  unfold Db.sweptRecord
  simp only
  split_ifs
  · exact .inr rfl
  · exact .inr rfl
  · exact .inr rfl
  · exact .inl rfl

/-- An order whose hold went back, and that is not pending with no intent, falls between the two
queries: no pass ever fails it. -/
theorem sweptRecord_between (hrecord : record ∈ db.orders.rows) (hgone : db.HoldGone record.order)
    (hbetween : ¬ (record.order.state = .pending ∧ record.order.intent = none)) :
    db.sweptRecord now batch locked record = record := by
  have halone : db.isPendingWithoutHold record now = false := by
    rw [← Bool.not_eq_true]
    intro hchosen
    simp only [Db.isPendingWithoutHold, Bool.and_eq_true, decide_eq_true_eq,
      Option.isNone_iff_eq_none] at hchosen
    exact hbetween hchosen.1.1
  have hdue : record.id ∉ (db.dueHolds now batch locked).map fun row => row.order.id := by
    intro hmem
    obtain ⟨row, hrow, hid⟩ := List.mem_map.mp hmem
    obtain ⟨hhold, hactive, -, horder, hon⟩ := mem_dueHolds hrow
    have hsame : row.order = record := Table.eq_of_mem horder hrecord hid
    rw [hsame] at hon
    exact hgone row.hold (hon ▸ Table.find?_of_mem hhold) hactive
  unfold Db.sweptRecord
  simp only [halone, Bool.false_and, Bool.false_eq_true, if_false, hdue, decide_false]

/-- No batch finds more due holds than there are orders. -/
theorem dueHolds_length_le (db : Db) (now : Instant) (batch : ℕ) (locked : List Uuid) :
    (db.dueHolds now batch locked).length ≤ db.orders.rows.length := by
  have hsubset : ((db.dueHolds now batch locked).map fun row => row.order.id) ⊆
      db.orders.rows.map OrderRecord.id := by
    intro id hid
    obtain ⟨row, hrow, rfl⟩ := List.mem_map.mp hid
    exact List.mem_map_of_mem (mem_dueHolds hrow).2.2.2.1
  have hlength := ((dueHolds_orders_nodup db now batch locked).subperm hsubset).length_le
  rw [List.length_map, List.length_map] at hlength
  exact hlength

/-- A pass no batch limits finds every due hold that no other transaction has locked. -/
theorem mem_dueHolds_of (hbatch : ∀ n, (db.dueHolds now n []).length ≤ batch)
    {hold : SeatHoldSnapshot} (hhold : hold ∈ db.holds.rows) (hactive : hold.state = .active)
    (hexpired : hold.expiresAt ≤ now) (hrecord : record ∈ db.orders.rows)
    (hon : record.order.holdId = hold.id) : ⟨hold, record⟩ ∈ db.dueHolds now batch [] := by
  obtain ⟨due, hdue, hmem⟩ : ∃ due : List DueHold, (∀ n, db.dueHolds now n [] = due.take n) ∧
      (⟨hold, record⟩ : DueHold) ∈ due := by
    refine ⟨_, fun n => rfl, List.mem_filter.mpr ⟨List.mem_flatMap.mpr ⟨hold, ?_, ?_⟩, ?_⟩⟩
    · rw [List.mem_mergeSort, List.mem_filter, Db.isDue, Bool.and_eq_true, decide_eq_true_eq,
        decide_eq_true_eq]
      exact ⟨hhold, hactive, hexpired⟩
    · refine List.mem_map.mpr ⟨record, List.mem_filter.mpr ⟨hrecord, ?_⟩, rfl⟩
      exact decide_eq_true hon
    · simp
  have hlength := hbatch due.length
  rw [hdue, List.take_length] at hlength
  rw [hdue, List.take_of_length_le hlength]
  exact hmem

/-- A hold that is not active, or that is due, is not active once the pass is made. -/
theorem expireDueHolds_hold {hold : SeatHoldSnapshot} {id : Uuid} (hhold : db.holds.find? id = some hold)
    (hleft : hold.state ≠ .active ∨
      hold.id ∈ (db.dueHolds now batch locked).map fun row => row.hold.id) :
    ∃ hold', (expireDueHolds db now batch locked).1.holds.find? id = some hold' ∧
      hold'.state ≠ .active := by
  rw [(expireDueHolds_tables db now batch locked).2]
  unfold Db.expireHolds
  simp only
  rw [Table.find?_update, hhold, Option.map_some]
  refine ⟨_, rfl, ?_⟩
  split_ifs with hdue
  · simp
  · exact hleft.resolve_right hdue

/-- What the pass leaves of an order it fails. -/
structure FailedAtExpiry (db : Db) (record : OrderRecord) : Prop where
  failed : record.order.state = .failed
  holdLeft : ∃ hold, db.holds.find? record.order.holdId = some hold ∧ hold.state ≠ .active
  cancelOwed : record.order.intent.isSome → record.order.intentCancelOwedAt.isSome

/-- An unpaid order within the pass's reach, past its expiry, fails in it. -/
theorem expireDueHolds_fails (hc : Consistent db) (hbatch : ∀ n, (db.dueHolds now n []).length ≤ batch)
    (hrecord : record ∈ db.orders.rows) (hswept : db.Swept record.order)
    (hunpaid : record.order.Unpaid) (hexpired : record.order.expiresAt ≤ now) :
    FailedAtExpiry (expireDueHolds db now batch []).1 (db.sweptRecord now batch [] record) := by
  obtain ⟨hold, hfind, hon⟩ := hc.current record hrecord
  have hhold := Table.mem_of_find? hfind
  by_cases hactive : hold.state = .active
  · have hdue := mem_dueHolds_of hbatch hhold hactive (hon.expiresAt ▸ hexpired) hrecord hon.holdId
    have halone : db.isPendingWithoutHold record now = false := by
      simp [Db.isPendingWithoutHold, hfind, hactive]
    have hfailed : db.sweptRecord now batch [] record = Db.sweptWithHold record now := by
      have horder : record.id ∈ (db.dueHolds now batch []).map fun row => row.order.id :=
        List.mem_map.mpr ⟨_, hdue, rfl⟩
      have hwaits : record.order.state ∈ orderStatesAwaitingPayment := hunpaid.1
      unfold Db.sweptRecord
      simp only [halone, Bool.false_and, Bool.false_eq_true, if_false, horder, hwaits, decide_true,
        Bool.and_self, if_true]
    rw [hfailed]
    refine ⟨rfl, ?_, fun hintent => ?_⟩
    · exact expireDueHolds_hold hfind (.inr (List.mem_map.mpr ⟨_, hdue, rfl⟩))
    · have hsome : record.order.intent.isSome := hintent
      show (record.order.intent.map fun _ => now).isSome
      rw [Option.isSome_map]
      exact hsome
  · have hgone : db.HoldGone record.order := by
      intro found hfound
      cases hfind.symm.trans hfound
      exact hactive
    obtain ⟨hpending, hnone⟩ := hswept hunpaid hgone
    have halone : db.isPendingWithoutHold record now = true := by
      simp [Db.isPendingWithoutHold, hfind, hactive, hpending, hnone, hexpired]
    have hfailed : db.sweptRecord now batch [] record =
        { record with order := sweptOrder record.order } := by
      have hstate : (sweptOrder record.order).state ∉ orderStatesAwaitingPayment := by
        show OrderState.failed ∉ orderStatesAwaitingPayment
        decide
      unfold Db.sweptRecord
      simp only [halone, List.not_mem_nil, not_false_eq_true, decide_true, Bool.and_self, if_true,
        hstate, decide_false, Bool.and_false, Bool.false_eq_true, if_false]
    rw [hfailed]
    refine ⟨rfl, expireDueHolds_hold hfind (.inl hactive), fun hintent => ?_⟩
    have hsome : record.order.intent.isSome := hintent
    rw [hnone] at hsome
    cases hsome

end Pass

/-! ## Runs -/

section Runs

variable [OrderRules] [LawfulOrderRules] {db db' : Db}

theorem Db.Moved.swept (hm : Db.Moved HeldWhenWaiting db db') (hc : Consistent db)
    (h : ∀ record ∈ db.orders.rows, db.Swept record.order) :
    ∀ record ∈ db'.orders.rows, db'.Swept record.order := by
  have hrun : Consistent db' ∧ ∀ record ∈ db'.orders.rows, db'.Swept record.order := by
    apply hm.invariant
      (P := fun mid => Consistent mid ∧ ∀ record ∈ mid.orders.rows, mid.Swept record.order)
    · exact ⟨hc, h⟩
    · rintro mid label mid' ⟨hc, h⟩ hheld hmove
      exact ⟨hmove.consistent hc, fun record' hrecord' => hmove.swept hc hheld h hrecord'⟩
  exact hrun.2

variable [SalesRules] [LawfulSalesRules] {w : World} (publicWebOrigin : String)

theorem World.Sound.swept (hs : w.Sound) (transactions : List Transaction)
    (hheld : Admitted World.HeldWhenWaiting (World.advance publicWebOrigin) w transactions)
    (h : ∀ record ∈ w.db.orders.rows, w.db.Swept record.order) :
    ∀ record ∈ (transactions.foldl (World.advance publicWebOrigin) w).db.orders.rows,
      (transactions.foldl (World.advance publicWebOrigin) w).db.Swept record.order := by
  induction transactions generalizing w with
  | nil => exact h
  | cons transaction transactions ih =>
      obtain ⟨hfirst, hrest⟩ := hheld
      refine ih (hs.advance transaction) hrest ?_
      have hmoved : Db.Moved Ticketing.HeldWhenWaiting w.db
          (w.advance publicWebOrigin transaction).db := by
        unfold World.advance
        split
        · rename_i after hperform
          refine Transaction.perform_guarded hs hperform ?_ ?_
          · exact fun mid label hnever orderId hlabel => absurd hlabel (hnever orderId)
          · rintro orderId hrecords id hlabel
            cases hlabel
            exact hfirst orderId hrecords
        · exact .refl
        · exact .refl
      exact hmoved.swept hs.consistent h

/-- While waiting intents are recorded of unpaid orders with active holds alone, a pass that its
batch does not limit and that finds no row locked leaves no unpaid order past its expiry: each
failed, its hold is no longer active, and the cancellation of its intent is owed. -/
theorem sweep_leaves_none_waiting (transactions : List Transaction)
    (hheld : Admitted World.HeldWhenWaiting (World.advance publicWebOrigin) .empty transactions)
    (now : Instant) (batch : ℕ)
    (hbatch : ∀ n, ((World.reached publicWebOrigin transactions).db.dueHolds now n []).length ≤ batch) :
    (∀ record ∈ (expireDueHolds (World.reached publicWebOrigin transactions).db now batch
        []).1.orders.rows, record.order.Unpaid → now < record.order.expiresAt) ∧
      ∀ record ∈ (World.reached publicWebOrigin transactions).db.orders.rows, record.order.Unpaid →
        record.order.expiresAt ≤ now → ∃ record',
          (expireDueHolds (World.reached publicWebOrigin transactions).db now batch
            []).1.orders.find? record.id = some record' ∧
          FailedAtExpiry (expireDueHolds (World.reached publicWebOrigin transactions).db now batch
            []).1 record' := by
  have hc := (World.sound_reached publicWebOrigin transactions).consistent
  have hswept := World.sound_empty.swept publicWebOrigin transactions hheld
    fun record hnone => by cases hnone
  have hfails := fun record hrecord => expireDueHolds_fails hc hbatch hrecord (hswept record hrecord)
  refine ⟨fun record' hrecord' hunpaid => ?_, fun record hrecord hunpaid hexpired => ?_⟩
  · have hfind' := Table.find?_of_mem hrecord'
    rw [expireDueHolds_find] at hfind'
    obtain ⟨record, hrecord, rfl⟩ := Option.map_eq_some_iff.mp hfind'
    have hmem := Table.mem_of_find? hrecord
    rcases sweptRecord_cases (World.reached publicWebOrigin transactions).db now batch [] record with
      hsame | hfailed
    · rw [hsame] at hunpaid ⊢
      by_contra hexpired
      have hfailed := (hfails record hmem hunpaid (not_lt.mp hexpired)).failed
      rw [hsame] at hfailed
      exact hunpaid.1.ne_failed hfailed
    · exact absurd hfailed hunpaid.1.ne_failed
  · refine ⟨_, ?_, hfails record hrecord hunpaid hexpired⟩
    rw [expireDueHolds_find, Table.find?_of_mem hrecord]
    rfl

end Runs

section Sample

open Sample

theorem unpaid_of_awaitingAction {s : SeatOrderSnapshot} (hstate : s.state = .awaitingAction)
    (hrefunds : s.refunds = []) : s.Unpaid := by
  refine ⟨?_, hrefunds⟩
  unfold SeatOrderSnapshot.AwaitsPayment
  rw [hstate]
  decide

/-- The provider does not answer and the hold goes back; the bank then asks for the buyer, by its
webhook. -/
def sampleBetween : List Transaction :=
  samplePlaced ++ [.releaseHold 51 150, sampleEvent .intentRequiresAction 160]

/-- The bank asks for the buyer while the hold is active. -/
def sampleAsked : List Transaction := samplePlaced ++ [sampleEvent .intentRequiresAction 160]

/-- The order waits for its payment, past its expiry, and the pass does not see it. -/
theorem sweep_leaves_one_waiting :
    ¬ ∀ (transactions : List Transaction) (now : Instant) (batch : ℕ),
      (∀ n, ((World.reached "https://arthome.example" transactions).db.dueHolds now n []).length ≤
        batch) →
      ∀ record ∈ (expireDueHolds (World.reached "https://arthome.example" transactions).db now batch
        []).1.orders.rows, record.order.Unpaid → now < record.order.expiresAt := by
  intro hall
  have hbetween : (World.reached "https://arthome.example" sampleBetween).db.orders.rows.any
      (fun record => record.order.state = .awaitingAction && record.order.refunds.isEmpty &&
        record.order.expiresAt ≤ 10000000 &&
        ((World.reached "https://arthome.example" sampleBetween).db.holds.find?
          record.order.holdId).all fun hold => hold.state ≠ .active) = true := by
    decide +kernel
  obtain ⟨record, hrecord, hfields⟩ := List.any_eq_true.mp hbetween
  simp only [Bool.and_eq_true, decide_eq_true_eq, List.isEmpty_iff, Option.all_eq_true] at hfields
  obtain ⟨⟨⟨hstate, hrefunds⟩, hexpired⟩, hgone⟩ := hfields
  have hunpaid : record.order.Unpaid := unpaid_of_awaitingAction hstate hrefunds
  refine absurd hexpired (not_le.mpr (hall sampleBetween 10000000 _
    (fun n => dueHolds_length_le _ _ n _) record ?_ hunpaid))
  have hkept : (expireDueHolds (World.reached "https://arthome.example" sampleBetween).db 10000000
      (World.reached "https://arthome.example" sampleBetween).db.orders.rows.length []).1.orders.find?
        record.id = some record := by
    rw [expireDueHolds_find, Table.find?_of_mem hrecord, Option.map_some,
      sweptRecord_between hrecord hgone fun hpending => by
        rw [hstate] at hpending
        cases hpending.1]
  exact Table.mem_of_find? hkept

/-- Asked while its hold is active, the order fails at its expiry and its intent's cancellation is
owed. -/
theorem sweep_leaves_none_waiting_sample :
    ∃ record', (expireDueHolds (World.reached "https://arthome.example" sampleAsked).db 10000000 5
        []).1.orders.find? 51 = some record' ∧
      FailedAtExpiry (expireDueHolds (World.reached "https://arthome.example" sampleAsked).db 10000000
        5 []).1 record' := by
  have hheld : Admitted World.HeldWhenWaiting (World.advance "https://arthome.example") .empty
      sampleAsked := by
    refine ⟨fun _ h => h.elim, fun _ h => h.elim, fun _ h => h.elim, fun _ h => h.elim,
      fun _ h => h.elim, fun _ h => h.elim, fun orderId h record hrecord _ hgone => ?_, trivial⟩
    obtain rfl : 51 = orderId := Option.some.inj h.1
    have hactive : ((World.reached "https://arthome.example" samplePlaced).db.orders.find? 51).all
        (fun record => ((World.reached "https://arthome.example" samplePlaced).db.holds.find?
          record.order.holdId).any fun hold => hold.state = .active) = true := by decide +kernel
    have hfind : (World.reached "https://arthome.example" samplePlaced).db.orders.find? 51 =
        some record := hrecord
    rw [hfind, Option.all_some, Option.any_eq_true] at hactive
    obtain ⟨hold, hhold, hstate⟩ := hactive
    exact hgone hold hhold (of_decide_eq_true hstate)
  have hseen : ((World.reached "https://arthome.example" sampleAsked).db.orders.find? 51).any
      (fun record => record.order.state = .awaitingAction && record.order.refunds.isEmpty &&
        record.order.expiresAt ≤ 10000000) = true := by decide +kernel
  obtain ⟨record, hfind, hfields⟩ := (Option.any_eq_true _ _).mp hseen
  simp only [Bool.and_eq_true, decide_eq_true_eq, List.isEmpty_iff] at hfields
  obtain ⟨⟨hstate, hrefunds⟩, hexpired⟩ := hfields
  have hunpaid : record.order.Unpaid := unpaid_of_awaitingAction hstate hrefunds
  have hbatch : ∀ n, ((World.reached "https://arthome.example" sampleAsked).db.dueHolds 10000000 n
      []).length ≤ 5 := by
    have horders : (World.reached "https://arthome.example" sampleAsked).db.orders.rows.length ≤ 5 := by
      decide +kernel
    exact fun n => (dueHolds_length_le _ _ n _).trans horders
  have hswept := (sweep_leaves_none_waiting "https://arthome.example" sampleAsked hheld 10000000 5
    hbatch).2 record (Table.mem_of_find? hfind) hunpaid hexpired
  rw [Table.key_of_find? hfind] at hswept
  exact hswept

end Sample

end Arthome.Ticketing
