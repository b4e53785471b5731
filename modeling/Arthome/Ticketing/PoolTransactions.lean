import Arthome.Ticketing.PoolReturnRuns

/-!
# The transactions of a hold, as writes on a pool

A purchase placed, a hold given back by the provider's silence or by a failed payment and a sweeper's
pass are runs of the writes the pools' results are about.
-/

namespace Arthome.Ticketing

open Arthome.Core Library

/-- The rows reached by writes on the pools, none refused. -/
def PoolRuns [SalesRules] (db db' : Db) : Prop :=
  ∃ actions : List PoolAction, actions.foldlM PoolAction.perform db = .ok db'

section Runs

variable [SalesRules] {db mid db' : Db} {now : Instant}

theorem PoolRuns.refl (db : Db) : PoolRuns db db := ⟨[], rfl⟩

theorem PoolRuns.single {action : PoolAction} (h : action.perform db = .ok db') :
    PoolRuns db db' := by
  refine ⟨[action], ?_⟩
  rw [List.foldlM_cons, h]
  rfl

theorem PoolRuns.trans (h : PoolRuns db mid) (h' : PoolRuns mid db') : PoolRuns db db' := by
  obtain ⟨actions, hactions⟩ := h
  obtain ⟨actions', hactions'⟩ := h'
  refine ⟨actions ++ actions', ?_⟩
  rw [List.foldlM_append, hactions]
  exact hactions'

/-- Orders written beside the pools. -/
theorem PoolRuns.orders (db : Db) (orders : Table OrderRecord.id) : PoolRuns db { db with orders } :=
  have hperform : (PoolAction.records orders db.settlements db.credits).perform db =
      .ok { db with orders } := rfl
  .single hperform

theorem PoolRuns.released {holdId : Uuid} {hold : SeatHoldSnapshot}
    (hhold : db.holds.find? holdId = some hold) (hactive : hold.state = .active) (now : Instant) :
    PoolRuns db ((db.putHold (leftHold hold .released)).returnHeldSeats hold.dateId hold.quantity
      hold.poolSeats now) := by
  have hperform : (PoolAction.releaseHold holdId now).perform db =
      .ok ((db.putHold (leftHold hold .released)).returnHeldSeats hold.dateId hold.quantity
        hold.poolSeats now) := by
    show (db.leaveHold holdId (fun hold => SeatHold.leave hold .released) >>= _) = _
    rw [Db.leaveHold_active hhold hactive]
    rfl
  exact .single hperform

/-- The provider did not answer: the hold released, or nothing. -/
theorem releaseHoldOf_runs {orderId : Uuid} (h : releaseHoldOf db orderId now = .ok db') :
    PoolRuns db db' := by
  unfold releaseHoldOf at h
  simp only [bind_ok_iff] at h
  obtain ⟨order, -, h⟩ := h
  split_ifs at h
  · exact pure_ok_iff.mp h ▸ .refl db
  · split at h
    · exact pure_ok_iff.mp h ▸ .refl db
    · rename_i hold hfilter
      obtain ⟨hhold, hactive⟩ := filter_active_some hfilter
      simp only [bind_ok_iff, pure_ok_iff] at h
      obtain ⟨left, hleave, saved, hsave, rfl⟩ := h
      obtain ⟨-, rfl⟩ := saveHold_left hhold hleave hsave
      obtain ⟨-, rfl⟩ := SeatHold.leave_ok hleave
      exact .released hhold hactive now

/-- A failed payment: the hold released, or nothing. -/
theorem failUnpaidOrder_runs {order : SeatOrder} {failure : OrderFailure}
    {r : Db × SeatOrder × Option PendingCounterMove}
    (h : failUnpaidOrder db order failure now = .ok r) : PoolRuns db (runPending r.1 r.2.2) := by
  unfold failUnpaidOrder at h
  simp only [bind_ok_iff] at h
  obtain ⟨⟨failing, failed⟩, -, h⟩ := h
  split_ifs at h
  · split at h
    · rename_i hold hfilter
      obtain ⟨hhold, hactive⟩ := filter_active_some hfilter
      simp only [bind_ok_iff, pure_ok_iff] at h
      obtain ⟨left, hleave, saved, hsave, rfl⟩ := h
      obtain ⟨-, rfl⟩ := saveHold_left hhold hleave hsave
      obtain ⟨-, rfl⟩ := SeatHold.leave_ok hleave
      exact .released hhold hactive now
    · exact pure_ok_iff.mp h ▸ .refl db
  · exact pure_ok_iff.mp h ▸ .refl db

/-- A hold inserted and its seats taken, by a statement of the rows in between. -/
theorem PoolRuns.held [LawfulSalesRules] {placement : SeatHoldPlacement} {hold : SeatHoldSnapshot}
    {fromPool : Bool} (hplace : SeatHold.place placement = .ok hold)
    (hinsert : db.insertHold hold = .ok mid)
    (htake : takeStatement fromPool placement.dateId placement.id placement.quantity now mid =
      some db') : PoolRuns db db' := by
  have hperform : (PoolAction.placeHold placement fromPool now).perform db = .ok db' := by
    simp only [PoolAction.perform, bind_ok_iff, orRefuse_ok_iff]
    refine ⟨hold, hplace, mid, hinsert, ?_⟩
    obtain ⟨rfl, -⟩ := SeatHold.place_ok hplace
    exact htake
  exact .single hperform

variable [LawfulSalesRules]

/-- A purchase placed: its order, then its hold. -/
theorem placeIn_runs {origin : String} {seen : Unlocked} {command : PurchaseSeat}
    {draw : PlacementDraw} {orderId : Uuid} {request : PaymentIntentRequest}
    (h : placeIn origin db seen command now draw = .ok (db', .placed orderId request)) :
    PoolRuns db db' := by
  obtain ⟨body, buyer, idempotency, acknowledged⟩ := command
  unfold placeIn at h
  simp only at h
  split at h
  · simp only [bind_ok_iff, refusing_ok_iff, require_ok_iff, pure_ok_iff] at h
    obtain ⟨-, -, hbound⟩ := h
    cases hbound
  · simp only [bind_ok_iff, refusing_ok_iff, orRefuse_ok_iff] at h
    obtain ⟨sales, -, -, -, h⟩ := h
    split at h
    · cases h
    · simp only [bind_ok_iff, refusing_ok_iff, orRefuse_ok_iff, require_ok_iff, pure_ok_iff] at h
      obtain ⟨quoted, -, quote, -, -, -, hold, hplace, -, -, db₁, ⟨placed, horder, hplaced⟩,
        db₂, hinsert, db₃, htake, hsame⟩ := h
      obtain ⟨rfl, -⟩ := Prod.mk.inj hsame
      subst hplaced
      obtain ⟨-, -, -, orders, -, rfl⟩ := placeOrder_ok horder
      exact (PoolRuns.orders db orders).trans (.held hplace hinsert htake)

/-- A hold renewed: the new hold inserted, the order moved to it, the seats taken last. -/
theorem renewHoldIn_runs {seen : Unlocked} {order renewed : SeatOrder}
    {sales : Option DateSalesSnapshot} {holdId : Uuid} {takeSeats : Db → Option Db} {saved : Db}
    (h : renewHoldIn db seen order sales now holdId = .ok (mid, renewed, some takeSeats))
    (hsave : mid.saveOrder renewed = .ok saved) (htake : takeSeats saved = some db') :
    PoolRuns db db' := by
  unfold renewHoldIn at h
  simp only at h
  split at h
  · simp only [bind_ok_iff, pure_ok_iff] at h
    obtain ⟨_, -, hnone⟩ := h
    cases hnone
  · simp only [bind_ok_iff, pure_ok_iff] at h
    obtain ⟨-, -, hold, hplace, db₁, hinsert, ⟨order₁, u⟩, -, hsame⟩ := h
    obtain ⟨rfl, hrest⟩ := Prod.mk.inj hsame
    obtain ⟨rfl, htakes⟩ := Prod.mk.inj hrest
    cases htakes
    obtain ⟨record, -, rfl, -⟩ := saveOrder_ok hsave
    obtain ⟨holds, hinserted, rfl⟩ := insertHold_ok hinsert
    let orders := db.orders.put { record with order := order₁.current }
    have hafter : ({ db with orders } : Db).insertHold hold = .ok { db with orders, holds } := by
      unfold Db.insertHold
      simp only [hinserted, orRefuse]
      rfl
    exact (PoolRuns.orders db orders).trans (.held hplace hafter htake)

omit [LawfulSalesRules] in
/-- One due hold: its seats and its row, then its order. -/
theorem DueHold.Of.sweep_runs {row : DueHold} (h : row.Of db) (hdue : row.hold.expiresAt ≤ now) :
    PoolRuns db (row.sweep now db) := by
  have hexpired : (PoolAction.expireHold row.hold.id now).perform db =
      .ok ((db.expireHolds [row.hold.id]).returnHeldSeats row.hold.dateId row.hold.quantity
        row.hold.poolSeats now) := by
    have hisDue : Db.isDue row.hold now = true := by simp [Db.isDue, h.active, hdue]
    simp only [PoolAction.perform, h.hold, orRefuse, require, hisDue, if_true, bind, Except.bind,
      pure, Except.pure]
  have hsweep : row.sweep now db = { (db.expireHolds [row.hold.id]).returnHeldSeats row.hold.dateId
      row.hold.quantity row.hold.poolSeats now with orders := (row.sweep now db).orders } := by
    rw [returnHeldSeats_update]
    unfold DueHold.sweep Db.expireHolds leftHold
    simp only [List.mem_singleton]
  rw [hsweep]
  exact (PoolRuns.single hexpired).trans (.orders _ _)

omit [LawfulSalesRules] in
/-- Due holds under distinct ids, with distinct orders, swept one after the other. -/
theorem sweep_each_runs {due : List DueHold} (hholds : (due.map fun row => row.hold.id).Nodup)
    (horders : (due.map fun row => row.order.id).Nodup) (hrows : ∀ row ∈ due, row.Of db)
    (hdue : ∀ row ∈ due, row.hold.expiresAt ≤ now) :
    PoolRuns db (due.foldl (DueHold.sweep now) db) := by
  induction due generalizing db with
  | nil => exact .refl db
  | cons row due ih =>
      rw [List.map_cons, List.nodup_cons] at hholds horders
      rw [List.forall_mem_cons] at hrows hdue
      refine (hrows.1.sweep_runs hdue.1).trans (ih hholds.2 horders.2 ?_ hdue.2)
      intro other hother
      have hhold : other.hold.id ≠ row.hold.id := fun heq =>
        hholds.1 (List.mem_map.mpr ⟨other, hother, heq⟩)
      have horder : other.order.id ≠ row.order.id := fun heq =>
        horders.1 (List.mem_map.mpr ⟨other, hother, heq⟩)
      exact (hrows.2 other hother).sweep now hhold horder

omit [LawfulSalesRules] in
/-- A sweeper's pass: each due hold expired, whatever else the pass writes. -/
theorem expireDueHolds_runs (hc : Consistent db) (now : Instant) (batch : ℕ) (locked : List Uuid) :
    PoolRuns db (expireDueHolds db now batch locked).1 := by
  rw [expireDueHolds_eq hc]
  refine (PoolRuns.orders db (db.failPendingOrdersWithoutHold now locked).orders).trans ?_
  exact sweep_each_runs (dueHolds_holds_nodup hc now batch locked)
    (dueHolds_orders_nodup db now batch locked) (fun _ hrow => dueHolds_of hrow)
    fun _ hrow => (mem_dueHolds hrow).2.2.1

end Runs

end Arthome.Ticketing
