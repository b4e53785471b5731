import Arthome.Ticketing.PurchaseMovements
import Mathlib.Data.List.Dedup

/-!
# The movements of an expiry pass

A pass is written as statements over many rows. It is the same as each row swept by
itself: the orders without a hold failed one by one, then each due hold returned with
its order. The seats summed by date and given back at once are those given back hold
by hold.
-/

namespace Arthome.Ticketing

open Arthome.Core Library

variable [OrderRules] {db db' : Db} {record : OrderRecord}

/-- Orders rewritten by one statement, each by a movement of its own. -/
theorem Db.orders_updated {ok : Db → Label → Prop} (chosen : OrderRecord → Bool)
    (f : OrderRecord → OrderRecord) (hf : ∀ r, (f r).id = r.id)
    (hstep : ∀ orders r, r ∈ db.orders.rows → chosen r = true → orders.find? r.id = some r →
      ∃ label, ok { db with orders } label ∧
        Movement { db with orders } label ({ db with orders }.putOrder (f r))) :
    Db.Moved ok db { db with
      orders := db.orders.update (fun r => if chosen r = true then f r else r) fun r => by
        split_ifs
        · exact hf r
        · rfl } := by
  have hrun : ∀ (items : List OrderRecord) (orders : Table OrderRecord.id),
      (items.map OrderRecord.id).Nodup →
      (∀ r ∈ items, r ∈ db.orders.rows ∧ chosen r = true ∧ orders.find? r.id = some r) →
      Db.Moved ok { db with orders }
        { db with orders := orders.updateEach items OrderRecord.id (fun _ r => f r) fun _ => hf } := by
    intro items
    induction items with
    | nil => exact fun orders _ _ => .refl
    | cons r items ih =>
        intro orders hnodup hitems
        rw [List.map_cons, List.nodup_cons] at hnodup
        obtain ⟨hmem, hchosen, hfind⟩ := hitems r (List.mem_cons_self ..)
        obtain ⟨label, hok, hmove⟩ := hstep orders r hmem hchosen hfind
        have hcons : orders.updateEach (r :: items) OrderRecord.id (fun _ r => f r) (fun _ => hf) =
            (orders.put (f r)).updateEach items OrderRecord.id (fun _ r => f r) fun _ => hf := by
          rw [Table.put_eq_update f hf hfind]
          rfl
        rw [hcons]
        refine Moves.trans (.single hok hmove) (ih (orders.put (f r)) hnodup.2 fun s hs => ?_)
        obtain ⟨hsmem, hschosen, hsfind⟩ := hitems s (List.mem_cons_of_mem _ hs)
        refine ⟨hsmem, hschosen, (Table.find?_put_of_ne ?_).trans hsfind⟩
        rw [hf]
        exact fun hid => hnodup.1 (List.mem_map.mpr ⟨s, hs, hid.symm⟩)
  rw [Table.update_eq_updateEach _ _ _ hf]
  refine hrun _ db.orders (db.orders.nodup.sublist (List.filter_sublist.map _)) fun r hr => ?_
  obtain ⟨hmem, hchosen⟩ := List.mem_filter.mp hr
  exact ⟨hmem, hchosen, Table.find?_of_mem hmem⟩

omit [OrderRules] in
theorem sweptOrder_eq (order : SeatOrderSnapshot) :
    sweptOrder order = failedOrder order (order.failure.getD ⟨none, none⟩) := rfl

/-- The orders without a hold, failed one by one. -/
theorem failPendingOrdersWithoutHold_moved (db : Db) (now : Instant) (locked : List Uuid) :
    Db.Moved IsQuiet db (db.failPendingOrdersWithoutHold now locked) := by
  refine Db.orders_updated (fun placed => db.isPendingWithoutHold placed now && placed.id ∉ locked)
    (fun placed => { placed with order := sweptOrder placed.order }) (fun _ => rfl) ?_
  intro orders r hmem hchosen hfind
  simp only [Db.isPendingWithoutHold, Bool.and_eq_true, decide_eq_true_eq] at hchosen
  obtain ⟨⟨⟨⟨hstate, -⟩, -⟩, hleft⟩, -⟩ := hchosen
  have hgone : ({ db with orders } : Db).HoldGone r.order := by
    intro hold hhold
    rw [show db.holds.find? r.order.holdId = some hold from hhold] at hleft
    simpa using hleft
  exact ⟨.quiet, rfl, .stopped hfind hgone (.failed _ (awaits_of_pending hstate))⟩

/-- A due hold and its order, as the rows have them. -/
structure DueHold.Of (db : Db) (row : DueHold) : Prop where
  hold : db.holds.find? row.hold.id = some row.hold
  active : row.hold.state = .active
  order : db.orders.find? row.order.id = some row.order
  placed : row.order.order.holdId = row.hold.id

/-- One due hold, expired with its order and its seats given back. -/
def DueHold.sweep (now : Instant) (db : Db) (row : DueHold) : Db :=
  { db with
    holds := db.holds.update
      (fun hold => if hold.id = row.hold.id then leftHold hold .expired else hold) fun hold => by
        split_ifs
        · rfl
        · rfl
    orders := db.orders.update
      (fun placed => if placed.id = row.order.id then Db.sweptWithHold placed now else placed)
      fun placed => by
        split_ifs
        · rfl
        · rfl
    sales := db.sales.update
      (fun sales => if sales.dateId = row.hold.dateId then
        Db.returned sales row.hold.quantity row.hold.poolSeats now else sales) fun sales => by
        split_ifs
        · rfl
        · rfl }

theorem DueHold.sweep_moved {row : DueHold} (now : Instant) (hc : Consistent db)
    (h : row.Of db) : Movement db (.holdLeft row.hold.id) (row.sweep now db) := by
  obtain ⟨found, hfound, hon⟩ := hc.current row.order (Table.mem_of_find? h.order)
  rw [h.placed, h.hold] at hfound
  cases hfound
  obtain ⟨record, hrecord, -, hunpaid⟩ := hc.active_current (Table.mem_of_find? h.hold) h.active
  rw [hon.originRef, show row.order.order.id = row.order.id from rfl, h.order] at hrecord
  cases hrecord
  obtain ⟨sales, hsales⟩ := Option.isSome_iff_exists.mp
    (hc.dated row.order (Table.mem_of_find? h.order))
  rw [← hon.dateId] at hsales
  have hmove := Movement.returned h.order (h.placed ▸ h.hold) h.active hsales .expired (.inr rfl) now
    (.inr (.swept now hunpaid.1 hunpaid.2))
  have hholds := Table.put_eq_update (fun hold => leftHold hold .expired) (fun _ => rfl) h.hold
  have horders := Table.put_eq_update (fun placed => Db.sweptWithHold placed now) (fun _ => rfl) h.order
  have hrows := Table.put_eq_update
    (fun sales => Db.returned sales row.hold.quantity row.hold.poolSeats now) (fun _ => rfl) hsales
  unfold Db.putSales Db.putOrder Db.putHold at hmove
  simp only [hholds, horders, hrows] at hmove
  exact hmove

omit [OrderRules] in
/-- A due hold and its order are as they were once another one is swept. -/
theorem DueHold.Of.sweep {row other : DueHold} (h : other.Of db) (now : Instant)
    (hhold : other.hold.id ≠ row.hold.id) (horder : other.order.id ≠ row.order.id) :
    other.Of (row.sweep now db) := by
  refine ⟨?_, h.active, ?_, h.placed⟩
  · simp only [DueHold.sweep]
    rw [Table.find?_update, h.hold, Option.map_some, if_neg hhold]
  · simp only [DueHold.sweep]
    rw [Table.find?_update, h.order, Option.map_some, if_neg horder]

/-- Due holds under distinct ids, with distinct orders, swept one after the other. -/
theorem sweep_each_moved [LawfulOrderRules] (now : Instant) {due : List DueHold}
    (hc : Consistent db) (hholds : (due.map fun row => row.hold.id).Nodup)
    (horders : (due.map fun row => row.order.id).Nodup) (hdue : ∀ row ∈ due, row.Of db) :
    Db.Moved (fun _ label => ∃ holdId, label = .holdLeft holdId) db
      (due.foldl (DueHold.sweep now) db) := by
  induction due generalizing db with
  | nil => exact .refl
  | cons row due ih =>
      rw [List.map_cons, List.nodup_cons] at hholds horders
      have hmove := DueHold.sweep_moved now hc (hdue row (List.mem_cons_self ..))
      refine Moves.trans (.single ⟨_, rfl⟩ hmove) ?_
      refine ih (hmove.consistent hc) hholds.2 horders.2 fun other hother => ?_
      have hhold : other.hold.id ≠ row.hold.id := fun heq =>
        hholds.1 (List.mem_map.mpr ⟨other, hother, heq⟩)
      have horder : other.order.id ≠ row.order.id := fun heq =>
        horders.1 (List.mem_map.mpr ⟨other, hother, heq⟩)
      exact (hdue other (List.mem_cons_of_mem _ hother)).sweep now hhold horder

section Pass

omit [OrderRules]

/-- The seats a due hold gives back. -/
def DueHold.held (row : DueHold) : HeldSeats where
  dateId := row.hold.dateId
  quantity := row.hold.quantity
  poolSeats := row.hold.poolSeats

/-- Seats given back to a row, if they are of its date. -/
def HeldSeats.backTo (now : Instant) (sales : DateSalesSnapshot) (seats : HeldSeats) :
    DateSalesSnapshot :=
  if sales.dateId = seats.dateId then Db.returned sales seats.quantity seats.poolSeats now else sales

/-- The sum of a field over the seats of a date. -/
def HeldSeats.sumOn (dateId : Uuid) (field : HeldSeats → ℤ) (seats : List HeldSeats) : ℤ :=
  ((seats.filter fun held => held.dateId = dateId).map field).sum

theorem returned_zero (sales : DateSalesSnapshot) (now : Instant) :
    Db.returned sales 0 0 now = sales := by
  simp [Db.returned]

theorem returned_returned (sales : DateSalesSnapshot) (q₁ p₁ q₂ p₂ : ℤ) (now : Instant) :
    Db.returned (Db.returned sales q₁ p₁ now) q₂ p₂ now =
      Db.returned sales (q₁ + q₂) (p₁ + p₂) now := by
  unfold Db.returned
  simp only
  split_ifs
  · congr 1 <;> ring
  · congr 1 <;> ring

/-- Seats given back one after the other are their sum given back at once. -/
theorem foldl_backTo (now : Instant) (seats : List HeldSeats) (sales : DateSalesSnapshot) :
    seats.foldl (HeldSeats.backTo now) sales = Db.returned sales
      (HeldSeats.sumOn sales.dateId HeldSeats.quantity seats)
      (HeldSeats.sumOn sales.dateId HeldSeats.poolSeats seats) now := by
  induction seats generalizing sales with
  | nil => exact (returned_zero sales now).symm
  | cons held seats ih =>
      rw [List.foldl_cons, ih]
      unfold HeldSeats.backTo HeldSeats.sumOn
      split_ifs with hdate
      · rw [List.filter_cons_of_pos (by simp [hdate]), returned_returned]
        rfl
      · rw [List.filter_cons_of_neg (by simpa using Ne.symm hdate)]

/-- Of distinct dates one at most is a given one. -/
theorem sum_filter_of_nodup {dates : List Uuid} (hnodup : dates.Nodup) (dateId : Uuid)
    (field : Uuid → ℤ) : ((dates.filter fun date => date = dateId).map field).sum =
      if dateId ∈ dates then field dateId else 0 := by
  rw [List.filter_eq, List.map_replicate, List.sum_replicate]
  split_ifs with hmem
  · rw [List.count_eq_one_of_mem hnodup hmem, one_nsmul]
  · rw [List.count_eq_zero_of_not_mem hmem, zero_nsmul]

/-- The due seats of one date, as `seatsByDate` sums them. -/
def DueHold.summed (due : List DueHold) (dateId : Uuid) : HeldSeats :=
  let seats := due.filter fun row => row.hold.dateId = dateId
  { dateId
    quantity := (seats.map fun row => (row.hold.quantity : ℤ)).sum
    poolSeats := (seats.map fun row => row.hold.poolSeats).sum }

/-- The seats summed by date are those of the holds. -/
theorem sumOn_seatsByDate (due : List DueHold) (dateId : Uuid) (field : HeldSeats → ℤ)
    (hfield : field (DueHold.summed due dateId) =
      HeldSeats.sumOn dateId field (due.map DueHold.held)) :
    HeldSeats.sumOn dateId field (seatsByDate due) =
      HeldSeats.sumOn dateId field (due.map DueHold.held) := by
  let dates := (due.map fun row => row.hold.dateId).dedup.mergeSort fun a b => decide (a ≤ b)
  have hnodup : dates.Nodup := (List.mergeSort_perm _ _).nodup_iff.mpr (List.nodup_dedup _)
  have hmem : dateId ∈ dates ↔ ∃ row ∈ due, row.hold.dateId = dateId := by
    simp only [dates, List.mem_mergeSort, List.mem_dedup, List.mem_map]
  have hsum : HeldSeats.sumOn dateId field (seatsByDate due) =
      ((dates.filter fun date => date = dateId).map fun date =>
        field (DueHold.summed due date)).sum := by
    show HeldSeats.sumOn dateId field (dates.map (DueHold.summed due)) = _
    unfold HeldSeats.sumOn
    rw [List.filter_map, List.map_map]
    rfl
  rw [hsum, sum_filter_of_nodup hnodup]
  split_ifs with hdate
  · exact hfield
  · have hnone : (due.map DueHold.held).filter (fun held => held.dateId = dateId) = [] := by
      rw [List.filter_eq_nil_iff]
      intro held hheld
      obtain ⟨row, hrow, rfl⟩ := List.mem_map.mp hheld
      simp only [decide_eq_true_eq]
      exact fun heq => hdate (hmem.mpr ⟨row, hrow, heq⟩)
    unfold HeldSeats.sumOn
    rw [hnone]
    rfl

/-- Seats given back by date are those given back hold by hold. -/
theorem foldl_seatsByDate (now : Instant) (due : List DueHold) (sales : DateSalesSnapshot) :
    (seatsByDate due).foldl (HeldSeats.backTo now) sales =
      due.foldl (fun sales row => HeldSeats.backTo now sales row.held) sales := by
  have hfold : due.foldl (fun sales row => HeldSeats.backTo now sales row.held) sales =
      (due.map DueHold.held).foldl (HeldSeats.backTo now) sales := List.foldl_map.symm
  rw [hfold, foldl_backTo, foldl_backTo, sumOn_seatsByDate, sumOn_seatsByDate]
  · unfold HeldSeats.sumOn DueHold.summed
    rw [List.filter_map, List.map_map]
    rfl
  · unfold HeldSeats.sumOn DueHold.summed
    rw [List.filter_map, List.map_map]
    rfl

theorem mem_dueHolds {now : Instant} {batch : ℕ} {locked : List Uuid} {row : DueHold}
    (h : row ∈ db.dueHolds now batch locked) : row.hold ∈ db.holds.rows ∧ row.hold.state = .active ∧
      row.hold.expiresAt ≤ now ∧ row.order ∈ db.orders.rows ∧
      row.order.order.holdId = row.hold.id := by
  have hjoined := List.mem_of_mem_filter (List.mem_of_mem_take h)
  obtain ⟨hold, hhold, hrow⟩ := List.mem_flatMap.mp hjoined
  obtain ⟨placed, hplaced, rfl⟩ := List.mem_map.mp hrow
  rw [List.mem_mergeSort, List.mem_filter, Db.isDue, Bool.and_eq_true, decide_eq_true_eq,
    decide_eq_true_eq] at hhold
  rw [List.mem_filter, decide_eq_true_eq] at hplaced
  exact ⟨hhold.1, hhold.2.1, hhold.2.2, hplaced.1, hplaced.2⟩

/-- A due order is due once. -/
theorem dueHolds_orders_nodup (db : Db) (now : Instant) (batch : ℕ) (locked : List Uuid) :
    ((db.dueHolds now batch locked).map fun row => row.order.id).Nodup := by
  unfold Db.dueHolds
  refine List.Nodup.sublist (((List.take_sublist _ _).trans List.filter_sublist).map _) ?_
  rw [List.map_flatMap, List.nodup_flatMap]
  refine ⟨fun hold _ => ?_, ?_⟩
  · rw [List.map_map]
    exact db.orders.nodup.sublist (List.filter_sublist.map _)
  · have hdistinct : (((db.holds.rows.filter fun hold => Db.isDue hold now).mergeSort
        fun a b => decide (a.expiresAt ≤ b.expiresAt)).map SeatHoldSnapshot.id).Nodup :=
      ((List.mergeSort_perm _ _).map _).nodup_iff.mpr
        (db.holds.nodup.sublist (List.filter_sublist.map _))
    refine (List.pairwise_map.mp hdistinct).imp fun {a b} hne => ?_
    refine List.disjoint_left.mpr ?_
    intro id ha hb
    obtain ⟨rowA, hrowA, rfl⟩ := List.mem_map.mp ha
    obtain ⟨rowB, hrowB, hid⟩ := List.mem_map.mp hb
    obtain ⟨orderA, horderA, rfl⟩ := List.mem_map.mp hrowA
    obtain ⟨orderB, horderB, rfl⟩ := List.mem_map.mp hrowB
    rw [List.mem_filter, decide_eq_true_eq] at horderA horderB
    have hsame : orderB = orderA := Table.eq_of_mem horderB.1 horderA.1 hid
    rw [hsame, horderA.2] at horderB
    exact hne horderB.2

/-- A due hold is due once: with its one order. -/
theorem dueHolds_holds_nodup (hc : Consistent db) (now : Instant) (batch : ℕ)
    (locked : List Uuid) : ((db.dueHolds now batch locked).map fun row => row.hold.id).Nodup := by
  have horders := dueHolds_orders_nodup db now batch locked
  refine (List.Nodup.of_map _ horders).map_on fun x hx y hy hid => ?_
  obtain ⟨hxhold, -, -, hxorder, hxon⟩ := mem_dueHolds hx
  obtain ⟨hyhold, -, -, hyorder, hyon⟩ := mem_dueHolds hy
  have hhold : x.hold = y.hold := Table.eq_of_mem hxhold hyhold hid
  obtain ⟨h, hfind, hon⟩ := hc.current x.order hxorder
  obtain ⟨h', hfind', hon'⟩ := hc.current y.order hyorder
  rw [hxon, hid, ← hyon, hfind', Option.some.injEq] at hfind
  have horder : x.order = y.order := by
    refine Table.eq_of_mem hxorder hyorder ?_
    show x.order.order.id = y.order.order.id
    rw [← hon.originRef, ← hon'.originRef, hfind]
  cases x
  cases y
  cases hhold
  cases horder
  rfl

theorem returnHeldSeats_update (dateId : Uuid) (quantity poolSeats : ℤ) (now : Instant) :
    db.returnHeldSeats dateId quantity poolSeats now = { db with
      sales := db.sales.update
        (fun sales => if sales.dateId = dateId then Db.returned sales quantity poolSeats now
          else sales) fun sales => by
            split_ifs
            · rfl
            · rfl } := by
  cases hrow : db.sales.find? dateId with
  | none =>
      have hsame : db.sales.rows.map (fun sales => if sales.dateId = dateId then
          Db.returned sales quantity poolSeats now else sales) = db.sales.rows := by
        refine (List.map_congr_left fun sales hsales => if_neg fun hdate => ?_).trans (List.map_id _)
        rw [Table.find?_eq_none_iff] at hrow
        exact hrow (List.mem_map.mpr ⟨sales, hsales, hdate⟩)
      unfold Db.returnHeldSeats Db.updateSales
      rw [hrow]
      exact congrArg (fun sales => ({ db with sales } : Db)) (Table.ext hsame.symm)
  | some row =>
      rw [returnHeldSeats_eq hrow]
      exact congrArg (fun sales => ({ db with sales } : Db))
        (Table.put_eq_update (fun sales => Db.returned sales quantity poolSeats now) (fun _ => rfl) hrow)

/-- The rows of the dates after seats went back to several. -/
theorem foldl_returnHeldSeats (now : Instant) (seats : List HeldSeats) (mid : Db) :
    ∃ sales : Table DateSalesSnapshot.dateId,
      seats.foldl (fun db held => db.returnHeldSeats held.dateId held.quantity held.poolSeats now) mid =
        { mid with sales } ∧
      sales.rows = mid.sales.rows.map fun row => seats.foldl (HeldSeats.backTo now) row := by
  induction seats generalizing mid with
  | nil => exact ⟨mid.sales, rfl, by simp⟩
  | cons held seats ih =>
      obtain ⟨sales, hdb, hrows⟩ := ih (mid.returnHeldSeats held.dateId held.quantity held.poolSeats now)
      rw [returnHeldSeats_update] at hdb hrows
      refine ⟨sales, ?_, ?_⟩
      · rw [List.foldl_cons, returnHeldSeats_update, hdb]
      · rw [hrows, Table.update_rows, List.map_map]
        rfl

/-- The rows after due holds were swept one after the other. -/
theorem foldl_sweep (now : Instant) (due : List DueHold) (mid : Db) :
    ∃ (holds : Table SeatHoldSnapshot.id) (orders : Table OrderRecord.id)
      (sales : Table DateSalesSnapshot.dateId),
      due.foldl (DueHold.sweep now) mid = { mid with holds, orders, sales } ∧
      holds = mid.holds.updateEach due (fun row => row.hold.id)
        (fun _ hold => leftHold hold .expired) (fun _ _ => rfl) ∧
      orders = mid.orders.updateEach due (fun row => row.order.id)
        (fun _ placed => Db.sweptWithHold placed now) (fun _ _ => rfl) ∧
      sales.rows = mid.sales.rows.map fun row =>
        due.foldl (fun sales row => HeldSeats.backTo now sales row.held) row := by
  induction due generalizing mid with
  | nil => exact ⟨mid.holds, mid.orders, mid.sales, rfl, rfl, rfl, by simp⟩
  | cons row due ih =>
      obtain ⟨holds, orders, sales, hdb, hholds, horders, hsales⟩ := ih (row.sweep now mid)
      refine ⟨holds, orders, sales, ?_, hholds, horders, ?_⟩
      · rw [List.foldl_cons, hdb]
        rfl
      · rw [hsales]
        simp only [DueHold.sweep, Table.update_rows, List.map_map]
        rfl

/-- The statements of a pass, on due rows as they are, are the due rows swept one by one. -/
theorem sweep_statements (now : Instant) {due : List DueHold} {mid : Db}
    (hholds : (due.map fun row => row.hold.id).Nodup)
    (horders : (due.map fun row => row.order.id).Nodup) (hdue : ∀ row ∈ due, row.Of mid)
    (hawaits : ∀ row ∈ due, row.order.order.AwaitsPayment) :
    (seatsByDate due).foldl
      (fun db seats => db.returnHeldSeats seats.dateId seats.quantity seats.poolSeats now)
      ((mid.expireHolds (due.map fun row => row.hold.id)).failOrders
        (due.map fun row => row.order.id) now) = due.foldl (DueHold.sweep now) mid := by
  obtain ⟨sales, hleft, hsales⟩ := foldl_returnHeldSeats now (seatsByDate due)
    ((mid.expireHolds (due.map fun row => row.hold.id)).failOrders
      (due.map fun row => row.order.id) now)
  obtain ⟨holds, orders, sales', hright, hholds', horders', hsales'⟩ := foldl_sweep now due mid
  rw [hleft, hright]
  have hsame : sales = sales' := by
    refine Table.ext ?_
    rw [hsales, hsales']
    exact List.map_congr_left fun row _ => foldl_seatsByDate now due row
  have hheld : (mid.expireHolds (due.map fun row => row.hold.id)).holds = holds := by
    refine Table.ext ?_
    rw [hholds']
    refine Eq.trans ?_ (Table.updateEach_rows mid.holds due _ _ _ hholds).symm
    refine List.map_congr_left fun hold _ => ?_
    cases hfind : due.find? fun row => row.hold.id = hold.id with
    | none => exact if_neg (find?_eq_none_iff_not_mem.mp hfind)
    | some row =>
        obtain ⟨hrow, hid⟩ := (find?_eq_some_iff_of_nodup hholds).mp hfind
        exact if_pos (List.mem_map.mpr ⟨row, hrow, hid⟩)
  have hplaced : (mid.failOrders (due.map fun row => row.order.id) now).orders = orders := by
    refine Table.ext ?_
    rw [horders']
    refine Eq.trans ?_ (Table.updateEach_rows mid.orders due _ _ _ horders).symm
    refine List.map_congr_left fun placed hmem => ?_
    cases hfind : due.find? fun row => row.order.id = placed.id with
    | none =>
        refine if_neg fun hchosen => ?_
        simp only [Bool.and_eq_true, decide_eq_true_eq] at hchosen
        exact find?_eq_none_iff_not_mem.mp hfind hchosen.1
    | some row =>
        obtain ⟨hrow, hid⟩ := (find?_eq_some_iff_of_nodup horders).mp hfind
        have hsame : row.order = placed := by
          have horder := (hdue row hrow).order
          rw [hid, Table.find?_of_mem hmem, Option.some.injEq] at horder
          exact horder.symm
        have hwaits := hawaits row hrow
        rw [hsame] at hwaits
        refine if_pos ?_
        simp only [Bool.and_eq_true, decide_eq_true_eq]
        exact ⟨List.mem_map.mpr ⟨row, hrow, hid⟩, hwaits⟩
  rw [← hsame, ← hheld, ← hplaced]
  rfl

end Pass

omit [OrderRules] in
/-- An order without a hold that fails in the pass is on no due hold. -/
theorem dueHolds_of {now : Instant} {batch : ℕ} {locked : List Uuid} {row : DueHold}
    (hrow : row ∈ db.dueHolds now batch locked) :
    row.Of (db.failPendingOrdersWithoutHold now locked) := by
  obtain ⟨hhold, hactive, -, horder, hon⟩ := mem_dueHolds hrow
  refine ⟨Table.find?_of_mem hhold, hactive, ?_, hon⟩
  unfold Db.failPendingOrdersWithoutHold
  simp only
  rw [Table.find?_update, Table.find?_of_mem horder, Option.map_some, if_neg]
  intro hchosen
  simp only [Db.isPendingWithoutHold, hon, Table.find?_of_mem hhold, Option.any_some, hactive,
    ne_eq, not_true_eq_false, decide_false, Bool.and_false, Bool.false_and,
    Bool.false_eq_true] at hchosen

omit [OrderRules] in
/-- The order of a due hold still waits for its payment. -/
theorem dueHolds_unpaid (hc : Consistent db) {now : Instant} {batch : ℕ} {locked : List Uuid}
    {row : DueHold} (hrow : row ∈ db.dueHolds now batch locked) : row.order.order.Unpaid := by
  obtain ⟨hhold, hactive, -, horder, hon⟩ := mem_dueHolds hrow
  obtain ⟨record, hrecord, hcurrent, hwaits⟩ := hc.active_current hhold hactive
  obtain ⟨h, hfind, honHold⟩ := hc.current row.order horder
  rw [hon, Table.find?_of_mem hhold] at hfind
  cases hfind
  rw [honHold.originRef, show row.order.order.id = row.order.id from rfl,
    Table.find?_of_mem horder] at hrecord
  cases hrecord
  exact hwaits

omit [OrderRules] in
/-- A pass's statements: the orders without a hold, then each due hold with its order. -/
theorem expireDueHolds_eq (hc : Consistent db) (now : Instant) (batch : ℕ) (locked : List Uuid) :
    (expireDueHolds db now batch locked).1 = (db.dueHolds now batch locked).foldl
      (DueHold.sweep now) (db.failPendingOrdersWithoutHold now locked) :=
  sweep_statements now (dueHolds_holds_nodup hc now batch locked)
    (dueHolds_orders_nodup db now batch locked) (fun _ hrow => dueHolds_of hrow)
    fun _ hrow => (dueHolds_unpaid hc hrow).1

/-- A pass: the orders without a hold, then each due hold with its order. -/
theorem expireDueHolds_moved [LawfulOrderRules] (hc : Consistent db) (now : Instant) (batch : ℕ)
    (locked : List Uuid) :
    Db.Moved (fun _ label => label = .quiet ∨ ∃ holdId, label = .holdLeft holdId) db
      (expireDueHolds db now batch locked).1 := by
  have hfirst := failPendingOrdersWithoutHold_moved db now locked
  have hmid : Consistent (db.failPendingOrdersWithoutHold now locked) :=
    hfirst.invariant hc fun v label w hv _ hmove => hmove.consistent hv
  have hsweep := sweep_each_moved now hmid (dueHolds_holds_nodup hc now batch locked)
    (dueHolds_orders_nodup db now batch locked) fun _ hrow => dueHolds_of hrow
  rw [expireDueHolds_eq hc]
  exact Moves.trans (hfirst.mono fun _ _ hquiet => .inl hquiet)
    (hsweep.mono fun _ _ hleft => .inr hleft)

end Arthome.Ticketing
