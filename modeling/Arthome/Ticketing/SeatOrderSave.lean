import Arthome.Ticketing.SeatOrderReload

/-!
# Saving an order loses nothing

The statements of a save, each with what it leaves of the tables when it is
accepted, and the theorem they add up to: an order loaded, moved by any
operations and saved is, loaded again, the order that was saved.
-/

namespace Arthome.Ticketing

open Arthome.Core Library

section Statements

variable {tables tables' : OrderTables}

/-- The rows a multi-row insert adds are among those it was given, in their order. -/
theorem insertOrIgnore_rows (refunds : Table OrderRefundRow.id) (rows : List OrderRefundRow) :
    ∃ inserted, (OrderTables.insertOrIgnore refunds rows).1.rows = refunds.rows ++ inserted ∧
      inserted.Sublist rows ∧
      (OrderTables.insertOrIgnore refunds rows).2 = inserted.map fun row => row.id := by
  induction rows generalizing refunds with
  | nil => exact ⟨[], by simp [OrderTables.insertOrIgnore]⟩
  | cons row rows ih =>
      unfold OrderTables.insertOrIgnore
      split_ifs with hconflict
      · obtain ⟨inserted, hrows, hsub, hids⟩ := ih refunds
        exact ⟨inserted, hrows, hsub.cons row, hids⟩
      · split
        · obtain ⟨inserted, hrows, hsub, hids⟩ := ih refunds
          exact ⟨inserted, hrows, hsub.cons row, hids⟩
        · rename_i table hinsert
          obtain ⟨inserted, hrows, hsub, hids⟩ := ih table
          refine ⟨row :: inserted, ?_, hsub.cons_cons row, by simp [hids]⟩
          simp [hrows, (Table.insert_eq_some hinsert).1]

/-- Accepted, the insert of an order's new refunds adds them all: none can be held already. -/
theorem insertRefunds_rows {orderId : Uuid} {new : List OrderRefund}
    (h : tables.insertRefunds orderId new = .ok tables')
    (hfresh : ∀ held ∈ tables.refunds.rows, held.orderId = orderId →
      held.id ∉ new.map fun r => r.id)
    (hids : (new.map fun r => r.id).Nodup) :
    tables'.orders = tables.orders ∧ tables'.seats = tables.seats ∧
      tables'.credits = tables.credits ∧
      tables'.refunds.rows = tables.refunds.rows ++ new.map (refundRowOf orderId) := by
  unfold OrderTables.insertRefunds at h
  simp only [] at h
  split_ifs at h with hamount hseats
  split at h
  · cases h
  · rename_i hnone
    cases h
    refine ⟨rfl, rfl, rfl, ?_⟩
    set rows := new.map (refundRowOf orderId) with hrowsDef
    have hrowIds : rows.map (fun row => row.id) = new.map fun r => r.id := by
      simp [hrowsDef, Function.comp_def, refundRowOf]
    obtain ⟨inserted, hrows, hsub, hinserted⟩ := insertOrIgnore_rows tables.refunds rows
    have hall : rows.map (fun row => row.id) ⊆ inserted.map fun row => row.id := by
      intro id hid
      obtain ⟨row, hrow, rfl⟩ := List.mem_map.mp hid
      by_contra hnot
      have hsame := List.find?_eq_none.mp hnone row hrow
      rw [hinserted] at hsame
      simp only [hnot, not_false_eq_true, true_and, Bool.not_eq_true, decide_eq_true_eq,
        Bool.not_eq_false] at hsame
      unfold OrderTables.insertRefunds.same at hsame
      split at hsame
      · cases hsame
      · rename_i held hheld
        simp only [Bool.and_eq_true, decide_eq_true_eq] at hsame
        obtain ⟨hmem, hkey⟩ := Table.find?_eq_some_iff.mp hheld
        rw [hrows] at hmem
        rcases List.mem_append.mp hmem with hmem | hmem
        · refine hfresh held hmem hsame.1.1 ?_
          rw [hkey, ← hrowIds]
          exact List.mem_map_of_mem hrow
        · exact hnot (hkey ▸ List.mem_map_of_mem hmem)
    have hlength : rows.length ≤ inserted.length := by
      rw [← hrowIds] at hids
      simpa using (List.subperm_of_subset hids hall).length_le
    rw [hrows, hsub.eq_of_length_le hlength]

theorem insertSeats_rows {new : List SeatRow} (h : tables.insertSeats new = .ok tables') :
    tables'.orders = tables.orders ∧ tables'.refunds = tables.refunds ∧
      tables'.credits = tables.credits ∧
      tables'.seats.rows = tables.seats.rows ++ new := by
  unfold OrderTables.insertSeats at h
  split at h
  · cases h
  · rename_i seats hinsert
    split_ifs at h
    cases h
    exact ⟨rfl, rfl, rfl, (Table.insertAll_eq_some hinsert).1⟩

/-- The version-conditional update finds the version it was loaded at, or refuses. -/
theorem saveVersioned_ok {order : SeatOrderSnapshot} {loadedVersion : ℕ}
    (h : tables.saveVersioned order loadedVersion = .ok tables') :
    ∃ row, tables.orders.find? order.id = some row ∧ row.version = loadedVersion ∧
      tables' = { tables with
        orders := tables.orders.put
          { row with toOrderStateColumns := orderStateColumnsOf order } } := by
  unfold OrderTables.saveVersioned at h
  split at h
  · cases h
  · rename_i row hfind
    split_ifs at h with hversion
    cases h
    exact ⟨row, hfind, hversion, rfl⟩

theorem saveMadeRefunds_ids (stored current : List OrderRefund) :
    (tables.saveMadeRefunds stored current).refunds.rows.map (fun r => r.id) =
      tables.refunds.rows.map fun r => r.id :=
  Table.updateEach_keys _ _ _ OrderTables.writeRefund fun _ _ => rfl

theorem saveMovedSeats_ok {stored current : List SeatSnapshot}
    (h : tables.saveMovedSeats stored current = .ok tables') :
    tables' = { tables with
      seats := tables.seats.updateEach
        (movedFrom stored current (fun seat => seat.id) OrderTables.seatMoved)
        (fun seat => seat.id) OrderTables.writeSeat fun _ _ => rfl } := by
  unfold OrderTables.saveMovedSeats at h
  simp only [] at h
  split_ifs at h
  cases h
  rfl

theorem saveVersioned_accepted {order : SeatOrderSnapshot} {row : SeatOrderRow} {loadedVersion : ℕ}
    (hrow : tables.orders.find? order.id = some row) (hversion : row.version = loadedVersion) :
    tables.saveVersioned order loadedVersion = .ok { tables with
      orders := tables.orders.put { row with toOrderStateColumns := orderStateColumnsOf order } } := by
  unfold OrderTables.saveVersioned
  simp only [hrow, if_pos hversion]

theorem insertSeats_accepted {new : List SeatRow}
    (hids : ((tables.seats.rows ++ new).map SeatRow.id).Nodup)
    (hcodes : (new.map fun row => row.seatCode).Nodup ∧
      ∀ row ∈ new, row.seatCode ∉ tables.seats.rows.map fun held => held.seatCode)
    (haccepted : ∀ row ∈ new, tables.SeatRowAccepted row) :
    ∃ tables', tables.insertSeats new = .ok tables' := by
  refine ⟨{ tables with seats := ⟨tables.seats.rows ++ new, hids⟩ }, ?_⟩
  unfold OrderTables.insertSeats Table.insertAll
  rw [dif_pos hids]
  simp only []
  rw [if_neg (not_not.mpr hcodes), if_pos haccepted]

/-- Rows no index refuses are all inserted. -/
theorem insertOrIgnore_all (refunds : Table OrderRefundRow.id) (rows : List OrderRefundRow)
    (hids : ((refunds.rows ++ rows).map OrderRefundRow.id).Nodup)
    (hfree : ∀ row ∈ rows, ¬ OrderTables.RefundConflicts refunds row)
    (hapart : rows.Pairwise fun a b => ¬ OrderTables.Conflict a b) :
    (OrderTables.insertOrIgnore refunds rows).2 = rows.map fun row => row.id := by
  induction rows generalizing refunds with
  | nil => rfl
  | cons row rows ih =>
      rw [List.forall_mem_cons] at hfree
      rw [List.pairwise_cons] at hapart
      have hone : ((refunds.rows ++ [row]).map OrderRefundRow.id).Nodup := by
        refine hids.sublist (List.Sublist.map _ ?_)
        exact List.Sublist.append_left (by simp) _
      have hinsert : refunds.insert row = some ⟨refunds.rows ++ [row], hone⟩ := by
        unfold Table.insert Table.insertAll
        rw [dif_pos hone]
      unfold OrderTables.insertOrIgnore
      simp only [if_neg hfree.1, hinsert, List.map_cons]
      rw [ih ⟨refunds.rows ++ [row], hone⟩ (by simpa using hids) ?_ hapart.2]
      rintro other hother ⟨held, hheld, hconflict⟩
      rcases List.mem_append.mp hheld with hheld | hheld
      · exact hfree.2 other hother ⟨held, hheld, hconflict⟩
      · rw [List.mem_singleton.mp hheld] at hconflict
        exact hapart.1 other hother hconflict

theorem insertRefunds_accepted {orderId : Uuid} {new : List OrderRefund}
    (hamounts : ∀ r ∈ new, 0 < r.amount.amountMinor)
    (hseats : ∀ r ∈ new, ∀ seatId ∈ r.seatId,
      seatId ∈ tables.seats.rows.map fun seat => seat.id)
    (hids : ((tables.refunds.rows ++ new.map (refundRowOf orderId)).map OrderRefundRow.id).Nodup)
    (hfree : ∀ r ∈ new, ¬ OrderTables.RefundConflicts tables.refunds (refundRowOf orderId r))
    (hapart : (new.map (refundRowOf orderId)).Pairwise fun a b => ¬ OrderTables.Conflict a b) :
    ∃ tables', tables.insertRefunds orderId new = .ok tables' := by
  have hall := insertOrIgnore_all tables.refunds (new.map (refundRowOf orderId)) hids
    (by simpa using hfree) hapart
  have hreferenced : ∀ row ∈ new.map (refundRowOf orderId), row.id ∈
      (new.map (refundRowOf orderId)).map (fun row => row.id) → ∀ seatId ∈ row.seatId,
        seatId ∈ tables.seats.rows.map fun seat => seat.id := by
    intro row hrow _
    obtain ⟨r, hr, rfl⟩ := List.mem_map.mp hrow
    exact hseats r hr
  have hrecorded : (new.map (refundRowOf orderId)).find? (fun row =>
      row.id ∉ (new.map (refundRowOf orderId)).map (fun row => row.id) ∧
        ¬ OrderTables.insertRefunds.same orderId
          (OrderTables.insertOrIgnore tables.refunds (new.map (refundRowOf orderId))).1 row) =
      none := by
    refine List.find?_eq_none.mpr fun row hrow hmissing => ?_
    exact (of_decide_eq_true hmissing).1 (List.mem_map_of_mem hrow)
  unfold OrderTables.insertRefunds
  simp only [hall]
  rw [if_neg (by simpa [refundRowOf] using hamounts), if_neg (not_not.mpr hreferenced), hrecorded]
  exact ⟨_, rfl⟩

theorem saveMovedSeats_accepted {stored current : List SeatSnapshot}
    (hnames : (current.map fun seat => seat.id).Nodup)
    (haccepted : ∀ seat ∈ current, (seatStateColumnsOf seat).Accepted
      (tables.refunds.rows.map fun r => r.id) tables.credits) :
    ∃ tables', tables.saveMovedSeats stored current = .ok tables' := by
  have hmovedNames : ((movedFrom stored current (fun seat => seat.id)
      OrderTables.seatMoved).map fun seat => seat.id).Nodup :=
    hnames.sublist (List.Sublist.map _ List.filter_sublist)
  unfold OrderTables.saveMovedSeats
  simp only []
  refine ⟨_, if_pos fun row hrow hmoved => ?_⟩
  have hrows := Table.updateEach_rows tables.seats _ (fun seat => seat.id) OrderTables.writeSeat
    (fun _ _ => rfl) hmovedNames
  obtain ⟨a, -, rfl⟩ := List.mem_map.mp (hrows ▸ hrow)
  cases hfind : (movedFrom stored current (fun seat => seat.id) OrderTables.seatMoved).find?
      fun seat => seat.id = a.id with
  | none =>
      simp only [hfind] at hmoved
      exact absurd hmoved (find?_eq_none_iff_not_mem.mp hfind)
  | some seat =>
      exact haccepted seat (List.mem_filter.mp (List.mem_of_find?_eq_some hfind)).1

/-- The statements of an accepted save. -/
theorem save_ok {tracked tracked' : TrackedOrder}
    (h : (tables.save tracked).result = .ok tracked') :
    ∃ t₁ t₂ t₃, tables.saveVersioned tracked.order.current tracked.loadedVersion = .ok t₁ ∧
      t₁.insertSeats ((addedTo tracked.storedSeats tracked.order.current.seats fun seat =>
        seat.id).map (seatRowOf tracked.order.current)) = .ok t₂ ∧
      t₂.insertRefunds tracked.order.current.id (addedTo tracked.storedRefunds
        tracked.order.current.refunds fun r => r.id) = .ok t₃ ∧
      (t₃.saveMadeRefunds tracked.storedRefunds tracked.order.current.refunds).saveMovedSeats
        tracked.storedSeats tracked.order.current.seats = .ok (tables.save tracked).state ∧
      tracked' = { tracked with
        loadedVersion := tracked.order.current.version
        storedSeats := tracked.order.current.seats
        storedRefunds := tracked.order.current.refunds } := by
  unfold OrderTables.save at h ⊢
  simp only [] at h ⊢
  obtain ⟨e, -, hg⟩ | ⟨t₁, h₁, hg⟩ := Reply.guard_cases tables
    (tables.saveVersioned tracked.order.current tracked.loadedVersion) _
  · rw [hg] at h
    cases h
  rw [hg] at h ⊢
  obtain ⟨e, -, hg⟩ | ⟨t₂, h₂, hg⟩ := Reply.guard_cases t₁ (t₁.insertSeats _) _
  · rw [hg] at h
    cases h
  rw [hg] at h ⊢
  obtain ⟨e, -, hg⟩ | ⟨t₃, h₃, hg⟩ := Reply.guard_cases t₂ (t₂.insertRefunds _ _) _
  · rw [hg] at h
    cases h
  rw [hg] at h ⊢
  obtain ⟨e, -, hg⟩ | ⟨t₅, h₅, hg⟩ := Reply.guard_cases
    (t₃.saveMadeRefunds tracked.storedRefunds tracked.order.current.refunds)
    ((t₃.saveMadeRefunds tracked.storedRefunds tracked.order.current.refunds).saveMovedSeats
      tracked.storedSeats tracked.order.current.seats) _
  · rw [hg] at h
    cases h
  rw [hg] at h ⊢
  refine ⟨t₁, t₂, t₃, h₁, h₂, h₃, h₅, ?_⟩
  exact (Except.ok.inj h).symm

end Statements

section Loading

variable {tables : OrderTables} {id : Uuid} {loaded : TrackedOrder}

/-- What a load reads: the order's row, its seats' and its refunds', in some order. -/
structure Loaded (tables : OrderTables) (id : Uuid) (loaded : TrackedOrder) (row : SeatOrderRow)
    (seats : List SeatRow) (refunds : List OrderRefundRow) : Prop where
  found : tables.orders.find? id = some row
  seatRows : seats.Perm (tables.seatsOf id)
  refundRows : refunds.Perm (tables.refundsOf id)
  current : loaded.order.current = seatOrderSnapshotOf row seats refunds
  version : loaded.loadedVersion = row.version
  storedSeats : loaded.storedSeats = loaded.order.current.seats
  storedRefunds : loaded.storedRefunds = loaded.order.current.refunds

theorem findById_loaded (h : tables.findById id = some loaded) :
    ∃ row seats refunds, Loaded tables id loaded row seats refunds := by
  unfold OrderTables.findById at h
  obtain ⟨row, hrow, rfl⟩ := Option.map_eq_some_iff.mp h
  exact ⟨row, _, _, hrow, List.mergeSort_perm _ _, List.mergeSort_perm _ _, rfl, rfl, rfl, rfl⟩

theorem findById_of_row {row : SeatOrderRow} (h : tables.orders.find? id = some row) :
    ∃ loaded seats refunds, tables.findById id = some loaded ∧
      Loaded tables id loaded row seats refunds := by
  have hfound : ∃ loaded, tables.findById id = some loaded := by
    simp [OrderTables.findById, h]
  obtain ⟨loaded, hloaded⟩ := hfound
  obtain ⟨row', seats, refunds, hread⟩ := findById_loaded hloaded
  cases (h.symm.trans hread.found : some row = some row')
  exact ⟨loaded, seats, refunds, hloaded, hread⟩

namespace Loaded

variable {row : SeatOrderRow} {seats : List SeatRow} {refunds : List OrderRefundRow}

theorem id_eq (h : Loaded tables id loaded row seats refunds) : loaded.order.current.id = id := by
  have hid : row.id = id := Table.key_of_find? h.found
  rw [h.current]
  exact hid

theorem seatsRead (h : Loaded tables id loaded row seats refunds) :
    loaded.storedSeats = seats.map fun seat => seatSnapshotOf seat row.currencyCode := by
  rw [h.storedSeats, h.current]
  rfl

theorem refundsRead (h : Loaded tables id loaded row seats refunds) :
    loaded.storedRefunds = refunds.map refundOf := by
  rw [h.storedRefunds, h.current]
  rfl

theorem seatIds (h : Loaded tables id loaded row seats refunds) :
    (loaded.storedSeats.map fun seat => seat.id).Nodup := by
  rw [h.seatsRead, List.map_map]
  exact ((h.seatRows.map SeatRow.id).nodup_iff).mpr
    (tables.seats.nodup.sublist (List.filter_sublist.map _))

theorem refundIds (h : Loaded tables id loaded row seats refunds) :
    (loaded.storedRefunds.map fun r => r.id).Nodup := by
  rw [h.refundsRead, List.map_map]
  exact ((h.refundRows.map OrderRefundRow.id).nodup_iff).mpr
    (tables.refunds.nodup.sublist (List.filter_sublist.map _))

/-- Whatever the rows, the amounts of the seats read are in the order's currency. -/
theorem inCurrency (h : Loaded tables id loaded row seats refunds) :
    ∀ seat ∈ loaded.order.current.seats,
      seat.InCurrency loaded.order.current.quote.total.currencyCode := by
  rw [h.current]
  intro seat hseat
  obtain ⟨row', -, rfl⟩ := List.mem_map.mp hseat
  exact seatSnapshotOf_inCurrency row' _

/-- An order as it is loaded continues itself, when what is stored is some order's. -/
theorem continues (h : Loaded tables id loaded row seats refunds) {s : SeatOrderSnapshot}
    (hs : Storable s) (hsame : s.SameUpToOrder loaded.order.current) :
    Continues loaded.order.current loaded.order.current := by
  obtain ⟨hseats, hrefunds, hrest⟩ := hsame
  have hstate : s.state = loaded.order.current.state := by
    simpa using congrArg SeatOrderSnapshot.state hrest
  have hfailure : s.failure = loaded.order.current.failure := by
    simpa using congrArg SeatOrderSnapshot.failure hrest
  have hquote : s.quote = loaded.order.current.quote := by
    simpa using congrArg (fun o => o.toSeatOrderPlacement.quote) hrest
  have hstored : Storable loaded.order.current :=
    { failure := hfailure ▸ hstate ▸ hs.failure
      unpaid := fun hrank => List.nil_perm.mp (hs.unpaid (hstate ▸ hrank) ▸ hseats)
      refundCurrency := fun r hr => hquote ▸ hs.refundCurrency r (hrefunds.mem_iff.mpr hr)
      refundIds := h.storedRefunds ▸ h.refundIds }
  have hseatIds := h.seatIds
  rw [h.storedSeats] at hseatIds
  exact
    { storable := hstored, placement := rfl, placedAt := rfl
      refundShares := fun seat hseat => (h.inCurrency seat hseat).refund
      creditShares := fun seat hseat => (h.inCurrency seat hseat).credit
      refundsKept := fun b hb => List.mem_map_of_mem hb
      refundsFixed := fun b hb r hr hid => by
        rw [List.inj_on_of_nodup_map hstored.refundIds hr hb hid]
      seatsKept := fun b hb => List.mem_map_of_mem hb
      seatsFixed := fun b hb seat hseat hid => by
        rw [List.inj_on_of_nodup_map hseatIds hseat hb hid]
      seatIds := .inr hseatIds }

end Loaded

end Loading

section Saving

/-- The seats and the refunds a save inserts. -/
def TrackedOrder.newSeats (tracked : TrackedOrder) : List SeatSnapshot :=
  addedTo tracked.storedSeats tracked.order.current.seats fun seat => seat.id

def TrackedOrder.newRefunds (tracked : TrackedOrder) : List OrderRefund :=
  addedTo tracked.storedRefunds tracked.order.current.refunds fun r => r.id

/-- What a save leaves: the order as it was saved, and every row it has no reason to write. -/
structure SaveKeeps (tables : OrderTables) (tracked : TrackedOrder) (after : OrderTables) :
    Prop where
  reloaded : ∃ again, after.findById tracked.order.current.id = some again ∧
    again.order.current.SameUpToOrder tracked.order.current
  orders : ∀ row ∈ tables.orders.rows, row.id ≠ tracked.order.current.id →
    row ∈ after.orders.rows
  seats : ∀ row ∈ tables.seats.rows,
    (row.orderId = tracked.order.current.id → ∀ seat ∈ tracked.order.current.seats,
      seat.id = row.id →
        seat = seatSnapshotOf row tracked.order.current.quote.total.currencyCode) →
    row ∈ after.seats.rows
  refunds : ∀ row ∈ tables.refunds.rows,
    (row.orderId = tracked.order.current.id → ∀ refund ∈ tracked.order.current.refunds,
      refund.id = row.id → refund = refundOf row) →
    row ∈ after.refunds.rows

variable {tables : OrderTables} {id : Uuid} {loaded : TrackedOrder} {row : SeatOrderRow}
  {seats : List SeatRow} {refunds : List OrderRefundRow} {s : SeatOrderSnapshot}

theorem Loaded.currency (h : Loaded tables id loaded row seats refunds)
    (hc : Continues loaded.order.current s) : s.quote.total.currencyCode = row.currencyCode := by
  have hquote : s.quote = loaded.order.current.quote := by
    simpa using congrArg SeatOrderPlacement.quote hc.placement
  rw [hquote, h.current]
  rfl

theorem Loaded.id_of_continues (h : Loaded tables id loaded row seats refunds)
    (hc : Continues loaded.order.current s) : s.id = id := by
  have hid : s.id = loaded.order.current.id := by
    simpa using congrArg SeatOrderPlacement.id hc.placement
  exact hid.trans h.id_eq

/-- The seats of an order continue their rows. -/
theorem Loaded.seatsContinue (h : Loaded tables id loaded row seats refunds)
    (hc : Continues loaded.order.current s) :
    Continuing loaded.storedSeats s.seats (fun seat => seat.id)
      (fun seat => seatSnapshotOf seat row.currencyCode) OrderTables.writeSeat
      OrderTables.seatMoved := by
  have hcurrency := h.currency hc
  have hin : ∀ seat ∈ s.seats, seat.InCurrency row.currencyCode := fun seat hseat =>
    ⟨hcurrency ▸ hc.refundShares seat hseat, hcurrency ▸ hc.creditShares seat hseat⟩
  refine
    { storedNames := h.seatIds, kept := fun b hb => hc.seatsKept b (h.storedSeats ▸ hb),
      moves := ?_, stays := ?_ }
  · intro a ha seat hseat hid
    exact seatSnapshotOf_writeSeat (hin seat hseat)
      (hc.seatsFixed _ (h.storedSeats ▸ ha) seat hseat hid)
  · intro b hb seat hseat hid hstay
    have hread : b.InCurrency row.currencyCode := by
      rw [h.seatsRead] at hb
      obtain ⟨a, -, rfl⟩ := List.mem_map.mp hb
      exact seatSnapshotOf_inCurrency a _
    have hcolumns : seatStateColumnsOf seat = seatStateColumnsOf b := by
      simpa [OrderTables.seatMoved] using hstay
    exact seat_eq_of_columns hread (hin seat hseat)
      (hc.seatsFixed b (h.storedSeats ▸ hb) seat hseat hid).symm hcolumns.symm

/-- The refunds of an order continue their rows. -/
theorem Loaded.refundsContinue (h : Loaded tables id loaded row seats refunds)
    (hc : Continues loaded.order.current s) :
    Continuing loaded.storedRefunds s.refunds (fun r => r.id) refundOf OrderTables.writeRefund
      OrderTables.refundMoved := by
  refine
    { storedNames := h.refundIds, kept := fun b hb => hc.refundsKept b (h.storedRefunds ▸ hb),
      moves := ?_, stays := ?_ }
  · intro a ha r hr hid
    exact refundOf_writeRefund (hc.refundsFixed _ (h.storedRefunds ▸ ha) r hr hid)
  · intro b hb r hr hid hstay
    have hcolumns : b.refundedAt = r.refundedAt ∧ b.ref = r.ref := by
      simpa [OrderTables.refundMoved] using hstay
    exact refund_eq_of_fixed (hc.refundsFixed b (h.storedRefunds ▸ hb) r hr hid).symm
      hcolumns.2 hcolumns.1

/-- An order's seats have distinct ids once those never stored were inserted. -/
theorem Loaded.seatIds_of_inserted (h : Loaded tables id loaded row seats refunds)
    (hc : Continues loaded.order.current s) {inserted : Table SeatRow.id}
    (hinsert : inserted.rows = tables.seats.rows ++
      (addedTo loaded.storedSeats s.seats fun seat => seat.id).map (seatRowOf s)) :
    (s.seats.map fun seat => seat.id).Nodup := by
  rcases hc.seatIds with hnone | hnodup
  · have hnodup := inserted.nodup
    have hall : (addedTo loaded.storedSeats s.seats fun seat => seat.id) = s.seats := by
      simp [addedTo, h.storedSeats, hnone]
    rw [hinsert, hall, List.map_append, List.nodup_append] at hnodup
    simpa [Function.comp_def, seatRowOf] using hnodup.2.1
  · exact hnodup

/-- The refunds never stored are held under no id of the order's. -/
theorem Loaded.refunds_fresh (h : Loaded tables id loaded row seats refunds)
    {held : OrderRefundRow} (hheld : held ∈ tables.refunds.rows) (howned : held.orderId = id) :
    held.id ∉ (addedTo loaded.storedRefunds s.refunds fun r => r.id).map fun r => r.id := by
  intro hmem
  obtain ⟨r, hr, hid⟩ := List.mem_map.mp hmem
  refine (mem_addedTo.mp hr).2 (hid ▸ List.mem_map.mpr ⟨refundOf held, ?_, rfl⟩)
  rw [h.refundsRead]
  exact List.mem_map_of_mem (h.refundRows.mem_iff.mpr
    (List.mem_filter.mpr ⟨hheld, by simpa using howned⟩))

/-- A row under a stored seat's id is the row that seat was read from. -/
theorem Loaded.seat_of_stored (h : Loaded tables id loaded row seats refunds) {b : SeatSnapshot}
    (hb : b ∈ loaded.storedSeats) {seat : SeatRow} (hseat : seat ∈ tables.seats.rows)
    (hid : b.id = seat.id) :
    b = seatSnapshotOf seat row.currencyCode ∧ seat.orderId = id := by
  rw [h.seatsRead] at hb
  obtain ⟨a, ha, rfl⟩ := List.mem_map.mp hb
  obtain ⟨hmem, howner⟩ := List.mem_filter.mp (h.seatRows.mem_iff.mp ha)
  rw [Table.eq_of_mem hmem hseat hid] at howner ⊢
  exact ⟨rfl, by simpa using howner⟩

/-- A row under a stored refund's id is the row that refund was read from. -/
theorem Loaded.refund_of_stored (h : Loaded tables id loaded row seats refunds) {b : OrderRefund}
    (hb : b ∈ loaded.storedRefunds) {refund : OrderRefundRow}
    (hrefund : refund ∈ tables.refunds.rows) (hid : b.id = refund.id) :
    b = refundOf refund ∧ refund.orderId = id := by
  rw [h.refundsRead] at hb
  obtain ⟨a, ha, rfl⟩ := List.mem_map.mp hb
  obtain ⟨hmem, howner⟩ := List.mem_filter.mp (h.refundRows.mem_iff.mp ha)
  rw [Table.eq_of_mem hmem hrefund hid] at howner ⊢
  exact ⟨rfl, by simpa using howner⟩

/-- An accepted save of an order moved since it was loaded keeps all of it. -/
theorem Loaded.save_keeps (h : Loaded tables id loaded row seats refunds) {o : SeatOrder}
    (hc : Continues loaded.order.current o.current) {tracked' : TrackedOrder}
    (hsave : (tables.save { loaded with order := o }).result = .ok tracked') :
    SaveKeeps tables { loaded with order := o } (tables.save { loaded with order := o }).state := by
  have hid := h.id_of_continues hc
  have hcurrency := h.currency hc
  obtain ⟨t₁, t₂, t₃, h₁, h₂, h₃, h₅, -⟩ := save_ok hsave
  generalize (tables.save { loaded with order := o }).state = after at h₅ ⊢
  simp only [] at h₁ h₂ h₃ h₅
  obtain ⟨row', hfound, -, rfl⟩ := saveVersioned_ok h₁
  rw [hid, h.found] at hfound
  cases hfound
  obtain ⟨horders₂, hrefunds₂, -, hseats₂⟩ := insertSeats_rows h₂
  simp only [] at horders₂ hrefunds₂ hseats₂
  have hnewIds : ((addedTo loaded.storedRefunds o.current.refunds fun r => r.id).map
      fun r => r.id).Nodup :=
    hc.storable.refundIds.sublist (List.Sublist.map _ List.filter_sublist)
  obtain ⟨horders₃, hseats₃, -, hrefunds₃⟩ := insertRefunds_rows h₃ (fun held hheld howned =>
    h.refunds_fresh (hrefunds₂ ▸ hheld) (howned.trans hid)) hnewIds
  have hafter := saveMovedSeats_ok h₅
  have hseatIds := h.seatIds_of_inserted hc hseats₂
  rw [hrefunds₂] at hrefunds₃
  simp only [OrderTables.saveMadeRefunds, hseats₃] at hafter
  have hrow : after.orders.find? id =
      some { row with toOrderStateColumns := orderStateColumnsOf o.current } := by
    rw [hafter]
    simp only [horders₃, horders₂]
    have hkey : row.id = id := Table.key_of_find? h.found
    rw [← hkey] at h ⊢
    exact Table.find?_put_self (a := { row with
      toOrderStateColumns := orderStateColumnsOf o.current }) h.found
  have hseatsSaved : ((after.seatsOf id).map fun seat =>
      seatSnapshotOf seat row.currencyCode).Perm o.current.seats := by
    rw [hafter]
    refine (h.seatsContinue hc).diffSave_reads (fun a => decide (a.orderId = id)) ?_ hseats₂
      hseatIds (fun _ => rfl) ?_ ?_ (fun _ _ => rfl) (fun _ _ => rfl)
    · rw [h.seatsRead]
      exact (h.seatRows.map _).symm
    · intro seat hseat
      exact seatSnapshotOf_seatRowOf _ _ ⟨hcurrency ▸ hc.refundShares seat hseat,
        hcurrency ▸ hc.creditShares seat hseat⟩
    · simp [seatRowOf, hid]
  have hrefundsSaved : ((after.refundsOf id).map refundOf).Perm o.current.refunds := by
    rw [hafter]
    refine (h.refundsContinue hc).diffSave_reads (fun a => decide (a.orderId = id)) ?_ hrefunds₃
      hc.storable.refundIds (fun _ => rfl) (fun _ _ => rfl) ?_ (fun _ _ => rfl) (fun _ _ => rfl)
    · rw [h.refundsRead]
      exact (h.refundRows.map _).symm
    · simp [refundRowOf, hid]
  refine { reloaded := ?_, orders := ?_, seats := ?_, refunds := ?_ }
  · obtain ⟨again, seats', refunds', hagain, hread⟩ := findById_of_row hrow
    refine ⟨again, hid ▸ hagain, ?_, ?_, ?_⟩
    · rw [hread.current]
      exact (hread.seatRows.map _).trans hseatsSaved
    · rw [hread.current]
      exact (hread.refundRows.map _).trans hrefundsSaved
    · rw [hread.current]
      exact seatOrderSnapshotOf_saved row seats refunds h.current hc seats' refunds'
  · intro other hother hne
    rw [hafter]
    simp only [horders₃, horders₂, Table.put, Table.update_rows]
    have hkey : row.id = id := Table.key_of_find? h.found
    exact List.mem_map.mpr ⟨other, hother, if_neg fun heq => hne (heq.trans (hkey.trans hid.symm))⟩
  · intro seat hseat hsame
    rw [hafter]
    refine mem_diffSave_of_untouched ?_ hseatIds hseats₂ hseat
      (not_mem_movedFrom h.seatIds fun b hb c hcmem hbid hcid => ?_)
    · exact fun _ _ => rfl
    obtain ⟨hread, howner⟩ := h.seat_of_stored hb hseat hbid
    rw [hsame (howner.trans hid.symm) c hcmem hcid, hcurrency, hread]
    simp [OrderTables.seatMoved]
  · intro refund hrefund hsame
    rw [hafter]
    refine mem_diffSave_of_untouched ?_ hc.storable.refundIds hrefunds₃ hrefund
      (not_mem_movedFrom h.refundIds fun b hb c hcmem hbid hcid => ?_)
    · exact fun _ _ => rfl
    obtain ⟨hread, howner⟩ := h.refund_of_stored hb hrefund hbid
    rw [hsame (howner.trans hid.symm) c hcmem hcid, hread]
    simp [OrderTables.refundMoved]

/-- What the tables ask of the rows a save inserts: free ids, codes and keys, references that
hold, amounts that are some, and no seat given back before its own row is stored. -/
structure Insertable (tables : OrderTables) (tracked : TrackedOrder) : Prop where
  seatIds : ((tables.seats.rows ++ tracked.newSeats.map
    (seatRowOf tracked.order.current)).map SeatRow.id).Nodup
  seatCodes : (tracked.newSeats.map fun seat => seat.code).Nodup ∧
    ∀ seat ∈ tracked.newSeats, seat.code ∉ tables.seats.rows.map fun held => held.seatCode
  seatsHeld : ∀ seat ∈ tracked.newSeats, seat.refundId = none
  refundAmounts : ∀ r ∈ tracked.newRefunds, 0 < r.amount.amountMinor
  refundSeats : ∀ r ∈ tracked.newRefunds, ∀ seatId ∈ r.seatId,
    seatId ∈ (tables.seats.rows ++ tracked.newSeats.map
      (seatRowOf tracked.order.current)).map fun seat => seat.id
  refundIds : ((tables.refunds.rows ++ tracked.newRefunds.map
    (refundRowOf tracked.order.current.id)).map OrderRefundRow.id).Nodup
  refundsFree : ∀ r ∈ tracked.newRefunds,
    ¬ OrderTables.RefundConflicts tables.refunds (refundRowOf tracked.order.current.id r)
  refundsApart : (tracked.newRefunds.map (refundRowOf tracked.order.current.id)).Pairwise
    fun a b => ¬ OrderTables.Conflict a b

/-- The save of an order moved since it was loaded is accepted when its new rows are. -/
theorem Loaded.save_accepted (h : Loaded tables id loaded row seats refunds) {o : SeatOrder}
    (hc : Continues loaded.order.current o.current)
    (haccepted : SeatsAccepted tables.credits o.current)
    (hinsert : Insertable tables { loaded with order := o }) :
    ∃ tracked', (tables.save { loaded with order := o }).result = .ok tracked' := by
  have hid := h.id_of_continues hc
  set t₁ : OrderTables := { tables with
    orders := tables.orders.put
      { row with toOrderStateColumns := orderStateColumnsOf o.current } } with ht₁
  have h₁ : tables.saveVersioned o.current loaded.loadedVersion = .ok t₁ :=
    saveVersioned_accepted (hid ▸ h.found) h.version.symm
  obtain ⟨t₂, h₂⟩ : ∃ t₂, t₁.insertSeats ((addedTo loaded.storedSeats o.current.seats fun seat =>
      seat.id).map (seatRowOf o.current)) = .ok t₂ := insertSeats_accepted hinsert.seatIds
    ⟨by simpa [Function.comp_def, seatRowOf, TrackedOrder.newSeats] using hinsert.seatCodes.1,
      by simpa [ht₁, seatRowOf, TrackedOrder.newSeats] using hinsert.seatCodes.2⟩ (by
      intro seatRow hseatRow
      obtain ⟨seat, hseat, rfl⟩ := List.mem_map.mp hseatRow
      have hcolumns := haccepted seat (mem_addedTo.mp hseat).1
      refine ⟨hcolumns.1, hcolumns.2.1, hcolumns.2.2.1, hcolumns.2.2.2.1, hcolumns.2.2.2.2.1, ?_,
        hcolumns.2.2.2.2.2.2⟩
      simp [seatRowOf, seatStateColumnsOf, hinsert.seatsHeld seat hseat])
  obtain ⟨-, hrefunds₂, hcredits₂, hseats₂⟩ := insertSeats_rows h₂
  obtain ⟨t₃, h₃⟩ : ∃ t₃, t₂.insertRefunds o.current.id
      (addedTo loaded.storedRefunds o.current.refunds fun r => r.id) = .ok t₃ :=
    insertRefunds_accepted hinsert.refundAmounts
    (by rw [hseats₂]; exact hinsert.refundSeats) (by rw [hrefunds₂]; exact hinsert.refundIds)
    (by rw [hrefunds₂]; exact hinsert.refundsFree) hinsert.refundsApart
  have hnewIds : ((addedTo loaded.storedRefunds o.current.refunds fun r => r.id).map
      fun r => r.id).Nodup :=
    hc.storable.refundIds.sublist (List.Sublist.map _ List.filter_sublist)
  obtain ⟨-, -, hcredits₃, hrefunds₃⟩ := insertRefunds_rows h₃ (fun held hheld howned =>
    h.refunds_fresh (hrefunds₂ ▸ hheld) (howned.trans hid)) hnewIds
  have hrecorded : ∀ r ∈ o.current.refunds, r.id ∈ t₃.refunds.rows.map fun held => held.id := by
    intro r hr
    rw [hrefunds₃, hrefunds₂, List.map_append, List.mem_append]
    by_cases hstored : r.id ∈ loaded.storedRefunds.map fun r => r.id
    · left
      obtain ⟨b, hb, hbid⟩ := List.mem_map.mp hstored
      rw [h.refundsRead] at hb
      obtain ⟨held, hheld, rfl⟩ := List.mem_map.mp hb
      exact List.mem_map.mpr
        ⟨held, (List.mem_filter.mp (h.refundRows.mem_iff.mp hheld)).1, hbid⟩
    · right
      rw [List.map_map]
      exact List.mem_map.mpr ⟨r, mem_addedTo.mpr ⟨hr, hstored⟩, rfl⟩
  obtain ⟨t₅, h₅⟩ : ∃ t₅, (t₃.saveMadeRefunds loaded.storedRefunds
      o.current.refunds).saveMovedSeats loaded.storedSeats o.current.seats = .ok t₅ := by
    refine saveMovedSeats_accepted (h.seatIds_of_inserted hc hseats₂) fun seat hseat => ?_
    have hcredits : (t₃.saveMadeRefunds loaded.storedRefunds o.current.refunds).credits =
        tables.credits := hcredits₃.trans hcredits₂
    rw [saveMadeRefunds_ids, hcredits]
    refine (haccepted seat hseat).mono fun refundId hrefundId => ?_
    obtain ⟨r, hr, rfl⟩ := List.mem_map.mp hrefundId
    exact hrecorded r hr
  unfold OrderTables.save
  simp only [h₁, h₂, h₃, h₅, Reply.guard_ok, Reply.answer_result]
  exact ⟨_, rfl⟩

end Saving

section Reload

variable [OrderRules] [LawfulOrderRules]

/-- What any operations leave of an order loaded from some order's rows. -/
theorem Loaded.continues_of_reaches {tables : OrderTables} {id : Uuid} {loaded : TrackedOrder}
    {row : SeatOrderRow} {seats : List SeatRow} {refunds : List OrderRefundRow}
    (h : Loaded tables id loaded row seats refunds) {placement : SeatOrderPlacement}
    {placedAt : Instant} {stored o : SeatOrder}
    (hstored : Reaches (Operation.CreditsHeld tables.credits) Operation.step
      (SeatOrder.place placement placedAt) stored)
    (hsame : stored.current.SameUpToOrder loaded.order.current)
    (hmoved : Reaches (Operation.CreditsHeld tables.credits) Operation.step loaded.order o) :
    Continues loaded.order.current o.current ∧ SeatsAccepted tables.credits o.current := by
  have hbefore : Storable stored.current ∧ SeatsAccepted tables.credits stored.current := by
    refine hstored.invariant (P := fun o => Storable o.current ∧
      SeatsAccepted tables.credits o.current) ⟨Storable.placed placement placedAt, ?_⟩ ?_
    · intro seat hseat
      simp [SeatOrder.place] at hseat
    · intro v op w hv hop hstep
      rw [← Option.some.inj hstep]
      have hchange := (op.perform_changes v).change
      exact ⟨hv.1.step hchange, hv.2.step hop hchange⟩
  have haccepted : SeatsAccepted tables.credits loaded.order.current := by
    intro seat hseat
    refine (hbefore.2 seat (hsame.1.mem_iff.mpr hseat)).mono ?_
    exact (hsame.2.1.map fun r => r.id).subset
  refine hmoved.invariant (P := fun o => Continues loaded.order.current o.current ∧
    SeatsAccepted tables.credits o.current) ⟨h.continues hbefore.1 hsame, haccepted⟩ ?_
  intro v op w hv hop hstep
  rw [← Option.some.inj hstep]
  have hchange := (op.perform_changes v).change
  exact ⟨hv.1.step hop hchange, hv.2.step hop hchange⟩

/-- Loaded from any reachable order's rows, moved by any operations and saved, an order reads back
as it was saved, and the rows it did not move are as they were. The save is accepted when its new
rows are, and refused whole from a version older than the one stored. -/
theorem save_reload (tables : OrderTables) (id : Uuid) (loaded : TrackedOrder)
    (hload : tables.findById id = some loaded) (placement : SeatOrderPlacement)
    (placedAt : Instant) (stored : SeatOrder)
    (hstored : Reaches (Operation.CreditsHeld tables.credits) Operation.step
      (SeatOrder.place placement placedAt) stored)
    (hsame : stored.current.SameUpToOrder loaded.order.current) (o : SeatOrder)
    (hmoved : Reaches (Operation.CreditsHeld tables.credits) Operation.step loaded.order o) :
    (Insertable tables { loaded with order := o } →
      ∃ tracked', (tables.save { loaded with order := o }).result = .ok tracked') ∧
    (∀ tracked', (tables.save { loaded with order := o }).result = .ok tracked' →
      SaveKeeps tables { loaded with order := o }
        (tables.save { loaded with order := o }).state) ∧
    ∀ (later : OrderTables) (row : SeatOrderRow), later.orders.find? o.current.id = some row →
      loaded.loadedVersion < row.version →
      later.save { loaded with order := o } = .refuse later (.stateConflict row.version) := by
  obtain ⟨row, seats, refunds, hread⟩ := findById_loaded hload
  obtain ⟨hcontinues, haccepted⟩ := hread.continues_of_reaches hstored hsame hmoved
  refine ⟨hread.save_accepted hcontinues haccepted, fun _ => hread.save_keeps hcontinues, ?_⟩
  intro later row' hfind holder
  have hstale : later.saveVersioned o.current loaded.loadedVersion =
      .error (.stateConflict row'.version) := by
    unfold OrderTables.saveVersioned
    simp only [hfind, if_neg holder.ne']
  unfold OrderTables.save
  simp only [hstale, Reply.guard_error]

end Reload

section Sample

open Sample

/-- One seat for five euros. -/
def oneSeatPlacement : SeatOrderPlacement where
  id := 1
  reference := "AR-2026-000001"
  dateId := 2
  channelId := 3
  accountId := some 4
  profileId := none
  tier := .full
  quantity := 1
  quote := ⟨⟨500, "EUR"⟩, ⟨500, "EUR"⟩, ⟨0, "EUR"⟩, ⟨0, "EUR"⟩, ⟨500, "EUR"⟩⟩
  declaredTaxLocation := none
  holdId := 5
  expiresAt := 900

def oneSeatPlaced : SeatOrder := SeatOrder.restore (SeatOrder.place oneSeatPlacement 0).current

def oneSeatPay : Operation := .pay "pi_1" [⟨10, "A", none⟩] 100

def oneSeatPaid : SeatOrder := SeatOrder.restore (oneSeatPay.perform oneSeatPlaced).state.current

/-- The tables that hold one order alone, and one credit. -/
def tablesOf (order : SeatOrderSnapshot) (seats : Table SeatRow.id) : OrderTables where
  orders := ⟨[seatOrderRowOf order ⟨some 4, 6, "body"⟩], List.nodup_singleton _⟩
  seats := seats
  refunds := .empty
  credits := [30]

def placedTables : OrderTables := tablesOf oneSeatPlaced.current .empty

def paidTables : OrderTables :=
  tablesOf oneSeatPaid.current
    ⟨oneSeatPaid.current.seats.map (seatRowOf oneSeatPaid.current), by decide⟩

def trackedOf (order : SeatOrder) : TrackedOrder :=
  ⟨order, order.current.version, order.current.seats, order.current.refunds⟩

theorem placedTables_findById : placedTables.findById 1 = some (trackedOf oneSeatPlaced) := by
  have hseats : placedTables.seatsOf 1 = [] := rfl
  have hrefunds : placedTables.refundsOf 1 = [] := rfl
  unfold OrderTables.findById
  rw [hseats, hrefunds, List.mergeSort_nil, List.mergeSort_nil]
  rfl

theorem paidTables_findById : paidTables.findById 1 = some (trackedOf oneSeatPaid) := by
  have hseats : paidTables.seatsOf 1 = [seatRowOf oneSeatPaid.current
      (SeatOrder.issuedSeat .full 100 ⟨10, "A", none⟩)] := rfl
  have hrefunds : paidTables.refundsOf 1 = [] := rfl
  unfold OrderTables.findById
  rw [hseats, hrefunds, List.mergeSort_nil, List.mergeSort_singleton]
  rfl

/-- Paid and saved: one seat is inserted, and the order reads back with it. -/
theorem save_reload_sample :
    let o := (oneSeatPay.perform (trackedOf oneSeatPlaced).order).state
    let tracked := { trackedOf oneSeatPlaced with order := o }
    (Insertable placedTables tracked →
      ∃ tracked', (placedTables.save tracked).result = .ok tracked') ∧
    (∀ tracked', (placedTables.save tracked).result = .ok tracked' →
      SaveKeeps placedTables tracked (placedTables.save tracked).state) ∧
    ∀ (later : OrderTables) (row : SeatOrderRow), later.orders.find? o.current.id = some row →
      (trackedOf oneSeatPlaced).loadedVersion < row.version →
      later.save tracked = .refuse later (.stateConflict row.version) :=
  save_reload placedTables 1 (trackedOf oneSeatPlaced) placedTables_findById oneSeatPlacement 0
    (SeatOrder.place oneSeatPlacement 0) .refl ⟨.refl _, .refl _, rfl⟩ _
    (Reaches.tail .refl (a := oneSeatPay) trivial rfl)

/-- A credit in another currency than the order's is accepted, and read back in the order's; and
seats issued, owed back and cancelled between one load and one save are refused, for a seat's row is
inserted before the refund's it references. -/
theorem save_loses_foreign_credit :
    (∃ o, Reaches (fun _ _ => True) Operation.step (trackedOf oneSeatPaid).order o ∧
      (∃ tracked', (paidTables.save { trackedOf oneSeatPaid with order := o }).result =
        .ok tracked') ∧
      ¬ SaveKeeps paidTables { trackedOf oneSeatPaid with order := o }
        (paidTables.save { trackedOf oneSeatPaid with order := o }).state) ∧
    ∃ o, Reaches (fun _ _ => True) Operation.step (trackedOf oneSeatPlaced).order o ∧
      (placedTables.save { trackedOf oneSeatPlaced with order := o }).result =
        .error (.error "23514") := by
  constructor
  · refine ⟨_, Reaches.tail .refl
      (a := .creditSeats ⟨30, [⟨10, ⟨500, "USD"⟩⟩]⟩ 200) trivial rfl, ⟨_, rfl⟩, ?_⟩
    intro hkeeps
    obtain ⟨again, hagain, hsame⟩ := hkeeps.reloaded
    obtain ⟨row, seats, refunds, hread⟩ := findById_loaded hagain
    have hmem := hsame.1.mem_iff.mpr (List.mem_singleton_self _)
    have hcredit := (hread.inCurrency _ hmem).credit ⟨500, "USD"⟩ rfl
    have hquote : again.order.current.quote.total.currencyCode = "EUR" :=
      congrArg (fun s => s.quote.total.currencyCode) hsame.2.2
    rw [hquote] at hcredit
    exact absurd hcredit (by decide)
  · refine ⟨_, Reaches.tail (Reaches.tail (Reaches.tail .refl (a := oneSeatPay) trivial rfl)
      (a := .oweRefund ⟨20, ⟨500, "EUR"⟩, .goodwill, "refund:20", none⟩ 200) trivial rfl)
      (a := .cancelSeats ⟨.viewerRequest, some 20, [⟨10, some ⟨500, "EUR"⟩⟩]⟩ 200) trivial rfl,
      rfl⟩

end Sample

end Arthome.Ticketing
