import Arthome.Ticketing.PoolReturns

/-!
# Runs of holds on a priority pool

No transaction leaves a pool short of seats, and none but a hold's own statement writes what the hold
drew: so in every state reached a hold's record is of what it took, in a window its date had opened.
-/

namespace Arthome.Ticketing

open Arthome.Core Library

/-- No pool is short of seats. -/
def Db.PoolsStocked (db : Db) : Prop := ∀ row ∈ db.sales.rows, 0 ≤ row.priorityPoolSeats

/-- The holds as they were, and no pool made short. -/
structure PoolsKept (db db' : Db) : Prop where
  holds : db'.holds = db.holds
  pools : db.PoolsStocked → db'.PoolsStocked

section Kept

variable {db db' mid : Db} {dateId : Uuid} {now : Instant}

theorem PoolsKept.refl (db : Db) : PoolsKept db db := ⟨rfl, id⟩

theorem PoolsKept.trans (h : PoolsKept db mid) (h' : PoolsKept mid db') : PoolsKept db db' :=
  ⟨h'.holds.trans h.holds, fun hstocked => h'.pools (h.pools hstocked)⟩

theorem PoolsKept.of_tables (hholds : db'.holds = db.holds) (hsales : db'.sales = db.sales) :
    PoolsKept db db' := by
  refine ⟨hholds, fun hstocked row hrow => ?_⟩
  rw [hsales] at hrow
  exact hstocked row hrow

/-- A date's row rewritten, its pool not made short. -/
theorem Db.PoolsStocked.putSales (h : db.PoolsStocked) {row row' : DateSalesSnapshot}
    (hrow : db.sales.find? dateId = some row) (hdate : row'.dateId = dateId)
    (hpool : 0 ≤ row.priorityPoolSeats → 0 ≤ row'.priorityPoolSeats) :
    (db.putSales row').PoolsStocked := by
  intro other hother
  rcases (Table.mem_put (hdate ▸ hrow)).mp hother with rfl | ⟨hmem, -⟩
  · exact hpool (h row (Table.mem_of_find? hrow))
  · exact h other hmem

theorem PoolsKept.putSales {row row' : DateSalesSnapshot}
    (hrow : db.sales.find? dateId = some row) (hdate : row'.dateId = dateId)
    (hpool : 0 ≤ row.priorityPoolSeats → 0 ≤ row'.priorityPoolSeats) :
    PoolsKept db (db.putSales row') := ⟨rfl, fun h => h.putSales hrow hdate hpool⟩

theorem PoolsKept.updateSales {condition : DateSalesSnapshot → Bool}
    {set : DateSalesSnapshot → DateSalesSnapshot} (h : db.updateSales dateId condition set = some db')
    (hset : ∀ row, (set row).dateId = row.dateId ∧
      (0 ≤ row.priorityPoolSeats → 0 ≤ (set row).priorityPoolSeats)) : PoolsKept db db' := by
  obtain ⟨row, hrow, -, rfl⟩ := updateSales_some h
  exact PoolsKept.putSales hrow ((hset row).1.trans (Table.key_of_find? hrow)) (hset row).2

/-- The statement's effect, or none. -/
theorem PoolsKept.updateSales_getD {condition : DateSalesSnapshot → Bool}
    {set : DateSalesSnapshot → DateSalesSnapshot}
    (hset : ∀ row, (set row).dateId = row.dateId ∧
      (0 ≤ row.priorityPoolSeats → 0 ≤ (set row).priorityPoolSeats)) :
    PoolsKept db ((db.updateSales dateId condition set).getD db) := by
  cases h : db.updateSales dateId condition set with
  | none => exact .refl db
  | some db' => exact PoolsKept.updateSales h hset

end Kept

section Transactions

variable [SalesRules] {db db' : Db} {dateId accountId : Uuid} {now : Instant}

/-- Nothing decided about a sale makes its pool short. -/
theorem perform_pool [LawfulSalesRules] {op : SaleOperation} {sales sales' : DateSalesSnapshot}
    (h : op.perform sales now = some sales') (hpool : 0 ≤ sales.priorityPoolSeats) :
    0 ≤ sales'.priorityPoolSeats := by
  cases op with
  | lockPrices engagedAt =>
      simp only [SaleOperation.perform, DateSales.lockPrices] at h
      split_ifs at h
      exact Option.some.inj h ▸ hpool
  | recordSchedule startsAt statedAt =>
      simp only [SaleOperation.perform, DateSales.recordSchedule] at h
      split at h
      · cases h
      · exact Option.some.inj h ▸ hpool
  | recordOutcome outcome statedAt =>
      simp only [SaleOperation.perform, DateSales.recordOutcome] at h
      split at h
      · cases h
      · exact Option.some.inj h ▸ hpool
  | endSales =>
      simp only [SaleOperation.perform, DateSales.endSales] at h
      split at h
      · cases h
      · split_ifs at h
        exact Option.some.inj h ▸ hpool
  | holdSeats quantity =>
      obtain ⟨-, -, rfl⟩ := DateSales.holdSeats_ok (toOption_eq_some_iff.mp h)
      exact hpool
  | setPrices expectedVersion tiers =>
      obtain ⟨-, rfl⟩ := DateSales.setPrices_ok (toOption_eq_some_iff.mp h)
      exact hpool
  | openCapacityTier expectedVersion additionalCapacity notifyWaitlist tierId =>
      obtain ⟨⟨widened, priorityUntil⟩, hopened, rfl⟩ := Option.map_eq_some_iff.mp h
      obtain ⟨-, hwidens, rfl⟩ := DateSales.openCapacityTier_ok (toOption_eq_some_iff.mp hopened)
      have hpos := LawfulSalesRules.tier_widens _ _ hwidens
      dsimp only
      split_ifs
      · omega
      · exact hpool
  | setTechnicalProvision expectedVersion provisionedCapacity =>
      rw [DateSales.setTechnicalProvision_ok (toOption_eq_some_iff.mp h)]
      exact hpool

variable [LawfulSalesRules]

/-- An operation performed on the row just read, and saved. -/
theorem performed_pools {op : SaleOperation} {sales current : DateSalesSnapshot}
    (hsales : db.sales.find? dateId = some sales) (hperform : op.perform sales now = some current)
    (hsave : db.saveSales sales current = .ok db') : PoolsKept db db' := by
  have hdate : current.dateId = dateId :=
    (SaleOperation.perform_dateId hperform).trans (Table.key_of_find? hsales)
  obtain rfl := saveSales_datedRows hsales hdate hsave
  exact PoolsKept.putSales hsales hdate (perform_pool hperform)

theorem setPricesIn_pools {expectedVersion : ℕ} {tiers : List TierPrice}
    (h : setPricesIn db dateId expectedVersion tiers = .ok db') : PoolsKept db db' := by
  unfold setPricesIn commandIn at h
  simp only [bind_ok_iff] at h
  obtain ⟨sales, hsales, current, hcurrent, hsave⟩ := h
  have hperform : (SaleOperation.setPrices expectedVersion tiers).perform sales 0 = some current :=
    toOption_eq_some_iff.mpr hcurrent
  exact performed_pools (orRefuse_ok_iff.mp hsales) hperform hsave

theorem setTechnicalProvisionIn_pools {expectedVersion : ℕ} {provisionedCapacity : ℤ}
    (h : setTechnicalProvisionIn db dateId expectedVersion provisionedCapacity now = .ok db') :
    PoolsKept db db' := by
  unfold setTechnicalProvisionIn commandIn at h
  simp only [bind_ok_iff] at h
  obtain ⟨sales, hsales, current, hcurrent, hsave⟩ := h
  have hperform : (SaleOperation.setTechnicalProvision expectedVersion provisionedCapacity).perform
      sales now = some current := toOption_eq_some_iff.mpr hcurrent
  exact performed_pools (orRefuse_ok_iff.mp hsales) hperform hsave

theorem closeEndedSale_pools (h : closeEndedSale db dateId now = .ok db') : PoolsKept db db' := by
  unfold closeEndedSale at h
  split at h
  · exact pure_ok_iff.mp h ▸ .refl db
  · rename_i sales ended hended
    obtain ⟨row, hrow, hmap⟩ := Option.bind_eq_some_iff.mp hended
    obtain ⟨closed, hclosed, hpair⟩ := Option.map_eq_some_iff.mp hmap
    obtain ⟨rfl, rfl⟩ := Prod.mk.inj hpair
    have hperform : SaleOperation.endSales.perform row now = some closed := hclosed
    exact performed_pools hrow hperform h

omit [SalesRules] [LawfulSalesRules] in
theorem draftedIn_pools {channelId : Uuid} (h : draftedIn db dateId channelId = .ok db') :
    PoolsKept db db' := by
  unfold draftedIn at h
  split_ifs at h
  · exact pure_ok_iff.mp h ▸ .refl db
  · unfold Db.insertSales at h
    simp only [bind_ok_iff, orRefuse_ok_iff, pure_ok_iff] at h
    obtain ⟨inserted, hinsert, rfl⟩ := h
    refine ⟨rfl, fun hstocked row hrow => ?_⟩
    rcases (Table.mem_insert hinsert).mp hrow with hmem | rfl
    · exact hstocked row hmem
    · exact le_rfl

omit [LawfulSalesRules] in
/-- What the fact a catalog's date states is, as an operation of the sale. -/
theorem applied_performs {sales current : DateSalesSnapshot} {fact : CatalogDateFact}
    (h : applied sales now fact = some current) :
    ∃ op : SaleOperation, op.perform sales now = some current := by
  cases fact with
  | drafted channelId => cases h
  | lock statedAt => exact ⟨.lockPrices statedAt, h⟩
  | start startsAt statedAt => exact ⟨.recordSchedule startsAt statedAt, h⟩
  | outcome declared statedAt => exact ⟨.recordOutcome declared statedAt, h⟩

theorem movedIn_pools {fact : CatalogDateFact} (h : movedIn db dateId fact now = .ok db') :
    PoolsKept db db' := by
  unfold movedIn at h
  split at h
  rename_i moved seatsMoved hmoved
  have hstart : PoolsKept db moved := by
    split at hmoved
    · unfold moveSeatCancelDeadlines at hmoved
      simp only at hmoved
      split_ifs at hmoved
      · obtain ⟨rfl, -⟩ := Prod.mk.inj hmoved
        exact .refl _
      · obtain ⟨rfl, -⟩ := Prod.mk.inj hmoved
        exact .of_tables rfl rfl
    · obtain ⟨rfl, -⟩ := Prod.mk.inj hmoved
      exact .refl _
  rw [bind_ok_iff] at h
  obtain ⟨sales, hsales, h⟩ := h
  have hrow : moved.sales.find? dateId = some sales := orRefuse_ok_iff.mp hsales
  split at h
  · simp only [bind_ok_iff, pure_ok_iff] at h
    obtain ⟨_, -, rfl⟩ := h
    exact hstart
  · rename_i current hcurrent
    rw [bind_ok_iff] at h
    obtain ⟨saved, hsave, h⟩ := h
    obtain ⟨op, hperform⟩ := applied_performs hcurrent
    refine (hstart.trans (performed_pools hrow hperform hsave)).trans ?_
    split at h
    · split_ifs at h
      · obtain rfl := pure_ok_iff.mp h
        unfold recordOutcomeToSettle
        split
        · exact .refl _
        · exact .of_tables rfl rfl
      · exact pure_ok_iff.mp h ▸ .refl saved
    · exact pure_ok_iff.mp h ▸ .refl saved

theorem applyCatalogDateFact_pools {fact : CatalogDateFact}
    (h : applyCatalogDateFact db dateId fact now = .ok db') : PoolsKept db db' := by
  cases fact with
  | drafted channelId => exact draftedIn_pools h
  | lock statedAt =>
      have hmoved : movedIn db dateId (.lock statedAt) now = .ok db' := h
      exact movedIn_pools hmoved
  | start startsAt statedAt =>
      have hmoved : movedIn db dateId (.start startsAt statedAt) now = .ok db' := h
      exact movedIn_pools hmoved
  | outcome declared statedAt =>
      have hmoved : movedIn db dateId (.outcome declared statedAt) now = .ok db' := h
      exact movedIn_pools hmoved

section Lists

omit [LawfulSalesRules]

omit [SalesRules] in
theorem moveWaitlistCount_pools {delta : ℤ} {refusal : Refusal}
    (h : orRefuse (db.moveWaitlistCount dateId delta) refusal = .ok db') : PoolsKept db db' := by
  obtain ⟨row, hrow, rfl⟩ := moveWaitlistCount_ok h
  have hdate : row.dateId = dateId := Table.key_of_find? hrow
  exact PoolsKept.putSales hrow hdate id

theorem joinIn_pools {entryId : Uuid} (h : joinIn db dateId accountId entryId now = .ok db') :
    PoolsKept db db' := by
  unfold joinIn at h
  simp only [bind_ok_iff] at h
  obtain ⟨sales, -, _, -, salesEndAt, -, h⟩ := h
  split at h
  · split_ifs at h
    · exact pure_ok_iff.mp h ▸ .refl db
    · simp only [bind_ok_iff] at h
      obtain ⟨_, -, entry, -, h⟩ := h
      have hsaved : PoolsKept db (db.saveEntry entry) := .of_tables rfl rfl
      exact hsaved.trans (moveWaitlistCount_pools h)
  · simp only [bind_ok_iff] at h
    obtain ⟨_, -, inserted, hinsert, h⟩ := h
    unfold Db.insertEntry at hinsert
    simp only [bind_ok_iff, pure_ok_iff] at hinsert
    obtain ⟨_, -, entries, -, rfl⟩ := hinsert
    have hinserted : PoolsKept db { db with entries } := .of_tables rfl rfl
    exact hinserted.trans (moveWaitlistCount_pools h)

theorem leaveIn_pools (h : leaveIn db dateId accountId now = .ok db') : PoolsKept db db' := by
  unfold leaveIn at h
  simp only [bind_ok_iff] at h
  obtain ⟨_, -, h⟩ := h
  split at h
  · exact pure_ok_iff.mp h ▸ .refl db
  · rw [bind_ok_iff] at h
    obtain ⟨left, -, h⟩ := h
    split at h
    · exact pure_ok_iff.mp h ▸ .refl db
    · rename_i entry
      have hsaved : PoolsKept db (db.saveEntry entry) := .of_tables rfl rfl
      exact hsaved.trans (moveWaitlistCount_pools h)

theorem endDuePriorityWindow_pools {ended : Bool}
    (h : endDuePriorityWindow db dateId now = .ok (db', ended)) : PoolsKept db db' := by
  unfold endDuePriorityWindow at h
  split at h
  · obtain ⟨rfl, -⟩ := Prod.mk.inj (pure_ok_iff.mp h)
    exact .refl db
  · rename_i claimed hclaimed
    simp only [bind_ok_iff] at h
    obtain ⟨⟨mid, entriesEnded⟩, hentries, after, hwindow, h⟩ := h
    obtain ⟨rfl, -⟩ := Prod.mk.inj (pure_ok_iff.mp h)
    have hoff : isOnWaitlist (some (if claimed.outcome.any SalesRules.outcomeEndsWaitlist
        then WaitlistEntryState.closed else .lapsed)) = false := by
      split_ifs
      · rfl
      · rfl
    obtain ⟨hframe, -, -⟩ := endNotified_listMoved hentries hoff
    have hmid : PoolsKept db mid := .of_tables (by rw [hframe]) (by rw [hframe])
    unfold Db.endPriorityWindow at hwindow
    simp only [bind_ok_iff, pure_ok_iff] at hwindow
    obtain ⟨_, -, rfl⟩ := hwindow
    exact hmid.trans (PoolsKept.updateSales_getD fun row => ⟨rfl, fun _ => le_rfl⟩)

theorem endWaitlist_pools (h : endWaitlist db dateId now = .ok db') : PoolsKept db db' := by
  unfold endWaitlist at h
  split at h
  · exact pure_ok_iff.mp h ▸ .refl db
  · split_ifs at h
    · exact pure_ok_iff.mp h ▸ .refl db
    · simp only [bind_ok_iff, pure_ok_iff] at h
      obtain ⟨_, rfl, rfl⟩ := h
      exact .of_tables rfl rfl
    · simp only [bind_ok_iff, pure_ok_iff] at h
      obtain ⟨⟨mid, n⟩, hnotified, closed, hclosed, _, rfl, rfl⟩ := h
      obtain ⟨hframe, -, -⟩ := endNotified_listMoved hnotified rfl
      obtain ⟨hframe', -, -⟩ := closeWaiting_listMoved hclosed
      have hclosed : PoolsKept db closed :=
        .of_tables (by rw [hframe', hframe]) (by rw [hframe', hframe])
      have hcleared : PoolsKept closed (closed.closeWaitlist dateId) :=
        PoolsKept.updateSales_getD fun row => ⟨rfl, fun _ => le_rfl⟩
      exact (hclosed.trans hcleared).trans (.of_tables rfl rfl)

end Lists

theorem openIn_pools {body : OpenCapacityTierBody} {tierId : Uuid}
    (h : openIn db dateId body tierId now = .ok db') : PoolsKept db db' := by
  unfold openIn at h
  simp only [bind_ok_iff] at h
  obtain ⟨⟨due, ended⟩, hdue, sales, hsales, ⟨current, priorityUntil⟩, hwiden, saved, hsave, h⟩ := h
  have hrow : due.sales.find? dateId = some sales := orRefuse_ok_iff.mp hsales
  have hperform : (SaleOperation.openCapacityTier body.expectedVersion body.additionalCapacity
      body.notifyWaitlist tierId).perform sales now = some current :=
    Option.map_eq_some_iff.mpr ⟨_, toOption_eq_some_iff.mpr hwiden, rfl⟩
  have hsaved : PoolsKept db saved :=
    (endDuePriorityWindow_pools hdue).trans (performed_pools hrow hperform hsave)
  cases priorityUntil with
  | none => exact pure_ok_iff.mp h ▸ hsaved
  | some priorityUntil =>
      obtain ⟨hframe, -⟩ := notifyAll_listMoved h
      exact hsaved.trans (.of_tables (by rw [hframe]) (by rw [hframe]))

/-- No transaction of a sale writes a hold or makes a pool short. -/
theorem WaitlistAction.perform_pools {action : WaitlistAction} (h : action.perform db = .ok db') :
    PoolsKept db db' := by
  cases action with
  | join dateId accountId entryId now => exact joinIn_pools h
  | leave dateId accountId now => exact leaveIn_pools h
  | openTier dateId body tierId now => exact openIn_pools h
  | endWindow dateId now =>
      cases hend : endDuePriorityWindow db dateId now with
      | error refusal => simp [WaitlistAction.perform, hend, Except.map] at h
      | ok result =>
          simp only [WaitlistAction.perform, hend, Except.map, Except.ok.injEq] at h
          exact h ▸ endDuePriorityWindow_pools hend
  | endWaitlist dateId now => exact endWaitlist_pools h
  | applyFact dateId fact now => exact applyCatalogDateFact_pools h
  | endSale dateId now => exact closeEndedSale_pools h
  | setPrices dateId expectedVersion tiers => exact setPricesIn_pools h
  | setTechnicalProvision dateId expectedVersion provisionedCapacity now =>
      exact setTechnicalProvisionIn_pools h

end Transactions

/-! ## What every step keeps -/

section Steps

variable [SalesRules] {s : PooledDb} {db' : Db} {action : PoolAction}

omit [SalesRules] in
theorem recorded_empty : PooledDb.empty.Recorded where
  pools row hrow := by cases hrow
  drawn hold hhold := by cases hhold
  nonneg hold hhold := by cases hhold
  windows hold hhold := by cases hhold

omit [SalesRules] in
/-- A date opens windows, and closes none of those it opened. -/
theorem windows_after (s : PooledDb) (action : PoolAction) (db : Db) (dateId : Uuid) :
    s.windows dateId ≤ (s.after action db).windows dateId := by
  unfold PooledDb.after
  dsimp only
  cases action.opensWindow s.db db with
  | none => exact le_rfl
  | some opened =>
      by_cases hdate : dateId = opened
      · simp [hdate]
      · simp [Function.update_of_ne hdate]

omit [SalesRules] in
/-- A step that places no hold keeps the draws. -/
theorem drawn_after (s : PooledDb) (db : Db)
    (hplaces : ∀ placement fromPool now, action ≠ .placeHold placement fromPool now) :
    (s.after action db).drawn = s.drawn := by
  cases action with
  | placeHold placement fromPool now => exact absurd rfl (hplaces placement fromPool now)
  | _ => rfl

omit [SalesRules] in
/-- A step that places no hold and keeps what every hold records. -/
theorem PooledDb.Recorded.kept (h : s.Recorded)
    (hplaces : ∀ placement fromPool now, action ≠ .placeHold placement fromPool now)
    (hpools : db'.PoolsStocked)
    (hholds : ∀ hold ∈ db'.holds.rows, ∃ before ∈ s.db.holds.rows, before.id = hold.id ∧
      before.dateId = hold.dateId ∧ before.poolSeats = hold.poolSeats) :
    (s.after action db').Recorded := by
  have hdrawn := drawn_after s db' hplaces
  refine ⟨hpools, ?_, ?_, ?_⟩
  · intro hold hhold
    obtain ⟨before, hbefore, hid, -, hpool⟩ := hholds hold hhold
    rw [hdrawn, ← hpool, ← hid]
    exact h.drawn before hbefore
  · intro hold hhold
    obtain ⟨before, hbefore, -, -, hpool⟩ := hholds hold hhold
    exact hpool ▸ h.nonneg before hbefore
  · intro hold hhold
    obtain ⟨before, hbefore, hid, hdate, -⟩ := hholds hold hhold
    rw [hdrawn, ← hid, ← hdate]
    exact (h.windows before hbefore).trans (windows_after s action db' before.dateId)

omit [SalesRules] in
theorem PooledDb.Recorded.of_pools (h : s.Recorded)
    (hplaces : ∀ placement fromPool now, action ≠ .placeHold placement fromPool now)
    (hkept : PoolsKept s.db db') : (s.after action db').Recorded := by
  refine h.kept hplaces (hkept.pools h.pools) fun hold hhold => ?_
  rw [hkept.holds] at hhold
  exact ⟨hold, hhold, rfl, rfl, rfl⟩

omit [SalesRules] in
/-- A hold that left keeps what it records. -/
theorem leaveHold_ok {db mid : Db} {holdId : Uuid} {left : SeatHoldSnapshot} {state : SeatHoldState}
    (h : db.leaveHold holdId (fun hold => SeatHold.leave hold state) = .ok (mid, left)) :
    ∃ hold, db.holds.find? holdId = some hold ∧ left = leftHold hold state ∧
      mid = db.putHold left := by
  unfold Db.leaveHold at h
  simp only [bind_ok_iff, orRefuse_ok_iff, pure_ok_iff] at h
  obtain ⟨hold, hfind, gone, hleave, after, hsave, hpair⟩ := h
  obtain ⟨rfl, rfl⟩ := Prod.mk.inj hpair
  obtain ⟨-, rfl⟩ := saveHold_left hfind hleave hsave
  obtain ⟨-, rfl⟩ := SeatHold.leave_ok hleave
  exact ⟨hold, hfind, rfl, rfl⟩

omit [SalesRules] in
theorem holds_putHold {db : Db} {before left : SeatHoldSnapshot}
    (hbefore : db.holds.find? left.id = some before) (hdate : left.dateId = before.dateId)
    (hpool : left.poolSeats = before.poolSeats) :
    ∀ hold ∈ (db.putHold left).holds.rows, ∃ was ∈ db.holds.rows, was.id = hold.id ∧
      was.dateId = hold.dateId ∧ was.poolSeats = hold.poolSeats := by
  intro hold hhold
  rcases (Table.mem_put hbefore).mp hhold with rfl | ⟨hmem, -⟩
  · exact ⟨before, Table.mem_of_find? hbefore, Table.key_of_find? hbefore, hdate.symm, hpool.symm⟩
  · exact ⟨hold, hmem, rfl, rfl, rfl⟩

omit [SalesRules] in
/-- Seats given back leave no pool short, the hold's own being none or more. -/
theorem Db.PoolsStocked.returned {db : Db} (h : db.PoolsStocked) {dateId : Uuid} {quantity poolSeats : ℤ}
    {now : Instant} (hnonneg : 0 ≤ poolSeats) :
    (db.returnHeldSeats dateId quantity poolSeats now).PoolsStocked := by
  have hkept : PoolsKept db (db.returnHeldSeats dateId quantity poolSeats now) := by
    unfold Db.returnHeldSeats
    refine PoolsKept.updateSales_getD fun row => ⟨rfl, fun hpool => ?_⟩
    unfold Db.returned
    dsimp only
    split_ifs
    · omega
    · omega
  exact hkept.pools h

omit [SalesRules] in
theorem holds_returnHeldSeats {db : Db} {dateId : Uuid} {quantity poolSeats : ℤ} {now : Instant} :
    (db.returnHeldSeats dateId quantity poolSeats now).holds = db.holds := by
  rw [returnHeldSeats_update]

/-- What a hold placed does to its date's row and to the holds. -/
theorem perform_placeHold [LawfulSalesRules] {db : Db} {placement : SeatHoldPlacement}
    {fromPool : Bool} {now : Instant}
    (h : (PoolAction.placeHold placement fromPool now).perform db = .ok db') :
    ∃ row openPool, db.sales.find? placement.dateId = some row ∧
      (openPool = 0 ∨ openPool = row.priorityPoolSeats) ∧
      db'.sales = db.sales.put (Db.takenFromPool row openPool placement.quantity) ∧
      ∀ held ∈ db'.holds.rows,
        (held ∈ db.holds.rows ∧ held.id ≠ placement.id) ∨
        (held.id = placement.id ∧ held.dateId = placement.dateId ∧
          held.poolSeats = min openPool placement.quantity) := by
  simp only [PoolAction.perform, bind_ok_iff, orRefuse_ok_iff] at h
  obtain ⟨hold, hplace, mid, hinsert, htake⟩ := h
  obtain ⟨hplaced, -⟩ := SeatHold.place_ok hplace
  have hid : hold.id = placement.id := by rw [hplaced]
  have hdate : hold.dateId = placement.dateId := by rw [hplaced]
  have hquantity : hold.quantity = placement.quantity := by rw [hplaced]
  obtain ⟨holds, hinserted, rfl⟩ := insertHold_ok hinsert
  have hself : holds.find? hold.id = some hold := Table.find?_insert_self hinserted
  obtain ⟨row, row', poolSeats, hrow, ⟨openPool, hopen, -, -, rfl, rfl⟩, rfl⟩ :=
    takeStatement_some hself (by rw [hplaced]) htake
  rw [← hquantity]
  refine ⟨row, openPool, hdate ▸ hrow, hopen, rfl, ?_⟩
  intro held hheld
  have hput : held ∈ (holds.put { hold with poolSeats := min openPool hold.quantity }).rows := hheld
  rcases (Table.mem_put (by exact hself)).mp hput with rfl | ⟨hmem, hne⟩
  · exact .inr ⟨hid, hdate, rfl⟩
  · rcases (Table.mem_insert hinserted).mp hmem with hbefore | rfl
    · exact .inl ⟨hbefore, fun heq => hne (heq.trans hid.symm)⟩
    · exact absurd rfl hne

/-- A hold placed records what its statement took of the pool. -/
theorem PooledDb.Recorded.placed [LawfulSalesRules] (h : s.Recorded) {placement : SeatHoldPlacement}
    {fromPool : Bool} {now : Instant}
    (hperform : (PoolAction.placeHold placement fromPool now).perform s.db = .ok db') :
    (s.after (.placeHold placement fromPool now) db').Recorded := by
  obtain ⟨row, openPool, hrow, hopen, hsales, hholds⟩ := perform_placeHold hperform
  have hpool : 0 ≤ row.priorityPoolSeats := h.pools row (Table.mem_of_find? hrow)
  have hdate : row.dateId = placement.dateId := Table.key_of_find? hrow
  have htaken : 0 ≤ min openPool (placement.quantity : ℤ) ∧
      min openPool (placement.quantity : ℤ) ≤ row.priorityPoolSeats := by
    rcases hopen with rfl | rfl
    · omega
    · omega
  have hself : s.db.sales.find? row.dateId = some row := by rw [hdate, hrow]
  have hafter : db'.sales.find? placement.dateId =
      some (Db.takenFromPool row openPool placement.quantity) := by
    rw [hsales, ← hdate]
    exact Table.find?_put_self (a := Db.takenFromPool row openPool placement.quantity) hself
  have hdrew : s.db.poolOf placement.dateId - db'.poolOf placement.dateId =
      min openPool placement.quantity := by
    unfold Db.poolOf
    rw [hrow, hafter]
    show row.priorityPoolSeats - (row.priorityPoolSeats - min openPool placement.quantity) = _
    omega
  have hdrawn : (s.after (.placeHold placement fromPool now) db').drawn =
      Function.update s.drawn placement.id
        ⟨s.windows placement.dateId, min openPool placement.quantity⟩ := by
    rw [← hdrew]
    rfl
  refine ⟨?_, ?_, ?_, ?_⟩
  · have hstocked : s.db.PoolsStocked := h.pools
    have hput : (s.db.putSales (Db.takenFromPool row openPool placement.quantity)).PoolsStocked :=
      hstocked.putSales hrow hdate fun _ => by
        show 0 ≤ row.priorityPoolSeats - min openPool placement.quantity
        omega
    intro other hother
    refine hput other ?_
    rw [Db.putSales_sales, ← hsales]
    exact hother
  · intro hold hhold
    rw [hdrawn]
    rcases hholds hold hhold with ⟨hmem, hne⟩ | ⟨hid, -, hseats⟩
    · rw [Function.update_of_ne hne]
      exact h.drawn hold hmem
    · rw [hid, Function.update_self, hseats]
  · intro hold hhold
    rcases hholds hold hhold with ⟨hmem, -⟩ | ⟨-, -, hseats⟩
    · exact h.nonneg hold hmem
    · omega
  · intro hold hhold
    rw [hdrawn]
    rcases hholds hold hhold with ⟨hmem, hne⟩ | ⟨hid, hheld, -⟩
    · rw [Function.update_of_ne hne]
      exact (h.windows hold hmem).trans (windows_after s _ db' hold.dateId)
    · rw [hid, Function.update_self, hheld]
      exact windows_after s _ db' placement.dateId

omit [SalesRules] in
/-- A pool gives no more seats than it has. -/
theorem takeAndSellSeats_pools {db : Db} {dateId : Uuid} {quantity : ℕ} {fromPool : Bool}
    {now : Instant} (h : db.takeAndSellSeats dateId quantity now fromPool = some db') :
    PoolsKept db db' := by
  unfold Db.takeAndSellSeats at h
  refine PoolsKept.updateSales h fun row => ⟨rfl, fun hpool => ?_⟩
  unfold Db.takenFromPool
  dsimp only
  rcases openPoolAt_cases row now with hopen | hopen
  · rw [hopen]
    split_ifs
    · omega
    · omega
  · rw [hopen]
    split_ifs
    · omega
    · omega

/-- Every step keeps the record. -/
theorem PooledDb.Recorded.advance [LawfulSalesRules] (h : s.Recorded) (action : PoolAction) :
    (s.advance action).Recorded := by
  unfold PooledDb.advance
  cases hperform : action.perform s.db with
  | error refusal => exact h
  | ok db' =>
      cases action with
      | placeHold placement fromPool now => exact h.placed hperform
      | releaseHold holdId now =>
          simp only [PoolAction.perform, bind_ok_iff, pure_ok_iff] at hperform
          obtain ⟨⟨mid, left⟩, hleave, rfl⟩ := hperform
          obtain ⟨hold, hfind, rfl, rfl⟩ := leaveHold_ok hleave
          have hself : s.db.holds.find? hold.id = some hold := by
            rw [Table.key_of_find? hfind, hfind]
          refine h.kept (by simp) ?_ ?_
          · have hstocked : (s.db.putHold (leftHold hold .released)).PoolsStocked := h.pools
            exact hstocked.returned (h.nonneg hold (Table.mem_of_find? hfind))
          · rw [holds_returnHeldSeats]
            exact holds_putHold hself rfl rfl
      | expireHold holdId now =>
          simp only [PoolAction.perform, bind_ok_iff, orRefuse_ok_iff, pure_ok_iff] at hperform
          obtain ⟨hold, hfind, _, -, rfl⟩ := hperform
          refine h.kept (by simp) ?_ ?_
          · have hstocked : (s.db.expireHolds [holdId]).PoolsStocked := h.pools
            exact hstocked.returned (h.nonneg hold (Table.mem_of_find? hfind))
          · rw [holds_returnHeldSeats]
            intro left hleft
            obtain ⟨before, hbefore, rfl⟩ := List.mem_map.mp hleft
            refine ⟨before, hbefore, ?_, ?_, ?_⟩ <;> split_ifs <;> rfl
      | sellHold holdId dateId quantity =>
          simp only [PoolAction.perform, bind_ok_iff, pure_ok_iff] at hperform
          obtain ⟨⟨mid, left⟩, hleave, rfl⟩ := hperform
          obtain ⟨hold, hfind, rfl, rfl⟩ := leaveHold_ok hleave
          have hself : s.db.holds.find? hold.id = some hold := by
            rw [Table.key_of_find? hfind, hfind]
          have hkept : PoolsKept (s.db.putHold (leftHold hold .consumed))
              ((s.db.putHold (leftHold hold .consumed)).sellHeldSeats dateId quantity) :=
            PoolsKept.updateSales_getD fun row => ⟨rfl, id⟩
          refine h.kept (by simp) (hkept.pools h.pools) ?_
          rw [hkept.holds]
          exact holds_putHold hself rfl rfl
      | takeAndSell dateId quantity fromPool now =>
          exact h.of_pools (by simp) (takeAndSellSeats_pools (orRefuse_ok_iff.mp hperform))
      | releaseSold dateId quantity =>
          have hreleased := orRefuse_ok_iff.mp hperform
          exact h.of_pools (by simp) (PoolsKept.updateSales hreleased fun row => ⟨rfl, id⟩)
      | sale action => exact h.of_pools (by simp) (WaitlistAction.perform_pools hperform)
      | records orders settlements credits =>
          obtain rfl := pure_ok_iff.mp hperform
          exact h.of_pools (by simp) (.of_tables rfl rfl)

end Steps

/-! ## Every run -/

section Runs

variable [SalesRules] [LawfulSalesRules] {actions before : List PoolAction} {action : PoolAction}

omit [LawfulSalesRules] in
theorem reached_concat (before : List PoolAction) (action : PoolAction) :
    PooledDb.reached (before ++ [action]) = (PooledDb.reached before).advance action :=
  List.foldl_concat PooledDb.advance PooledDb.empty action before

theorem recorded_reached (actions : List PoolAction) : (PooledDb.reached actions).Recorded := by
  induction actions using List.reverseRecOn with
  | nil => exact recorded_empty
  | append_singleton before action ih =>
      rw [reached_concat]
      exact ih.advance action

/-- Seats drawn from the public never enter a pool by being returned: it gains what the hold drew of
one at most. -/
theorem pool_gains_drawn (actions : List PoolAction) {hold : SeatHoldSnapshot} {now : Instant}
    (h : action.returning (PooledDb.reached actions).db = some (hold, now)) :
    ((PooledDb.reached actions).advance action).db.poolOf hold.dateId ≤
      (PooledDb.reached actions).db.poolOf hold.dateId +
        ((PooledDb.reached actions).drawn hold.id).poolSeats := by
  have hrecorded := recorded_reached actions
  have hmem := Table.mem_of_find? (PoolAction.returning_active h).1
  have hdrawn := hrecorded.drawn hold hmem
  have hnonneg := hrecorded.nonneg hold hmem
  unfold Db.poolOf
  rw [find?_advance_returning h]
  cases hrow : (PooledDb.reached actions).db.sales.find? hold.dateId with
  | none =>
      show (0 : ℤ) ≤ 0 + _
      omega
  | some row =>
      rw [Option.map_some, if_pos rfl, returned_eq_back hrow]
      show row.priorityPoolSeats + _ ≤ row.priorityPoolSeats + _
      split_ifs
      · omega
      · omega

/-- Over every run: each hold given back returns what it drew to the pool exactly while its own window
is open, if and only if no hold with seats of a pool is given back in a window opened since its own. -/
theorem pool_seats_go_back_iff (actions : List PoolAction) :
    (∀ before action, before ++ [action] <+: actions →
      (PooledDb.reached before).SeatsGoBack action) ↔
    ∀ before action, before ++ [action] <+: actions →
      ¬ (PooledDb.reached before).OutlivesWindow action := by
  constructor
  · intro hback before action hprefix
    exact (seatsGoBack_iff (recorded_reached before)).mp (hback before action hprefix)
  · intro hnever before action hprefix
    exact (seatsGoBack_iff (recorded_reached before)).mpr (hnever before action hprefix)

end Runs

section Sample

open Sample

/-- A tier opened for the one account on a sold-out date's list, which holds two of its five seats. -/
def sampleDrawn : List PoolAction :=
  [.sale (.applyFact 1 (.drafted 2) 0), .sale (.applyFact 1 (.lock 1) 1),
    .sale (.applyFact 1 (.start 1000000 2) 2), .sale (.join 1 11 21 100),
    .sale (.openTier 1 ⟨3, 5, true⟩ 31 200),
    .placeHold ⟨41, 1, some 11, none, .full, 2, .checkout, 51, 87000⟩ true 86100]

/-- Its window ends, the rest sells out, and a second tier opens for another account. -/
def sampleOutlived : List PoolAction :=
  sampleDrawn ++ [.sale (.endWindow 1 86600), .takeAndSell 1 3 false 86610,
    .sale (.join 1 12 22 86650), .sale (.openTier 1 ⟨4, 4, true⟩ 32 86700)]

/-- Its hold, two seats of the first window's pool. -/
def sampleHeld : SeatHoldSnapshot :=
  ⟨41, 1, some 11, none, .full, 2, 2, .checkout, 51, 87000, .active, 1⟩

/-- The first window's two seats, released in the second, enter its pool. -/
theorem later_window_takes_seats :
    ¬ ∀ actions before action, before ++ [action] <+: actions →
      (PooledDb.reached before).SeatsGoBack action := by
  intro hall
  have hback := hall (sampleOutlived ++ [.releaseHold 41 86800]) sampleOutlived
    (.releaseHold 41 86800) (List.prefix_refl _)
  have hreturning : (PoolAction.releaseHold 41 86800).returning
      (PooledDb.reached sampleOutlived).db = some (sampleHeld, 86800) := by decide +kernel
  have hpools := congrArg (Option.map DateSalesSnapshot.priorityPoolSeats)
    (hback sampleHeld 86800 hreturning 1)
  revert hpools
  decide +kernel

/-- Released in its own window, the hold gives them back to its pool. -/
theorem pool_seats_go_back_iff_sample :
    (PooledDb.reached sampleDrawn).SeatsGoBack (.releaseHold 41 86200) := by
  refine (pool_seats_go_back_iff (sampleDrawn ++ [.releaseHold 41 86200])).mpr ?_
    sampleDrawn _ (List.prefix_refl _)
  intro before action hprefix
  rintro ⟨hold, now, hreturning, -, -, hlater⟩
  rcases List.prefix_concat_iff.mp hprefix with hlast | hearlier
  · obtain ⟨rfl, hsame⟩ := List.append_inj' hlast rfl
    obtain rfl := (List.cons.inj hsame).1
    have hheld : (PoolAction.releaseHold 41 86200).returning (PooledDb.reached sampleDrawn).db =
        some (sampleHeld, 86200) := by decide +kernel
    rw [hheld, Option.some.injEq, Prod.mk.injEq] at hreturning
    obtain ⟨rfl, -⟩ := hreturning
    revert hlater
    decide +kernel
  · have hmem : action ∈ sampleDrawn := hearlier.subset (by simp)
    have hnone : ∀ action ∈ sampleDrawn, ∀ db, action.returning db = none := by
      simp [sampleDrawn, PoolAction.returning]
    rw [hnone action hmem] at hreturning
    cases hreturning

end Sample

end Arthome.Ticketing
