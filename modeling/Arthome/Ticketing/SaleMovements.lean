import Arthome.Ticketing.ExpiryMovements
import Arthome.Ticketing.SaleClosing
import Arthome.Ticketing.WaitlistCounts

/-!
# The movements of a date's sale

The transactions that move a date's row and its waiting list are sequences of
movements too. A fact of the catalog's moves one row, and states the date's outcome
when that is the fact; a tier opened and a window ended move its counters; an
account joins and leaves beside them.
-/

namespace Arthome.Ticketing

open Arthome.Core Library

section Performed

variable [SalesRules] {sales sales' : DateSalesSnapshot} {now : Instant} {op : SaleOperation}

/-- Nothing decided about a sale but a hold or a tier moves its counters. -/
theorem perform_counters (hheld : ∀ quantity, op ≠ .holdSeats quantity)
    (htier : ∀ expectedVersion additionalCapacity notifyWaitlist tierId,
      op ≠ .openCapacityTier expectedVersion additionalCapacity notifyWaitlist tierId)
    (h : op.perform sales now = some sales') : sales'.counters = sales.counters := by
  cases op with
  | lockPrices engagedAt =>
      simp only [SaleOperation.perform, DateSales.lockPrices] at h
      split_ifs at h
      exact Option.some.inj h ▸ rfl
  | recordSchedule startsAt statedAt =>
      simp only [SaleOperation.perform, DateSales.recordSchedule] at h
      split at h
      · cases h
      · exact Option.some.inj h ▸ rfl
  | recordOutcome outcome statedAt =>
      simp only [SaleOperation.perform, DateSales.recordOutcome] at h
      split at h
      · cases h
      · exact Option.some.inj h ▸ rfl
  | endSales =>
      simp only [SaleOperation.perform, DateSales.endSales] at h
      split at h
      · cases h
      · split_ifs at h
        exact Option.some.inj h ▸ rfl
  | holdSeats quantity => exact (hheld quantity rfl).elim
  | setPrices expectedVersion tiers =>
      obtain ⟨-, rfl⟩ := DateSales.setPrices_ok (toOption_eq_some_iff.mp h)
      rfl
  | openCapacityTier expectedVersion additionalCapacity notifyWaitlist tierId =>
      exact (htier expectedVersion additionalCapacity notifyWaitlist tierId rfl).elim
  | setTechnicalProvision expectedVersion provisionedCapacity =>
      rw [DateSales.setTechnicalProvision_ok (toOption_eq_some_iff.mp h)]
      rfl

/-- A sale closed by its outcome stays closed until another outcome is stated. -/
theorem perform_kept (houtcome : ∀ outcome statedAt, op ≠ .recordOutcome outcome statedAt)
    (h : op.perform sales now = some sales') : SaleKept sales sales' := by
  have hfacts := congrArg SaleFacts.outcome (SaleOperation.perform_facts h)
  rw [SaleFacts.after_outcome _ houtcome] at hfacts
  refine ⟨SaleOperation.perform_dateId h, hfacts, fun hclosed => ?_⟩
  rw [SaleOperation.perform_closedAt h]
  obtain ⟨hat, hended⟩ := hclosed
  unfold DateSalesSnapshot.closedAtAfter
  cases op with
  | recordSchedule startsAt statedAt =>
      have hbyTime : DateSales.closedByTime sales = false := by
        rw [← Bool.not_eq_true, closedByTime_iff]
        exact fun hnot => hnot.2 hended
      simpa only [hbyTime, Bool.false_and, if_neg Bool.false_ne_true] using hat
  | recordOutcome outcome statedAt => exact (houtcome outcome statedAt rfl).elim
  | endSales =>
      obtain ⟨-, salesEndAt, hend, -⟩ := SaleOperation.perform_endSales h
      exact Option.isSome_iff_exists.mpr ⟨salesEndAt, hend⟩
  | _ => exact hat

/-- An outcome stated closes the sale when it is one that does. -/
theorem perform_outcome {outcome : DateOutcome} {statedAt : Instant}
    (h : SaleOperation.perform sales now (.recordOutcome outcome statedAt) = some sales') :
    SaleMove sales sales' (.outcomeStated sales.dateId outcome) ∧
      (outcome ∈ outcomesClosingSales → sales'.ClosedByOutcome) := by
  have hclosedAt := SaleOperation.perform_closedAt h
  have hcounters := perform_counters (by simp) (by simp) h
  simp only [SaleOperation.perform, DateSales.recordOutcome] at h
  split at h
  · cases h
  have houtcome : sales'.outcome = some outcome := Option.some.inj h ▸ rfl
  have hclosed : outcome ∈ outcomesClosingSales ∨ sales.salesClosedAt.isSome →
      sales'.salesClosedAt.isSome := by
    intro hcloses
    rw [hclosedAt]
    unfold DateSalesSnapshot.closedAtAfter
    dsimp only
    split_ifs with hmem
    · cases sales.salesClosedAt with
      | none => rfl
      | some closedAt => rfl
    · exact hcloses.resolve_left hmem
  refine ⟨.outcomeStated outcome ?_ hcounters houtcome hclosed, fun hmem => ?_⟩
  · exact Option.some.inj h ▸ rfl
  · exact ⟨hclosed (.inl hmem), outcome, hmem, houtcome⟩

end Performed

/-- The movements of a date's row and list: of no counter, or of its own. -/
def IsCounted (_ : Db) (label : Label) : Prop := label = .quiet ∨ label = .counters

section Statements

variable [OrderRules] {db db' : Db} {dateId : Uuid}

theorem moved_counted (h : Db.Moved IsQuiet db db') : Db.Moved IsCounted db db' :=
  h.mono fun _ _ hquiet => .inl hquiet

/-- A row rewritten with its counters, its outcome and its closing as they were. -/
theorem quiet_moved {row row' : DateSalesSnapshot} (hrow : db.sales.find? dateId = some row)
    (hkept : SaleKept row row') (hcounters : row'.counters = row.counters) :
    Movement db .quiet (db.putSales row') := by
  have hself : db.sales.find? row'.dateId = some row := by
    rw [hkept.dateId, Table.key_of_find? hrow]
    exact hrow
  exact .sale hself (.quiet hkept hcounters)

omit [OrderRules] in
theorem saveSales_putSales {stored current : DateSalesSnapshot}
    (hstored : db.sales.find? dateId = some stored) (hdate : current.dateId = dateId)
    (h : db.saveSales stored current = .ok db') : db' = db.putSales current :=
  saveSales_datedRows hstored hdate h

theorem moveWaitlistCount_moved {delta : ℤ} {refusal : Refusal}
    (h : orRefuse (db.moveWaitlistCount dateId delta) refusal = .ok db') :
    Movement db .quiet db' := by
  obtain ⟨row, hrow, rfl⟩ := moveWaitlistCount_ok h
  exact quiet_moved hrow ⟨rfl, rfl, fun hclosed => hclosed.1⟩ rfl

variable [SalesRules] {now : Instant}

/-- An operation that only notes something on the row just read, saved. -/
theorem performed_moved {op : SaleOperation} {sales current : DateSalesSnapshot}
    (houtcome : ∀ outcome statedAt, op ≠ .recordOutcome outcome statedAt)
    (hheld : ∀ quantity, op ≠ .holdSeats quantity)
    (htier : ∀ expectedVersion additionalCapacity notifyWaitlist tierId,
      op ≠ .openCapacityTier expectedVersion additionalCapacity notifyWaitlist tierId)
    (hsales : db.sales.find? dateId = some sales) (hperform : op.perform sales now = some current)
    (hsave : db.saveSales sales current = .ok db') : Movement db .quiet db' := by
  have hkept := perform_kept houtcome hperform
  obtain rfl := saveSales_putSales hsales (hkept.dateId.trans (Table.key_of_find? hsales)) hsave
  exact quiet_moved hsales hkept (perform_counters hheld htier hperform)

/-- A set-based move from states of the list brings nobody onto it. -/
theorem moveEntries_moved {sources : List WaitlistEntryState} {target : WaitlistEntryState}
    {chosen : WaitlistEntrySnapshot → Bool} {set : WaitlistEntrySnapshot → WaitlistEntrySnapshot}
    {moved : ℕ} (h : db.moveEntries dateId sources target chosen set = .ok (db', moved))
    (hsources : ∀ state ∈ sources, isOnWaitlist (some state) = true) : Movement db .quiet db' := by
  unfold Db.moveEntries at h
  simp only [bind_ok_iff, pure_ok_iff] at h
  obtain ⟨_, -, h⟩ := h
  obtain ⟨rfl, rfl⟩ := Prod.mk.inj h
  refine .entries fun entry hentry hlisted => .inl ?_
  obtain ⟨before, hbefore, rfl⟩ := List.mem_map.mp hentry
  refine ⟨before, hbefore, ?_⟩
  split_ifs at hlisted ⊢ with hmoves
  · simp only [Bool.and_eq_true, decide_eq_true_eq] at hmoves
    exact ⟨rfl, hsources before.state hmoves.1.2⟩
  · exact ⟨rfl, hlisted⟩

theorem notifyAll_moved (h : db.notifyAll dateId now = .ok db') : Movement db .quiet db' := by
  unfold Db.notifyAll at h
  simp only [bind_ok_iff, pure_ok_iff] at h
  obtain ⟨⟨told, count⟩, hmove, rfl⟩ := h
  exact moveEntries_moved hmove (by decide)

theorem endNotified_moved {otherwise : WaitlistEntryState} {moved : ℕ}
    (h : db.endNotified dateId otherwise now = .ok (db', moved)) : Db.Moved IsQuiet db db' := by
  unfold Db.endNotified at h
  simp only [bind_ok_iff, pure_ok_iff] at h
  obtain ⟨⟨converted, count⟩, hconvert, ⟨ended, rest⟩, hend, h⟩ := h
  obtain ⟨rfl, rfl⟩ := Prod.mk.inj h
  have hconverted : Db.Moved IsQuiet db converted :=
    .single rfl (moveEntries_moved hconvert (by decide))
  exact hconverted.tail rfl (moveEntries_moved hend (by decide))

theorem closeWaiting_moved (h : db.closeWaiting dateId now = .ok db') : Movement db .quiet db' := by
  unfold Db.closeWaiting at h
  simp only [bind_ok_iff, pure_ok_iff] at h
  obtain ⟨⟨closed, count⟩, hclose, rfl⟩ := h
  exact moveEntries_moved hclose (by decide)

end Statements

section Transactions

variable [OrderRules] [SalesRules] {db db' : Db} {dateId accountId : Uuid} {now : Instant}

/-! ## The studio's commands and the sweepers -/

theorem setPricesIn_moved {expectedVersion : ℕ} {tiers : List TierPrice}
    (h : setPricesIn db dateId expectedVersion tiers = .ok db') : Db.Moved IsQuiet db db' := by
  unfold setPricesIn commandIn at h
  simp only [bind_ok_iff] at h
  obtain ⟨sales, hsales, current, hcurrent, hsave⟩ := h
  have hperform : (SaleOperation.setPrices expectedVersion tiers).perform sales 0 = some current :=
    toOption_eq_some_iff.mpr hcurrent
  exact .single rfl
    (performed_moved (by simp) (by simp) (by simp) (orRefuse_ok_iff.mp hsales) hperform hsave)

theorem setTechnicalProvisionIn_moved {expectedVersion : ℕ} {provisionedCapacity : ℤ}
    (h : setTechnicalProvisionIn db dateId expectedVersion provisionedCapacity now = .ok db') :
    Db.Moved IsQuiet db db' := by
  unfold setTechnicalProvisionIn commandIn at h
  simp only [bind_ok_iff] at h
  obtain ⟨sales, hsales, current, hcurrent, hsave⟩ := h
  have hperform : (SaleOperation.setTechnicalProvision expectedVersion provisionedCapacity).perform
      sales now = some current := toOption_eq_some_iff.mpr hcurrent
  exact .single rfl
    (performed_moved (by simp) (by simp) (by simp) (orRefuse_ok_iff.mp hsales) hperform hsave)

theorem closeEndedSale_moved (h : closeEndedSale db dateId now = .ok db') :
    Db.Moved IsQuiet db db' := by
  unfold closeEndedSale at h
  split at h
  · exact pure_ok_iff.mp h ▸ .refl
  · rename_i sales ended hended
    obtain ⟨row, hrow, hmap⟩ := Option.bind_eq_some_iff.mp hended
    obtain ⟨closed, hclosed, hpair⟩ := Option.map_eq_some_iff.mp hmap
    obtain ⟨rfl, rfl⟩ := Prod.mk.inj hpair
    have hperform : SaleOperation.endSales.perform row now = some closed := hclosed
    exact .single rfl (performed_moved (by simp) (by simp) (by simp) hrow hperform h)

/-- A window's end moves its pool on public sale, once its notified entries ended. -/
theorem endDuePriorityWindow_moved {ended : Bool}
    (h : endDuePriorityWindow db dateId now = .ok (db', ended)) : Db.Moved IsCounted db db' := by
  unfold endDuePriorityWindow at h
  split at h
  · obtain ⟨rfl, -⟩ := Prod.mk.inj (pure_ok_iff.mp h)
    exact .refl
  · rename_i claimed hclaimed
    obtain ⟨hrow, hdue⟩ := Option.filter_eq_some_iff.mp hclaimed
    have hopen : claimed.priorityUntil.isSome = true := by
      obtain ⟨priorityUntil, hpriority, -⟩ := Option.any_eq_true _ _ |>.mp hdue
      rw [hpriority]
      rfl
    simp only [bind_ok_iff] at h
    obtain ⟨⟨mid, entriesEnded⟩, hentries, after, hwindow, h⟩ := h
    obtain ⟨rfl, -⟩ := Prod.mk.inj (pure_ok_iff.mp h)
    have hoff : isOnWaitlist (some (if claimed.outcome.any SalesRules.outcomeEndsWaitlist
        then WaitlistEntryState.closed else .lapsed)) = false := by
      split_ifs
      · rfl
      · rfl
    obtain ⟨hframe, -, -⟩ := endNotified_listMoved hentries hoff
    have hmid : mid.sales.find? dateId = some claimed := by
      rw [hframe]
      exact hrow
    unfold Db.endPriorityWindow at hwindow
    simp only [bind_ok_iff, pure_ok_iff] at hwindow
    obtain ⟨_, -, rfl⟩ := hwindow
    rw [updateSales_eq hmid, if_pos hopen, Option.getD_some]
    have hself : mid.sales.find? claimed.dateId = some claimed := by
      rw [Table.key_of_find? hmid]
      exact hmid
    refine (moved_counted (endNotified_moved hentries)).tail (.inr rfl)
      (.sale hself (.windowEnded ?_ ?_))
    · exact ⟨rfl, rfl, fun hclosed => hclosed.1⟩
    · rfl

/-- A tier opened adds its seats to the public counter or to the pool. -/
theorem openIn_moved [LawfulSalesRules] {body : OpenCapacityTierBody} {tierId : Uuid}
    (h : openIn db dateId body tierId now = .ok db') : Db.Moved IsCounted db db' := by
  unfold openIn at h
  simp only [bind_ok_iff] at h
  obtain ⟨⟨due, ended⟩, hdue, sales, hsales, ⟨current, priorityUntil⟩, hwiden, saved, hsave, h⟩ := h
  have hended := endDuePriorityWindow_moved hdue
  have hrow : due.sales.find? dateId = some sales := orRefuse_ok_iff.mp hsales
  obtain ⟨-, hwidens, rfl⟩ := DateSales.openCapacityTier_ok hwiden
  have hpos : 0 < body.additionalCapacity := by
    have := LawfulSalesRules.tier_widens _ _ hwidens
    omega
  have hself : due.sales.find? sales.dateId = some sales := by
    rw [Table.key_of_find? hrow]
    exact hrow
  obtain rfl := saveSales_putSales hself (by rfl) hsave
  cases priorityUntil with
  | none =>
      obtain rfl := pure_ok_iff.mp h
      refine hended.tail (.inr rfl) (.sale hself (.tierOnSale ?_ _ hpos ?_))
      · exact ⟨rfl, rfl, fun hclosed => hclosed.1⟩
      · rfl
  | some priorityUntil =>
      refine Moves.tail ?_ (.inl rfl) (notifyAll_moved h)
      refine hended.tail (.inr rfl) (.sale hself (.tierPooled ?_ _ hpos priorityUntil ?_))
      · exact ⟨rfl, rfl, fun hclosed => hclosed.1⟩
      · rfl

/-! ## An account and the list -/

omit [SalesRules] in
/-- An entry brought onto the list of a sale that no outcome closed. -/
theorem listed_moved {entries : Table WaitlistEntrySnapshot.id} {sales : DateSalesSnapshot}
    (hrow : db.sales.find? dateId = some sales) (hopen : ¬ sales.ClosedByOutcome)
    (hentries : ∀ entry ∈ entries.rows, entry ∈ db.entries.rows ∨ entry.dateId = dateId) :
    Movement db .quiet { db with entries } := by
  refine .entries fun entry hentry hlisted => ?_
  rcases hentries entry hentry with hbefore | hdate
  · exact .inl ⟨entry, hbefore, rfl, hlisted⟩
  · exact .inr ⟨sales, hdate ▸ hrow, hopen⟩

theorem joinIn_moved [LawfulSalesRules] {entryId : Uuid}
    (h : joinIn db dateId accountId entryId now = .ok db') : Db.Moved IsQuiet db db' := by
  unfold joinIn at h
  simp only [bind_ok_iff] at h
  obtain ⟨sales, hsales, _, -, salesEndAt, -, h⟩ := h
  have hrow : db.sales.find? dateId = some sales := orRefuse_ok_iff.mp hsales
  have hopen : ∀ {u}, SalesRules.assertWaitlistJoinable
      ⟨sales.seatsAvailable, salesEndAt, sales.outcome, now⟩ = .ok u → ¬ sales.ClosedByOutcome := by
    rintro u hjoinable ⟨-, outcome, hmem, houtcome⟩
    obtain ⟨hcancelled, hinterrupted⟩ := LawfulSalesRules.joinable_open _ hjoinable
    simp only [outcomesClosingSales, List.mem_cons, List.not_mem_nil, or_false] at hmem
    rcases hmem with rfl | rfl
    · exact hcancelled houtcome
    · exact hinterrupted houtcome
  split at h
  · rename_i entry hentry
    split_ifs at h
    · exact pure_ok_iff.mp h ▸ .refl
    · simp only [bind_ok_iff] at h
      obtain ⟨_, hjoinable, moved, hrejoin, hmove⟩ := h
      obtain ⟨hstored, hdate, -⟩ := findByAccount_ok hentry
      have hsame : moved.id = entry.id ∧ moved.dateId = entry.dateId := by
        unfold WaitlistEntry.rejoin WaitlistEntry.moveTo at hrejoin
        simp only [bind_ok_iff, pure_ok_iff] at hrejoin
        obtain ⟨_, ⟨_, -, rfl⟩, rfl⟩ := hrejoin
        exact ⟨rfl, rfl⟩
      have hsaved : Movement db .quiet (db.saveEntry moved) := by
        refine listed_moved hrow (hopen hjoinable) fun other hother => ?_
        rcases (Table.mem_put (hsame.1 ▸ hstored)).mp hother with rfl | ⟨hkept, -⟩
        · exact .inr (hsame.2.trans hdate)
        · exact .inl hkept
      have hfirst : Db.Moved IsQuiet db (db.saveEntry moved) := .single rfl hsaved
      exact hfirst.tail rfl (moveWaitlistCount_moved hmove)
  · simp only [bind_ok_iff] at h
    obtain ⟨_, hjoinable, mid, hinsert, hmove⟩ := h
    obtain ⟨hframe, hmem, -⟩ := insertEntry_listMoved hinsert
    have hinserted : Movement db .quiet mid := by
      rw [hframe]
      refine listed_moved hrow (hopen hjoinable) fun other hother => ?_
      rcases hmem other hother with rfl | hbefore
      · exact .inr rfl
      · exact .inl hbefore
    have hfirst : Db.Moved IsQuiet db mid := .single rfl hinserted
    exact hfirst.tail rfl (moveWaitlistCount_moved hmove)

theorem leaveIn_moved (h : leaveIn db dateId accountId now = .ok db') : Db.Moved IsQuiet db db' := by
  unfold leaveIn at h
  simp only [bind_ok_iff] at h
  obtain ⟨_, -, h⟩ := h
  split at h
  · exact pure_ok_iff.mp h ▸ .refl
  · rename_i entry hentry
    obtain ⟨hstored, hdate, -⟩ := findByAccount_ok hentry
    rw [bind_ok_iff] at h
    obtain ⟨left, hleft, h⟩ := h
    unfold WaitlistEntry.leave WaitlistEntry.moveTo at hleft
    split_ifs at hleft with hlisted
    · simp only [bind_ok_iff, pure_ok_iff] at hleft
      obtain ⟨_, ⟨_, -, rfl⟩, rfl⟩ := hleft
      let gone : WaitlistEntrySnapshot :=
        { entry with state := .left, version := entry.version + 1, endedAt := some now }
      have hgone : db.entries.find? gone.id = some entry := hstored
      have hsaved : Movement db .quiet (db.saveEntry gone) := by
        refine .entries fun other hother hon => .inl ?_
        rcases (Table.mem_put hgone).mp hother with rfl | ⟨hkept, -⟩
        · cases hon
        · exact ⟨other, hkept, rfl, hon⟩
      have hfirst : Db.Moved IsQuiet db (db.saveEntry gone) := .single rfl hsaved
      exact hfirst.tail rfl (moveWaitlistCount_moved h)
    · rw [pure_ok_iff] at hleft
      obtain rfl := hleft
      exact pure_ok_iff.mp h ▸ .refl

/-- The end of a list: nobody is left on it, and the pool goes on public sale. -/
theorem endWaitlist_moved (h : endWaitlist db dateId now = .ok db') :
    Db.Moved IsCounted db db' := by
  unfold endWaitlist at h
  split at h
  · exact pure_ok_iff.mp h ▸ .refl
  rename_i settlement hclaimed
  obtain ⟨hsettlement, -⟩ := Option.filter_eq_some_iff.mp hclaimed
  have hkey : settlement.dateId = dateId := Table.key_of_find? hsettlement
  split_ifs at h with halready hnone
  · exact pure_ok_iff.mp h ▸ .refl
  · simp only [bind_ok_iff, pure_ok_iff] at h
    obtain ⟨_, rfl, rfl⟩ := h
    refine .single (.inl rfl) (.settlement (hkey ▸ hsettlement) (.waitlistEnded now ?_))
    intro hsome
    rw [hkey, Option.isNone_iff_eq_none.mp hnone] at hsome
    cases hsome
  · simp only [bind_ok_iff, pure_ok_iff] at h
    obtain ⟨⟨mid, n⟩, hnotified, closed, hclosed, _, rfl, rfl⟩ := h
    obtain ⟨hframe, -, hcleared⟩ := endNotified_listMoved hnotified rfl
    obtain ⟨hframe', -, hstates⟩ := closeWaiting_listMoved hclosed
    have hnobody : ∀ entry ∈ closed.entries.rows, entry.dateId = dateId →
        ¬ WaitlistEntry.isOnList entry = true := by
      intro entry hentry hdate hlisted
      obtain ⟨hwaiting, hkept⟩ := hstates entry hentry hdate
      simp only [WaitlistEntry.isOnList, isOnWaitlist, Bool.or_eq_true, decide_eq_true_eq,
        Option.some.injEq] at hlisted
      refine hlisted.elim hwaiting fun hstate => ?_
      exact hcleared entry (hkept hstate) hdate hstate
    have hcounted : Db.Moved IsCounted db (closed.closeWaitlist dateId) := by
      have hlist : Db.Moved IsCounted db closed :=
        (moved_counted (endNotified_moved hnotified)).tail (.inl rfl) (closeWaiting_moved hclosed)
      unfold Db.closeWaitlist
      cases hrow : closed.sales.find? dateId with
      | none =>
          simp only [Db.updateSales, hrow, Option.getD_none]
          exact hlist
      | some row =>
          rw [updateSales_eq hrow]
          split_ifs with hmoves
          · have hself : closed.sales.find? row.dateId = some row := by
              rw [Table.key_of_find? hrow]
              exact hrow
            rw [Option.getD_some]
            refine hlist.tail (.inr rfl) (.sale hself (.windowEnded ?_ ?_))
            · exact ⟨rfl, rfl, fun hclosed => hclosed.1⟩
            · rfl
          · exact hlist
    have hkept : (closed.closeWaitlist dateId).settlements = db.settlements ∧
        (closed.closeWaitlist dateId).entries = closed.entries := by
      have hclosed : closed.settlements = db.settlements := by rw [hframe', hframe]
      unfold Db.closeWaitlist Db.updateSales
      split
      · exact ⟨hclosed, rfl⟩
      · split_ifs
        · exact ⟨hclosed, rfl⟩
        · exact ⟨hclosed, rfl⟩
    refine hcounted.tail (.inl rfl) (.settlement ?_ (.waitlistEnded now ?_))
    · rw [hkept.1]
      exact hkey ▸ hsettlement
    · intro _ entry hentry hdate
      rw [hkept.2] at hentry
      exact hnobody entry hentry (hdate.trans hkey)

/-! ## The catalog's facts -/

omit [SalesRules] in
theorem draftedIn_moved {channelId : Uuid} (h : draftedIn db dateId channelId = .ok db') :
    Db.Moved IsQuiet db db' := by
  unfold draftedIn at h
  split_ifs at h
  · exact pure_ok_iff.mp h ▸ .refl
  · unfold Db.insertSales at h
    simp only [bind_ok_iff, orRefuse_ok_iff, pure_ok_iff] at h
    obtain ⟨inserted, hinsert, rfl⟩ := h
    exact .single rfl (.dateOpened rfl rfl hinsert)

/-- The active seats of a date follow its start, order by order. -/
theorem moveSeatCancelDeadlines_moved {startsAt statedAt : Instant} :
    Db.Moved IsQuiet db (moveSeatCancelDeadlines db dateId startsAt statedAt).1 := by
  unfold moveSeatCancelDeadlines
  dsimp only
  split_ifs
  · exact .refl
  · have hmoved : Db.Moved IsQuiet db _ := Db.orders_updated
      (fun record => decide (record.order.dateId = dateId))
      (fun record => { record with order := { record.order with
        seats := movedDeadlines (SalesRules.seatCancelDeadline startsAt) record.order.seats } })
      (fun _ => rfl) fun orders record _ _ hfind =>
        ⟨.quiet, rfl, .order hfind (.deadlines (SalesRules.seatCancelDeadline startsAt))⟩
    simpa only [decide_eq_true_eq] using hmoved

/-- What a fact of the catalog's moves: nothing counted, and the outcome when it states a newer
one. -/
def IsFact (dateId : Uuid) (fact : CatalogDateFact) (db : Db) (label : Label) : Prop :=
  label = .quiet ∨ ∃ outcome statedAt sales, fact = .outcome outcome statedAt ∧
    label = .outcomeStated dateId outcome ∧ db.sales.find? dateId = some sales ∧
    isStale statedAt sales.outcomeStatedAt = false

theorem movedIn_moved {fact : CatalogDateFact} (h : movedIn db dateId fact now = .ok db') :
    Db.Moved (IsFact dateId fact) db db' := by
  have hquiet : ∀ {mid mid' : Db}, Db.Moved IsQuiet mid mid' →
      Db.Moved (IsFact dateId fact) mid mid' := fun hmoved => hmoved.mono fun _ _ => .inl
  unfold movedIn at h
  cases fact with
  | drafted channelId =>
      simp only [applied, bind_ok_iff, pure_ok_iff] at h
      obtain ⟨_, -, _, -, rfl⟩ := h
      exact .refl
  | lock statedAt =>
      simp only [bind_ok_iff] at h
      obtain ⟨sales, hsales, h⟩ := h
      split at h
      · simp only [bind_ok_iff, pure_ok_iff] at h
        obtain ⟨_, -, rfl⟩ := h
        exact .refl
      · rename_i current hcurrent
        simp only [bind_ok_iff, pure_ok_iff] at h
        obtain ⟨saved, hsave, rfl⟩ := h
        have hperform : (SaleOperation.lockPrices statedAt).perform sales now = some current :=
          hcurrent
        exact .single (.inl rfl) (performed_moved (by simp) (by simp) (by simp)
          (orRefuse_ok_iff.mp hsales) hperform hsave)
  | start startsAt statedAt =>
      split at h
      rename_i moved seatsMoved hmoved
      have hdeadlines : Db.Moved IsQuiet db moved := by
        have hrun : Db.Moved IsQuiet db (moveSeatCancelDeadlines db dateId startsAt statedAt).1 :=
          moveSeatCancelDeadlines_moved
        have heq : (moveSeatCancelDeadlines db dateId startsAt statedAt).1 = moved :=
          congrArg Prod.fst hmoved
        exact heq ▸ hrun
      simp only [bind_ok_iff] at h
      obtain ⟨sales, hsales, h⟩ := h
      split at h
      · simp only [bind_ok_iff, pure_ok_iff] at h
        obtain ⟨_, -, rfl⟩ := h
        exact hquiet hdeadlines
      · rename_i current hcurrent
        simp only [bind_ok_iff, pure_ok_iff] at h
        obtain ⟨saved, hsave, rfl⟩ := h
        have hperform : (SaleOperation.recordSchedule startsAt statedAt).perform sales now =
            some current := hcurrent
        exact (hquiet hdeadlines).tail (.inl rfl) (performed_moved (by simp) (by simp) (by simp)
          (orRefuse_ok_iff.mp hsales) hperform hsave)
  | outcome outcome statedAt =>
      simp only [bind_ok_iff] at h
      obtain ⟨sales, hsales, h⟩ := h
      have hrow : db.sales.find? dateId = some sales := orRefuse_ok_iff.mp hsales
      have hself : db.sales.find? sales.dateId = some sales := by
        rw [Table.key_of_find? hrow]
        exact hrow
      split at h
      · simp only [bind_ok_iff, pure_ok_iff] at h
        obtain ⟨_, -, rfl⟩ := h
        exact .refl
      rename_i current hcurrent
      rw [bind_ok_iff] at h
      obtain ⟨saved, hsave, h⟩ := h
      have hperform : (SaleOperation.recordOutcome outcome statedAt).perform sales now =
          some current := hcurrent
      obtain ⟨hmove, hclosed⟩ := perform_outcome hperform
      have hdate : current.dateId = sales.dateId := SaleOperation.perform_dateId hperform
      obtain rfl := saveSales_putSales hself hdate hsave
      have hfresh : isStale statedAt sales.outcomeStatedAt = false := by
        have hsome := SaleOperation.perform_outcome_isSome.mp
          (Option.isSome_iff_exists.mpr ⟨current, hperform⟩)
        exact hsome
      rw [Table.key_of_find? hrow] at hmove
      have hstated : Db.Moved (IsFact dateId (.outcome outcome statedAt)) db (db.putSales current) :=
        .single (.inr ⟨outcome, statedAt, sales, rfl, rfl, hrow, hfresh⟩)
          (.sale (hdate ▸ hself) hmove)
      split_ifs at h with hcloses
      · obtain rfl := pure_ok_iff.mp h
        unfold recordOutcomeToSettle
        split
        · exact hstated
        · rename_i settlements hinsert
          refine hstated.tail (.inl rfl) (.outcomeToSettle ?_ (hclosed hcloses) ?_ ?_ hinsert)
          · show (db.sales.put current).find? dateId = some current
            rw [← Table.key_of_find? hrow, ← hdate]
            exact Table.find?_put_self (hdate ▸ hself)
          · have houtcome := congrArg SaleFacts.outcome (SaleOperation.perform_facts hperform)
            simp only [SaleFacts.after, DateSalesSnapshot.facts, hfresh, if_neg Bool.false_ne_true]
              at houtcome
            exact houtcome
          · exact ⟨rfl, rfl, rfl⟩
      · exact pure_ok_iff.mp h ▸ hstated

end Transactions

end Arthome.Ticketing
