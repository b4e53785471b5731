import Arthome.Ticketing.OrderRuns

/-!
# Settlements stay settled

A date's settlement says what is left of it: once its waiting list ended nobody is on
it, and once it is decided no hold on the date is active and no order of it holds an
active seat that no pass went over. A sale its outcome closed takes no seat any more,
so what a settlement says stays true of every later state, until another outcome that
closes nothing is stated.
-/

namespace Arthome.Ticketing

open Arthome.Core Library

/-- What the settlement of a date says of the date. -/
structure Db.SettledAs (db : Db) (settlement : DateOutcomeSettlement) : Prop where
  closed : ∃ row, db.sales.find? settlement.dateId = some row ∧ row.ClosedByOutcome
  waitlist : settlement.waitlistEndedAt.isSome → ∀ entry ∈ db.entries.rows,
    entry.dateId = settlement.dateId → ¬ WaitlistEntry.isOnList entry = true
  ended : settlement.decidedAt.isSome → settlement.waitlistEndedAt.isSome
  nothingLeft : settlement.decidedAt.isSome → db.nothingLeftToSettle settlement.dateId = true
  stamped : settlement.settledAt.isSome → settlement.decidedAt.isSome

/-- No outcome that closes nothing is stated of a date with a settlement. -/
def OutcomeStands (dateId : Uuid) (db : Db) (label : Label) : Prop :=
  ∀ outcome, label = .outcomeStated dateId outcome → (db.settlements.find? dateId).isSome →
    outcome ∈ outcomesClosingSales

section Rows

variable {db : Db} {dateId : Uuid} {record record' : OrderRecord}

def HasActive (seats : List SeatSnapshot) : Prop := ∃ seat ∈ seats, seat.state = .active

theorem hasActiveSeat_iff : Db.hasActiveSeat record = true ↔ HasActive record.order.seats := by
  unfold Db.hasActiveSeat HasActive
  simp only [List.any_eq_true, decide_eq_true_eq]

theorem isUnsettled_iff : Db.isUnsettled dateId record = true ↔ record.order.dateId = dateId ∧
    HasActive record.order.seats ∧ record.outcomeSettledAt = none := by
  unfold Db.isUnsettled
  rw [Bool.and_eq_true, Bool.and_eq_true, decide_eq_true_eq, hasActiveSeat_iff,
    Option.isNone_iff_eq_none, and_assoc]

theorem nothingLeftToSettle_iff : db.nothingLeftToSettle dateId = true ↔
    (∀ record ∈ db.orders.rows, ¬ Db.isUnsettled dateId record = true) ∧
      ∀ hold ∈ db.holds.rows, hold.dateId = dateId → hold.state ≠ .active := by
  unfold Db.nothingLeftToSettle
  simp only [Bool.and_eq_true, Bool.not_eq_true', List.any_eq_false, decide_eq_true_eq, not_and]

theorem not_taken_of_closed {row row' : DateSalesSnapshot} {quantity : ℕ} {poolSeats : ℤ}
    (hclosed : row.ClosedByOutcome) : ¬ Taken row quantity poolSeats row' := by
  rintro ⟨openPool, -, honSale, -⟩
  have hat := hclosed.1
  unfold DateSales.isOnSale at honSale
  simp only [Bool.and_eq_true, Option.isNone_iff_eq_none] at honSale
  rw [honSale.2] at hat
  cases hat

end Rows

section Steps

variable [OrderRules] [LawfulOrderRules] {db db' : Db} {label : Label} {dateId : Uuid}
  {record record' : OrderRecord} {settlement settlement' : DateOutcomeSettlement}

omit [LawfulOrderRules] in
/-- A date's row closed by its outcome stays closed by one. -/
theorem Movement.row_closed (hm : Movement db label db') (hstands : OutcomeStands dateId db label)
    (hsettled : (db.settlements.find? dateId).isSome) {row : DateSalesSnapshot}
    (hrow : db.sales.find? dateId = some row) (hclosed : row.ClosedByOutcome) :
    ∃ row', db'.sales.find? dateId = some row' ∧ row'.ClosedByOutcome := by
  obtain ⟨row', hfind, hstep⟩ := hm.sales_find hrow
  refine ⟨row', hfind, ?_⟩
  obtain ⟨hat, outcome, hcloses, houtcome⟩ := hclosed
  have hkept : ∀ {next : DateSalesSnapshot}, SaleKept row next → next.ClosedByOutcome :=
    fun hkept => ⟨hkept.closed ⟨hat, outcome, hcloses, houtcome⟩, outcome, hcloses,
      hkept.outcome.trans houtcome⟩
  cases hstep with
  | same => exact ⟨hat, outcome, hcloses, houtcome⟩
  | moved hmove =>
      cases hmove with
      | quiet h => exact hkept h
      | tierOnSale h => exact hkept h
      | tierPooled h => exact hkept h
      | windowEnded h => exact hkept h
      | outcomeStated stated _ _ hstated hcloses' =>
          have hkey : row.dateId = dateId := Table.key_of_find? hrow
          have hmem := hstands stated (by rw [hkey]) hsettled
          exact ⟨hcloses' (.inl hmem), stated, hmem, hstated⟩
  | taken _ htaken => exact absurd htaken (not_taken_of_closed ⟨hat, outcome, hcloses, houtcome⟩)
  | soldDirect _ htaken => exact absurd htaken (not_taken_of_closed ⟨hat, outcome, hcloses, houtcome⟩)
  | returned quantity poolSeats now =>
      unfold Db.returned
      split_ifs <;> exact ⟨hat, outcome, hcloses, houtcome⟩
  | sold => exact ⟨hat, outcome, hcloses, houtcome⟩
  | released => exact ⟨hat, outcome, hcloses, houtcome⟩

omit [LawfulOrderRules] in
/-- Nobody gets onto the list of a date its outcome closed. -/
theorem Movement.list_closed (hm : Movement db label db')
    (hclosed : ∃ row, db.sales.find? dateId = some row ∧ row.ClosedByOutcome)
    (hended : ∀ entry ∈ db.entries.rows, entry.dateId = dateId → ¬ WaitlistEntry.isOnList entry = true) :
    ∀ entry ∈ db'.entries.rows, entry.dateId = dateId → ¬ WaitlistEntry.isOnList entry = true := by
  intro entry hentry hdate hon
  cases hm with
  | entries hlist =>
      rcases hlist entry hentry hon with ⟨before, hbefore, hsame, honBefore⟩ | ⟨row, hrow, hopen⟩
      · exact hended before hbefore (hsame.trans hdate) honBefore
      · obtain ⟨closed, hfind, hclosed⟩ := hclosed
        rw [hdate, hfind] at hrow
        exact hopen (Option.some.inj hrow ▸ hclosed)
  | _ => exact hended entry hentry hdate hon

omit [LawfulOrderRules] in
/-- The operations that issue no seat make none active. -/
theorem Change.active_before {s s' : SeatOrderSnapshot} {op : Operation} (hc : Change s op s')
    (hpay : ∀ intentRef issues now, op ≠ .pay intentRef issues now) (h : HasActive s'.seats) :
    HasActive s.seats := by
  obtain ⟨seat', hseat', hactive⟩ := h
  have hmap : ∀ {move : SeatSnapshot → SeatSnapshot}, seat' ∈ s.seats.map move →
      (∀ seat, (move seat).state = .active → seat.state = .active) → HasActive s.seats := by
    intro move hmem hmove
    obtain ⟨seat, hseat, rfl⟩ := List.mem_map.mp hmem
    exact ⟨seat, hseat, hmove seat hactive⟩
  cases hc with
  | paid intentRef issues now => exact absurd rfl (hpay intentRef issues now)
  | refundMade =>
      refine hmap hseat' fun seat hmoved => ?_
      split_ifs at hmoved
      exact hmoved
  | seatsCancelled cancellation now =>
      refine hmap hseat' fun seat hmoved => ?_
      rcases cancelledSeat_cases cancellation now seat with ⟨-, heq⟩ | ⟨-, hcancelled, -⟩
      · exact heq ▸ hmoved
      · rw [hcancelled] at hmoved
        cases hmoved
  | seatsCredited crediting now =>
      refine hmap hseat' fun seat hmoved => ?_
      rcases creditedSeat_cases now seat crediting with heq | ⟨hcredited, -⟩
      · exact heq ▸ hmoved
      · rw [hcredited] at hmoved
        cases hmoved
  | _ => exact ⟨seat', hseat', hactive⟩

omit [LawfulOrderRules] in
/-- Unsettled after an operation that issues no seat, an order was so before it. -/
theorem Change.unsettled_before {s' : SeatOrderSnapshot} {op : Operation}
    (hc : Change record.order op s') (hpay : ∀ intentRef issues now, op ≠ .pay intentRef issues now)
    (h : Db.isUnsettled dateId { record with order := s' } = true) :
    Db.isUnsettled dateId record = true := by
  obtain ⟨hdate, hactive, hunmarked⟩ := isUnsettled_iff.mp h
  exact isUnsettled_iff.mpr ⟨hc.samePurchase.dateId.symm.trans hdate, hc.active_before hpay hactive,
    hunmarked⟩

omit [LawfulOrderRules] in
theorem RecordMove.unsettled_before (hmove : RecordMove record record' label)
    (h : Db.isUnsettled dateId record' = true) : Db.isUnsettled dateId record = true := by
  cases hmove with
  | waiting intent state now hc => exact hc.unsettled_before (by simp) h
  | booked op hbooks hc =>
      refine hc.unsettled_before ?_ h
      rintro intentRef issues now rfl
      exact hbooks
  | disputed _ hc => exact hc.unsettled_before (by simp) h
  | cancelled cancellation now _ hc => exact hc.unsettled_before (by simp) h
  | deadlines deadline =>
      obtain ⟨hdate, ⟨seat', hseat', hstate⟩, hunmarked⟩ := isUnsettled_iff.mp h
      obtain ⟨seat, hseat, rfl⟩ := List.mem_map.mp hseat'
      refine isUnsettled_iff.mpr ⟨hdate, ⟨seat, hseat, ?_⟩, hunmarked⟩
      split_ifs at hstate <;> exact hstate
  | answered => exact h
  | confirmedAgain => exact h

omit [LawfulOrderRules] in
theorem Stops.unsettled_before (hstops : Stops record record')
    (h : Db.isUnsettled dateId record' = true) : Db.isUnsettled dateId record = true := by
  obtain ⟨hdate, hactive, hunmarked⟩ := isUnsettled_iff.mp h
  cases hstops <;> exact isUnsettled_iff.mpr ⟨hdate, hactive, hunmarked⟩

omit [LawfulOrderRules] in
/-- With the sale closed and no hold active, no order of the date becomes one to settle. -/
theorem Movement.unsettled_before (hc : Consistent db) (hm : Movement db label db')
    (hclosed : ∃ row, db.sales.find? dateId = some row ∧ row.ClosedByOutcome)
    (hholds : ∀ hold ∈ db.holds.rows, hold.dateId = dateId → hold.state ≠ .active)
    (hrecord' : record' ∈ db'.orders.rows) (h : Db.isUnsettled dateId record' = true) :
    ∃ record ∈ db.orders.rows, Db.isUnsettled dateId record = true := by
  have hput : ∀ {record moved : OrderRecord}, db.orders.find? record.id = some record →
      record' ∈ (db.orders.put moved).rows → moved.id = record.id →
      (Db.isUnsettled dateId moved = true → Db.isUnsettled dateId record = true) →
      ∃ record ∈ db.orders.rows, Db.isUnsettled dateId record = true := by
    intro record moved hrecord hmem hid hbefore
    rcases (Table.mem_put (hid ▸ hrecord)).mp hmem with rfl | ⟨hmem, -⟩
    · exact ⟨record, Table.mem_of_find? hrecord, hbefore h⟩
    · exact ⟨record', hmem, h⟩
  obtain ⟨closed, hfind, hclosed⟩ := hclosed
  cases hm with
  | order hrecord hmove =>
      exact hput hrecord hrecord' hmove.samePurchase.id hmove.unsettled_before
  | credited hrecord _ _ crediting now hchange =>
      exact hput hrecord hrecord' hchange.samePurchase.id (hchange.unsettled_before (by simp))
  | marked hrecord now =>
      refine hput hrecord hrecord' rfl fun hmarked => ?_
      cases (isUnsettled_iff.mp hmarked).2.2
  | stopped hrecord _ hstops =>
      exact hput hrecord hrecord' hstops.samePurchase.id hstops.unsettled_before
  | returned hrecord _ _ _ _ _ _ hleave =>
      rcases hleave with ⟨rfl, -, -⟩ | hstops
      · exact hput hrecord hrecord' rfl id
      · exact hput hrecord hrecord' hstops.samePurchase.id hstops.unsettled_before
  | sold hrecord hhold hactive hrow haccepts intentRef issues hlength hissues now =>
      refine hput hrecord hrecord' rfl fun hpaid => ?_
      obtain ⟨hold, hfound, hon⟩ := hc.current _ (Table.mem_of_find? hrecord)
      rw [hhold] at hfound
      cases hfound
      have hdate := hon.dateId.trans (isUnsettled_iff.mp hpaid).1
      exact absurd hactive (hholds _ (Table.mem_of_find? hhold) hdate)
  | soldDirect hrecord _ hrow htaken haccepts intentRef issues hlength hissues now =>
      refine hput hrecord hrecord' rfl fun hpaid => ?_
      have hdate := (isUnsettled_iff.mp hpaid).1
      have hrow' : db.sales.find? dateId = some _ := hdate ▸ hrow
      rw [hfind] at hrow'
      cases hrow'
      exact absurd htaken (not_taken_of_closed hclosed)
  | placed placement binding now _ _ _ _ _ _ _ horders =>
      rcases (Table.mem_insert horders).mp hrecord' with hmem | rfl
      · exact ⟨record', hmem, h⟩
      · obtain ⟨-, ⟨seat, hseat, -⟩, -⟩ := isUnsettled_iff.mp h
        cases hseat
  | renewed hrecord hstate hintent =>
      exact hput hrecord hrecord' rfl id
  | viewerCancelled hrecord seatId cancellation now _ _ hchange =>
      exact hput hrecord hrecord' hchange.samePurchase.id (hchange.unsettled_before (by simp))
  | _ => exact ⟨record', hrecord', h⟩

omit [LawfulOrderRules] in
/-- With the sale closed, nothing is left to settle once nothing was. -/
theorem Movement.nothingLeft (hc : Consistent db) (hm : Movement db label db')
    (hclosed : ∃ row, db.sales.find? dateId = some row ∧ row.ClosedByOutcome)
    (h : db.nothingLeftToSettle dateId = true) : db'.nothingLeftToSettle dateId = true := by
  obtain ⟨horders, hholds⟩ := nothingLeftToSettle_iff.mp h
  refine nothingLeftToSettle_iff.mpr ⟨fun record' hrecord' hunsettled => ?_,
    fun hold' hhold' hdate hactive => ?_⟩
  · obtain ⟨record, hrecord, hbefore⟩ := hm.unsettled_before hc hclosed hholds hrecord' hunsettled
    exact horders record hrecord hbefore
  · rcases hm.hold_cases hhold' with ⟨hold, hfind, hstep⟩ | ⟨-, -, row, row', hrow, htaken⟩
    · cases hstep with
      | same => exact hholds hold' (Table.mem_of_find? hfind) hdate hactive
      | left _ state hstate => exact hstate hactive
    · obtain ⟨closed, hfind, hclosed⟩ := hclosed
      rw [hdate, hfind] at hrow
      cases hrow
      exact not_taken_of_closed hclosed htaken

/-! ## The settlement's row -/

omit [LawfulOrderRules] in
/-- What a movement makes of a date's settlement: as it was, moved, or recorded for a closed sale. -/
theorem Movement.settlement_cases (hm : Movement db label db')
    (hsettlement : db'.settlements.find? dateId = some settlement') :
    db.settlements.find? dateId = some settlement' ∨
    (∃ settlement, db.settlements.find? dateId = some settlement ∧
      SettlementMove db settlement settlement' ∧ db' = db.putSettlement settlement') ∨
    ((settlement'.waitlistEndedAt = none ∧ settlement'.decidedAt = none ∧
      settlement'.settledAt = none) ∧ db'.sales = db.sales ∧
      ∃ row, db.sales.find? dateId = some row ∧ row.ClosedByOutcome) := by
  have hkey := Table.key_of_find? hsettlement
  cases hm with
  | settlement hbefore hmove =>
      rename_i before moved
      by_cases hdate : moved.dateId = dateId
      · have hput := Table.find?_put_self (a := moved) hbefore
        rw [hdate] at hput hbefore
        cases hput.symm.trans hsettlement
        exact .inr (.inl ⟨before, hbefore, hmove, rfl⟩)
      · exact .inl ((Table.find?_put_of_ne hdate).symm.trans hsettlement)
  | outcomeToSettle hrow hclosed houtcome hnew hinsert =>
      rename_i row recorded settlements
      by_cases hdate : recorded.dateId = dateId
      · have hself := Table.find?_insert_self hinsert
        rw [hdate] at hself hrow
        cases hself.symm.trans hsettlement
        exact .inr (.inr ⟨hnew, rfl, row, hrow, hclosed⟩)
      · exact .inl ((Table.find?_insert_of_ne hinsert hdate).symm.trans hsettlement)
  | _ => exact .inl hsettlement

omit [OrderRules] [LawfulOrderRules] in
/-- A move of the settlement says what holds of the date. -/
theorem Db.SettledAs.moved (h : db.SettledAs settlement)
    (hmove : SettlementMove db settlement settlement') :
    (db.putSettlement settlement').SettledAs settlement' := by
  have hlisted : (db.sales.find? settlement.dateId).isSome := by
    obtain ⟨row, hrow, -⟩ := h.closed
    rw [hrow]
    rfl
  cases hmove with
  | failedAt => exact ⟨h.closed, h.waitlist, h.ended, h.nothingLeft, h.stamped⟩
  | waitlistEnded now hended =>
      exact ⟨h.closed, fun _ => hended hlisted, fun _ => rfl, h.nothingLeft, h.stamped⟩
  | decided now hwaitlist hnothing =>
      exact ⟨h.closed, h.waitlist, fun _ => hwaitlist, fun _ => hnothing, fun _ => rfl⟩
  | stamped => exact ⟨h.closed, h.waitlist, h.ended, h.nothingLeft, id⟩

omit [LawfulOrderRules] in
/-- A movement keeps what a date's settlement says, while no outcome reopens it. -/
theorem Movement.settledAs (hc : Consistent db) (hm : Movement db label db')
    (hstands : OutcomeStands dateId db label)
    (hsettled : ∀ settlement, db.settlements.find? dateId = some settlement →
      db.SettledAs settlement)
    (hsettlement : db'.settlements.find? dateId = some settlement') : db'.SettledAs settlement' := by
  have hkey' : settlement'.dateId = dateId := Table.key_of_find? hsettlement
  rcases hm.settlement_cases hsettlement with
    hsame | ⟨settlement, hbefore, hmove, rfl⟩ | ⟨⟨hwaitlist, hdecided, hstamped⟩, hsales, row, hrow, hclosed⟩
  · have h := hsettled _ hsame
    obtain ⟨row, hrow, hclosed⟩ := h.closed
    rw [hkey'] at hrow
    have hrowClosed := hm.row_closed hstands (hsame ▸ rfl) hrow hclosed
    subst hkey'
    exact ⟨hrowClosed, fun hended => hm.list_closed ⟨row, hrow, hclosed⟩ (h.waitlist hended),
      h.ended, fun hdecided => hm.nothingLeft hc ⟨row, hrow, hclosed⟩ (h.nothingLeft hdecided),
      h.stamped⟩
  · exact (hsettled settlement hbefore).moved hmove
  · refine ⟨⟨row, ?_, hclosed⟩, ?_, ?_, ?_, ?_⟩
    · rw [hsales, hkey']
      exact hrow
    · rw [hwaitlist]
      intro hnone
      cases hnone
    · rw [hdecided]
      intro hnone
      cases hnone
    · rw [hdecided]
      intro hnone
      cases hnone
    · rw [hstamped]
      intro hnone
      cases hnone

omit [LawfulOrderRules] in
/-- A stamp is never taken back. -/
theorem Movement.stamp_stays (hm : Movement db label db')
    (hsettled : ∀ settlement, db.settlements.find? dateId = some settlement →
      db.SettledAs settlement)
    (h : ∃ settlement, db.settlements.find? dateId = some settlement ∧ settlement.settledAt.isSome) :
    ∃ settlement, db'.settlements.find? dateId = some settlement ∧ settlement.settledAt.isSome := by
  obtain ⟨stamped, hfind, hat⟩ := h
  cases hm with
  | settlement hbefore hmove =>
      rename_i before moved
      by_cases hdate : moved.dateId = dateId
      · have hput := Table.find?_put_self (a := moved) hbefore
        rw [hdate] at hput hbefore
        cases hfind.symm.trans hbefore
        refine ⟨moved, hput, ?_⟩
        have hdecided := (hsettled _ hfind).stamped hat
        cases hmove with
        | stamped => exact hdecided
        | _ => exact hat
      · exact ⟨stamped, (Table.find?_put_of_ne hdate).trans hfind, hat⟩
  | outcomeToSettle hrow hclosed houtcome hnew hinsert =>
      exact ⟨stamped, Table.find?_of_insert hinsert hfind, hat⟩
  | _ => exact ⟨stamped, hfind, hat⟩

end Steps

/-! ## Runs -/

section Runs

variable [OrderRules] [SalesRules] {db db' : Db} {dateId : Uuid} {now : Instant} {w : World}

/-- An outcome that closes nothing is one movement of the date's row, or none. -/
theorem movedIn_open {outcome : DateOutcome} {statedAt : Instant}
    (hopen : outcome ∉ outcomesClosingSales)
    (h : movedIn db dateId (.outcome outcome statedAt) now = .ok db') : db' = db ∨
      ∃ sales, db.sales.find? dateId = some sales ∧ isStale statedAt sales.outcomeStatedAt = false ∧
        Movement db (.outcomeStated dateId outcome) db' := by
  unfold movedIn at h
  simp only [bind_ok_iff] at h
  obtain ⟨sales, hsales, h⟩ := h
  have hrow : db.sales.find? dateId = some sales := orRefuse_ok_iff.mp hsales
  have hkey : sales.dateId = dateId := Table.key_of_find? hrow
  split at h
  · simp only [bind_ok_iff, pure_ok_iff] at h
    obtain ⟨_, -, rfl⟩ := h
    exact .inl rfl
  rename_i current hcurrent
  rw [bind_ok_iff] at h
  obtain ⟨saved, hsave, h⟩ := h
  rw [if_neg hopen, pure_ok_iff] at h
  have hperform : (SaleOperation.recordOutcome outcome statedAt).perform sales now = some current :=
    hcurrent
  have hdate : current.dateId = dateId := (SaleOperation.perform_dateId hperform).trans hkey
  obtain ⟨hmove, -⟩ := perform_outcome hperform
  obtain rfl := saveSales_putSales hrow hdate hsave
  have hfresh : isStale statedAt sales.outcomeStatedAt = false :=
    SaleOperation.perform_outcome_isSome.mp (Option.isSome_iff_exists.mpr ⟨current, hperform⟩)
  have hstated : Movement db (.outcomeStated dateId outcome) (db.putSales current) := by
    rw [hkey] at hmove
    exact .sale (hdate ▸ hrow) hmove
  exact .inr ⟨sales, hrow, hfresh, h ▸ hstated⟩

omit [OrderRules] in
/-- An outcome is stated by the catalog's fact of it alone. -/
theorem Transaction.Labels.outcomeStated {transaction : Transaction} {outcome : DateOutcome}
    (h : transaction.Labels db (.outcomeStated dateId outcome)) : ∃ statedAt now,
      transaction = .sale (.applyFact dateId (.outcome outcome statedAt) now) := by
  cases transaction with
  | sale action =>
      cases action with
      | applyFact id fact now =>
          obtain h | ⟨stated, statedAt, sales, rfl, h, -⟩ := h
          · cases h
          · cases h
            exact ⟨statedAt, now, rfl⟩
      | _ => obtain h | h := h <;> cases h
  | recordIntent =>
      obtain h | h := h
      · cases h
      · exact h.elim
  | applyEvent =>
      obtain h | h := h
      · cases h
      · exact h.elim
  | releaseHold => obtain h | ⟨holdId, h⟩ := h <;> cases h
  | expireHolds => obtain h | ⟨holdId, h⟩ := h <;> cases h
  | place => obtain h | h := h <;> cases h
  | resume => obtain h | h := h <;> cases h
  | cancelSeat => obtain h | ⟨orderId, cancellation, h⟩ := h <;> cases h
  | refundSeat => obtain h | ⟨orderId, cancellation, h⟩ := h <;> cases h
  | settleOrders => obtain h | ⟨orderId, cancellation, h⟩ := h <;> cases h
  | failSoldOut => cases h
  | intentCancelled => cases h
  | refundMade => cases h
  | stampSettled => cases h
  | setAside => cases h

/-- The transaction states no newer outcome that closes nothing of a date with a settlement. -/
def World.OutcomeStands (dateId : Uuid) (w : World) (transaction : Transaction) : Prop :=
  ∀ outcome statedAt now sales, transaction = .sale (.applyFact dateId (.outcome outcome statedAt) now) →
    w.db.sales.find? dateId = some sales → isStale statedAt sales.outcomeStatedAt = false →
    (w.db.settlements.find? dateId).isSome → outcome ∈ outcomesClosingSales

variable [LawfulOrderRules] [LawfulSalesRules] {publicWebOrigin : String}

theorem Transaction.perform_stands {transaction : Transaction} (hs : w.Sound)
    (hstands : World.OutcomeStands dateId w transaction)
    (h : transaction.perform publicWebOrigin w = .ok db') :
    Db.Moved (Ticketing.OutcomeStands dateId) w.db db' := by
  by_cases hopens : ∃ outcome statedAt now, outcome ∉ outcomesClosingSales ∧
      transaction = .sale (.applyFact dateId (.outcome outcome statedAt) now)
  · obtain ⟨outcome, statedAt, now, hopen, rfl⟩ := hopens
    have hmoved : movedIn w.db dateId (.outcome outcome statedAt) now = .ok db' :=
      refusing_ok_iff.mp h
    rcases movedIn_open hopen hmoved with rfl | ⟨sales, hrow, hfresh, hmove⟩
    · exact .refl
    · refine .single (fun stated hlabel hsettled => ?_) hmove
      cases hlabel
      exact hstands outcome statedAt now sales rfl hrow hfresh hsettled
  · refine (Transaction.perform_moved hs.consistent hs.holdsLeft h).mono ?_
    rintro mid label hlabels outcome rfl -
    obtain ⟨statedAt, now, rfl⟩ := Transaction.Labels.outcomeStated hlabels
    by_contra hopen
    exact hopens ⟨outcome, statedAt, now, hopen, rfl⟩

/-- What a date's settlement says is so, and a stamp it bears stays. -/
structure Db.Settles (dateId : Uuid) (db : Db) : Prop where
  consistent : Consistent db
  settledAs : ∀ settlement, db.settlements.find? dateId = some settlement → db.SettledAs settlement

def Db.IsStamped (dateId : Uuid) (db : Db) : Prop :=
  ∃ settlement, db.settlements.find? dateId = some settlement ∧ settlement.settledAt.isSome

omit [SalesRules] [LawfulSalesRules] in
theorem Db.Moved.settles (hm : Db.Moved (Ticketing.OutcomeStands dateId) db db')
    (h : db.Settles dateId) :
    db'.Settles dateId ∧ (db.IsStamped dateId → db'.IsStamped dateId) := by
  apply hm.invariant
    (P := fun mid => mid.Settles dateId ∧ (db.IsStamped dateId → mid.IsStamped dateId))
  · exact ⟨h, id⟩
  · rintro mid label mid' ⟨hsettles, hstamped⟩ hstands hmove
    refine ⟨⟨hmove.consistent hsettles.consistent, fun settlement' hsettlement' => ?_⟩, fun hbefore => ?_⟩
    · exact hmove.settledAs hsettles.consistent hstands hsettles.settledAs hsettlement'
    · exact hmove.stamp_stays hsettles.settledAs (hstamped hbefore)

theorem World.Sound.settles (hs : w.Sound) (transactions : List Transaction)
    (hstands : Admitted (World.OutcomeStands dateId) (World.advance publicWebOrigin) w transactions)
    (h : w.db.Settles dateId) :
    (transactions.foldl (World.advance publicWebOrigin) w).db.Settles dateId ∧
      (w.db.IsStamped dateId →
        (transactions.foldl (World.advance publicWebOrigin) w).db.IsStamped dateId) := by
  induction transactions generalizing w with
  | nil => exact ⟨h, id⟩
  | cons transaction transactions ih =>
      obtain ⟨hfirst, hrest⟩ := hstands
      have hmoved : Db.Moved (Ticketing.OutcomeStands dateId) w.db
          (w.advance publicWebOrigin transaction).db := by
        unfold World.advance
        split
        · rename_i after hperform
          exact Transaction.perform_stands hs hfirst hperform
        · exact .refl
        · exact .refl
      obtain ⟨hafter, hstamped⟩ := hmoved.settles h
      obtain ⟨hlast, hkept⟩ := ih (hs.advance transaction) hrest hafter
      exact ⟨hlast, fun hbefore => hkept (hstamped hbefore)⟩

omit [OrderRules] [SalesRules] [LawfulOrderRules] [LawfulSalesRules] in
theorem World.settles_empty : World.empty.db.Settles dateId :=
  ⟨consistent_empty, fun settlement hnone => by cases hnone⟩

/-- While no newer outcome that closes nothing is stated of the date, a settlement stamped stays so:
in every later state the date's sale is closed, nobody is on its list, no hold on it is active, and
every order of it with an active seat was settled. -/
theorem settlements_stand (publicWebOrigin : String) (earlier later : List Transaction) (dateId : Uuid)
    (settlement : DateOutcomeSettlement)
    (hearlier : Admitted (World.OutcomeStands dateId) (World.advance publicWebOrigin) .empty earlier)
    (hlater : Admitted (World.OutcomeStands dateId) (World.advance publicWebOrigin)
      (World.reached publicWebOrigin earlier) later)
    (hsettlement : (World.reached publicWebOrigin earlier).db.settlements.find? dateId =
      some settlement)
    (hstamped : settlement.settledAt.isSome) :
    (World.reached publicWebOrigin (earlier ++ later)).db.IsStamped dateId ∧
      (∃ row, (World.reached publicWebOrigin (earlier ++ later)).db.sales.find? dateId = some row ∧
        row.ClosedByOutcome) ∧
      (∀ entry ∈ (World.reached publicWebOrigin (earlier ++ later)).db.entries.rows,
        entry.dateId = dateId → ¬ WaitlistEntry.isOnList entry = true) ∧
      (∀ hold ∈ (World.reached publicWebOrigin (earlier ++ later)).db.holds.rows,
        hold.dateId = dateId → hold.state ≠ .active) ∧
      ∀ record ∈ (World.reached publicWebOrigin (earlier ++ later)).db.orders.rows,
        record.order.dateId = dateId → HasActive record.order.seats → record.outcomeSettledAt.isSome := by
  have hs := World.sound_reached publicWebOrigin earlier
  have hsettles : (World.reached publicWebOrigin earlier).db.Settles dateId :=
    (World.sound_empty.settles earlier hearlier World.settles_empty).1
  obtain ⟨hafter, hkept⟩ := hs.settles later hlater hsettles
  rw [← World.reached_append] at hafter hkept
  obtain ⟨last, hlast, hstill⟩ := hkept ⟨settlement, hsettlement, hstamped⟩
  have hdone := hafter.settledAs last hlast
  have hkey : last.dateId = dateId := Table.key_of_find? hlast
  have hdecided := hdone.stamped hstill
  obtain ⟨horders, hholds⟩ := nothingLeftToSettle_iff.mp (hdone.nothingLeft hdecided)
  rw [hkey] at hholds horders
  refine ⟨⟨last, hlast, hstill⟩, hkey ▸ hdone.closed, ?_, hholds, ?_⟩
  · exact hkey ▸ hdone.waitlist (hdone.ended hdecided)
  · intro record hrecord hdate hactive
    rw [← Option.ne_none_iff_isSome]
    exact fun hunmarked => horders record hrecord (isUnsettled_iff.mpr ⟨hdate, hactive, hunmarked⟩)

end Runs

section Sample

open Sample

/-- A pass over a date with no order to settle and no active hold decides its settlement. -/
theorem settleOrders_decided {db : Db} {dateId : Uuid} {settlement : DateOutcomeSettlement}
    {batch : ℕ} {now : Instant} {draw : Uuid → Uuid} (hbatch : 0 < batch)
    (hclaimed : db.claimSettlement dateId = some settlement)
    (hended : settlement.waitlistEndedAt.isSome) (hnothing : db.nothingLeftToSettle dateId = true) :
    settleOrders db dateId batch now [] draw =
      .ok ((db.markSettled [] now).putSettlement
        { settlement with failedAt := none, decidedAt := some now }, some 0) := by
  obtain ⟨horders, hholds⟩ := nothingLeftToSettle_iff.mp hnothing
  have hnone : db.ordersToSettle dateId batch [] = [] := by
    unfold Db.ordersToSettle
    have hfilter : db.orders.rows.filter (fun record => Db.isUnsettled dateId record &&
        decide (record.id ∉ ([] : List Uuid))) = [] := by
      rw [List.filter_eq_nil_iff]
      intro record hrecord hunsettled
      exact horders record hrecord (Bool.and_eq_true_iff.mp hunsettled).1
    rw [hfilter, List.map_nil, List.mergeSort_nil, List.take_nil]
  have hmarked : (db.markSettled [] now).nothingLeftToSettle dateId = true := by
    refine nothingLeftToSettle_iff.mpr ⟨fun record' hrecord' => ?_, hholds⟩
    obtain ⟨record, hrecord, rfl⟩ := List.mem_map.mp hrecord'
    exact horders record hrecord
  unfold settleOrders
  rw [hclaimed]
  simp only [hnone, List.foldlM_nil, pure_bind, List.length_nil, hbatch, hended, hmarked, decide_true,
    Bool.and_self, if_true]
  rfl

/-- The sample's hold given back, its date cancelled and its list ended. -/
def sampleCancelled : List Transaction :=
  samplePlaced ++ [.releaseHold 51 150, .sale (.applyFact 1 (.outcome .cancelled 300) 301),
    .sale (.endWaitlist 1 302)]

/-- The pass over the cancelled date, and its stamp. -/
def sampleSettled : List Transaction :=
  sampleCancelled ++ [.settleOrders 1 10 303 [] id, .stampSettled 1]

theorem sampleSettled_stamped : ∃ settlement, (World.reached "https://arthome.example"
    sampleSettled).db.settlements.find? 1 = some settlement ∧ settlement.settledAt = some 303 := by
  have hseen : ((World.reached "https://arthome.example" sampleCancelled).db.claimSettlement 1).any
      (fun settlement => settlement.waitlistEndedAt.isSome) = true ∧
      (World.reached "https://arthome.example" sampleCancelled).db.nothingLeftToSettle 1 = true := by
    decide +kernel
  obtain ⟨hclaimed, hnothing⟩ := hseen
  obtain ⟨settlement, hsettlement, hended⟩ := (Option.any_eq_true _ _).mp hclaimed
  have hpass := @settleOrders_decided _ _ _ 10 303 id (by decide) hsettlement hended hnothing
  obtain ⟨hfind, -⟩ := Option.filter_eq_some_iff.mp hsettlement
  have hkey : settlement.dateId = 1 := Table.key_of_find? hfind
  let decided : DateOutcomeSettlement := { settlement with failedAt := none, decidedAt := some 303 }
  have hdecided : (World.reached "https://arthome.example" (sampleCancelled ++
      [.settleOrders 1 10 303 [] id])).db =
        ((World.reached "https://arthome.example" sampleCancelled).db.markSettled [] 303).putSettlement
          decided := by
    rw [World.reached_append]
    refine World.advance_ok ?_
    simp only [Transaction.perform, hpass]
    rfl
  have hput : (((World.reached "https://arthome.example" sampleCancelled).db.markSettled [] 303
      ).putSettlement decided).settlements.find? 1 = some decided := by
    rw [← hkey] at hfind ⊢
    exact Table.find?_put_self (a := decided) hfind
  refine ⟨{ decided with settledAt := decided.decidedAt }, ?_, rfl⟩
  have hrun : World.reached "https://arthome.example" sampleSettled =
      (World.reached "https://arthome.example" (sampleCancelled ++
        [.settleOrders 1 10 303 [] id])).advance "https://arthome.example" (.stampSettled 1) := by
    simp only [sampleSettled, World.reached_append, List.foldl_cons, List.foldl_nil]
  have hstamped : (World.reached "https://arthome.example" sampleSettled).db =
      (((World.reached "https://arthome.example" sampleCancelled).db.markSettled [] 303).putSettlement
        decided).putSettlement { decided with settledAt := decided.decidedAt } := by
    rw [hrun]
    refine World.advance_ok ?_
    simp only [Transaction.perform, stampSettled, hdecided, hput]
  rw [hstamped]
  rw [← hkey] at hput ⊢
  exact Table.find?_put_self (a := { decided with settledAt := decided.decidedAt }) hput

/-- Its settlement decided and stamped, a confirmation of the payment changes nothing of it. -/
theorem settlements_stand_sample : (World.reached "https://arthome.example"
    (sampleSettled ++ [sampleSucceeded])).db.IsStamped 1 := by
  obtain ⟨settlement, hsettlement, hstamped⟩ := sampleSettled_stamped
  refine (settlements_stand "https://arthome.example" sampleSettled [sampleSucceeded] 1 settlement
    ?_ ?_ hsettlement (by rw [hstamped]; rfl)).1
  · have hother : ∀ {w : World} {transaction : Transaction}, (∀ outcome statedAt now,
        transaction ≠ .sale (.applyFact 1 (.outcome outcome statedAt) now)) →
        World.OutcomeStands 1 w transaction :=
      fun hnot outcome statedAt now sales h => absurd h (hnot outcome statedAt now)
    refine ⟨hother (by simp), hother (by simp), hother (by simp), hother (by simp), hother (by simp),
      hother (by simp), hother (by simp), ?_, hother (by simp), hother (by simp), hother (by simp),
      trivial⟩
    intro outcome statedAt now sales h _ _ _
    cases h
    decide
  · exact ⟨fun outcome statedAt now sales h => (by cases h), trivial⟩

end Sample

end Arthome.Ticketing
