import Arthome.Ticketing.SeatCounts

/-!
# The seats of a date are conserved

A date's seats are on public sale, in the priority pool, held or sold. The
counters of its row and its active holds add up to its capacity, no counter is
negative, the pool is empty while no window is open, and the sold ones are those
its orders count for. Every movement keeps this: what it takes from one place it
puts in another.
-/

namespace Arthome.Ticketing

open Arthome.Core Library

/-- What a hold counts for in its date's held seats. -/
def heldWeight (dateId : Uuid) (hold : SeatHoldSnapshot) : ℤ :=
  if hold.dateId = dateId ∧ hold.state = .active then hold.quantity else 0

/-- What an order counts for in its date's sold seats. -/
def soldWeight (dateId : Uuid) (record : OrderRecord) : ℤ :=
  if record.order.dateId = dateId then soldSeatsOf record.order else 0

namespace Db

/-- The quantities of the date's active holds. -/
def heldSeats (db : Db) (dateId : Uuid) : ℤ := db.holds.total (heldWeight dateId)

/-- The seats written for the date's orders, less those their viewers gave up. -/
def soldSeats (db : Db) (dateId : Uuid) : ℤ := db.orders.total (soldWeight dateId)

end Db

/-- A date's counters against what is held and what is sold of it. -/
structure Balanced (row : DateSalesSnapshot) (held written : ℤ) : Prop where
  total : row.seatsAvailable + row.priorityPoolSeats + row.seatsSold + held = row.capacityTotal
  available : 0 ≤ row.seatsAvailable
  pool : 0 ≤ row.priorityPoolSeats
  sold : 0 ≤ row.seatsSold
  window : row.priorityUntil = none → row.priorityPoolSeats = 0
  writtenSeats : row.seatsSold = written

/-- Every date is balanced, every hold knows its share of the pool, every order its seats. -/
structure Counted (db : Db) : Prop where
  balanced : ∀ row ∈ db.sales.rows,
    Balanced row (db.heldSeats row.dateId) (db.soldSeats row.dateId)
  seats : ∀ record ∈ db.orders.rows, SeatsSound record.order
  pooled : ∀ hold ∈ db.holds.rows, 0 ≤ hold.poolSeats ∧ hold.poolSeats ≤ hold.quantity

section Totals

variable {db db' : Db} {record record' : OrderRecord} {hold : SeatHoldSnapshot} (dateId : Uuid)

/-- A hold that leaves is held no more. -/
theorem total_heldWeight_left {holds : Table SeatHoldSnapshot.id}
    (hhold : holds.find? hold.id = some hold) (hactive : hold.state = .active)
    {state : SeatHoldState} (hstate : state ≠ .active) :
    (holds.put (leftHold hold state)).total (heldWeight dateId) =
      holds.total (heldWeight dateId) - if hold.dateId = dateId then (hold.quantity : ℤ) else 0 := by
  have hput := Table.total_put (a := leftHold hold state) hhold (heldWeight dateId)
  simp only [heldWeight, leftHold, hactive, hstate, and_true, and_false, if_false] at hput ⊢
  linarith

theorem total_heldWeight_insert {holds holds' : Table SeatHoldSnapshot.id}
    (hinsert : holds.insert hold = some holds') (hactive : hold.state = .active) :
    holds'.total (heldWeight dateId) =
      holds.total (heldWeight dateId) + if hold.dateId = dateId then (hold.quantity : ℤ) else 0 := by
  rw [Table.total_insert hinsert]
  simp [heldWeight, hactive]

theorem total_soldWeight_put {orders : Table OrderRecord.id}
    (hrecord : orders.find? record.id = some record) (hsame : SamePurchase record record') :
    (orders.put record').total (soldWeight dateId) = orders.total (soldWeight dateId) +
      if record.order.dateId = dateId then soldSeatsOf record'.order - soldSeatsOf record.order
      else 0 := by
  have hid : record'.id = record.id := hsame.id
  have hput := Table.total_put (a := record') (hid ▸ hrecord) (soldWeight dateId)
  simp only [soldWeight, hsame.dateId] at hput ⊢
  split_ifs with hdate
  · simp only [hdate, if_true] at hput
    linarith
  · simp only [hdate, if_false] at hput
    linarith

/-- An order moved that counts for what it counted for. -/
theorem total_soldWeight_same {orders : Table OrderRecord.id}
    (hrecord : orders.find? record.id = some record) (hsame : SamePurchase record record')
    (hsold : soldSeatsOf record'.order = soldSeatsOf record.order) :
    (orders.put record').total (soldWeight dateId) = orders.total (soldWeight dateId) := by
  rw [total_soldWeight_put _ hrecord hsame, hsold]
  simp

end Totals

section Rows

variable {db db' : Db}

/-- Rows no movement touched stay balanced while nothing is counted elsewhere. -/
theorem balanced_of_same (h : ∀ row ∈ db.sales.rows,
      Balanced row (db.heldSeats row.dateId) (db.soldSeats row.dateId))
    (hsales : db'.sales = db.sales)
    (hcounts : ∀ dateId, db'.heldSeats dateId = db.heldSeats dateId ∧
      db'.soldSeats dateId = db.soldSeats dateId) :
    ∀ row ∈ db'.sales.rows, Balanced row (db'.heldSeats row.dateId) (db'.soldSeats row.dateId) := by
  intro row hrow
  rw [(hcounts row.dateId).1, (hcounts row.dateId).2]
  exact h row (hsales ▸ hrow)

/-- One row moved, balanced against what is counted of its date; the other dates' counts stay. -/
theorem balanced_of_put (h : ∀ row ∈ db.sales.rows,
      Balanced row (db.heldSeats row.dateId) (db.soldSeats row.dateId))
    {row row' : DateSalesSnapshot} {dateId : Uuid} (hrow : db.sales.find? dateId = some row)
    (hsales : db'.sales = db.sales.put row') (hid : row'.dateId = row.dateId)
    (hother : ∀ other, other ≠ dateId → db'.heldSeats other = db.heldSeats other ∧
      db'.soldSeats other = db.soldSeats other)
    (hself : Balanced row (db.heldSeats dateId) (db.soldSeats dateId) →
      Balanced row' (db'.heldSeats dateId) (db'.soldSeats dateId)) :
    ∀ row ∈ db'.sales.rows, Balanced row (db'.heldSeats row.dateId) (db'.soldSeats row.dateId) := by
  have hkey : row'.dateId = dateId := hid.trans (Table.key_of_find? hrow)
  intro other hmem
  rw [hsales] at hmem
  rcases (Table.mem_put (hkey ▸ hrow)).mp hmem with rfl | ⟨hmem, hne⟩
  · rw [hkey]
    refine hself ?_
    rw [← Table.key_of_find? hrow]
    exact h row (Table.mem_of_find? hrow)
  · obtain ⟨hheld, hsold⟩ := hother other.dateId fun heq => hne (heq.trans hkey.symm)
    rw [hheld, hsold]
    exact h other hmem

end Rows

section Moves

variable {row row' mid : DateSalesSnapshot} {held written : ℤ}

theorem Balanced.sale (h : Balanced row held written) {label : Label}
    (hmove : SaleMove row row' label) : Balanced row' held written := by
  obtain ⟨htotal, havailable, hpool, hsold, hwindow, hwritten⟩ := h
  cases hmove with
  | quiet hkept hcounters =>
      simp only [DateSalesSnapshot.counters, Counters.mk.injEq] at hcounters
      obtain ⟨h₁, h₂, h₃, h₄, h₅⟩ := hcounters
      constructor <;> simp only [h₁, h₂, h₃, h₄, h₅] <;> assumption
  | outcomeStated outcome hdate hcounters =>
      simp only [DateSalesSnapshot.counters, Counters.mk.injEq] at hcounters
      obtain ⟨h₁, h₂, h₃, h₄, h₅⟩ := hcounters
      constructor <;> simp only [h₁, h₂, h₃, h₄, h₅] <;> assumption
  | tierOnSale hkept additional hpos hcounters =>
      simp only [DateSalesSnapshot.counters, Counters.mk.injEq] at hcounters
      obtain ⟨h₁, h₂, h₃, h₄, h₅⟩ := hcounters
      constructor <;> simp only [h₁, h₂, h₃, h₄, h₅] <;> first | assumption | omega
  | tierPooled hkept additional hpos priorityUntil hcounters =>
      simp only [DateSalesSnapshot.counters, Counters.mk.injEq] at hcounters
      obtain ⟨h₁, h₂, h₃, h₄, h₅⟩ := hcounters
      constructor <;> simp only [h₁, h₂, h₃, h₄, h₅] <;> first | assumption | omega | simp
  | windowEnded hkept hcounters =>
      simp only [DateSalesSnapshot.counters, Counters.mk.injEq] at hcounters
      obtain ⟨h₁, h₂, h₃, h₄, h₅⟩ := hcounters
      constructor <;> simp only [h₁, h₂, h₃, h₄, h₅] <;> first | assumption | omega | simp

/-- The seats a hold takes are held. -/
theorem Balanced.taken (h : Balanced row held written) {quantity : ℕ} {poolSeats : ℤ}
    (htaken : Taken row quantity poolSeats row') :
    Balanced row' (held + quantity) written ∧ 0 ≤ poolSeats ∧ poolSeats ≤ quantity := by
  obtain ⟨htotal, havailable, hpool, hsold, hwindow, hwritten⟩ := h
  obtain ⟨openPool, hopen, -, hwithin, rfl, rfl⟩ := htaken
  have hbound : 0 ≤ min openPool (quantity : ℤ) ∧ min openPool (quantity : ℤ) ≤ openPool ∧
      min openPool (quantity : ℤ) ≤ quantity ∧ openPool ≤ row.priorityPoolSeats ∧
      (min openPool (quantity : ℤ) = openPool ∨ min openPool (quantity : ℤ) = quantity) := by
    rcases hopen with rfl | rfl <;> omega
  refine ⟨⟨?_, ?_, ?_, hsold, ?_, hwritten⟩, hbound.1, hbound.2.2.1⟩
  · simp only [Db.takenFromPool]
    linarith
  · simp only [Db.takenFromPool]
    omega
  · simp only [Db.takenFromPool]
    omega
  · intro hnone
    have := hwindow hnone
    simp only [Db.takenFromPool]
    omega

/-- The seats a hold gives back are counted where they go. -/
theorem Balanced.returned (h : Balanced row held written) {quantity poolSeats : ℤ}
    (hpooled : 0 ≤ poolSeats ∧ poolSeats ≤ quantity) (now : Instant) :
    Balanced (Db.returned row quantity poolSeats now) (held - quantity) written := by
  obtain ⟨htotal, havailable, hpool, hsold, hwindow, hwritten⟩ := h
  unfold Db.returned
  split
  · rename_i hopen
    refine ⟨by simp only; linarith, by simp only; omega, by simp only; omega, hsold, ?_, hwritten⟩
    intro hnone
    rw [show row.priorityUntil = none from hnone] at hopen
    cases hopen
  · refine ⟨by simp only; linarith, by simp only; omega, by simp only; omega, hsold, ?_, hwritten⟩
    intro hnone
    simpa using hwindow hnone

/-- Held seats, sold. -/
theorem Balanced.paid (h : Balanced row held written) {quantity : ℕ} :
    Balanced { row with seatsSold := row.seatsSold + quantity } (held - quantity)
      (written + quantity) := by
  obtain ⟨htotal, havailable, hpool, hsold, hwindow, hwritten⟩ := h
  refine ⟨by simp only; linarith, havailable, hpool, by simp only; omega, hwindow, ?_⟩
  simp only
  linarith

/-- A sold seat, given up and back on sale. -/
theorem Balanced.released (h : Balanced row held written) (hone : 1 ≤ row.seatsSold) :
    Balanced { row with seatsAvailable := row.seatsAvailable + 1, seatsSold := row.seatsSold - 1 }
      held (written - 1) := by
  obtain ⟨htotal, havailable, hpool, hsold, hwindow, hwritten⟩ := h
  refine ⟨by simp only; linarith, by simp only; omega, hpool, by simp only; omega, hwindow, ?_⟩
  simp only
  linarith

end Moves

section Steps

variable [OrderRules] [LawfulOrderRules] {db db' : Db} {label : Label}
  {record record' : OrderRecord}

omit [LawfulOrderRules] in
theorem RecordStep.seatsSound (hstep : RecordStep db label record record')
    (h : SeatsSound record.order) : SeatsSound record'.order := by
  cases hstep with
  | moved hmove =>
      cases hmove with
      | waiting intent state now hc => cases hc <;> exact h.of_eq rfl
      | booked op hbooks hc =>
          cases hc with
          | refundMade refund refundRef now made sign reached changed hfind hunmade hmade hsign
              hreached hchanged =>
              refine h.of_map _ rfl (fun seat => ?_) fun seat _ hstate => ?_
              · split_ifs <;> rfl
              · split_ifs at hstate ⊢ with hnamed
                exact ⟨hstate, rfl⟩
          | _ => first | exact h.of_eq rfl | exact hbooks.elim
      | disputed _ hc => cases hc <;> exact h.of_eq rfl
      | cancelled cancellation now _ hc => exact h.cancelled hc
      | deadlines deadline =>
          refine h.of_map _ rfl (fun seat => ?_) fun seat _ hstate => ?_
          · split_ifs <;> rfl
          · split_ifs at hstate ⊢ <;> exact ⟨hstate, rfl⟩
      | _ => exact h
  | credited _ _ crediting now hc => exact h.credited hc
  | stopped hstops => cases hstops <;> exact h.of_eq rfl
  | paid haccepts intentRef issues hlength hissues now =>
      constructor
      · simpa [paidOrder, SeatOrder.issuedSeat, Function.comp_def] using hissues
      · intro seat hseat _
        obtain ⟨issue, -, rfl⟩ := List.mem_map.mp hseat
        rfl
  | viewerCancelled cancellation now _ hc => exact h.cancelled hc
  | _ => exact h.of_eq rfl

/-- Of what an order does by itself, nothing changes the seats it counts for. -/
theorem RecordMove.soldSeats (hmove : RecordMove record record' label)
    (h : SeatsSound record.order) : soldSeatsOf record'.order = soldSeatsOf record.order := by
  cases hmove with
  | waiting intent state now hc => cases hc <;> rfl
  | booked op hbooks hc =>
      cases hc with
      | refundMade refund refundRef now made sign reached changed hfind hunmade hmade hsign hreached
          hchanged =>
          refine soldSeatsOf_map _ rfl fun seat _ => ?_
          split_ifs <;> rfl
      | _ => first | rfl | exact hbooks.elim
  | disputed _ hc => cases hc <;> rfl
  | cancelled cancellation now hreason hc => exact soldSeatsOf_cancelled h hreason hc
  | deadlines deadline =>
      refine soldSeatsOf_map _ rfl fun seat _ => ?_
      split_ifs <;> rfl
  | _ => rfl

omit [LawfulOrderRules] in
theorem Stops.soldSeats (h : Stops record record') :
    soldSeatsOf record'.order = soldSeatsOf record.order := by
  cases h <;> rfl

omit [OrderRules] [LawfulOrderRules] in
/-- An order's payment counts for every seat it bought. -/
theorem soldSeatsOf_paidOrder {order : SeatOrderSnapshot} {intentRef : String}
    {issues : List SeatIssue} {now : Instant} (hlength : issues.length = order.quantity) :
    soldSeatsOf (paidOrder order intentRef issues now) = order.quantity := by
  have hnone : (issues.map (SeatOrder.issuedSeat order.tier now)).countP viewerCancelled = 0 := by
    rw [List.countP_eq_zero]
    intro seat hseat
    obtain ⟨issue, -, rfl⟩ := List.mem_map.mp hseat
    simp [viewerCancelled, SeatOrder.issuedSeat]
  simp [soldSeatsOf, paidOrder, hlength, hnone]

omit [OrderRules] [LawfulOrderRules] in
/-- A date not open yet has no hold and no order. -/
theorem Wired.counts_of_no_row (h : Wired db) {dateId : Uuid}
    (hnone : db.sales.find? dateId = none) :
    db.heldSeats dateId = 0 ∧ db.soldSeats dateId = 0 := by
  have hdated : ∀ r ∈ db.orders.rows, r.order.dateId ≠ dateId := by
    intro r hr hdate
    have hsome := h.dated r hr
    rw [hdate, hnone] at hsome
    cases hsome
  constructor
  · refine Table.total_eq_zero fun hold hhold => if_neg fun hheld => ?_
    obtain ⟨r, hr, hplaced⟩ := h.placedFor hold hhold
    exact hdated r (Table.mem_of_find? hr) (hplaced.dateId.symm.trans hheld.1)
  · exact Table.total_eq_zero fun r hr => if_neg (hdated r hr)

/-- Every movement keeps every date balanced. -/
theorem Movement.balanced (hm : Movement db label db') (hc : Consistent db) (h : Counted db) :
    ∀ row ∈ db'.sales.rows, Balanced row (db'.heldSeats row.dateId) (db'.soldSeats row.dateId) := by
  have hb := h.balanced
  cases hm with
  | sale hrow hmove =>
      exact balanced_of_put hb hrow rfl (Table.key_of_find? hrow).symm (fun _ _ => ⟨rfl, rfl⟩)
        fun hself => hself.sale hmove
  | @dateOpened row sales hcounters houtcome hinsert =>
      intro r hr
      rcases (Table.mem_insert hinsert).mp hr with hmem | rfl
      · exact hb r hmem
      · obtain ⟨hheld, hsold⟩ := hc.counts_of_no_row (Table.insert_eq_some hinsert).2
        simp only [DateSalesSnapshot.counters, Counters.mk.injEq] at hcounters
        obtain ⟨h₁, h₂, h₃, h₄, h₅⟩ := hcounters
        show Balanced r (db.heldSeats r.dateId) (db.soldSeats r.dateId)
        rw [hheld, hsold]
        constructor <;> simp [h₁, h₂, h₃, h₄]
  | order hrecord hmove =>
      refine balanced_of_same hb rfl fun dateId => ⟨rfl, ?_⟩
      exact total_soldWeight_same _ hrecord hmove.samePurchase
        (hmove.soldSeats (h.seats _ (Table.mem_of_find? hrecord)))
  | credited hrecord hsettlement houtcome crediting now hcredit =>
      refine balanced_of_same hb rfl fun dateId => ⟨rfl, ?_⟩
      exact total_soldWeight_same _ hrecord hcredit.samePurchase (soldSeatsOf_credited hcredit)
  | marked hrecord =>
      refine balanced_of_same hb rfl fun dateId => ⟨rfl, ?_⟩
      exact total_soldWeight_same _ hrecord ⟨rfl, rfl, rfl, rfl, rfl, rfl⟩ rfl
  | stopped hrecord hgone hstops =>
      refine balanced_of_same hb rfl fun dateId => ⟨rfl, ?_⟩
      exact total_soldWeight_same _ hrecord hstops.samePurchase hstops.soldSeats
  | @returned hold record record' row hrecord hhold hactive hrow state hstate now hleave =>
      have hself : db.holds.find? hold.id = some hold := (Table.key_of_find? hhold).symm ▸ hhold
      have hheld := fun dateId => total_heldWeight_left dateId hself hactive
        (released_or_expired hstate)
      have hsold : ∀ dateId, (db.orders.put record').total (soldWeight dateId) =
          db.orders.total (soldWeight dateId) := by
        intro dateId
        rcases hleave with ⟨rfl, -, -⟩ | hstops
        · exact total_soldWeight_same _ hrecord (.refl _) rfl
        · exact total_soldWeight_same _ hrecord hstops.samePurchase hstops.soldSeats
      refine balanced_of_put hb hrow rfl rfl (fun other hne => ⟨?_, hsold other⟩) fun hbal => ?_
      · refine (hheld other).trans ?_
        rw [if_neg (Ne.symm hne), sub_zero]
        rfl
      · have hreturned := hbal.returned (h.pooled hold (Table.mem_of_find? hhold)) now
        convert hreturned using 1
        · exact (hheld hold.dateId).trans (by rw [if_pos rfl]; rfl)
        · exact hsold hold.dateId
  | @sold hold record row hrecord hhold hactive hrow haccepts intentRef issues hlength hissues now =>
      have hself : db.holds.find? hold.id = some hold := (Table.key_of_find? hhold).symm ▸ hhold
      obtain ⟨found, hfound, hon⟩ := hc.current record (Table.mem_of_find? hrecord)
      rw [hhold] at hfound
      cases hfound
      have hopen := (hc.standing record (Table.mem_of_find? hrecord)).open_of_accepts haccepts
      have hheld := fun dateId => total_heldWeight_left dateId hself hactive
        (show SeatHoldState.consumed ≠ .active by decide)
      have hsold := fun dateId => total_soldWeight_put dateId hrecord
        (show SamePurchase record { record with
          order := paidOrder record.order intentRef issues now, confirmed := true } from
            ⟨rfl, rfl, rfl, rfl, rfl, rfl⟩)
      simp only [soldSeatsOf_paidOrder hlength, soldSeatsOf_nil hopen.seats, sub_zero] at hsold
      simp only [hon.dateId, hon.quantity] at hheld
      refine balanced_of_put hb hrow rfl rfl (fun other hne => ⟨?_, ?_⟩) fun hbal => ?_
      · exact (hheld other).trans (by rw [if_neg (Ne.symm hne), sub_zero]; rfl)
      · exact (hsold other).trans (by rw [if_neg (Ne.symm hne), add_zero]; rfl)
      · convert @Balanced.paid _ _ _ hbal record.order.quantity using 1
        · exact (hheld _).trans (by rw [if_pos rfl]; rfl)
        · exact (hsold _).trans (by rw [if_pos rfl]; rfl)
  | @soldDirect record row mid poolSeats hrecord hgone hrow htaken haccepts intentRef issues hlength
      hissues now =>
      have hopen := (hc.standing record (Table.mem_of_find? hrecord)).open_of_accepts haccepts
      have hsold := fun dateId => total_soldWeight_put dateId hrecord
        (show SamePurchase record { record with
          order := paidOrder record.order intentRef issues now, confirmed := true } from
            ⟨rfl, rfl, rfl, rfl, rfl, rfl⟩)
      simp only [soldSeatsOf_paidOrder hlength, soldSeatsOf_nil hopen.seats, sub_zero] at hsold
      refine balanced_of_put hb hrow rfl htaken.dateId (fun other hne => ⟨rfl, ?_⟩) fun hbal => ?_
      · exact (hsold other).trans (by rw [if_neg (Ne.symm hne), add_zero]; rfl)
      · convert @Balanced.paid _ _ _ (hbal.taken htaken).1 record.order.quantity using 1
        · exact (add_sub_cancel_right _ _).symm
        · exact (hsold _).trans (by rw [if_pos rfl]; rfl)
  | @placed hold row row' holds orders placement binding now hquantity htotal hon hactive hrow htaken
      hunbound horders hholds =>
      have hheld := fun dateId => total_heldWeight_insert dateId hholds hactive
      have hsold : ∀ dateId, orders.total (soldWeight dateId) =
          db.orders.total (soldWeight dateId) := by
        intro dateId
        rw [Table.total_insert horders]
        simp [soldWeight, OrderRecord.opened, SeatOrder.place, soldSeatsOf]
      have hdate : hold.dateId = placement.dateId := hon.dateId
      have hsame : hold.quantity = placement.quantity := hon.quantity
      simp only [hdate, hsame] at hheld
      refine balanced_of_put hb hrow rfl htaken.dateId (fun other hne => ⟨?_, hsold other⟩)
        fun hbal => ?_
      · exact (hheld other).trans (by rw [if_neg (Ne.symm hne), add_zero]; rfl)
      · convert (hbal.taken htaken).1 using 1
        · exact (hheld _).trans (by rw [if_pos rfl]; rfl)
        · exact hsold _
  | @renewed hold record row row' holds hrecord hstate hintent hgone hfor hactive hrow htaken hholds =>
      have hheld := fun dateId => total_heldWeight_insert dateId hholds hactive
      simp only [hfor.dateId, hfor.quantity] at hheld
      have hsold := fun dateId => total_soldWeight_same dateId hrecord
        (show SamePurchase record
          { record with order := renewedOrder record.order hold.id hold.expiresAt } from
            ⟨rfl, rfl, rfl, rfl, rfl, rfl⟩) rfl
      refine balanced_of_put hb hrow rfl htaken.dateId (fun other hne => ⟨?_, hsold other⟩)
        fun hbal => ?_
      · exact (hheld other).trans (by rw [if_neg (Ne.symm hne), add_zero]; rfl)
      · convert (hbal.taken htaken).1 using 1
        · exact (hheld _).trans (by rw [if_pos rfl]; rfl)
        · exact hsold _
  | @viewerCancelled record s' row hrecord seatId cancellation now hreason hseats hcancel hmoved hrow
      hsoldOne =>
      have hless := soldSeatsOf_viewerCancelled (h.seats record (Table.mem_of_find? hrecord)) hreason
        hseats hcancel hmoved
      have hsold := fun dateId => total_soldWeight_put dateId hrecord
        hcancel.samePurchase
      simp only [hless, sub_sub_cancel_left] at hsold
      refine balanced_of_put hb hrow rfl rfl (fun other hne => ⟨rfl, ?_⟩) fun hbal => ?_
      · exact (hsold other).trans (by rw [if_neg (Ne.symm hne), add_zero]; rfl)
      · convert hbal.released hsoldOne using 1
        · rfl
        · exact (hsold _).trans (by rw [if_pos rfl, ← sub_eq_add_neg]; rfl)
  | _ => exact balanced_of_same hb rfl fun _ => ⟨rfl, rfl⟩

/-- Every movement keeps the count. -/
theorem Movement.counted (hm : Movement db label db') (hc : Consistent db) (h : Counted db) :
    Counted db' := by
  refine ⟨hm.balanced hc h, fun r' hr' => ?_, fun h' hh' => ?_⟩
  · rcases hm.record_cases hr' with ⟨r, hfind, hstep⟩ | ⟨placement, binding, now, -, -, rfl, -⟩
    · exact hstep.seatsSound (h.seats r (Table.mem_of_find? hfind))
    · exact .nil rfl
  · rcases hm.hold_cases hh' with ⟨hold, hfind, hstep⟩ | ⟨-, -, row, row', hrow, htaken⟩
    · have hpooled := h.pooled hold (Table.mem_of_find? hfind)
      cases hstep <;> exact hpooled
    · exact ((h.balanced row (Table.mem_of_find? hrow)).taken htaken).2

end Steps

end Arthome.Ticketing
