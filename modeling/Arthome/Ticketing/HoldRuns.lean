import Arthome.Ticketing.SeatRuns

/-!
# Holds leave once

An active hold is one order's, and that order still waits for its payment. A
transaction moves the counters of a date for the holds that leave in it, and for
those alone: what they were consumed for is sold and written to their orders, what
they give back goes to public sale or to the pool. A hold that left never moves
again.
-/

namespace Arthome.Ticketing

open Arthome.Core Library

/-- The seats a hold of the date was consumed for. -/
def consumedWeight (dateId : Uuid) (hold : SeatHoldSnapshot) : ℤ :=
  if hold.dateId = dateId ∧ hold.state = .consumed then hold.quantity else 0

/-- The seats a hold of the date gave back. -/
def givenBackWeight (dateId : Uuid) (hold : SeatHoldSnapshot) : ℤ :=
  if hold.dateId = dateId ∧ (hold.state = .released ∨ hold.state = .expired) then hold.quantity
  else 0

namespace Db

def consumedSeats (db : Db) (dateId : Uuid) : ℤ := db.holds.total (consumedWeight dateId)

def givenBackSeats (db : Db) (dateId : Uuid) : ℤ := db.holds.total (givenBackWeight dateId)

end Db

/-- A date's row after the holds that left between two states: what they were consumed for is sold,
what they gave back is on public sale or in the pool. -/
structure RowMovedFor (db db' : Db) (row row' : DateSalesSnapshot) : Prop where
  capacity : row'.capacityTotal = row.capacityTotal
  sold : row'.seatsSold - row.seatsSold =
    db'.consumedSeats row.dateId - db.consumedSeats row.dateId
  back : (row'.seatsAvailable - row.seatsAvailable) +
      (row'.priorityPoolSeats - row.priorityPoolSeats) =
    db'.givenBackSeats row.dateId - db.givenBackSeats row.dateId
  available : row.seatsAvailable ≤ row'.seatsAvailable
  pool : row.priorityPoolSeats ≤ row'.priorityPoolSeats

/-- A hold found in a later state with its order: as it was, or left with the order's seats written if
it was consumed, and none if it was not. -/
structure LeftWithOrder (db' : Db) (hold : SeatHoldSnapshot) (hold' : SeatHoldSnapshot)
    (record' : OrderRecord) : Prop where
  found : db'.holds.find? hold.id = some hold'
  order : db'.orders.find? hold.originRef = some record'
  current : record'.order.holdId = hold.id
  left : hold' = hold ∨ hold'.state ≠ .active ∧ hold' = leftHold hold hold'.state
  seats : record'.order.seats.length = if hold'.state = .consumed then hold.quantity else 0

/-- What two states say of the holds that left between them. -/
structure LeftBetween (db db' : Db) : Prop where
  rows : ∀ dateId row, db.sales.find? dateId = some row → ∃ row',
    db'.sales.find? dateId = some row' ∧ RowMovedFor db db' row row'
  holds : ∀ hold ∈ db.holds.rows, hold.state = .active →
    ∃ hold' record', LeftWithOrder db' hold hold' record'

def IsLeaving (_ : Db) (label : Label) : Prop := label = .quiet ∨ ∃ holdId, label = .holdLeft holdId

section Totals

variable {db db' : Db} {hold : SeatHoldSnapshot} {state : SeatHoldState}

/-- What a hold counts for once it left, when it counted for nothing before. -/
theorem total_left {holds : Table SeatHoldSnapshot.id} (hhold : holds.find? hold.id = some hold)
    (weight : SeatHoldSnapshot → ℤ) (hactive : weight hold = 0) :
    (holds.put (leftHold hold state)).total weight =
      holds.total weight + weight (leftHold hold state) := by
  have hput := Table.total_put (a := leftHold hold state) hhold weight
  rw [hactive, add_zero] at hput
  exact hput

theorem RowMovedFor.refl (row : DateSalesSnapshot) : RowMovedFor db db row row :=
  ⟨rfl, by simp, by simp, le_rfl, le_rfl⟩

theorem RowMovedFor.trans {mid : Db} {row row₁ row₂ : DateSalesSnapshot}
    (h : RowMovedFor db mid row row₁) (h' : RowMovedFor mid db' row₁ row₂)
    (hdate : row₁.dateId = row.dateId) : RowMovedFor db db' row row₂ where
  capacity := h'.capacity.trans h.capacity
  sold := by
    have h₁ := h.sold
    have h₂ := h'.sold
    rw [hdate] at h₂
    linarith
  back := by
    have h₁ := h.back
    have h₂ := h'.back
    rw [hdate] at h₂
    linarith
  available := h.available.trans h'.available
  pool := h.pool.trans h'.pool

/-- A row that kept its counters, beside holds that kept their states. -/
theorem RowMovedFor.quiet {row row' : DateSalesSnapshot} (hholds : db'.holds = db.holds)
    (hcounters : row'.counters = row.counters) : RowMovedFor db db' row row' := by
  simp only [DateSalesSnapshot.counters, Counters.mk.injEq] at hcounters
  obtain ⟨hcapacity, havailable, hpool, hsold, -⟩ := hcounters
  constructor <;>
    simp [Db.consumedSeats, Db.givenBackSeats, hholds, hcapacity, havailable, hpool, hsold]

end Totals

section Movements

variable [OrderRules] {db mid db' : Db} {label : Label} {hold : SeatHoldSnapshot}
  {record record' : OrderRecord}

/-! ## Quiet movements -/

theorem Change.seats_length {s s' : SeatOrderSnapshot} {op : Operation} (hc : Change s op s')
    (hop : ∀ intentRef issues now, op ≠ .pay intentRef issues now) :
    s'.seats.length = s.seats.length := by
  cases hc with
  | paid intentRef issues now => exact absurd rfl (hop intentRef issues now)
  | refundMade refund refundRef now made sign reached changed hfind hunmade hmade hsign hreached
      hchanged => simp [SeatOrder.seatsRefundedBy]
  | _ => simp

theorem RecordMove.seats_length (h : RecordMove record record' label) :
    record'.order.seats.length = record.order.seats.length := by
  cases h with
  | waiting intent state now hc => exact hc.seats_length (by simp)
  | booked op hbooks hc =>
      refine hc.seats_length ?_
      rintro intentRef issues now rfl
      exact hbooks
  | disputed _ hc => exact hc.seats_length (by simp)
  | cancelled cancellation now _ hc => exact hc.seats_length (by simp)
  | deadlines deadline => simp [movedDeadlines]
  | _ => rfl

/-- The order's hold and the number of its seats are as they were. -/
def SameSeats (record record' : OrderRecord) : Prop :=
  record'.order.id = record.order.id ∧ record'.order.holdId = record.order.holdId ∧
    record'.order.seats.length = record.order.seats.length

theorem Stops.sameSeats (h : Stops record record') : SameSeats record record' :=
  ⟨h.samePurchase.id, h.sameHold.1, by cases h <;> rfl⟩

omit [OrderRules] in
theorem sameSeats_put (hrecord : db.orders.find? record.id = some record)
    (hsame : SameSeats record record') {r : OrderRecord} {id : Uuid}
    (hr : db.orders.find? id = some r) :
    ∃ r', (db.orders.put record').find? id = some r' ∧ SameSeats r r' := by
  have hid : record'.id = record.id := hsame.1
  by_cases hother : id = record'.id
  · subst hother
    rw [hid, hrecord] at hr
    exact ⟨record', Table.find?_put_self (hid ▸ hrecord), Option.some.inj hr ▸ hsame⟩
  · exact ⟨r, (Table.find?_put_of_ne (Ne.symm hother)).trans hr, rfl, rfl, rfl⟩

/-- A quiet movement leaves every hold, and every order's hold and number of seats. -/
theorem Movement.quiet_kept (hm : Movement db .quiet db') : db'.holds = db.holds ∧
    ∀ id r, db.orders.find? id = some r →
      ∃ r', db'.orders.find? id = some r' ∧ SameSeats r r' := by
  cases hm with
  | order hrecord hmove =>
      exact ⟨rfl, fun id r hr => sameSeats_put hrecord
        ⟨hmove.samePurchase.id, hmove.sameHold.1, hmove.seats_length⟩ hr⟩
  | credited hrecord _ _ crediting now hc =>
      exact ⟨rfl, fun id r hr => sameSeats_put hrecord
        ⟨hc.samePurchase.id, (hc.sameHold (by simp)).1, hc.seats_length (by simp)⟩ hr⟩
  | @marked record hrecord now =>
      have hsame : SameSeats record { record with outcomeSettledAt := some now } := ⟨rfl, rfl, rfl⟩
      exact ⟨rfl, fun id r hr => sameSeats_put hrecord hsame hr⟩
  | stopped hrecord _ hstops =>
      exact ⟨rfl, fun id r hr => sameSeats_put hrecord hstops.sameSeats hr⟩
  | _ => exact ⟨rfl, fun id r hr => ⟨r, hr, rfl, rfl, rfl⟩⟩

theorem Movement.quiet_row (hm : Movement db .quiet db') {row : DateSalesSnapshot} {dateId : Uuid}
    (hrow : db.sales.find? dateId = some row) : ∃ row', db'.sales.find? dateId = some row' ∧
      row'.counters = row.counters := by
  obtain ⟨row', hfind, hstep⟩ := hm.sales_find hrow
  refine ⟨row', hfind, ?_⟩
  cases hstep with
  | same => rfl
  | moved hmove =>
      cases hmove with
      | quiet _ hcounters => exact hcounters
  | taken hlabel => cases hlabel
  | soldDirect hlabel => cases hlabel
  | returned _ _ _ hlabel =>
      obtain ⟨holdId, hlabel⟩ := hlabel
      cases hlabel
  | sold _ hlabel =>
      obtain ⟨holdId, hlabel⟩ := hlabel
      cases hlabel
  | released hlabel =>
      obtain ⟨orderId, cancellation, hlabel⟩ := hlabel
      cases hlabel

/-! ## Movements in which a hold leaves -/

/-- A movement in which a hold leaves, and its order with it. -/
structure HoldLeaves (db db' : Db) (hold : SeatHoldSnapshot) (state : SeatHoldState)
    (record record' : OrderRecord) : Prop where
  orderFound : db.orders.find? record.id = some record
  holdFound : db.holds.find? record.order.holdId = some hold
  active : hold.state = .active
  left : state ≠ .active
  holds : db'.holds = db.holds.put (leftHold hold state)
  orders : db'.orders = db.orders.put record'
  id : record'.order.id = record.order.id
  current : record'.order.holdId = record.order.holdId
  seats : record'.order.seats.length =
    if state = .consumed then hold.quantity else record.order.seats.length

/-- A movement under a hold's label is the one in which it leaves. -/
theorem Movement.leaves {holdId : Uuid} (hc : Consistent db)
    (hm : Movement db (.holdLeft holdId) db') : ∃ hold state record record',
      HoldLeaves db db' hold state record record' ∧ ∃ row row', db.sales.find? hold.dateId = some row ∧
        db'.sales = db.sales.put row' ∧
        ((state = .consumed ∧ row' = { row with seatsSold := row.seatsSold + hold.quantity }) ∨
          (state ≠ .consumed ∧ ∃ now, row' = Db.returned row hold.quantity hold.poolSeats now)) := by
  generalize hlabel : Label.holdLeft holdId = label at hm
  cases hm with
  | @returned hold record record' row hrecord hhold hactive hrow state hstate now hleave =>
      have hsame : SameSeats record record' := by
        rcases hleave with ⟨rfl, -, -⟩ | hstops
        · exact ⟨rfl, rfl, rfl⟩
        · exact hstops.sameSeats
      have hconsumed : state ≠ .consumed := by
        rcases hstate with rfl | rfl <;> decide
      refine ⟨hold, state, record, record', ⟨hrecord, hhold, hactive, released_or_expired hstate, rfl,
        rfl, hsame.1, hsame.2.1, ?_⟩, row, _, hrow, rfl, .inr ⟨hconsumed, now, rfl⟩⟩
      rw [if_neg hconsumed]
      exact hsame.2.2
  | @sold hold record row hrecord hhold hactive hrow haccepts intentRef issues hlength hissues now =>
      obtain ⟨found, hfound, hon⟩ := hc.current record (Table.mem_of_find? hrecord)
      rw [hhold] at hfound
      cases hfound
      refine ⟨hold, .consumed, record, _, ⟨hrecord, hhold, hactive, by decide, rfl, rfl, rfl, rfl, ?_⟩,
        row, _, hon.dateId ▸ hrow, rfl, .inl ⟨rfl, by rw [hon.quantity]⟩⟩
      simp [paidOrder, hlength, hon.quantity]
  | order hrecord hmove => subst hlabel; cases hmove
  | sale hrow hmove => subst hlabel; cases hmove
  | _ => cases hlabel

omit [OrderRules] in
/-- A row moved for the one hold that left. -/
theorem RowMovedFor.left {row row' : DateSalesSnapshot} {state : SeatHoldState}
    (hhold : db.holds.find? hold.id = some hold) (hactive : hold.state = .active)
    (hstate : state ≠ .active) (hpooled : 0 ≤ hold.poolSeats ∧ hold.poolSeats ≤ hold.quantity)
    (hholds : db'.holds = db.holds.put (leftHold hold state)) (hdate : hold.dateId = row.dateId)
    (hmoved : (state = .consumed ∧ row' = { row with seatsSold := row.seatsSold + hold.quantity }) ∨
      (state ≠ .consumed ∧ ∃ now, row' = Db.returned row hold.quantity hold.poolSeats now)) :
    RowMovedFor db db' row row' := by
  have hconsumed : db'.consumedSeats row.dateId = db.consumedSeats row.dateId +
      consumedWeight row.dateId (leftHold hold state) := by
    unfold Db.consumedSeats
    rw [hholds]
    exact total_left hhold _ (by simp [consumedWeight, hactive])
  have hback : db'.givenBackSeats row.dateId = db.givenBackSeats row.dateId +
      givenBackWeight row.dateId (leftHold hold state) := by
    unfold Db.givenBackSeats
    rw [hholds]
    exact total_left hhold _ (by simp [givenBackWeight, hactive])
  rcases hmoved with ⟨rfl, rfl⟩ | ⟨hne, now, rfl⟩
  · simp only [consumedWeight, givenBackWeight, leftHold, hdate, reduceCtorEq, or_self, and_true,
      and_false, if_true, if_false] at hconsumed hback
    refine ⟨rfl, ?_, ?_, le_rfl, le_rfl⟩
    · rw [hconsumed]
      ring
    · rw [hback]
      ring
  · have hgiven : state = .released ∨ state = .expired := by
      cases state with
      | active => exact absurd rfl hstate
      | consumed => exact absurd rfl hne
      | released => exact .inl rfl
      | expired => exact .inr rfl
    simp only [consumedWeight, givenBackWeight, leftHold, hdate, hne, hgiven, and_true, and_false,
      if_true, if_false] at hconsumed hback
    unfold Db.returned
    split_ifs
    · refine ⟨rfl, ?_, ?_, ?_, ?_⟩ <;> simp only [hconsumed, hback] <;> omega
    · refine ⟨rfl, ?_, ?_, ?_, ?_⟩ <;> simp only [hconsumed, hback] <;> omega

omit [OrderRules] in
/-- The row of another date than that of the hold that left. -/
theorem RowMovedFor.other {row : DateSalesSnapshot} {state : SeatHoldState}
    (hhold : db.holds.find? hold.id = some hold)
    (hholds : db'.holds = db.holds.put (leftHold hold state)) (hdate : hold.dateId ≠ row.dateId) :
    RowMovedFor db db' row row := by
  have hconsumed : db'.consumedSeats row.dateId = db.consumedSeats row.dateId := by
    unfold Db.consumedSeats
    rw [hholds, total_left hhold _ (by simp [consumedWeight, hdate])]
    simp [consumedWeight, leftHold, hdate]
  have hback : db'.givenBackSeats row.dateId = db.givenBackSeats row.dateId := by
    unfold Db.givenBackSeats
    rw [hholds, total_left hhold _ (by simp [givenBackWeight, hdate])]
    simp [givenBackWeight, leftHold, hdate]
  exact ⟨rfl, by rw [hconsumed]; ring, by rw [hback]; ring, le_rfl, le_rfl⟩

/-- What a movement that makes holds leave does to each date's row. -/
theorem Movement.row_movedFor (hc : Consistent db) (hk : Counted db) (hm : Movement db label db')
    (hl : IsLeaving db label) {row : DateSalesSnapshot} {dateId : Uuid}
    (hrow : db.sales.find? dateId = some row) :
    ∃ row', db'.sales.find? dateId = some row' ∧ RowMovedFor db db' row row' := by
  rcases hl with rfl | ⟨holdId, rfl⟩
  · obtain ⟨row', hfind, hcounters⟩ := hm.quiet_row hrow
    exact ⟨row', hfind, .quiet hm.quiet_kept.1 hcounters⟩
  · obtain ⟨hold, state, record, record', hleaves, old, moved, hold', hsales, hmoved⟩ := hm.leaves hc
    have hself : db.holds.find? hold.id = some hold :=
      (Table.key_of_find? hleaves.holdFound).symm ▸ hleaves.holdFound
    have hpooled := hk.pooled hold (Table.mem_of_find? hself)
    have hkey : moved.dateId = hold.dateId := by
      rw [← Table.key_of_find? hold']
      rcases hmoved with ⟨-, rfl⟩ | ⟨-, now, rfl⟩ <;> rfl
    have hdate : row.dateId = dateId := Table.key_of_find? hrow
    rw [hsales]
    by_cases hother : dateId = hold.dateId
    · subst hother
      rw [hold'] at hrow
      cases hrow
      refine ⟨moved, hkey ▸ Table.find?_put_self (hkey ▸ hold'), ?_⟩
      exact .left hself hleaves.active hleaves.left hpooled hleaves.holds hdate.symm hmoved
    · refine ⟨row, (Table.find?_put_of_ne (hkey ▸ Ne.symm hother)).trans hrow, ?_⟩
      exact .other hself hleaves.holds fun heq => hother (hdate ▸ heq.symm)

/-- What it does to a hold that is its order's current one, and to the order. -/
theorem Movement.leftWithOrder (hc : Consistent db) (hm : Movement db label db')
    (hl : IsLeaving db label) (hhold : db.holds.find? hold.id = some hold)
    (hrecord : db.orders.find? hold.originRef = some record)
    (hcurrent : record.order.holdId = hold.id) : ∃ hold' record',
      db'.holds.find? hold.id = some hold' ∧ db'.orders.find? hold.originRef = some record' ∧
      record'.order.holdId = hold.id ∧
      ((hold' = hold ∧ record'.order.seats.length = record.order.seats.length) ∨
        (hold.state = .active ∧ hold'.state ≠ .active ∧ hold' = leftHold hold hold'.state ∧
          record'.order.seats.length =
            if hold'.state = .consumed then hold.quantity else record.order.seats.length)) := by
  rcases hl with rfl | ⟨holdId, rfl⟩
  · obtain ⟨hholds, horders⟩ := hm.quiet_kept
    obtain ⟨record', hfind, -, hsame, hseats⟩ := horders _ record hrecord
    exact ⟨hold, record', hholds ▸ hhold, hfind, hsame.trans hcurrent, .inl ⟨rfl, hseats⟩⟩
  · obtain ⟨left, state, moved, moved', hleaves, -⟩ := hm.leaves hc
    rw [hleaves.holds, hleaves.orders]
    have hleft : db.holds.find? left.id = some left :=
      (Table.key_of_find? hleaves.holdFound).symm ▸ hleaves.holdFound
    have hmoved : moved.order.holdId = left.id := (Table.key_of_find? hleaves.holdFound).symm
    obtain ⟨found, hfound, hon⟩ := hc.current moved (Table.mem_of_find? hleaves.orderFound)
    rw [hleaves.holdFound] at hfound
    cases hfound
    by_cases hsame : hold.id = left.id
    · have heq : left = hold := by
        rw [hsame, hleft] at hhold
        exact Option.some.inj hhold
      subst heq
      have hrec : moved = record := by
        have hfind := hleaves.orderFound
        rw [show moved.id = left.originRef from hon.originRef.symm, hrecord] at hfind
        exact (Option.some.inj hfind).symm
      subst hrec
      refine ⟨leftHold left state, moved', Table.find?_put_self (a := leftHold left state) hleft, ?_,
        hleaves.current.trans hcurrent, .inr ⟨hleaves.active, hleaves.left, rfl, hleaves.seats⟩⟩
      have hkey : moved'.id = left.originRef := hleaves.id.trans hon.originRef.symm
      exact hkey ▸ Table.find?_put_self (hkey ▸ hrecord)
    · have hother : moved'.id ≠ hold.originRef := by
        intro hkey
        have hid : moved.id = hold.originRef := hleaves.id.symm.trans hkey
        have hfind := hleaves.orderFound
        rw [hid, hrecord] at hfind
        rw [← Option.some.inj hfind, hcurrent] at hmoved
        exact hsame hmoved
      have hne : (leftHold left state).id ≠ hold.id := Ne.symm hsame
      exact ⟨hold, record, (Table.find?_put_of_ne hne).trans hhold,
        (Table.find?_put_of_ne hother).trans hrecord, hcurrent, .inl ⟨rfl, rfl⟩⟩

end Movements

/-! ## Runs of movements -/

section Runs

variable [OrderRules] [LawfulOrderRules] {db db' : Db}

omit [OrderRules] [LawfulOrderRules] in
theorem LeftBetween.refl (hc : Consistent db) : LeftBetween db db := by
  refine ⟨fun dateId row hrow => ⟨row, hrow, .refl row⟩, fun hold hhold hactive => ?_⟩
  obtain ⟨record, hfind, hon, hunpaid⟩ := hc.active_current hhold hactive
  have hopen := (hc.standing record (Table.mem_of_find? hfind)).open_of_unpaid hunpaid
  refine ⟨hold, record, Table.find?_of_mem hhold, hfind, hon.holdId, .inl rfl, ?_⟩
  rw [hopen.seats, hactive]
  rfl

/-- Holds that leave in a run of movements: for each date by as many seats as its counters moved, for
each order by as many as were written. -/
theorem leftBetween_of_moved (hc : Consistent db) (hk : Counted db)
    (hm : Db.Moved IsLeaving db db') : LeftBetween db db' := by
  have hrun : Consistent db' ∧ Counted db' ∧ LeftBetween db db' := by
    apply hm.invariant (P := fun mid => Consistent mid ∧ Counted mid ∧ LeftBetween db mid)
    · exact ⟨hc, hk, .refl hc⟩
    · rintro mid label mid' ⟨hc, hk, hleft⟩ hl hmove
      refine ⟨hmove.consistent hc, hmove.counted hc hk, fun dateId row hrow => ?_,
        fun hold hhold hactive => ?_⟩
      · obtain ⟨row₁, hrow₁, hfirst⟩ := hleft.rows dateId row hrow
        obtain ⟨row₂, hrow₂, hsecond⟩ := hmove.row_movedFor hc hk hl hrow₁
        refine ⟨row₂, hrow₂, hfirst.trans hsecond ?_⟩
        rw [Table.key_of_find? hrow₁, Table.key_of_find? hrow]
      · obtain ⟨hold₁, record₁, hfound, horder, hcurrent, hstate, hseats⟩ :=
          hleft.holds hold hhold hactive
        have hids : hold₁.id = hold.id ∧ hold₁.originRef = hold.originRef ∧
            hold₁.quantity = hold.quantity := by
          rcases hstate with rfl | ⟨-, heq⟩
          · exact ⟨rfl, rfl, rfl⟩
          · rw [heq]
            exact ⟨rfl, rfl, rfl⟩
        obtain ⟨hid, horigin, hquantity⟩ := hids
        obtain ⟨hold₂, record₂, hfound₂, horder₂, hcurrent₂, hstep⟩ :=
          hmove.leftWithOrder hc hl (hid.symm ▸ hfound) (horigin.symm ▸ horder) (hid.symm ▸ hcurrent)
        refine ⟨hold₂, record₂, hid ▸ hfound₂, horigin ▸ horder₂, hcurrent₂.trans hid, ?_, ?_⟩
        · rcases hstep with ⟨rfl, -⟩ | ⟨hstill, hne, heq, -⟩
          · exact hstate
          · rcases hstate with rfl | ⟨hgone, -⟩
            · exact .inr ⟨hne, heq⟩
            · exact absurd hstill hgone
        · rcases hstep with ⟨rfl, hsame⟩ | ⟨hstill, hne, heq, hwritten⟩
          · exact hsame.trans hseats
          · have hbefore : hold₁.state ≠ .consumed := by
              rw [hstill]
              decide
            rw [hwritten, hquantity, hseats, if_neg hbefore]
  exact hrun.2.2

omit [LawfulOrderRules] in
/-- A hold that left is found as it left. -/
theorem Db.Moved.gone {ok : Db → Label → Prop} (hm : Db.Moved ok db db') {hold : SeatHoldSnapshot}
    {holdId : Uuid} (hhold : db.holds.find? holdId = some hold) (hgone : hold.state ≠ .active) :
    db'.holds.find? holdId = some hold := by
  apply hm.invariant (P := fun mid => mid.holds.find? holdId = some hold) hhold
  intro mid label mid' hfound _ hmove
  obtain ⟨hold', hfind, hstep⟩ := hmove.hold_find hfound
  cases hstep with
  | same => exact hfind
  | left hactive => exact absurd hactive hgone

def IsStaying (_ : Db) (label : Label) : Prop := ∀ holdId, label ≠ .holdLeft holdId

omit [LawfulOrderRules] in
/-- No hold leaves but under its label. -/
theorem Db.Moved.stays (hm : Db.Moved IsStaying db db') {hold : SeatHoldSnapshot} {holdId : Uuid}
    (hhold : db.holds.find? holdId = some hold) : db'.holds.find? holdId = some hold := by
  apply hm.invariant (P := fun mid => mid.holds.find? holdId = some hold) hhold
  intro mid label mid' hfound hl hmove
  obtain ⟨hold', hfind, hstep⟩ := hmove.hold_find hfound
  cases hstep with
  | same => exact hfind
  | left _ _ _ hlabel => exact absurd hlabel (hl _)

end Runs

/-! ## Transactions -/

section Transactions

variable [OrderRules] [LawfulOrderRules] [SalesRules] [LawfulSalesRules] {publicWebOrigin : String}
  {w : World} {db db' : Db}

omit [OrderRules] [LawfulOrderRules] [SalesRules] [LawfulSalesRules] in
theorem IsQuiet.stays {label : Label} (h : IsQuiet db label) : IsStaying db label := by
  rw [show label = .quiet from h]
  exact fun holdId hlabel => by cases hlabel

omit [OrderRules] [LawfulOrderRules] [SalesRules] [LawfulSalesRules] in
theorem IsCounted.stays {label : Label} (h : IsCounted db label) : IsStaying db label := by
  rcases h with rfl | rfl <;> exact fun holdId hlabel => by cases hlabel

omit [OrderRules] [LawfulOrderRules] [SalesRules] [LawfulSalesRules] in
theorem IsOfSeats.stays {label : Label} (h : IsOfSeats db label) : IsStaying db label := by
  rcases h with rfl | ⟨orderId, cancellation, rfl⟩ <;> exact fun holdId hlabel => by cases hlabel

omit [OrderRules] [LawfulOrderRules] [LawfulSalesRules] in
theorem IsFact.stays {dateId : Uuid} {fact : CatalogDateFact} {label : Label}
    (h : IsFact dateId fact db label) : IsStaying db label := by
  rcases h with rfl | ⟨outcome, statedAt, sales, -, rfl, -⟩ <;>
    exact fun holdId hlabel => by cases hlabel

omit [LawfulOrderRules] [SalesRules] [LawfulSalesRules] in
/-- Of one movement and quiet ones after it, either a hold leaves in it or none does. -/
theorem Db.MovedOnce.leaving_or_staying {labels : Label → Prop} (h : Db.MovedOnce labels db db') :
    Db.Moved IsLeaving db db' ∨ Db.Moved IsStaying db db' := by
  rcases h with hquiet | ⟨label, mid, -, hmove, hquiet⟩
  · exact .inr (hquiet.mono fun _ _ => IsQuiet.stays)
  · by_cases hleft : ∃ holdId, label = .holdLeft holdId
    · have hfirst : Db.Moved IsLeaving db mid := .single (.inr hleft) hmove
      exact .inl (hfirst.trans (hquiet.mono fun _ _ => .inl))
    · have hfirst : Db.Moved IsStaying db mid :=
        .single (fun holdId hlabel => hleft ⟨holdId, hlabel⟩) hmove
      exact .inr (hfirst.trans (hquiet.mono fun _ _ => IsQuiet.stays))

/-- In a transaction either holds leave and nothing else moves the counters, or none leaves. -/
theorem Transaction.leaving_or_staying {transaction : Transaction} (hs : w.Sound)
    (h : transaction.perform publicWebOrigin w = .ok db') :
    Db.Moved IsLeaving w.db db' ∨ Db.Moved IsStaying w.db db' := by
  have hmoved := Transaction.perform_moved hs.consistent hs.holdsLeft h
  cases transaction with
  | place => exact .inr (hmoved.mono fun _ _ => IsCounted.stays)
  | resume => exact .inr (hmoved.mono fun _ _ => IsCounted.stays)
  | failSoldOut => exact .inr (hmoved.mono fun _ _ => IsQuiet.stays)
  | recordIntent orderId intent reads now servedAt draw =>
      obtain ⟨resumption, hrecord⟩ := map_fst_ok (refusing_ok_iff.mp h)
      exact (recordIntentIn_moved hs.consistent hrecord).1.leaving_or_staying
  | releaseHold => exact .inl hmoved
  | applyEvent => exact (applyIn_moved hs.consistent (refusing_ok_iff.mp h)).leaving_or_staying
  | intentCancelled => exact .inr (hmoved.mono fun _ _ => IsQuiet.stays)
  | refundMade => exact .inr (hmoved.mono fun _ _ => IsQuiet.stays)
  | expireHolds => exact .inl hmoved
  | cancelSeat => exact .inr (hmoved.mono fun _ _ => IsOfSeats.stays)
  | refundSeat => exact .inr (hmoved.mono fun _ _ => IsOfSeats.stays)
  | settleOrders => exact .inr (hmoved.mono fun _ _ => IsOfSeats.stays)
  | stampSettled => exact .inr (hmoved.mono fun _ _ => IsQuiet.stays)
  | setAside => exact .inr (hmoved.mono fun _ _ => IsQuiet.stays)
  | sale action =>
      cases action with
      | applyFact => exact .inr (hmoved.mono fun _ _ => IsFact.stays)
      | _ => exact .inr (hmoved.mono fun _ _ => IsCounted.stays)

/-- What one transaction does to the active holds it finds: each stays its order's, or leaves with it.
When one leaves, the counters of every date move for the holds that left, and for nothing else. -/
structure HoldsLeave (db db' : Db) : Prop where
  holds : ∀ hold ∈ db.holds.rows, hold.state = .active →
    ∃ hold' record', LeftWithOrder db' hold hold' record'
  rows : (∃ hold ∈ db.holds.rows, hold.state = .active ∧ hold ∉ db'.holds.rows) →
    ∀ dateId row, db.sales.find? dateId = some row → ∃ row',
      db'.sales.find? dateId = some row' ∧ RowMovedFor db db' row row'

theorem World.Sound.holdsLeave (hs : w.Sound) (transaction : Transaction) :
    HoldsLeave w.db (w.advance publicWebOrigin transaction).db := by
  have hstays : ∀ {after : Db}, Consistent after → Db.Moved IsStaying w.db after →
      HoldsLeave w.db after := by
    intro after hc hmoved
    refine ⟨fun hold hhold hactive => ?_, ?_⟩
    · have hfound := hmoved.stays (Table.find?_of_mem hhold)
      exact (LeftBetween.refl hc).holds hold (Table.mem_of_find? hfound) hactive
    · rintro ⟨hold, hhold, -, hgone⟩
      exact absurd (Table.mem_of_find? (hmoved.stays (Table.find?_of_mem hhold))) hgone
  unfold World.advance
  split
  · rename_i after hperform
    rcases Transaction.leaving_or_staying hs hperform with hleaving | hstaying
    · have hleft := leftBetween_of_moved hs.consistent hs.counted hleaving
      exact ⟨hleft.holds, fun _ => hleft.rows⟩
    · exact hstays (hstaying.consistent hs.consistent) hstaying
  · exact hstays hs.consistent .refl
  · exact hstays hs.consistent .refl

/-- A hold that left is found as it left, whatever comes after. -/
theorem World.Sound.gone (hs : w.Sound) (later : List Transaction) {hold : SeatHoldSnapshot}
    (hhold : hold ∈ w.db.holds.rows) (hgone : hold.state ≠ .active) :
    hold ∈ (later.foldl (World.advance publicWebOrigin) w).db.holds.rows := by
  induction later generalizing w with
  | nil => exact hhold
  | cons transaction later ih =>
      refine ih (hs.advance transaction) ?_
      exact Table.mem_of_find? ((hs.moved transaction).gone (Table.find?_of_mem hhold) hgone)

variable (publicWebOrigin)

/-- In every state reached, an active hold is the current hold of one order, which waits for its
payment; a hold that left never moves again; and the holds that leave in a transaction move their
seats once, to sold with as many written to the order, or back to public sale or the pool. -/
theorem active_holds_owned_and_leave_once (transactions : List Transaction) :
    (∀ hold ∈ (World.reached publicWebOrigin transactions).db.holds.rows, hold.state = .active →
      ∃ record ∈ (World.reached publicWebOrigin transactions).db.orders.rows,
        record.order.holdId = hold.id ∧ record.order.AwaitsPayment ∧
        ∀ other ∈ (World.reached publicWebOrigin transactions).db.orders.rows,
          other.order.holdId = hold.id → other = record) ∧
    (∀ hold ∈ (World.reached publicWebOrigin transactions).db.holds.rows, hold.state ≠ .active →
      ∀ later, hold ∈ (World.reached publicWebOrigin (transactions ++ later)).db.holds.rows) ∧
    ∀ transaction, HoldsLeave (World.reached publicWebOrigin transactions).db
      ((World.reached publicWebOrigin transactions).advance publicWebOrigin transaction).db := by
  have hs := World.sound_reached publicWebOrigin transactions
  refine ⟨fun hold hhold hactive => ?_, fun hold hhold hgone later => ?_, hs.holdsLeave⟩
  · obtain ⟨record, hfind, hon, hunpaid⟩ := hs.consistent.active_current hhold hactive
    refine ⟨record, Table.mem_of_find? hfind, hon.holdId, hunpaid.1, fun other hother hsame => ?_⟩
    obtain ⟨current, hcurrent, hotherOn⟩ := hs.consistent.current other hother
    rw [hsame, Table.find?_of_mem hhold] at hcurrent
    have hid : other.id = record.id := by
      rw [show other.id = current.originRef from hotherOn.originRef.symm,
        ← Option.some.inj hcurrent]
      exact hon.originRef
    exact Table.eq_of_mem hother (Table.mem_of_find? hfind) hid
  · unfold World.reached
    rw [List.foldl_append]
    exact hs.gone later hhold hgone

end Transactions

section Sample

open Sample

/-- Paid, the hold of two seats is consumed: three stay on sale, two are sold and written. -/
theorem active_holds_owned_and_leave_once_sample :
    ((World.reached "https://arthome.example" samplePlaced).advance "https://arthome.example"
        sampleSucceeded).db.holds.rows.map SeatHoldSnapshot.state = [.consumed] ∧
      HoldsLeave (World.reached "https://arthome.example" samplePlaced).db
        ((World.reached "https://arthome.example" samplePlaced).advance "https://arthome.example"
          sampleSucceeded).db :=
  ⟨by decide +kernel, (active_holds_owned_and_leave_once "https://arthome.example"
    samplePlaced).2.2 sampleSucceeded⟩

end Sample

end Arthome.Ticketing
