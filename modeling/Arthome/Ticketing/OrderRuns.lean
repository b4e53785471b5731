import Arthome.Ticketing.SeatRuns

/-!
# Orders move onward only

Whatever transactions come after, an order placed is the same purchase, its state is
never taken back, and what it wrote once stays written: its payment's instant, its
kept answer, each refund it owes and each seat that ended. A key is bound to one
order for ever, and a purchase made again under it changes nothing.
-/

namespace Arthome.Ticketing

open Arthome.Core Library

/-- The seat later: ended once, it is as it ended, or its money came back since. -/
structure SeatOnward (seat seat' : SeatSnapshot) : Prop where
  id : seat'.id = seat.id
  code : seat'.code = seat.code
  tier : seat'.tier = seat.tier
  activatedAt : seat'.activatedAt = seat.activatedAt
  ended : seat.state ≠ .active →
    seat' = seat ∨ seat.state = .cancelled ∧ seat' = { seat with state := .refunded }

/-- The refund later: owed as it was, and made once. -/
structure RefundOnward (refund refund' : OrderRefund) : Prop where
  owed : refund'.toOwedRefund = refund.toOwedRefund
  owedAt : refund'.owedAt = refund.owedAt
  made : refund.refundedAt.isSome → refund' = refund

/-- The record later. -/
structure Onward (record record' : OrderRecord) : Prop where
  same : SamePurchase record record'
  rank : record.order.state.rank ≤ record'.order.state.rank
  paidAt : ∀ paidAt, record.order.paidAt = some paidAt → record'.order.paidAt = some paidAt
  answer : ∀ answer, record.answer = some answer → record'.answer = some answer
  confirmed : record.confirmed = true → record'.confirmed = true
  settled : record.outcomeSettledAt.isSome → record'.outcomeSettledAt.isSome
  refunds : ∀ r ∈ record.order.refunds, ∃ r' ∈ record'.order.refunds, RefundOnward r r'
  seatIds : record.order.seats ≠ [] →
    record'.order.seats.map (fun seat => seat.id) = record.order.seats.map fun seat => seat.id
  seats : ∀ seat ∈ record.order.seats, ∃ seat' ∈ record'.order.seats, SeatOnward seat seat'

/-- Refunds and seats under ids of their own. -/
structure Distinct (order : SeatOrderSnapshot) : Prop where
  refunds : (order.refunds.map fun r => r.id).Nodup
  seats : (order.seats.map fun seat => seat.id).Nodup

section Relations

theorem SeatOnward.refl (seat : SeatSnapshot) : SeatOnward seat seat :=
  ⟨rfl, rfl, rfl, rfl, fun _ => .inl rfl⟩

theorem SeatOnward.of_active {seat seat' : SeatSnapshot} (hactive : seat.state = .active)
    (hid : seat'.id = seat.id) (hcode : seat'.code = seat.code) (htier : seat'.tier = seat.tier)
    (hat : seat'.activatedAt = seat.activatedAt) : SeatOnward seat seat' :=
  ⟨hid, hcode, htier, hat, fun hended => absurd hactive hended⟩

theorem SeatOnward.trans {a b c : SeatSnapshot} (h : SeatOnward a b) (h' : SeatOnward b c) :
    SeatOnward a c := by
  refine ⟨h'.id.trans h.id, h'.code.trans h.code, h'.tier.trans h.tier,
    h'.activatedAt.trans h.activatedAt, fun hended => ?_⟩
  rcases h.ended hended with rfl | ⟨hcancelled, rfl⟩
  · exact h'.ended hended
  · rcases h'.ended (by simp) with rfl | ⟨hagain, -⟩
    · exact .inr ⟨hcancelled, rfl⟩
    · cases hagain

theorem RefundOnward.refl (refund : OrderRefund) : RefundOnward refund refund :=
  ⟨rfl, rfl, fun _ => rfl⟩

theorem RefundOnward.trans {a b c : OrderRefund} (h : RefundOnward a b) (h' : RefundOnward b c) :
    RefundOnward a c := by
  refine ⟨h'.owed.trans h.owed, h'.owedAt.trans h.owedAt, fun hmade => ?_⟩
  have hsame := h.made hmade
  subst hsame
  exact h'.made hmade

theorem Onward.refl (record : OrderRecord) : Onward record record where
  same := .refl record
  rank := le_rfl
  paidAt _ h := h
  answer _ h := h
  confirmed h := h
  settled h := h
  refunds r hr := ⟨r, hr, .refl r⟩
  seatIds _ := rfl
  seats seat hseat := ⟨seat, hseat, .refl seat⟩

theorem Onward.trans {a b c : OrderRecord} (h : Onward a b) (h' : Onward b c) : Onward a c where
  same := h.same.trans h'.same
  rank := h.rank.trans h'.rank
  paidAt t ht := h'.paidAt t (h.paidAt t ht)
  answer answer hanswer := h'.answer answer (h.answer answer hanswer)
  confirmed hconfirmed := h'.confirmed (h.confirmed hconfirmed)
  settled hsettled := h'.settled (h.settled hsettled)
  refunds r hr := by
    obtain ⟨r', hr', honward⟩ := h.refunds r hr
    obtain ⟨r'', hr'', honward'⟩ := h'.refunds r' hr'
    exact ⟨r'', hr'', honward.trans honward'⟩
  seatIds hseats := by
    have hids := h.seatIds hseats
    have hb : b.order.seats ≠ [] := by
      intro hnone
      rw [hnone, List.map_nil] at hids
      exact hseats (List.map_eq_nil_iff.mp hids.symm)
    exact (h'.seatIds hb).trans hids
  seats seat hseat := by
    obtain ⟨seat', hseat', honward⟩ := h.seats seat hseat
    obtain ⟨seat'', hseat'', honward'⟩ := h'.seats seat' hseat'
    exact ⟨seat'', hseat'', honward.trans honward'⟩

end Relations

section Steps

variable [OrderRules] [LawfulOrderRules] {db : Db} {label : Label} {record record' : OrderRecord}
  {s s' : SeatOrderSnapshot} {op : Operation}

/-- The operations that neither issue an order's seats nor owe its unseated payment back. -/
def Operation.Keeps : Operation → Prop
  | .pay .. | .oweUnseatedPaymentBack .. => False
  | _ => True

omit [LawfulOrderRules] in
theorem Change.refunds_onward (hc : Change s op s') (hkeeps : op.Keeps) (hd : Distinct s) :
    ∀ r ∈ s.refunds, ∃ r' ∈ s'.refunds, RefundOnward r r' := by
  intro r hr
  cases hc with
  | paid => exact hkeeps.elim
  | unseatedOwed => exact hkeeps.elim
  | refundOwed => exact ⟨r, List.mem_append_left _ hr, .refl r⟩
  | refundMade refund refundRef now made sign reached changed hfind hunmade =>
      refine ⟨_, (mem_refundsWithMade _ _ _ _).mpr ⟨r, hr, rfl⟩, ?_⟩
      split_ifs with hid
      · have hsame : r = refund :=
          List.inj_on_of_nodup_map hd.refunds hr (List.mem_of_find?_eq_some hfind) hid
        refine ⟨rfl, rfl, fun hmade => ?_⟩
        rw [hsame, hunmade] at hmade
        cases hmade
      · exact .refl r
  | _ => exact ⟨r, hr, .refl r⟩

omit [OrderRules] [LawfulOrderRules] in
/-- Seats moved one by one, each onward. -/
theorem seats_onward_map {seats : List SeatSnapshot} {move : SeatSnapshot → SeatSnapshot}
    (h : ∀ seat ∈ seats, SeatOnward seat (move seat)) :
    (seats.map move).map (fun seat => seat.id) = seats.map (fun seat => seat.id) ∧
      ∀ seat ∈ seats, ∃ seat' ∈ seats.map move, SeatOnward seat seat' := by
  refine ⟨?_, fun seat hseat => ⟨move seat, List.mem_map_of_mem hseat, h seat hseat⟩⟩
  rw [List.map_map]
  exact List.map_congr_left fun seat hseat => (h seat hseat).id

theorem Change.seats_onward (hc : Change s op s') (hkeeps : op.Keeps) (hd : Distinct s) :
    s'.seats.map (fun seat => seat.id) = s.seats.map (fun seat => seat.id) ∧
      ∀ seat ∈ s.seats, ∃ seat' ∈ s'.seats, SeatOnward seat seat' := by
  have hsame : ∀ seat ∈ s.seats, ∃ seat' ∈ s.seats, SeatOnward seat seat' :=
    fun seat hseat => ⟨seat, hseat, .refl seat⟩
  cases hc with
  | paid => exact hkeeps.elim
  | unseatedOwed => exact hkeeps.elim
  | refundMade refund refundRef now made sign reached changed hfind hunmade =>
      refine seats_onward_map fun seat hseat => ?_
      split_ifs with hnamed
      · have hcancelled := (LawfulOrderRules.mayRefund_iff _).mp hnamed.2
        exact ⟨rfl, rfl, rfl, rfl, fun _ => .inr ⟨hcancelled, rfl⟩⟩
      · exact .refl seat
  | seatsCancelled cancellation now _ _ _ _ hmove =>
      refine seats_onward_map fun seat hseat => ?_
      by_cases hnamed : seat.id ∈ cancellation.seats.map fun named => named.seatId
      · have hactive := hmove.active_of_named (.inl rfl) hd.seats hseat hnamed
        unfold SeatOrder.cancelledSeat
        split
        · exact .refl seat
        · exact .of_active hactive rfl rfl rfl rfl
      · rcases cancelledSeat_cases cancellation now seat with ⟨-, heq⟩ | ⟨hmem, -⟩
        · rw [heq]
          exact .refl seat
        · exact absurd hmem hnamed
  | seatsCredited crediting now hmove =>
      refine seats_onward_map fun seat hseat => ?_
      unfold SeatOrder.creditedSeat
      split
      · exact .refl seat
      · rename_i named hfind
        have hnamed : seat.id ∈ crediting.seats.map fun named => named.seatId := by
          have hname : named.seatId = seat.id := by simpa using List.find?_some hfind
          exact List.mem_map.mpr ⟨named, List.mem_of_find?_eq_some hfind, hname⟩
        exact .of_active (hmove.active_of_named (.inr rfl) hd.seats hseat hnamed) rfl rfl rfl rfl
  | _ => exact ⟨rfl, hsame⟩

theorem Change.distinct (hc : Change s op s') (hkeeps : op.Keeps) (hd : Distinct s) :
    Distinct s' := by
  refine ⟨?_, ?_⟩
  · cases hc with
    | paid => exact hkeeps.elim
    | unseatedOwed => exact hkeeps.elim
    | refundOwed refund now left hfresh =>
        rw [List.map_append, List.nodup_append]
        refine ⟨hd.refunds, by simp, ?_⟩
        intro id hid other hother heq
        obtain ⟨r, hr, rfl⟩ := List.mem_map.mp hid
        rw [List.map_singleton, List.mem_singleton] at hother
        exact (hfresh r hr).1 (heq.trans hother)
    | refundMade =>
        rw [refundsWithMade_ids]
        exact hd.refunds
    | _ => exact hd.refunds
  · rw [(hc.seats_onward hkeeps hd).1]
    exact hd.seats

omit [OrderRules] [LawfulOrderRules] in
theorem Operation.Books.keeps {op : Operation} (h : op.Books) : op.Keeps := by
  cases op <;> trivial

/-- An operation of the aggregate that issues no seat and owes no whole payment back. -/
theorem Change.onward (hc : Change record.order op s') (hkeeps : op.Keeps)
    (hd : Distinct record.order) : Onward record { record with order := s' } where
  same := hc.samePurchase
  rank := hc.rank_le
  paidAt t ht := by
    rw [← ht]
    refine hc.paidAt_eq ?_
    rintro intentRef issues now rfl
    exact hkeeps
  answer _ h := h
  confirmed h := h
  settled h := h
  refunds := hc.refunds_onward hkeeps hd
  seatIds _ := (hc.seats_onward hkeeps hd).1
  seats := (hc.seats_onward hkeeps hd).2

omit [OrderRules] [LawfulOrderRules] in
/-- An order not paid, owing nothing and with no seat yet: only its purchase and its answer are
kept. -/
theorem Onward.of_open (hopen : Open record) (hsame : SamePurchase record record')
    (hrank : record.order.state.rank ≤ record'.order.state.rank)
    (hanswer : record'.answer = record.answer)
    (hsettled : record'.outcomeSettledAt = record.outcomeSettledAt) : Onward record record' where
  same := hsame
  rank := hrank
  paidAt t ht := by
    rw [hopen.paidAt] at ht
    cases ht
  answer answer h := hanswer.trans h
  confirmed h := by
    rw [hopen.confirmed] at h
    cases h
  settled h := by
    rw [hsettled]
    exact h
  refunds r hr := by
    rw [hopen.refunds] at hr
    cases hr
  seatIds hseats := absurd hopen.seats hseats
  seats seat hseat := by
    rw [hopen.seats] at hseat
    cases hseat

omit [OrderRules] [LawfulOrderRules] in
/-- A record moved beside its order's payment, refunds and seats. -/
theorem Onward.of_eq (hsame : SamePurchase record record')
    (hrank : record.order.state.rank ≤ record'.order.state.rank)
    (hpaid : record'.order.paidAt = record.order.paidAt)
    (hanswer : ∀ answer, record.answer = some answer → record'.answer = some answer)
    (hconfirmed : record.confirmed = true → record'.confirmed = true)
    (hsettled : record.outcomeSettledAt.isSome → record'.outcomeSettledAt.isSome)
    (hrefunds : record'.order.refunds = record.order.refunds)
    (hseats : record'.order.seats = record.order.seats) : Onward record record' where
  same := hsame
  rank := hrank
  paidAt t ht := hpaid.trans ht
  answer := hanswer
  confirmed := hconfirmed
  settled := hsettled
  refunds r hr := ⟨r, hrefunds ▸ hr, .refl r⟩
  seatIds _ := by rw [hseats]
  seats seat hseat := ⟨seat, hseats ▸ hseat, .refl seat⟩

omit [OrderRules] [LawfulOrderRules] in
theorem movedDeadlines_onward (deadline : Instant) (seats : List SeatSnapshot) :
    (movedDeadlines deadline seats).map (fun seat => seat.id) = seats.map (fun seat => seat.id) ∧
      ∀ seat ∈ seats, ∃ seat' ∈ movedDeadlines deadline seats, SeatOnward seat seat' := by
  refine seats_onward_map fun seat _ => ?_
  split_ifs with hmoved
  · have hactive : seat.state = .active := by
      unfold isMovedSeat at hmoved
      simp only [Bool.and_eq_true, decide_eq_true_eq] at hmoved
      exact hmoved.1
    exact .of_active hactive rfl rfl rfl rfl
  · exact .refl seat

theorem RecordMove.onward (hmove : RecordMove record record' label) (hd : Distinct record.order) :
    Onward record record' := by
  cases hmove with
  | waiting intent state now hc => exact hc.onward trivial hd
  | booked op hbooks hc => exact hc.onward hbooks.keeps hd
  | disputed _ hc => exact hc.onward trivial hd
  | cancelled cancellation now _ hc => exact hc.onward trivial hd
  | answered answer hnone =>
      refine .of_eq ⟨rfl, rfl, rfl, rfl, rfl, rfl⟩ le_rfl rfl ?_ id id rfl rfl
      intro kept hkept
      rw [hnone] at hkept
      cases hkept
  | confirmedAgain =>
      exact .of_eq ⟨rfl, rfl, rfl, rfl, rfl, rfl⟩ le_rfl rfl (fun _ => id) (fun _ => rfl) id rfl rfl
  | deadlines deadline =>
      have hseats := movedDeadlines_onward deadline record.order.seats
      exact ⟨⟨rfl, rfl, rfl, rfl, rfl, rfl⟩, le_rfl, fun _ => id, fun _ => id, id, id,
        fun r hr => ⟨r, hr, .refl r⟩, fun _ => hseats.1, hseats.2⟩

/-- A step of an order moves it onward. -/
theorem RecordStep.onward (hstep : RecordStep db label record record') (hstanding : Standing record)
    (hd : Distinct record.order) : Onward record record' := by
  have hsame := hstep.samePurchase
  cases hstep with
  | same => exact .refl record
  | moved hmove => exact hmove.onward hd
  | credited _ _ crediting now hc => exact hc.onward trivial hd
  | marked =>
      exact .of_eq hsame le_rfl rfl (fun _ => id) id (fun _ => rfl) rfl rfl
  | stopped hstops =>
      cases hstops with
      | failed failure hwaits =>
          exact .of_eq hsame hwaits.rank_lt.le rfl (fun _ => id) id id rfl rfl
      | swept now hwaits =>
          exact .of_eq hsame hwaits.rank_lt.le rfl (fun _ => id) id id rfl rfl
      | unseated reason intentRef id now haccepts =>
          exact .of_open (hstanding.open_of_accepts haccepts) hsame le_rfl rfl rfl
  | paid haccepts =>
      exact .of_open (hstanding.open_of_accepts haccepts) hsame haccepts.unpaid.le rfl rfl
  | renewed => exact .of_eq hsame le_rfl rfl (fun _ => id) id id rfl rfl
  | viewerCancelled cancellation now _ hc => exact hc.onward trivial hd

theorem RecordStep.distinct (hstep : RecordStep db label record record')
    (hd : Distinct record.order) : Distinct record'.order := by
  cases hstep with
  | moved hmove =>
      cases hmove with
      | waiting intent state now hc => exact hc.distinct trivial hd
      | booked op hbooks hc => exact hc.distinct hbooks.keeps hd
      | disputed _ hc => exact hc.distinct trivial hd
      | cancelled cancellation now _ hc => exact hc.distinct trivial hd
      | deadlines deadline =>
          refine ⟨hd.refunds, ?_⟩
          show ((movedDeadlines deadline record.order.seats).map fun seat => seat.id).Nodup
          rw [(movedDeadlines_onward deadline record.order.seats).1]
          exact hd.seats
      | _ => exact hd
  | credited _ _ crediting now hc => exact hc.distinct trivial hd
  | stopped hstops =>
      cases hstops with
      | unseated => exact ⟨by simp [unseatedOrder], hd.seats⟩
      | failed => exact ⟨hd.refunds, hd.seats⟩
      | swept => exact ⟨hd.refunds, hd.seats⟩
  | paid haccepts intentRef issues hlength hissues now =>
      refine ⟨hd.refunds, ?_⟩
      show ((issues.map (SeatOrder.issuedSeat record.order.tier now)).map fun seat => seat.id).Nodup
      rw [List.map_map]
      exact hissues
  | renewed => exact ⟨hd.refunds, hd.seats⟩
  | viewerCancelled cancellation now _ hc => exact hc.distinct trivial hd
  | _ => exact hd

end Steps

/-! ## Runs -/

section Runs

variable [OrderRules] [LawfulOrderRules] {db db' : Db} {label : Label}

/-- Every order's refunds and seats are under ids of their own, and no key is bound twice. -/
structure Db.OneOfEach (db : Db) : Prop where
  distinct : ∀ record ∈ db.orders.rows, Distinct record.order
  keys : ∀ record ∈ db.orders.rows, ∀ other ∈ db.orders.rows,
    record.binding.accountId = other.binding.accountId → record.binding.key = other.binding.key →
    record.id = other.id

omit [OrderRules] [LawfulOrderRules] in
theorem findBound_none {accountId : Option Uuid} {key : Uuid}
    (h : db.findBound accountId key = none) {record : OrderRecord} (hrecord : record ∈ db.orders.rows)
    (haccount : record.binding.accountId = accountId) : record.binding.key ≠ key := by
  unfold Db.findBound at h
  rw [List.find?_eq_none] at h
  have hnot := h record hrecord
  simp only [haccount, decide_true, Bool.true_and, decide_eq_true_eq] at hnot
  exact hnot

omit [LawfulOrderRules] in
/-- An order found after a movement and not before it is the one inserted. -/
theorem Movement.inserted (hm : Movement db label db') {record' : OrderRecord}
    (hrecord' : record' ∈ db'.orders.rows) (hnew : db.orders.find? record'.id = none) :
    db.orders.insert record' = some db'.orders := by
  have hput : ∀ {record moved : OrderRecord}, db.orders.find? record.id = some record →
      RecordStep db label record moved → record' ∈ (db.orders.put moved).rows → False := by
    intro record moved hrecord hstep hmem
    obtain ⟨found, hfound, -⟩ := recordStep_put hrecord hstep hmem
    rw [hnew] at hfound
    cases hfound
  have hold : record' ∈ db.orders.rows → False := by
    intro hmem
    rw [Table.find?_of_mem hmem] at hnew
    cases hnew
  cases hm with
  | order hrecord hmove => exact (hput hrecord (.moved hmove) hrecord').elim
  | credited hrecord hsettlement houtcome crediting now hc =>
      exact (hput hrecord (.credited hsettlement houtcome crediting now hc) hrecord').elim
  | marked hrecord now hsettled hcancelled =>
      exact (hput hrecord (.marked now hsettled hcancelled) hrecord').elim
  | stopped hrecord _ hstops => exact (hput hrecord (.stopped hstops) hrecord').elim
  | returned hrecord _ _ _ _ _ _ hleave =>
      rcases hleave with ⟨rfl, -, -⟩ | hstops
      · exact (hput hrecord .same hrecord').elim
      · exact (hput hrecord (.stopped hstops) hrecord').elim
  | sold hrecord _ _ _ haccepts intentRef issues hlength hissues now =>
      exact (hput hrecord (.paid haccepts intentRef issues hlength hissues now) hrecord').elim
  | soldDirect hrecord _ _ _ haccepts intentRef issues hlength hissues now =>
      exact (hput hrecord (.paid haccepts intentRef issues hlength hissues now) hrecord').elim
  | placed placement binding now _ _ _ _ _ _ _ horders =>
      rcases (Table.mem_insert horders).mp hrecord' with hmem | rfl
      · exact (hold hmem).elim
      · exact horders
  | renewed hrecord hstate hintent =>
      exact (hput hrecord (.renewed hstate hintent _ _) hrecord').elim
  | viewerCancelled hrecord seatId cancellation now _ _ hc =>
      exact (hput hrecord (.viewerCancelled cancellation now rfl hc) hrecord').elim
  | _ => exact (hold hrecord').elim

theorem Movement.oneOfEach (hm : Movement db label db') (h : db.OneOfEach) : db'.OneOfEach := by
  refine ⟨fun record' hrecord' => ?_, fun record' hrecord' other' hother' haccount hkey => ?_⟩
  · rcases hm.record_cases hrecord' with ⟨record, hfind, hstep⟩ | ⟨placement, binding, now, -, -, rfl, -⟩
    · exact hstep.distinct (h.distinct record (Table.mem_of_find? hfind))
    · exact ⟨List.nodup_nil, List.nodup_nil⟩
  · rcases hm.record_cases hrecord' with
      ⟨record, hfind, hstep⟩ | ⟨placement, binding, now, -, -, hopened, hnew, hunbound⟩
    · rcases hm.record_cases hother' with
        ⟨other, hfind', hstep'⟩ | ⟨placement', binding', now', -, -, hopened', -, hunbound'⟩
      · have hbinding := hstep.samePurchase.binding
        have hbinding' := hstep'.samePurchase.binding
        rw [hbinding, hbinding'] at haccount hkey
        have hsame := h.keys record (Table.mem_of_find? hfind) other (Table.mem_of_find? hfind')
          haccount hkey
        rw [← Table.key_of_find? hfind, ← Table.key_of_find? hfind', hsame]
      · have hbinding := hstep.samePurchase.binding
        rw [hbinding, hopened'] at haccount hkey
        exact absurd hkey (findBound_none hunbound' (Table.mem_of_find? hfind) haccount)
    · rcases (Table.mem_insert (hm.inserted hrecord' hnew)).mp hother' with hmem | hsame
      · have hne := findBound_none hunbound hmem
        rw [hopened] at haccount hkey
        exact absurd hkey.symm (hne haccount.symm)
      · rw [hsame]

theorem Movement.onward (hc : Consistent db) (h : db.OneOfEach) (hm : Movement db label db')
    {record : OrderRecord} {orderId : Uuid} (hrecord : db.orders.find? orderId = some record) :
    ∃ record', db'.orders.find? orderId = some record' ∧ Onward record record' := by
  obtain ⟨record', hfind, hstep⟩ := hm.record_find hrecord
  have hmem := Table.mem_of_find? hrecord
  exact ⟨record', hfind, hstep.onward (hc.standing record hmem) (h.distinct record hmem)⟩

omit [OrderRules] [LawfulOrderRules] in
theorem oneOfEach_empty : Db.empty.OneOfEach :=
  ⟨fun record hrecord => (by cases hrecord), fun record hrecord => (by cases hrecord)⟩

variable [SalesRules] [LawfulSalesRules] (publicWebOrigin : String)

theorem World.oneOfEach_reached (transactions : List Transaction) :
    (World.reached publicWebOrigin transactions).db.OneOfEach :=
  World.sound_empty.kept transactions (fun _ h hmove => hmove.oneOfEach h) oneOfEach_empty

omit [LawfulOrderRules] [LawfulSalesRules] in
theorem World.reached_append (earlier later : List Transaction) :
    World.reached publicWebOrigin (earlier ++ later) =
      later.foldl (World.advance publicWebOrigin) (World.reached publicWebOrigin earlier) :=
  List.foldl_append

variable {publicWebOrigin} in
omit [LawfulOrderRules] [LawfulSalesRules] in
theorem World.advance_ok {w : World} {transaction : Transaction} {committed : Db}
    (h : transaction.perform publicWebOrigin w = .ok committed) :
    (w.advance publicWebOrigin transaction).db = committed := by
  unfold World.advance
  rw [h]

variable {publicWebOrigin} in
/-- Every order of a state is found after any transactions, moved onward. -/
theorem World.Sound.onward {w : World} (hs : w.Sound) (hone : w.db.OneOfEach)
    (later : List Transaction) {orderId : Uuid} {record : OrderRecord}
    (hrecord : w.db.orders.find? orderId = some record) :
    ∃ record', (later.foldl (World.advance publicWebOrigin) w).db.orders.find? orderId =
      some record' ∧ Onward record record' := by
  have hrun : (later.foldl (World.advance publicWebOrigin) w).db.OneOfEach ∧
      ∃ record', (later.foldl (World.advance publicWebOrigin) w).db.orders.find? orderId =
        some record' ∧ Onward record record' := by
    apply hs.kept
      (P := fun db => db.OneOfEach ∧ ∃ record', db.orders.find? orderId = some record' ∧
        Onward record record')
    · rintro before after label hc ⟨hone, found, hfound, honward⟩ hmove
      obtain ⟨next, hnext, hstep⟩ := hmove.onward hc hone hfound
      exact ⟨hmove.oneOfEach hone, next, hnext, honward.trans hstep⟩
    · exact ⟨hone, record, hrecord, .refl record⟩
  exact hrun.2

/-- An order placed is found after any later transactions, moved onward only: the same purchase, its
state never taken back, its payment, its answer, its refunds and its ended seats as they were. -/
theorem orders_move_onward (earlier later : List Transaction) (orderId : Uuid) (record : OrderRecord)
    (hrecord : (World.reached publicWebOrigin earlier).db.orders.find? orderId = some record) :
    ∃ record', (World.reached publicWebOrigin (earlier ++ later)).db.orders.find? orderId =
      some record' ∧ Onward record record' := by
  rw [World.reached_append]
  exact (World.sound_reached publicWebOrigin earlier).onward
    (World.oneOfEach_reached publicWebOrigin earlier) later hrecord

end Runs

section Sample

open Sample

/-- Confirmed, the order of the sample is paid: the same purchase, later. -/
theorem orders_move_onward_sample : ∃ record record',
    (World.reached "https://arthome.example" samplePlaced).db.orders.find? 51 = some record ∧
      (World.reached "https://arthome.example" (samplePlaced ++ [sampleSucceeded])).db.orders.find?
        51 = some record' ∧ record.order.state = .pending ∧ record'.order.state = .paid ∧
      Onward record record' := by
  have hplaced : ((World.reached "https://arthome.example" samplePlaced).db.orders.find? 51).map
      (fun record => record.order.state) = some .pending := by decide +kernel
  have hpaid : ((World.reached "https://arthome.example"
      (samplePlaced ++ [sampleSucceeded])).db.orders.find? 51).map
        (fun record => record.order.state) = some .paid := by decide +kernel
  obtain ⟨record, hrecord, hpending⟩ := Option.map_eq_some_iff.mp hplaced
  obtain ⟨record', hrecord', honward⟩ := orders_move_onward "https://arthome.example" samplePlaced
    [sampleSucceeded] 51 record hrecord
  rw [hrecord', Option.map_some, Option.some.injEq] at hpaid
  exact ⟨record, record', hrecord, hrecord', hpending, hpaid, honward⟩

end Sample

end Arthome.Ticketing
