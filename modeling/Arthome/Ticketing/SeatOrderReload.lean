import Arthome.Core.Sample
import Arthome.Library.Machine
import Arthome.Ticketing.SeatOrderLedger
import Arthome.Ticketing.SeatOrderRepository

/-!
# Saving an order and loading it again

The save writes a difference over three tables, by lists of columns written by
hand. It loses nothing as long as every field an operation moves is among those
columns: `Continues` says what any operations leave of an order as it was
loaded, the placement, the refunds' facts and the seats' codes among it, and
`Arthome.Library.DiffSave` does the rest for both children. Two facts are not
the save's own. A seat's credit is stored in its order's currency, which the
aggregate does not check. And the tables' constraints may refuse a save whole,
as they do for a seat issued and given back between one load and one save.
-/

namespace Arthome.Ticketing

open Arthome.Core Library

/-- The same snapshot, up to the order of its seats and of its refunds. -/
def SeatOrderSnapshot.SameUpToOrder (a b : SeatOrderSnapshot) : Prop :=
  a.seats.Perm b.seats ∧ a.refunds.Perm b.refunds ∧
    { a with seats := [], refunds := [] } = { b with seats := [], refunds := [] }

/-- What a seat's moves leave of it. -/
def SeatSnapshot.fixed (seat : SeatSnapshot) :
    Uuid × String × PriceTier × Option Instant × Instant :=
  (seat.id, seat.code, seat.tier, seat.cancelDeadline, seat.activatedAt)

/-- What a refund's being made leaves of it. -/
def OrderRefund.fixed (refund : OrderRefund) : OwedRefund × Instant :=
  (refund.toOwedRefund, refund.owedAt)

/-- What a snapshot needs to be read back from its columns. -/
structure Storable (s : SeatOrderSnapshot) : Prop where
  failure : s.failure.isSome = true ↔ s.state = .failed
  unpaid : s.state.rank < OrderState.paid.rank → s.seats = []
  refundCurrency : ∀ r ∈ s.refunds, r.amount.currencyCode = s.quote.total.currencyCode
  refundIds : (s.refunds.map fun r => r.id).Nodup

/-- What operations leave of an order, from the snapshot it was loaded with. -/
structure Continues (base s : SeatOrderSnapshot) : Prop where
  storable : Storable s
  placement : { s.toSeatOrderPlacement with holdId := base.holdId, expiresAt := base.expiresAt } =
    base.toSeatOrderPlacement
  placedAt : s.placedAt = base.placedAt
  refundShares : ∀ seat ∈ s.seats, ∀ m ∈ seat.refundAmount,
    m.currencyCode = s.quote.total.currencyCode
  creditShares : ∀ seat ∈ s.seats, ∀ m ∈ seat.creditAmount,
    m.currencyCode = s.quote.total.currencyCode
  refundsKept : ∀ b ∈ base.refunds, b.id ∈ s.refunds.map fun r => r.id
  refundsFixed : ∀ b ∈ base.refunds, ∀ r ∈ s.refunds, r.id = b.id → r.fixed = b.fixed
  seatsKept : ∀ b ∈ base.seats, b.id ∈ s.seats.map fun seat => seat.id
  seatsFixed : ∀ b ∈ base.seats, ∀ seat ∈ s.seats, seat.id = b.id → seat.fixed = b.fixed
  seatIds : base.seats = [] ∨ (s.seats.map fun seat => seat.id).Nodup

/-- A crediting names a credit held, and gives amounts of it in the order's currency. -/
def Operation.CreditsHeld (creditIds : List Uuid) (o : SeatOrder) : Operation → Prop
  | .creditSeats crediting _ => crediting.creditId ∈ creditIds ∧ ∀ named ∈ crediting.seats,
      0 ≤ named.creditAmount.amountMinor ∧
        named.creditAmount.currencyCode = o.current.quote.total.currencyCode
  | _ => True

/-- Every seat's columns pass the checks of its row. -/
def SeatsAccepted (creditIds : List Uuid) (s : SeatOrderSnapshot) : Prop :=
  ∀ seat ∈ s.seats,
    (seatStateColumnsOf seat).Accepted (s.refunds.map fun r => r.id) creditIds

section Steps

variable [OrderRules]

def Operation.step (o : SeatOrder) (op : Operation) : Option SeatOrder :=
  some (op.perform o).state

variable {base s s' : SeatOrderSnapshot} {creditIds : List Uuid}

omit [OrderRules] in
theorem Storable.placed (placement : SeatOrderPlacement) (placedAt : Instant) :
    Storable (SeatOrder.place placement placedAt).current := by
  constructor <;> simp [SeatOrder.place]

omit [OrderRules] in
/-- The seats of a snapshot moved one by one, its placement kept but for the hold. -/
theorem Continues.moved (h : Continues base s) (move : SeatSnapshot → SeatSnapshot)
    (hfixed : ∀ seat, (move seat).fixed = seat.fixed) (hseats : s'.seats = s.seats.map move)
    (hrefund : ∀ seat ∈ s.seats, ∀ m ∈ (move seat).refundAmount,
      m.currencyCode = s.quote.total.currencyCode)
    (hcredit : ∀ seat ∈ s.seats, ∀ m ∈ (move seat).creditAmount,
      m.currencyCode = s.quote.total.currencyCode)
    (hplacement : { s'.toSeatOrderPlacement with
      holdId := s.holdId, expiresAt := s.expiresAt } = s.toSeatOrderPlacement)
    (hplacedAt : s'.placedAt = s.placedAt) (hstorable : Storable s')
    (hrefundsKept : ∀ b ∈ base.refunds, b.id ∈ s'.refunds.map fun r => r.id)
    (hrefundsFixed : ∀ b ∈ base.refunds, ∀ r ∈ s'.refunds, r.id = b.id → r.fixed = b.fixed) :
    Continues base s' := by
  have hid : ∀ seat, (move seat).id = seat.id := fun seat => congrArg Prod.fst (hfixed seat)
  have hquote : s'.quote = s.quote := by
    simpa using congrArg SeatOrderPlacement.quote hplacement
  have hids : s'.seats.map (fun seat => seat.id) = s.seats.map fun seat => seat.id := by
    simp [hseats, Function.comp_def, hid]
  refine
    { storable := hstorable, placement := ?_, placedAt := hplacedAt.trans h.placedAt,
      refundShares := ?_, creditShares := ?_, refundsKept := hrefundsKept,
      refundsFixed := hrefundsFixed, seatsKept := hids ▸ h.seatsKept, seatsFixed := ?_,
      seatIds := hids ▸ h.seatIds }
  · rw [← h.placement, ← hplacement]
  · intro seat' hseat' m hm
    rw [hseats] at hseat'
    obtain ⟨seat, hseat, rfl⟩ := List.mem_map.mp hseat'
    rw [hquote]
    exact hrefund seat hseat m hm
  · intro seat' hseat' m hm
    rw [hseats] at hseat'
    obtain ⟨seat, hseat, rfl⟩ := List.mem_map.mp hseat'
    rw [hquote]
    exact hcredit seat hseat m hm
  · intro b hb seat' hseat' hidb
    rw [hseats] at hseat'
    obtain ⟨seat, hseat, rfl⟩ := List.mem_map.mp hseat'
    rw [hfixed]
    exact h.seatsFixed b hb seat hseat ((hid seat).symm.trans hidb)

omit [OrderRules] in
/-- A snapshot whose seats stay as they are. -/
theorem Continues.seatsStay (h : Continues base s) (hseats : s'.seats = s.seats)
    (hplacement : { s'.toSeatOrderPlacement with
      holdId := s.holdId, expiresAt := s.expiresAt } = s.toSeatOrderPlacement)
    (hplacedAt : s'.placedAt = s.placedAt) (hstorable : Storable s')
    (hrefundsKept : ∀ b ∈ base.refunds, b.id ∈ s'.refunds.map fun r => r.id)
    (hrefundsFixed : ∀ b ∈ base.refunds, ∀ r ∈ s'.refunds, r.id = b.id → r.fixed = b.fixed) :
    Continues base s' :=
  h.moved id (fun _ => rfl) (by simpa using hseats) h.refundShares h.creditShares hplacement
    hplacedAt hstorable hrefundsKept hrefundsFixed

omit [OrderRules] in
theorem Storable.of_refunds_eq (h : Storable s) (hrefunds : s'.refunds = s.refunds)
    (hquote : s'.quote = s.quote) (hfailure : s'.failure.isSome = true ↔ s'.state = .failed)
    (hunpaid : s'.state.rank < OrderState.paid.rank → s'.seats = []) : Storable s' where
  failure := hfailure
  unpaid := hunpaid
  refundCurrency := by
    rw [hrefunds, hquote]
    exact h.refundCurrency
  refundIds := hrefunds ▸ h.refundIds

omit [OrderRules] in
/-- No failure is kept on an order still waiting for its payment. -/
theorem Storable.failure_none (h : Storable s) (hwaits : s.AwaitsPayment) : s.failure = none := by
  by_contra hsome
  have hfailed := h.failure.mp (Option.isSome_iff_ne_none.mpr hsome)
  have hrank := hwaits.rank_lt
  rw [hfailed] at hrank
  exact absurd hrank (lt_irrefl _)

variable [LawfulOrderRules]

theorem refundableLeft_currency {left : Money}
    (hleft : (SeatOrder.restore s).refundableLeft = .ok left) :
    left.currencyCode = s.quote.total.currencyCode := by
  simp only [SeatOrder.refundableLeft, SeatOrder.restore_current, bind, Except.bind] at hleft
  split at hleft
  · cases hleft
  · exact LawfulOrderRules.refundableRemaining_currency _ _ _ hleft

theorem Storable.step {op : Operation} (h : Storable s) (hc : Change s op s') :
    Storable s' := by
  cases hc with
  | none => exact h
  | holdRenewed | intentOfFailed | intentCompleted | intentCancelled =>
      exact h.of_refunds_eq rfl rfl h.failure h.unpaid
  | intentRecorded intent state now hwaits =>
      refine h.of_refunds_eq rfl rfl ?_ fun _ => h.unpaid (hwaits.rank_lt.trans (by decide))
      have hnone := h.failure_none hwaits
      cases state <;> simp [hnone, WaitingState.orderState]
  | paid intentRef issues now haccepts =>
      refine h.of_refunds_eq rfl rfl (by simp) fun hs => absurd hs (lt_irrefl _)
  | failed failure now hwaits =>
      exact h.of_refunds_eq rfl rfl (by simp) fun _ =>
        h.unpaid (hwaits.rank_lt.trans (by decide))
  | refundOwed refund now left hfresh hstate hpos hleft hwithin =>
      have hcurrency : refund.amount.currencyCode = s.quote.total.currencyCode :=
        (LawfulOrderRules.within_of_assert _ _ hwithin).1.trans (refundableLeft_currency hleft)
      refine ⟨h.failure, h.unpaid, ?_, ?_⟩
      · intro r hr
        rcases List.mem_append.mp hr with hr | hr
        · exact h.refundCurrency r hr
        · rw [List.mem_singleton] at hr
          rw [hr]
          exact hcurrency
      · exact nodup_append_fresh h.refundIds fun r hr => (hfresh r hr).1
  | unseatedOwed reason intentRef id now haccepts =>
      exact ⟨h.failure, h.unpaid, by simp, by simp⟩
  | refundMade refund refundRef now made sign reached changed hfind _ hmade hsign hreached
      hchanged =>
      have hfields : changed.quote = s.quote ∧
          (changed.failure.isSome = true ↔ changed.state = .failed) ∧
          s.state.rank ≤ changed.state.rank := by
        rw [hchanged]
        split_ifs with hforward
        · refine ⟨rfl, ?_, ((LawfulOrderRules.movesForward_iff _ _).mp hforward).le⟩
          rw [hreached]
          split_ifs <;> simp
        · exact ⟨rfl, h.failure, le_rfl⟩
      obtain ⟨hquote, hfailure, hrank⟩ := hfields
      refine ⟨hfailure, fun hs => ?_, ?_, by simpa using h.refundIds⟩
      · simp [SeatOrder.seatsRefundedBy, h.unpaid (hrank.trans_lt hs)]
      · intro r' hr'
        obtain ⟨r, hr, rfl⟩ := (mem_refundsWithMade _ _ _ _).mp hr'
        simp only [hquote]
        split_ifs <;> exact h.refundCurrency r hr
  | seatsCancelled cancellation now =>
      exact h.of_refunds_eq rfl rfl h.failure fun hs => by simp [h.unpaid hs]
  | seatsCredited crediting now =>
      exact h.of_refunds_eq rfl rfl h.failure fun hs => by simp [h.unpaid hs]
  | disputed =>
      exact h.of_refunds_eq rfl rfl (by simp) fun hs => absurd hs (by simp [OrderState.rank])

omit [OrderRules] [LawfulOrderRules] in
/-- Refunds marked made keep their facts, and none is dropped. -/
theorem Continues.refundsWithMade_kept (h : Continues base s) (id : Uuid) (ref : String)
    (now : Instant) :
    (∀ b ∈ base.refunds, b.id ∈
      (SeatOrder.refundsWithMade s.refunds id ref now).map fun r => r.id) ∧
    ∀ b ∈ base.refunds, ∀ r ∈ SeatOrder.refundsWithMade s.refunds id ref now, r.id = b.id →
      r.fixed = b.fixed := by
  refine ⟨fun b hb => by rw [refundsWithMade_ids]; exact h.refundsKept b hb, ?_⟩
  intro b hb r' hr' hid
  obtain ⟨r, hr, rfl⟩ := (mem_refundsWithMade _ _ _ _).mp hr'
  split_ifs at hid ⊢ <;> exact h.refundsFixed b hb r hr hid

/-- Every operation of a run leaves an order that continues the one loaded. -/
theorem Continues.step {o : SeatOrder} {op : Operation} (h : Continues base o.current)
    (hop : op.CreditsHeld creditIds o) (hc : Change o.current op s') : Continues base s' := by
  have hstorable := h.storable.step hc
  cases hc with
  | none => exact h
  | holdRenewed | intentOfFailed | intentRecorded | intentCompleted | failed | disputed
  | intentCancelled => exact h.seatsStay rfl rfl rfl hstorable h.refundsKept h.refundsFixed
  | paid intentRef issues now haccepts =>
      have hnone : o.current.seats = [] := h.storable.unpaid haccepts.unpaid
      have hbase : base.seats = [] := List.eq_nil_iff_forall_not_mem.mpr fun b hb => by
        have hmem := h.seatsKept b hb
        simp [hnone] at hmem
      have hissued : ∀ seat ∈ issues.map (SeatOrder.issuedSeat o.current.tier now),
          seat.refundAmount = none ∧ seat.creditAmount = none := by
        intro seat hseat
        obtain ⟨issue, -, rfl⟩ := List.mem_map.mp hseat
        exact ⟨rfl, rfl⟩
      exact
        { storable := hstorable, placement := h.placement, placedAt := h.placedAt
          refundShares := fun seat hseat m hm => by simp [(hissued seat hseat).1] at hm
          creditShares := fun seat hseat m hm => by simp [(hissued seat hseat).2] at hm
          refundsKept := h.refundsKept, refundsFixed := h.refundsFixed
          seatsKept := by simp [hbase], seatsFixed := by simp [hbase], seatIds := .inl hbase }
  | refundOwed refund now left hfresh =>
      refine h.seatsStay rfl rfl rfl hstorable ?_ ?_
      · intro b hb
        rw [List.map_append]
        exact List.mem_append_left _ (h.refundsKept b hb)
      · intro b hb r hr hid
        rcases List.mem_append.mp hr with hr | hr
        · exact h.refundsFixed b hb r hr hid
        · rw [List.mem_singleton] at hr
          obtain ⟨r', hr', hid'⟩ := List.mem_map.mp (h.refundsKept b hb)
          rw [hr] at hid
          exact absurd (hid'.trans hid.symm) (hfresh r' hr').1
  | unseatedOwed reason intentRef id now haccepts =>
      have hbase : base.refunds = [] := List.eq_nil_iff_forall_not_mem.mpr fun b hb => by
        have hmem := h.refundsKept b hb
        simp [haccepts.1] at hmem
      exact h.seatsStay rfl rfl rfl hstorable (by simp [hbase]) (by simp [hbase])
  | refundMade refund refundRef now made sign reached changed hfind _ hmade hsign hreached
      hchanged =>
      obtain ⟨hkept, hfixed⟩ := h.refundsWithMade_kept refund.id refundRef now
      refine h.moved (fun seat => if seat.refundId = some refund.id ∧
          OrderRules.seatStateMayMove seat.state .refunded = true then
          { seat with state := .refunded } else seat) ?_ rfl ?_ ?_ ?_ ?_ hstorable hkept hfixed
      · intro seat
        split_ifs <;> rfl
      · intro seat hseat m hm
        refine h.refundShares seat hseat m ?_
        split_ifs at hm <;> exact hm
      · intro seat hseat m hm
        refine h.creditShares seat hseat m ?_
        split_ifs at hm <;> exact hm
      · rw [hchanged]
        split_ifs <;> rfl
      · rw [hchanged]
        split_ifs <;> rfl
  | seatsCancelled cancellation now hrefund hnonneg hwithin hnone hmove =>
      refine h.moved (SeatOrder.cancelledSeat cancellation now) ?_ rfl ?_ ?_ rfl rfl hstorable
        h.refundsKept h.refundsFixed
      · intro seat
        unfold SeatOrder.cancelledSeat
        split <;> rfl
      · intro seat hseat m hm
        unfold SeatOrder.cancelledSeat at hm
        split at hm
        · exact h.refundShares seat hseat m hm
        · rename_i named hfind
          have hmem := List.mem_of_find?_eq_some hfind
          have hshare : named.refundAmount = some m := (Option.filter_eq_some_iff.mp hm).1
          have hsome : cancellation.refundId ≠ none := fun hid => by
            rw [hnone hid named hmem] at hshare
            cases hshare
          obtain ⟨r, hfind'⟩ := hrefund (Option.isSome_iff_ne_none.mpr hsome)
          rw [hfind'] at hwithin
          refine (currency_of_sharesWithin hwithin m (List.mem_append_right _ ?_)).trans
            (h.storable.refundCurrency r (List.mem_of_find?_eq_some hfind'))
          exact List.mem_filterMap.mpr ⟨named, hmem, hshare⟩
      · intro seat hseat m hm
        refine h.creditShares seat hseat m ?_
        unfold SeatOrder.cancelledSeat at hm
        split at hm <;> exact hm
  | seatsCredited crediting now hmove =>
      refine h.moved (SeatOrder.creditedSeat crediting now) ?_ rfl ?_ ?_ rfl rfl hstorable
        h.refundsKept h.refundsFixed
      · intro seat
        unfold SeatOrder.creditedSeat
        split <;> rfl
      · intro seat hseat m hm
        refine h.refundShares seat hseat m ?_
        unfold SeatOrder.creditedSeat at hm
        split at hm <;> exact hm
      · intro seat hseat m hm
        unfold SeatOrder.creditedSeat at hm
        split at hm
        · exact h.creditShares seat hseat m hm
        · rename_i named hfind
          have hshare : named.creditAmount = m := by simpa using hm
          exact hshare ▸ (hop.2 named (List.mem_of_find?_eq_some hfind)).2

omit [OrderRules] [LawfulOrderRules] in
theorem SeatStateColumns.Accepted.mono {columns : SeatStateColumns}
    {refundIds refundIds' : List Uuid} (h : columns.Accepted refundIds creditIds) (hsub : refundIds ⊆ refundIds') :
    columns.Accepted refundIds' creditIds :=
  ⟨h.1, h.2.1, h.2.2.1, h.2.2.2.1, h.2.2.2.2.1, fun id hid => hsub (h.2.2.2.2.2.1 id hid),
    h.2.2.2.2.2.2⟩

/-- Every operation leaves seats their rows' checks pass. -/
theorem SeatsAccepted.step {o : SeatOrder} {op : Operation} (h : SeatsAccepted creditIds o.current)
    (hop : op.CreditsHeld creditIds o) (hc : Change o.current op s') :
    SeatsAccepted creditIds s' := by
  cases hc with
  | none => exact h
  | holdRenewed | intentOfFailed | intentRecorded | intentCompleted | failed | disputed
  | intentCancelled => exact h
  | paid intentRef issues now =>
      intro seat hseat
      obtain ⟨issue, -, rfl⟩ := List.mem_map.mp hseat
      simp [SeatStateColumns.Accepted, seatStateColumnsOf, SeatOrder.issuedSeat, minorOf]
  | refundOwed refund now =>
      intro seat hseat
      refine (h seat hseat).mono ?_
      rw [List.map_append]
      exact List.subset_append_left _ _
  | unseatedOwed reason intentRef id now haccepts =>
      intro seat hseat
      refine (h seat hseat).mono ?_
      simp [haccepts.1]
  | refundMade refund refundRef now made sign reached changed =>
      intro seat' hseat'
      obtain ⟨seat, hseat, rfl⟩ := List.mem_map.mp hseat'
      simp only [refundsWithMade_ids]
      have hold := h seat hseat
      split_ifs with hmade
      · rw [LawfulOrderRules.mayRefund_iff] at hmade
        refine ⟨?_, hold.2⟩
        have hended := hold.1
        simp only [seatStateColumnsOf, hmade.2, reduceCtorEq, false_iff] at hended ⊢
        exact hended
      · exact hold
  | seatsCancelled cancellation now hrefund _ _ hnone =>
      intro seat' hseat'
      obtain ⟨seat, hseat, rfl⟩ := List.mem_map.mp hseat'
      obtain ⟨hactive, hrefunded, hpos, hrest⟩ := h seat hseat
      unfold SeatOrder.cancelledSeat
      split
      · exact h seat hseat
      · rename_i named hfind
        have hmem := List.mem_of_find?_eq_some hfind
        cases hshare : named.refundAmount.filter fun share => decide (0 < share.amountMinor) with
        | none =>
            refine ⟨by simp [seatStateColumnsOf], by simp [seatStateColumnsOf, minorOf],
              by simp [seatStateColumnsOf, minorOf], hrest.1, hrest.2.1, ?_, hrest.2.2.2⟩
            simp [seatStateColumnsOf]
        | some share =>
            obtain ⟨hnamed, hshares⟩ := Option.filter_eq_some_iff.mp hshare
            have hsome : cancellation.refundId ≠ none := fun hid => by
              rw [hnone hid named hmem] at hnamed
              cases hnamed
            obtain ⟨r, hfind'⟩ := hrefund (Option.isSome_iff_ne_none.mpr hsome)
            refine ⟨by simp [seatStateColumnsOf], by simp [seatStateColumnsOf, minorOf, hsome],
              by simpa [seatStateColumnsOf, minorOf] using hshares, hrest.1, hrest.2.1, ?_,
              hrest.2.2.2⟩
            intro refundId hid
            have hr : some r.id = cancellation.refundId := by
              simpa using List.find?_some hfind'
            have hnamedId : cancellation.refundId = some refundId := by
              simpa [seatStateColumnsOf] using hid
            rw [hnamedId, Option.some.injEq] at hr
            exact hr ▸ List.mem_map_of_mem (List.mem_of_find?_eq_some hfind')
  | seatsCredited crediting now =>
      intro seat' hseat'
      obtain ⟨seat, hseat, rfl⟩ := List.mem_map.mp hseat'
      obtain ⟨hactive, hrefunded, hpos, -, -, hreferenced, -⟩ := h seat hseat
      unfold SeatOrder.creditedSeat
      split
      · exact h seat hseat
      · rename_i named hfind
        have hheld := hop.2 named (List.mem_of_find?_eq_some hfind)
        refine ⟨by simp [seatStateColumnsOf], hrefunded, hpos,
          by simp [seatStateColumnsOf, minorOf],
          by simpa [seatStateColumnsOf, minorOf] using hheld.1, hreferenced, ?_⟩
        simpa [seatStateColumnsOf] using hop.1

end Steps

section Reading

/-- Amounts read back in the order's currency, when they are in it. -/
theorem amount_read {amount : Option Money} {currency : String}
    (h : ∀ m ∈ amount, m.currencyCode = currency) :
    ((minorOf amount).map fun minor => (⟨minor, currency⟩ : Money)) = amount := by
  cases amount with
  | none => rfl
  | some m => simp [minorOf, ← h m rfl]

/-- A seat's amounts are in the order's currency. -/
structure SeatSnapshot.InCurrency (seat : SeatSnapshot) (currency : String) : Prop where
  refund : ∀ m ∈ seat.refundAmount, m.currencyCode = currency
  credit : ∀ m ∈ seat.creditAmount, m.currencyCode = currency

theorem seatSnapshotOf_seatRowOf (order : SeatOrderSnapshot) (seat : SeatSnapshot)
    {currency : String} (h : seat.InCurrency currency) :
    seatSnapshotOf (seatRowOf order seat) currency = seat := by
  have hrefund := amount_read h.refund
  have hcredit := amount_read h.credit
  cases seat
  simp_all [seatSnapshotOf, seatRowOf, seatStateColumnsOf]

theorem seatSnapshotOf_writeSeat {seat : SeatSnapshot} {row : SeatRow} {currency : String}
    (h : seat.InCurrency currency) (hfixed : seat.fixed = (seatSnapshotOf row currency).fixed) :
    seatSnapshotOf (OrderTables.writeSeat seat row) currency = seat := by
  have hrefund := amount_read h.refund
  have hcredit := amount_read h.credit
  cases seat
  simp_all [seatSnapshotOf, OrderTables.writeSeat, seatStateColumnsOf, SeatSnapshot.fixed]

theorem seatSnapshotOf_inCurrency (row : SeatRow) (currency : String) :
    (seatSnapshotOf row currency).InCurrency currency := by
  constructor <;> simp [seatSnapshotOf]

/-- Two snapshots of a seat with the same facts and the same columns are the same. -/
theorem seat_eq_of_columns {a b : SeatSnapshot} {currency : String} (ha : a.InCurrency currency)
    (hb : b.InCurrency currency) (hfixed : a.fixed = b.fixed)
    (hcolumns : seatStateColumnsOf a = seatStateColumnsOf b) : a = b := by
  have har := amount_read ha.refund
  have hac := amount_read ha.credit
  rw [show minorOf a.refundAmount = minorOf b.refundAmount from
    congrArg SeatStateColumns.refundAmountMinor hcolumns, amount_read hb.refund] at har
  rw [show minorOf a.creditAmount = minorOf b.creditAmount from
    congrArg SeatStateColumns.creditAmountMinor hcolumns, amount_read hb.credit] at hac
  cases a
  cases b
  simp_all [seatStateColumnsOf, SeatSnapshot.fixed]

theorem refundOf_refundRowOf (orderId : Uuid) (refund : OrderRefund) :
    refundOf (refundRowOf orderId refund) = refund := rfl

theorem refundOf_writeRefund {refund : OrderRefund} {row : OrderRefundRow}
    (hfixed : refund.fixed = (refundOf row).fixed) :
    refundOf (OrderTables.writeRefund refund row) = refund := by
  obtain ⟨⟨id, amount, reason, key, seatId⟩, owedAt, ref, refundedAt⟩ := refund
  simp_all [refundOf, OrderTables.writeRefund, OrderRefund.fixed]

theorem refund_eq_of_fixed {a b : OrderRefund} (hfixed : a.fixed = b.fixed) (href : a.ref = b.ref)
    (hmade : a.refundedAt = b.refundedAt) : a = b := by
  cases a
  cases b
  simp_all [OrderRefund.fixed]

/-- The order's own row, read back: its placement is the one loaded, the rest its columns. -/
theorem seatOrderSnapshotOf_saved (row : SeatOrderRow) (seats : List SeatRow)
    (refunds : List OrderRefundRow) {base s : SeatOrderSnapshot}
    (hbase : base = seatOrderSnapshotOf row seats refunds) (h : Continues base s)
    (seats' : List SeatRow) (refunds' : List OrderRefundRow) :
    { seatOrderSnapshotOf { row with toOrderStateColumns := orderStateColumnsOf s } seats'
      refunds' with seats := [], refunds := [] } = { s with seats := [], refunds := [] } := by
  have hplacement := h.placement
  have hplacedAt := h.placedAt
  have hfailure := h.storable.failure
  subst hbase
  obtain ⟨⟨⟩, state, intent, failure⟩ := s
  simp only [seatOrderSnapshotOf, SeatOrderPlacement.mk.injEq] at hplacement hplacedAt hfailure ⊢
  obtain ⟨rfl, rfl, rfl, rfl, rfl, rfl, rfl, rfl, rfl, rfl, -, -⟩ := hplacement
  simp only [orderStateColumnsOf, SeatOrderSnapshot.mk.injEq, true_and, and_true]
  refine ⟨?_, ?_, hplacedAt.symm⟩
  · cases intent <;> rfl
  · cases failure with
    | none =>
        have hstate : ¬ state = .failed := by simpa using hfailure
        exact if_neg hstate
    | some failure =>
        have hstate : state = .failed := by simpa using hfailure
        exact (if_pos hstate).trans rfl

end Reading

end Arthome.Ticketing
