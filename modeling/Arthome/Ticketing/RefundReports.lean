import Arthome.Ticketing.SeatOrderCalls
import Arthome.Ticketing.SeatOrderReload

/-!
# Refunds a provider reports

A provider tells how much of a payment it gave back so far, and not by which refunds. The
refunds still owed whose calls are run again are those no larger than what no refund made
explains; whichever of the order's refunds add up to the amount told, those still owed are
among them.
-/

namespace Arthome.Ticketing

open Arthome.Core Library

section Answers

variable [OrderRules]

/-- The refunds no larger than the amount. -/
def refundsWithin (unexplained : Money) : List OrderRefund → Except Refusal (List OrderRefund)
  | [] => .ok []
  | refund :: refunds => do
    let sign ← OrderRules.compare refund.amount unexplained
    let within ← refundsWithin unexplained refunds
    return if sign ≤ 0 then refund :: within else within

/-- The refunds still owed that the amount no refund made explains could cover; nothing past every
refund the order holds, a refund made outside the platform. -/
def SeatOrder.refundsTheProviderMayHaveMade (o : SeatOrder) (amountRefunded : Money) :
    Except Refusal (Option (List Uuid)) := do
  let refunds := o.current.refunds
  let currencyCode := o.current.quote.total.currencyCode
  let held ← OrderRules.sum (amountsOf refunds) currencyCode
  let sign ← OrderRules.compare amountRefunded held
  if 0 < sign then return none
  else
    let unmade := refunds.filter fun r => r.refundedAt.isNone
    let made ← OrderRules.sum (amountsOf (SeatOrder.madeOf refunds)) currencyCode
    let unexplained ← OrderRules.subtract amountRefunded made
    let within ← refundsWithin unexplained unmade
    return some (within.map fun r => r.id)

/-- The calls of these refunds run again, each answered by the provider under its key. -/
def SeatOrder.rerunRefunds (o : SeatOrder) (refOf : Uuid → String) (now : Instant)
    (refundIds : List Uuid) : SeatOrder :=
  refundIds.foldl (fun o id => (o.refundMade id (refOf id) now).state) o

/-- The refund as running these calls again leaves it. -/
def markedMade (refOf : Uuid → String) (now : Instant) (refundIds : List Uuid)
    (r : OrderRefund) : OrderRefund :=
  if r.id ∈ refundIds ∧ r.refundedAt = none then
    { r with ref := some (refOf r.id), refundedAt := some now }
  else r

end Answers

/-! ## The refunds of an order -/

/-- What an order's refunds are whatever was done with it. -/
structure RefundsHeld (s : SeatOrderSnapshot) : Prop where
  storable : Storable s
  total : 0 ≤ s.quote.total.amountMinor
  nonneg : ∀ r ∈ s.refunds, 0 ≤ r.amount.amountMinor

section Sums

variable {rs qs : List OrderRefund}

/-- Amounts that are not negative sum to no less than those of a part of them. -/
theorem minorSum_sublist (h : qs.Sublist rs) (hnonneg : ∀ r ∈ rs, 0 ≤ r.amount.amountMinor) :
    minorSum (amountsOf qs) ≤ minorSum (amountsOf rs) := by
  induction h with
  | slnil => rfl
  | cons r _ ih =>
      rw [List.forall_mem_cons] at hnonneg
      have hrest := ih hnonneg.2
      simp only [amountsOf, List.map_cons, minorSum_cons] at hrest ⊢
      linarith [hnonneg.1]
  | cons_cons r _ ih =>
      rw [List.forall_mem_cons] at hnonneg
      have hrest := ih hnonneg.2
      simp only [amountsOf, List.map_cons, minorSum_cons] at hrest ⊢
      linarith

/-- A refund is no larger than the refunds it is one of. -/
theorem amount_le_minorSum {r : OrderRefund} (h : r ∈ rs)
    (hnonneg : ∀ r ∈ rs, 0 ≤ r.amount.amountMinor) :
    r.amount.amountMinor ≤ minorSum (amountsOf rs) := by
  have hone := minorSum_sublist (List.singleton_sublist.mpr h) hnonneg
  simpa [amountsOf] using hone

/-- The refunds made and those still owed make up them all. -/
theorem minorSum_split (rs : List OrderRefund) :
    minorSum (amountsOf rs) = minorSum (amountsOf (SeatOrder.madeOf rs)) +
      minorSum (amountsOf (rs.filter fun r => r.refundedAt.isNone)) := by
  induction rs with
  | nil => rfl
  | cons r rs ih =>
      simp only [amountsOf, SeatOrder.madeOf, List.map_cons, minorSum_cons] at ih ⊢
      cases hmade : r.refundedAt with
      | none =>
          simp only [List.filter_cons, hmade, Option.isSome_none, Option.isNone_none, ite_true,
            List.map_cons, minorSum_cons, Bool.false_eq_true, if_false]
          linarith
      | some now =>
          simp only [List.filter_cons, hmade, Option.isSome_some, Option.isNone_some, ite_true,
            List.map_cons, minorSum_cons, Bool.false_eq_true, if_false]
          linarith

/-- The refunds made are the same in every part that holds them all. -/
theorem madeOf_eq_of_sublist (h : qs.Sublist rs) (hids : (rs.map fun r => r.id).Nodup)
    (hall : ∀ r ∈ rs, r.refundedAt.isSome = true → r ∈ qs) :
    SeatOrder.madeOf qs = SeatOrder.madeOf rs := by
  have hnodup : (SeatOrder.madeOf rs).Nodup := (List.Nodup.of_map _ hids).filter _
  have hsubset : SeatOrder.madeOf rs ⊆ SeatOrder.madeOf qs := by
    intro r hr
    obtain ⟨hmem, hmade⟩ := List.mem_filter.mp hr
    exact List.mem_filter.mpr ⟨hall r hmem hmade, hmade⟩
  exact (h.filter _).eq_of_length_le (List.subperm_of_subset hnodup hsubset).length_le

end Sums

section Steps

variable [OrderRules] [LawfulOrderRules] {s s' : SeatOrderSnapshot}

theorem RefundsHeld.step {op : Operation} (h : RefundsHeld s) (hc : Change s op s') :
    RefundsHeld s' := by
  refine ⟨h.storable.step hc, ?_, ?_⟩
  · cases hc with
    | refundMade refund refundRef now made sign reached changed hfind _ hmade hsign hreached
        hchanged =>
        have hquote : changed.quote = s.quote := by
          rw [hchanged]
          split_ifs <;> rfl
        simpa only [hquote] using h.total
    | _ => exact h.total
  · cases hc with
    | refundOwed refund now left hfresh hstate hpos =>
        rw [List.forall_mem_append, List.forall_mem_singleton]
        exact ⟨h.nonneg, hpos.le⟩
    | unseatedOwed reason intentRef id now haccepts =>
        rw [List.forall_mem_singleton]
        exact h.total
    | refundMade refund refundRef now =>
        intro r' hr'
        obtain ⟨r, hr, rfl⟩ := (mem_refundsWithMade _ _ _ _).mp hr'
        split_ifs <;> exact h.nonneg r hr
    | _ => exact h.nonneg

theorem refundsHeld_of_operations {placement : SeatOrderPlacement} {placedAt : Instant}
    {o : SeatOrder} (htotal : 0 ≤ placement.quote.total.amountMinor)
    (h : Reaches (fun _ _ => True) Operation.step (SeatOrder.place placement placedAt) o) :
    RefundsHeld o.current := by
  have hplaced : RefundsHeld (SeatOrder.place placement placedAt).current :=
    ⟨.placed placement placedAt, htotal, by simp [SeatOrder.place]⟩
  refine h.invariant (P := fun o => RefundsHeld o.current) hplaced ?_
  intro v op w hv _ hstep
  rw [← Option.some.inj hstep]
  exact hv.step (op.perform_changes v).change

end Steps

/-! ## What the report names -/

section Reports

variable [OrderRules] [LawfulOrderRules] {o : SeatOrder}

theorem refundsWithin_eq {unexplained : Money} {rs : List OrderRefund}
    (h : ∀ r ∈ rs, r.amount.currencyCode = unexplained.currencyCode) :
    refundsWithin unexplained rs =
      .ok (rs.filter fun r => r.amount.amountMinor ≤ unexplained.amountMinor) := by
  induction rs with
  | nil => rfl
  | cons r rs ih =>
      rw [List.forall_mem_cons] at h
      obtain ⟨sign, hsign, hpositive, -⟩ := LawfulOrderRules.compare_same _ _ h.1
      have hfits : sign ≤ 0 ↔ r.amount.amountMinor ≤ unexplained.amountMinor := by
        rw [← not_lt, hpositive, not_lt]
      simp only [refundsWithin, hsign, ih h.2, bind, Except.bind, pure, Except.pure,
        List.filter_cons, hfits, decide_eq_true_eq]

/-- The refunds still owed that fit in what the report leaves unexplained. -/
def namedBy (refunds : List OrderRefund) (reported : ℤ) : List Uuid :=
  ((refunds.filter fun r => r.refundedAt.isNone).filter fun r =>
    r.amount.amountMinor ≤ reported - minorSum (amountsOf (SeatOrder.madeOf refunds))).map
      fun r => r.id

theorem refundsTheProviderMayHaveMade_eq (h : RefundsHeld o.current) (reported : ℤ) :
    o.refundsTheProviderMayHaveMade ⟨reported, o.current.quote.total.currencyCode⟩ =
      .ok (if minorSum (amountsOf o.current.refunds) < reported then none
        else some (namedBy o.current.refunds reported)) := by
  have hcurrency : ∀ rs : List OrderRefund, rs ⊆ o.current.refunds → ∀ m ∈ amountsOf rs,
      m.currencyCode = o.current.quote.total.currencyCode := by
    intro rs hrs m hm
    obtain ⟨r, hr, rfl⟩ := List.mem_map.mp hm
    exact h.storable.refundCurrency r (hrs hr)
  have hheld := LawfulOrderRules.sum_same _ _ (hcurrency _ (List.Subset.refl _))
  have hmade := LawfulOrderRules.sum_same _ _
    (hcurrency (SeatOrder.madeOf o.current.refunds) (List.filter_subset_self _))
  obtain ⟨sign, hsign, hpositive, -⟩ := LawfulOrderRules.compare_same
    ⟨reported, o.current.quote.total.currencyCode⟩
    ⟨minorSum (amountsOf o.current.refunds), o.current.quote.total.currencyCode⟩ rfl
  have hunexplained := LawfulOrderRules.subtract_same
    ⟨reported, o.current.quote.total.currencyCode⟩
    ⟨minorSum (amountsOf (SeatOrder.madeOf o.current.refunds)),
      o.current.quote.total.currencyCode⟩ rfl
  simp only [SeatOrder.refundsTheProviderMayHaveMade, hheld, hsign, hmade, hunexplained, bind,
    Except.bind, pure, Except.pure]
  by_cases hpast : 0 < sign
  · rw [if_pos hpast, if_pos (hpositive.mp hpast)]
  · rw [if_neg hpast, if_neg (mt hpositive.mpr hpast), refundsWithin_eq]
    · rfl
    · intro r hr
      exact h.storable.refundCurrency r (List.mem_filter.mp hr).1

omit [OrderRules] [LawfulOrderRules] in
/-- Refunds that add up to the amount told and hold every refund made leave those still owed among
the ones named. -/
theorem mem_namedBy_of_sum (h : RefundsHeld o.current) {S : List OrderRefund}
    (hS : S.Sublist o.current.refunds)
    (hmade : ∀ r ∈ o.current.refunds, r.refundedAt.isSome = true → r ∈ S) {r : OrderRefund}
    (hr : r ∈ S) (hunmade : r.refundedAt = none) :
    r.id ∈ namedBy o.current.refunds (minorSum (amountsOf S)) := by
  have hsame := madeOf_eq_of_sublist hS h.storable.refundIds hmade
  have hsplit := minorSum_split S
  rw [hsame] at hsplit
  have hfits : r.amount.amountMinor ≤
      minorSum (amountsOf (S.filter fun r => r.refundedAt.isNone)) := by
    apply amount_le_minorSum
    · exact List.mem_filter.mpr ⟨hr, by simp [hunmade]⟩
    · intro other hother
      exact h.nonneg other (hS.subset (List.mem_filter.mp hother).1)
  refine List.mem_map.mpr ⟨r, ?_, rfl⟩
  rw [List.mem_filter, List.mem_filter, decide_eq_true_eq]
  exact ⟨⟨hS.subset hr, by simp [hunmade]⟩, by linarith⟩

omit [OrderRules] [LawfulOrderRules] in
theorem not_mem_namedBy_of_made {refunds : List OrderRefund} {reported : ℤ}
    (hids : (refunds.map fun r => r.id).Nodup) {r : OrderRefund} (hr : r ∈ refunds)
    (hmade : r.refundedAt.isSome = true) : r.id ∉ namedBy refunds reported := by
  intro hnamed
  obtain ⟨other, hother, hid⟩ := List.mem_map.mp hnamed
  obtain ⟨hmem, hunmade⟩ := List.mem_filter.mp (List.mem_filter.mp hother).1
  have hsame : other = r := List.inj_on_of_nodup_map hids hmem hr hid
  rw [hsame, Option.isNone_iff_eq_none] at hunmade
  rw [hunmade] at hmade
  cases hmade

/-- A refund reported made is marked so, unless it is already. -/
theorem refundMade_refunds (h : RefundsHeld o.current) (refOf : Uuid → String) (now : Instant)
    (id : Uuid) :
    (o.refundMade id (refOf id) now).state.current.refunds =
      o.current.refunds.map (markedMade refOf now [id]) := by
  have hmarked : ∀ r : OrderRefund, markedMade refOf now [id] r =
      if r.id = id ∧ r.refundedAt = none then
        { r with ref := some (refOf r.id), refundedAt := some now } else r := by
    intro r
    simp only [markedMade, List.mem_singleton]
  unfold SeatOrder.refundMade
  split
  · rename_i hfind
    have hother : ∀ r ∈ o.current.refunds, markedMade refOf now [id] r = r := by
      intro r hr
      have hid := List.find?_eq_none.mp hfind r hr
      rw [hmarked, if_neg fun hsame => hid (by simpa using hsame.1)]
    rw [Reply.refuse_state, List.map_congr_left hother, List.map_id']
  · rename_i refund hfind
    have hmem := List.mem_of_find?_eq_some hfind
    have hrefund : refund.id = id := by simpa using List.find?_some hfind
    have honly : ∀ r ∈ o.current.refunds, r.id = id → r = refund := by
      intro r hr hid
      exact List.inj_on_of_nodup_map h.storable.refundIds hr hmem (hid.trans hrefund.symm)
    split_ifs with hmade
    · have hkept : ∀ r ∈ o.current.refunds, markedMade refOf now [id] r = r := by
        intro r hr
        rw [hmarked, if_neg]
        rintro ⟨hid, hunmade⟩
        rw [honly r hr hid] at hunmade
        rw [hunmade] at hmade
        cases hmade
      rw [Reply.answer_state, List.map_congr_left hkept, List.map_id']
    · have hunmade : refund.refundedAt = none := by simpa using hmade
      have hwith : SeatOrder.refundsWithMade o.current.refunds id (refOf id) now =
          o.current.refunds.map (markedMade refOf now [id]) := by
        apply List.map_congr_left
        intro r hr
        rw [hmarked]
        by_cases hid : r.id = id
        · have hopen : r.refundedAt = none := by
            rw [honly r hr hid]
            exact hunmade
          rw [if_pos hid, if_pos ⟨hid, hopen⟩, hid]
        · rw [if_neg hid, if_neg fun hsame => hid hsame.1]
      have hcurrency : ∀ m ∈ (SeatOrder.madeOf
          (SeatOrder.refundsWithMade o.current.refunds id (refOf id) now)).map (fun r => r.amount),
          m.currencyCode = o.current.quote.total.currencyCode := by
        intro m hm
        obtain ⟨r', hr', rfl⟩ := List.mem_map.mp hm
        obtain ⟨r, hr, rfl⟩ := (mem_refundsWithMade _ _ _ _).mp (List.mem_filter.mp hr').1
        split_ifs <;> exact h.storable.refundCurrency r hr
      have hsum := LawfulOrderRules.sum_same _ _ hcurrency
      obtain ⟨sign, hsign, -, -⟩ := LawfulOrderRules.compare_same
        ⟨minorSum ((SeatOrder.madeOf (SeatOrder.refundsWithMade o.current.refunds id (refOf id)
          now)).map fun r => r.amount), o.current.quote.total.currencyCode⟩
        o.current.quote.total rfl
      simp only [hsum, hsign, Reply.guard_ok, Reply.answer_state, SeatOrder.apply,
        SeatOrder.advance]
      rw [← hwith]
      split_ifs <;> rfl

omit [OrderRules] [LawfulOrderRules] in
/-- Calls run again one after the other mark what they mark together. -/
theorem markedMade_cons (refOf : Uuid → String) (now : Instant) (id : Uuid) (ids : List Uuid)
    (r : OrderRefund) :
    markedMade refOf now ids (markedMade refOf now [id] r) = markedMade refOf now (id :: ids) r := by
  unfold markedMade
  by_cases hopen : r.refundedAt = none
  · by_cases hid : r.id = id
    · simp [hopen, hid]
    · simp [hopen, hid]
  · simp [hopen]

theorem rerunRefunds_refunds (h : RefundsHeld o.current) (refOf : Uuid → String) (now : Instant)
    (ids : List Uuid) :
    (o.rerunRefunds refOf now ids).current.refunds =
      o.current.refunds.map (markedMade refOf now ids) := by
  induction ids generalizing o with
  | nil =>
      have hnone : ∀ r ∈ o.current.refunds, markedMade refOf now [] r = r := by
        intro r _
        simp [markedMade]
      rw [List.map_congr_left hnone, List.map_id']
      rfl
  | cons id ids ih =>
      have hstep : RefundsHeld (o.refundMade id (refOf id) now).state.current :=
        h.step (o.refundMade_changes id (refOf id) now).change
      show ((o.refundMade id (refOf id) now).state.rerunRefunds refOf now ids).current.refunds = _
      rw [ih hstep, refundMade_refunds h, List.map_map]
      exact List.map_congr_left fun r _ => markedMade_cons refOf now id ids r

omit [OrderRules] [LawfulOrderRules] in
/-- What is made once calls were run again: what was made already and what they named. -/
theorem amountsOf_madeOf_marked (refOf : Uuid → String) (now : Instant) (ids : List Uuid)
    (rs : List OrderRefund) :
    amountsOf (SeatOrder.madeOf (rs.map (markedMade refOf now ids))) =
      amountsOf (rs.filter fun r => r.refundedAt.isSome || decide (r.id ∈ ids)) := by
  induction rs with
  | nil => rfl
  | cons r rs ih =>
      simp only [amountsOf, SeatOrder.madeOf, List.map_cons, List.filter_cons] at ih ⊢
      by_cases hopen : r.refundedAt = none
      · by_cases hid : r.id ∈ ids
        · simp [markedMade, hopen, hid, ih]
        · simp [markedMade, hopen, hid, ih]
      · have hmade : r.refundedAt.isSome = true := Option.isSome_iff_ne_none.mpr hopen
        simp [markedMade, hopen, hmade, ih]

/-- For every order, a report past all its refunds is unexplained and no other; and a report that
some of its refunds add up to, those made among them, names each of these still owed and none made,
and once the calls it names were run again the refunds made reach it. -/
theorem refunds_reported_are_covered (placement : SeatOrderPlacement)
    (htotal : 0 ≤ placement.quote.total.amountMinor) (placedAt : Instant)
    (h : Reaches (fun _ _ => True) Operation.step (SeatOrder.place placement placedAt) o) :
    (∀ reported : ℤ,
      o.refundsTheProviderMayHaveMade ⟨reported, o.current.quote.total.currencyCode⟩ =
        .ok none ↔ minorSum (amountsOf o.current.refunds) < reported) ∧
    ∀ S : List OrderRefund, S.Sublist o.current.refunds →
      (∀ r ∈ o.current.refunds, r.refundedAt.isSome = true → r ∈ S) →
      ∃ named, o.refundsTheProviderMayHaveMade
          ⟨minorSum (amountsOf S), o.current.quote.total.currencyCode⟩ = .ok (some named) ∧
        (∀ r ∈ S, r.refundedAt = none → r.id ∈ named) ∧
        (∀ r ∈ o.current.refunds, r.refundedAt.isSome = true → r.id ∉ named) ∧
        ∀ refOf now, minorSum (amountsOf S) ≤ minorSum (amountsOf
          (SeatOrder.madeOf (o.rerunRefunds refOf now named).current.refunds)) := by
  have hheld := refundsHeld_of_operations htotal h
  refine ⟨fun reported => ?_, fun S hS hmade => ?_⟩
  · rw [refundsTheProviderMayHaveMade_eq hheld]
    split_ifs with hpast
    · exact iff_of_true rfl hpast
    · exact iff_of_false (by simp) hpast
  · have hexplained := minorSum_sublist hS hheld.nonneg
    refine ⟨namedBy o.current.refunds (minorSum (amountsOf S)), ?_, ?_, ?_, ?_⟩
    · rw [refundsTheProviderMayHaveMade_eq hheld, if_neg (not_lt.mpr hexplained)]
    · exact fun r hr hunmade => mem_namedBy_of_sum hheld hS hmade hr hunmade
    · exact fun r hr hdone => not_mem_namedBy_of_made hheld.storable.refundIds hr hdone
    · intro refOf now
      rw [rerunRefunds_refunds hheld, amountsOf_madeOf_marked]
      have hall : S.filter (fun r => r.refundedAt.isSome ||
          decide (r.id ∈ namedBy o.current.refunds (minorSum (amountsOf S)))) = S := by
        rw [List.filter_eq_self]
        intro r hr
        cases hopen : r.refundedAt with
        | some at' => rfl
        | none => simpa using mem_namedBy_of_sum hheld hS hmade hr hopen
      have hpart := hS.filter fun r => r.refundedAt.isSome ||
        decide (r.id ∈ namedBy o.current.refunds (minorSum (amountsOf S)))
      rw [hall] at hpart
      exact minorSum_sublist hpart fun r hr => hheld.nonneg r (List.mem_filter.mp hr).1

end Reports

section Sample

open Sample

/-- Paid, six euros and then three owed back, and the three made. -/
def ordersReported : List Operation :=
  [.pay "pi_1" [⟨10, "A", none⟩, ⟨11, "B", none⟩] 100,
    .oweRefund ⟨20, ⟨600, "EUR"⟩, .goodwill, "refund:20", none⟩ 200,
    .oweRefund ⟨21, ⟨300, "EUR"⟩, .goodwill, "refund:21", none⟩ 300, .refundMade 21 "re_1" 400]

def orderReported : SeatOrder :=
  ordersReported.foldl (fun o op => (op.perform o).state) (SeatOrder.place samplePlacement 0)

theorem orderReported_reached : Reaches (fun _ _ => True) Operation.step
    (SeatOrder.place samplePlacement 0) orderReported :=
  have hruns : ordersReported.foldlM Operation.step (SeatOrder.place samplePlacement 0) =
      some orderReported := rfl
  Reaches.of_foldlM (fun _ _ => trivial) hruns

/-- Nine euros told, three of them made: the six still owed are named. -/
theorem refunds_reported_are_covered_sample :
    ∃ named, orderReported.refundsTheProviderMayHaveMade ⟨900, "EUR"⟩ = .ok (some named) ∧
      20 ∈ named ∧ 21 ∉ named := by
  obtain ⟨-, hcovered⟩ := refunds_reported_are_covered samplePlacement (by decide) 0
    orderReported_reached
  obtain ⟨named, hanswer, hinside, hmade, -⟩ := hcovered orderReported.current.refunds
    (List.Sublist.refl _) fun r hr _ => hr
  refine ⟨named, hanswer, ?_, ?_⟩
  · exact hinside ⟨⟨20, ⟨600, "EUR"⟩, .goodwill, "refund:20", none⟩, 200, none, none⟩ (by decide)
      rfl
  · exact hmade ⟨⟨21, ⟨300, "EUR"⟩, .goodwill, "refund:21", none⟩, 300, some "re_1", some 400⟩
      (by decide) rfl

/-- Told five euros, of which none of its refunds are, or ten, more than all of them, the order has
less refunded than was told once the calls named were run again. -/
theorem reported_not_reached :
    orderReported.refundsTheProviderMayHaveMade ⟨500, "EUR"⟩ = .ok (some []) ∧
      orderReported.refundsTheProviderMayHaveMade ⟨1000, "EUR"⟩ = .ok none ∧
      ∀ refOf now, minorSum (amountsOf (SeatOrder.madeOf
        (orderReported.rerunRefunds refOf now []).current.refunds)) < 500 := by
  refine ⟨by decide, by decide, ?_⟩
  intro refOf now
  show minorSum (amountsOf (SeatOrder.madeOf orderReported.current.refunds)) < 500
  decide

end Sample

end Arthome.Ticketing
