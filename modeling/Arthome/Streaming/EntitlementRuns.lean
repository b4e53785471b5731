import Arthome.Streaming.EntitlementGroups

/-!
# Deliveries of entitlement facts

A run of deliveries is read as the facts it applied, each once for the message it came
under. A date's row is moved by the facts about the date only and a seat's row by the
facts about the seat only. Nothing is refused but a cancellation that states the seat
alone while no row of the seat is kept.
-/

namespace Arthome.Streaming

open Arthome.Core Arthome.Library Arthome.Messaging

namespace EntitlementDb

variable {s t : EntitlementDb} {delivery : Delivery} {deliveries : List Delivery}

/-- The fact applied under a message not claimed before. -/
def Applies (s : EntitlementDb) (fact : EntitlementFact) (t : EntitlementDb) : Prop :=
  ∃ messageId appliedAt outcome, messageId ∉ s.processed ∧
    s.record ⟨messageId, fact, appliedAt⟩ = .ok (t, outcome)

theorem find?_dates_applied (fact : DateFact) (appliedAt : Instant) (dateId : Uuid) :
    (((fact.applied appliedAt (s.dates.find? fact.dateId)).1.elim s.dates
        s.dates.upsert).find? dateId) =
      if dateId = fact.dateId then (fact.applied appliedAt (s.dates.find? fact.dateId)).1
      else s.dates.find? dateId := by
  have hsome : (fact.applied appliedAt (s.dates.find? fact.dateId)).1.isSome :=
    fact.applied_isSome appliedAt
  obtain ⟨row, hrow⟩ := Option.isSome_iff_exists.mp hsome
  have hkey : row.dateId = fact.dateId :=
    fact.applied_dateId appliedAt (fun _ => Table.key_of_find?) hrow
  rw [hrow, Option.elim_some]
  split_ifs with h
  · rw [h, ← hkey]
    exact Table.find?_upsert_self s.dates row
  · exact Table.find?_upsert_of_ne s.dates fun hne => h (hne.symm.trans hkey)

/-- A fact about a date moves the date's row and nothing else. -/
theorem Applies.date {fact : DateFact} (h : s.Applies (.date fact) t) :
    t.seats = s.seats ∧ ∃ appliedAt, ∀ dateId, t.dates.find? dateId =
      if dateId = fact.dateId then (fact.applied appliedAt (s.dates.find? fact.dateId)).1
      else s.dates.find? dateId := by
  obtain ⟨messageId, appliedAt, outcome, hfresh, hrecord⟩ := h
  have hclaim : claimMessage s.processed messageId = some (messageId :: s.processed) :=
    claimMessage_eq_some.mpr ⟨hfresh, rfl⟩
  simp only [record, recordDateFact, hclaim, Except.ok.injEq, Prod.mk.injEq] at hrecord
  obtain ⟨rfl, -⟩ := hrecord
  exact ⟨rfl, appliedAt, find?_dates_applied fact appliedAt⟩

theorem written_seatId {fact : SeatMessageFact} {appliedAt : Instant}
    {kept : Option EntitlementSeat} {row : EntitlementSeat}
    (hkept : ∀ row, kept = some row → row.seatId = fact.seatId)
    (h : fact.written appliedAt kept = .ok (some row)) : row.seatId = fact.seatId := by
  cases fact with
  | activated seatId accountId dateId statedAt =>
      cases kept with
      | none =>
          cases h
          rfl
      | some kept => cases h
  | cancelled seatId accountId dateId statedAt =>
      cases kept with
      | none =>
          cases h
          rfl
      | some kept =>
          simp only [SeatMessageFact.written, cancelSeat] at h
          split_ifs at h
          · cases h
            exact hkept kept rfl
          · cases h
  | cancelledKeptRow seatId statedAt =>
      cases kept with
      | none => cases h
      | some kept =>
          simp only [SeatMessageFact.written, cancelKeptSeat] at h
          split_ifs at h
          · cases h
            exact hkept kept rfl
          · cases h

/-- The row a fact on a seat leaves, once it was not refused. -/
def seatAfter (fact : SeatMessageFact) (appliedAt : Instant) (kept after : Option EntitlementSeat) :
    Prop :=
  (∃ row, fact.written appliedAt kept = .ok (some row) ∧ after = some row) ∨
    fact.written appliedAt kept = .ok none ∧ after = kept

/-- A fact about a seat moves the seat's row and nothing else. -/
theorem Applies.seat {fact : SeatMessageFact} (h : s.Applies (.seat fact) t) :
    t.dates = s.dates ∧ (∀ seatId, seatId ≠ fact.seatId →
        t.seats.find? seatId = s.seats.find? seatId) ∧
      ∃ appliedAt, seatAfter fact appliedAt (s.seats.find? fact.seatId)
        (t.seats.find? fact.seatId) := by
  obtain ⟨messageId, appliedAt, outcome, hfresh, hrecord⟩ := h
  have hclaim : claimMessage s.processed messageId = some (messageId :: s.processed) :=
    claimMessage_eq_some.mpr ⟨hfresh, rfl⟩
  simp only [record, recordSeatFact, hclaim] at hrecord
  cases hwritten : fact.written appliedAt (s.seats.find? fact.seatId) with
  | error refusal =>
      rw [hwritten] at hrecord
      cases hrecord
  | ok row =>
      rw [hwritten] at hrecord
      cases row with
      | none =>
          cases hrecord
          exact ⟨rfl, fun _ _ => rfl, appliedAt, .inr ⟨hwritten, rfl⟩⟩
      | some row =>
          cases hrecord
          have hkey : row.seatId = fact.seatId :=
            written_seatId (fun _ => Table.key_of_find?) hwritten
          refine ⟨rfl, fun seatId hne => ?_, appliedAt, .inl ⟨row, hwritten, ?_⟩⟩
          · exact Table.find?_upsert_of_ne s.seats fun h => hne (h.symm.trans hkey)
          · rw [← hkey]
            exact Table.find?_upsert_self s.seats row

/-! ## The facts a run applied -/

/-- A delivery is a duplicate, is refused, or applies its fact. -/
theorem deliver_cases (s : EntitlementDb) (delivery : Delivery) :
    s.deliver delivery = s ∧
        (delivery.messageId ∈ s.processed ∨ ∃ refusal, s.record delivery = .error refusal) ∨
      s.Applies delivery.fact (s.deliver delivery) ∧ delivery.messageId ∉ s.processed ∧
        (s.deliver delivery).processed = delivery.messageId :: s.processed := by
  obtain ⟨messageId, fact, appliedAt⟩ := delivery
  by_cases hclaimed : messageId ∈ s.processed
  · left
    have hclaim : claimMessage s.processed messageId = none := claimMessage_eq_none.mpr hclaimed
    cases fact with
    | date fact => exact ⟨by simp [deliver, record, recordDateFact, hclaim], .inl hclaimed⟩
    | seat fact => exact ⟨by simp [deliver, record, recordSeatFact, hclaim], .inl hclaimed⟩
  · have hclaim : claimMessage s.processed messageId = some (messageId :: s.processed) :=
      claimMessage_eq_some.mpr ⟨hclaimed, rfl⟩
    cases hrecord : s.record ⟨messageId, fact, appliedAt⟩ with
    | error refusal =>
        exact .inl ⟨by simp [deliver, hrecord], .inr ⟨refusal, rfl⟩⟩
    | ok result =>
        right
        have hafter : s.deliver ⟨messageId, fact, appliedAt⟩ = result.1 := by
          simp [deliver, hrecord]
        refine ⟨⟨messageId, appliedAt, result.2, hclaimed, ?_⟩, hclaimed, ?_⟩
        · rw [hafter]
          exact hrecord
        · rw [hafter]
          cases fact with
          | date fact =>
              simp only [record, recordDateFact, hclaim] at hrecord
              cases hrecord
              rfl
          | seat fact =>
              simp only [record, recordSeatFact, hclaim] at hrecord
              cases hwritten : fact.written appliedAt (s.seats.find? fact.seatId) with
              | error refusal =>
                  rw [hwritten] at hrecord
                  cases hrecord
              | ok row =>
                  rw [hwritten] at hrecord
                  cases row with
                  | none =>
                      cases hrecord
                      rfl
                  | some row =>
                      cases hrecord
                      rfl

theorem processed_subset_deliver {messageId : Uuid} (h : messageId ∈ s.processed) :
    messageId ∈ (s.deliver delivery).processed := by
  rcases s.deliver_cases delivery with ⟨hsame, -⟩ | ⟨-, -, hprocessed⟩
  · rwa [hsame]
  · rw [hprocessed]
    exact List.mem_cons_of_mem _ h

theorem processed_subset_run {messageId : Uuid} (h : messageId ∈ s.processed) :
    messageId ∈ (s.run deliveries).processed := by
  induction deliveries generalizing s with
  | nil => exact h
  | cons delivery deliveries ih => exact ih (processed_subset_deliver h)

/-- A run feeds the facts of its deliveries, and every message it claimed fed its own. -/
theorem exists_feeds (s : EntitlementDb) (deliveries : List Delivery) :
    ∃ facts, Feeds Applies s facts (s.run deliveries) ∧
      (∀ fact ∈ facts, ∃ delivery ∈ deliveries, delivery.fact = fact) ∧
      ∀ messageId ∈ (s.run deliveries).processed, messageId ∈ s.processed ∨
        ∃ delivery ∈ deliveries, delivery.messageId = messageId ∧ delivery.fact ∈ facts := by
  induction deliveries generalizing s with
  | nil =>
      refine ⟨[], .nil s, ?_, fun _ h => .inl h⟩
      rintro fact hfact
      cases hfact
  | cons delivery deliveries ih =>
      obtain ⟨facts, hfeeds, hfrom, hclaimed⟩ := ih (s.deliver delivery)
      have hlater : ∀ fact ∈ facts, ∃ other ∈ delivery :: deliveries, other.fact = fact := by
        intro fact hfact
        obtain ⟨other, hother, rfl⟩ := hfrom fact hfact
        exact ⟨other, List.mem_cons_of_mem _ hother, rfl⟩
      rcases s.deliver_cases delivery with ⟨hsame, -⟩ | ⟨happlies, -, hprocessed⟩
      · refine ⟨facts, ?_, hlater, fun messageId hmem => ?_⟩
        · rw [hsame] at hfeeds
          rw [run, List.foldl_cons, hsame]
          exact hfeeds
        · rcases hclaimed messageId hmem with hbefore | ⟨other, hother, hid, hfed⟩
          · rw [hsame] at hbefore
            exact .inl hbefore
          · exact .inr ⟨other, List.mem_cons_of_mem _ hother, hid, hfed⟩
      · refine ⟨delivery.fact :: facts, .cons happlies hfeeds, ?_, fun messageId hmem => ?_⟩
        · intro fact hfact
          rcases List.mem_cons.mp hfact with rfl | hmem
          · exact ⟨delivery, List.mem_cons_self, rfl⟩
          · exact hlater fact hmem
        · rcases hclaimed messageId hmem with hbefore | ⟨other, hother, hid, hfed⟩
          · rw [hprocessed] at hbefore
            rcases List.mem_cons.mp hbefore with rfl | hearlier
            · exact .inr ⟨delivery, List.mem_cons_self, rfl, List.mem_cons_self⟩
            · exact .inl hearlier
          · exact .inr ⟨other, List.mem_cons_of_mem _ hother, hid, List.mem_cons_of_mem _ hfed⟩

end EntitlementDb

end Arthome.Streaming
