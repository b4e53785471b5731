import Arthome.Ticketing.Wiring

/-!
# The seats an order counts for

An order counts, in its date's sold seats, for every seat written for it but those
its viewer gave up. Its seats have distinct ids and an active one was not given
up: so a viewer's cancellation counts one seat less, and no other movement of an
order changes what it counts for, but its payment.
-/

namespace Arthome.Ticketing

open Arthome.Core Library

/-- Given up at its viewer's request. -/
def viewerCancelled (seat : SeatSnapshot) : Bool := seat.cancelReason = some .viewerRequest

/-- The seats written for the order, less those its viewer gave up. -/
def soldSeatsOf (order : SeatOrderSnapshot) : ℤ :=
  order.seats.length - order.seats.countP viewerCancelled

/-- The order's seats are distinct, and an active one was given up by nobody. -/
structure SeatsSound (order : SeatOrderSnapshot) : Prop where
  nodup : (order.seats.map fun seat => seat.id).Nodup
  active : ∀ seat ∈ order.seats, seat.state = .active → seat.cancelReason = none

section

variable {order : SeatOrderSnapshot} {seats : List SeatSnapshot}

theorem soldSeatsOf_congr {s s' : SeatOrderSnapshot} (h : s'.seats = s.seats) :
    soldSeatsOf s' = soldSeatsOf s := by
  unfold soldSeatsOf
  rw [h]

/-- Seats moved in place, none given up at its viewer's request. -/
theorem soldSeatsOf_map {s' : SeatOrderSnapshot} (move : SeatSnapshot → SeatSnapshot)
    (hseats : s'.seats = order.seats.map move)
    (hmove : ∀ seat ∈ order.seats, viewerCancelled (move seat) = viewerCancelled seat) :
    soldSeatsOf s' = soldSeatsOf order := by
  unfold soldSeatsOf
  rw [hseats, List.length_map, List.countP_map]
  congr 2
  exact List.countP_congr fun seat hseat => by simp [hmove seat hseat]

theorem SeatsSound.of_map (h : SeatsSound order) {s' : SeatOrderSnapshot}
    (move : SeatSnapshot → SeatSnapshot) (hseats : s'.seats = order.seats.map move)
    (hid : ∀ seat, (move seat).id = seat.id)
    (hactive : ∀ seat ∈ order.seats, (move seat).state = .active →
      seat.state = .active ∧ (move seat).cancelReason = seat.cancelReason) : SeatsSound s' := by
  constructor
  · rw [hseats, List.map_map]
    simpa [Function.comp_def, hid] using h.nodup
  · intro seat' hseat' hstate
    rw [hseats] at hseat'
    obtain ⟨seat, hseat, rfl⟩ := List.mem_map.mp hseat'
    obtain ⟨hwas, hreason⟩ := hactive seat hseat hstate
    rw [hreason]
    exact h.active seat hseat hwas

theorem SeatsSound.of_eq (h : SeatsSound order) {s' : SeatOrderSnapshot}
    (hseats : s'.seats = order.seats) : SeatsSound s' := by
  refine ⟨?_, ?_⟩ <;> rw [hseats]
  · exact h.nodup
  · exact h.active

theorem SeatsSound.nil {s : SeatOrderSnapshot} (h : s.seats = []) : SeatsSound s := by
  refine ⟨?_, ?_⟩ <;> rw [h]
  · exact List.nodup_nil
  · simp

theorem soldSeatsOf_nil {s : SeatOrderSnapshot} (h : s.seats = []) : soldSeatsOf s = 0 := by
  simp [soldSeatsOf, h]

end

section Cancelled

variable (cancellation : SeatCancellation) (now : Instant) (seat : SeatSnapshot)

/-- A seat no cancellation names is as it was; a named one is cancelled for its reason. -/
theorem cancelledSeat_cases :
    (seat.id ∉ cancellation.seats.map (fun named => named.seatId) ∧
      SeatOrder.cancelledSeat cancellation now seat = seat) ∨
    (seat.id ∈ cancellation.seats.map (fun named => named.seatId) ∧
      (SeatOrder.cancelledSeat cancellation now seat).state = .cancelled ∧
      (SeatOrder.cancelledSeat cancellation now seat).cancelReason = some cancellation.reason) := by
  unfold SeatOrder.cancelledSeat
  split
  · rename_i hnone
    exact .inl ⟨find?_eq_none_iff_not_mem.mp hnone, rfl⟩
  · rename_i named hfind
    have hname : named.seatId = seat.id := by simpa using List.find?_some hfind
    exact .inr ⟨List.mem_map.mpr ⟨named, List.mem_of_find?_eq_some hfind, hname⟩, rfl, rfl⟩

theorem creditedSeat_cases (crediting : SeatCrediting) :
    SeatOrder.creditedSeat crediting now seat = seat ∨
    ((SeatOrder.creditedSeat crediting now seat).state = .credited ∧
      (SeatOrder.creditedSeat crediting now seat).cancelReason = seat.cancelReason) := by
  unfold SeatOrder.creditedSeat
  split
  · exact .inl rfl
  · exact .inr ⟨rfl, rfl⟩

end Cancelled

section Steps

variable [OrderRules] [LawfulOrderRules] {order s' : SeatOrderSnapshot}

omit [LawfulOrderRules] in
theorem SeatsSound.cancelled (h : SeatsSound order) {cancellation : SeatCancellation}
    {now : Instant} (hc : Change order (.cancelSeats cancellation now) s') : SeatsSound s' := by
  cases hc with
  | none => exact h
  | seatsCancelled =>
      refine h.of_map _ rfl (cancelledSeat_id cancellation now) fun seat _ hstate => ?_
      rcases cancelledSeat_cases cancellation now seat with ⟨-, heq⟩ | ⟨-, hcancelled, -⟩
      · rw [heq] at hstate ⊢
        exact ⟨hstate, rfl⟩
      · rw [hcancelled] at hstate
        cases hstate

/-- For another reason than the viewer's request, no seat counts less. -/
theorem soldSeatsOf_cancelled (h : SeatsSound order) {cancellation : SeatCancellation}
    {now : Instant} (hreason : cancellation.reason ≠ .viewerRequest)
    (hc : Change order (.cancelSeats cancellation now) s') : soldSeatsOf s' = soldSeatsOf order := by
  cases hc with
  | none => rfl
  | seatsCancelled cancellation now hrefund hnonneg hwithin hnone hmove =>
      refine soldSeatsOf_map _ rfl fun seat hseat => ?_
      rcases cancelledSeat_cases cancellation now seat with ⟨-, heq⟩ | ⟨hnamed, -, hcancelled⟩
      · rw [heq]
      · have hactive := hmove.active_of_named (.inl rfl) h.nodup hseat hnamed
        simp [viewerCancelled, hcancelled, hreason, h.active seat hseat hactive]

/-- Given up at its viewer's request, one seat counts no more. -/
theorem soldSeatsOf_viewerCancelled (h : SeatsSound order) {cancellation : SeatCancellation}
    {now : Instant} {seatId : Uuid} (hreason : cancellation.reason = .viewerRequest)
    (hseats : cancellation.seats.map (fun named => named.seatId) = [seatId])
    (hc : Change order (.cancelSeats cancellation now) s') (hmoved : s' ≠ order) :
    soldSeatsOf s' = soldSeatsOf order - 1 := by
  cases hc with
  | none => exact absurd rfl hmoved
  | seatsCancelled cancellation now hrefund hnonneg hwithin hnone hmove =>
      obtain ⟨seat, hfind, -⟩ := hmove.mayMove seatId (by rw [hseats]; simp)
      have hseat : seat ∈ order.seats := List.mem_of_find?_eq_some hfind
      have hid : seat.id = seatId := by simpa using List.find?_some hfind
      have hnamed : seat.id ∈ cancellation.seats.map fun named => named.seatId := by
        rw [hseats, hid]
        simp
      have hactive := hmove.active_of_named (.inl rfl) h.nodup hseat hnamed
      have hcount := countP_map_of_nodup h.nodup hseat
        (SeatOrder.cancelledSeat cancellation now) viewerCancelled
        (by simp [viewerCancelled, h.active seat hseat hactive]) (by
          rcases cancelledSeat_cases cancellation now seat with ⟨hnot, -⟩ | ⟨-, -, hcancelled⟩
          · exact absurd hnamed hnot
          · simp [viewerCancelled, hcancelled, hreason])
        (by
          intro other hother hne
          rcases cancelledSeat_cases cancellation now other with ⟨-, heq⟩ | ⟨hnamed', -, -⟩
          · rw [heq]
          · rw [hseats, List.mem_singleton] at hnamed'
            exact absurd (hnamed'.trans hid.symm) hne)
      unfold soldSeatsOf
      simp only [List.length_map, hcount]
      push_cast
      ring

omit [LawfulOrderRules] in
theorem SeatsSound.credited (h : SeatsSound order) {crediting : SeatCrediting} {now : Instant}
    (hc : Change order (.creditSeats crediting now) s') : SeatsSound s' := by
  cases hc with
  | none => exact h
  | seatsCredited =>
      refine h.of_map _ rfl (creditedSeat_id crediting now) fun seat _ hstate => ?_
      rcases creditedSeat_cases now seat crediting with heq | ⟨hcredited, -⟩
      · rw [heq] at hstate ⊢
        exact ⟨hstate, rfl⟩
      · rw [hcredited] at hstate
        cases hstate

omit [LawfulOrderRules] in
theorem soldSeatsOf_credited {crediting : SeatCrediting} {now : Instant}
    (hc : Change order (.creditSeats crediting now) s') : soldSeatsOf s' = soldSeatsOf order := by
  cases hc with
  | none => rfl
  | seatsCredited =>
      refine soldSeatsOf_map _ rfl fun seat _ => ?_
      rcases creditedSeat_cases now seat crediting with heq | ⟨-, hsame⟩
      · rw [heq]
      · simp [viewerCancelled, hsame]

end Steps

end Arthome.Ticketing
