import Arthome.Streaming.EntitlementProjection

/-!
# The seats of the entitlement projection

A seat's row settles on the seat's cancellation, whatever the order it and the
activation come in, and on the activation when no cancellation was stated. A
cancellation that states the seat alone ends the row it finds.
-/

namespace Arthome.Streaming

open Arthome.Core Arthome.Library

/-- The row apart from the instant streaming wrote it at. -/
def EntitlementSeat.unstamped (row : EntitlementSeat) : EntitlementSeat :=
  { row with appliedAt := 0 }

/-- The row the fact stands for, under the account and the date of the seat's activation. -/
def SeatMessageFact.row (accountId dateId : Uuid) (activatedAt : Instant) :
    SeatMessageFact → EntitlementSeat
  | .activated seatId accountId dateId statedAt => ⟨seatId, accountId, dateId, .active, statedAt, 0⟩
  | .cancelled seatId accountId dateId statedAt =>
    ⟨seatId, accountId, dateId, .cancelled, statedAt, 0⟩
  | .cancelledKeptRow seatId statedAt =>
    ⟨seatId, accountId, dateId, .cancelled, statedAt.getD activatedAt, 0⟩

/-- The row a fact states for one seat. -/
def aboutSeatRow (seatId accountId dateId : Uuid) (activatedAt : Instant)
    (fact : EntitlementFact) : Option (Option EntitlementSeat) :=
  (aboutSeat seatId fact).map fun about => some (about.row accountId dateId activatedAt)

namespace EntitlementDb

variable {s t : EntitlementDb} {fact : EntitlementFact} {seatId : Uuid}

def seatRow (seatId : Uuid) (s : EntitlementDb) : Option EntitlementSeat :=
  (s.seats.find? seatId).map EntitlementSeat.unstamped

/-- The stamp decides nothing. -/
theorem seatAfter_unstamped {about : SeatMessageFact} {appliedAt : Instant}
    {kept after : Option EntitlementSeat} (h : seatAfter about appliedAt kept after) :
    seatAfter about 0 (kept.map EntitlementSeat.unstamped)
      (after.map EntitlementSeat.unstamped) := by
  rcases h with ⟨row, hwritten, rfl⟩ | ⟨hwritten, rfl⟩
  · refine .inl ⟨row.unstamped, ?_, rfl⟩
    cases about with
    | activated seatId accountId dateId statedAt =>
        cases kept with
        | none =>
            cases hwritten
            rfl
        | some kept => cases hwritten
    | cancelled seatId accountId dateId statedAt =>
        cases kept with
        | none =>
            cases hwritten
            rfl
        | some kept =>
            simp only [SeatMessageFact.written, cancelSeat] at hwritten
            split_ifs at hwritten with hactive
            · cases hwritten
              simp [SeatMessageFact.written, cancelSeat, EntitlementSeat.unstamped, hactive]
            · cases hwritten
    | cancelledKeptRow seatId statedAt =>
        cases kept with
        | none => cases hwritten
        | some kept =>
            simp only [SeatMessageFact.written, cancelKeptSeat] at hwritten
            split_ifs at hwritten with hactive
            · cases hwritten
              simp [SeatMessageFact.written, cancelKeptSeat, EntitlementSeat.unstamped, hactive]
            · cases hwritten
  · refine .inr ⟨?_, rfl⟩
    cases about with
    | activated seatId accountId dateId statedAt =>
        cases after with
        | none => cases hwritten
        | some kept => rfl
    | cancelled seatId accountId dateId statedAt =>
        cases after with
        | none => cases hwritten
        | some kept =>
            simp only [SeatMessageFact.written, cancelSeat] at hwritten
            split_ifs at hwritten with hactive
            · cases hwritten
            · simp [SeatMessageFact.written, cancelSeat, EntitlementSeat.unstamped, hactive]
    | cancelledKeptRow seatId statedAt =>
        cases after with
        | none => cases hwritten
        | some kept =>
            simp only [SeatMessageFact.written, cancelKeptSeat] at hwritten
            split_ifs at hwritten with hactive
            · cases hwritten
            · simp [SeatMessageFact.written, cancelKeptSeat, EntitlementSeat.unstamped, hactive]

/-- A fact applied leaves a seat's row, or is about the seat. -/
theorem Applies.seat_cases (h : s.Applies fact t) (seatId : Uuid) :
    aboutSeat seatId fact = none ∧ t.seatRow seatId = s.seatRow seatId ∨
      ∃ about, aboutSeat seatId fact = some about ∧
        seatAfter about 0 (s.seatRow seatId) (t.seatRow seatId) := by
  cases fact with
  | date about =>
      refine .inl ⟨rfl, ?_⟩
      unfold seatRow
      rw [h.date.1]
  | seat about =>
      obtain ⟨-, hothers, appliedAt, hafter⟩ := h.seat
      by_cases hseat : about.seatId = seatId
      · right
        rw [hseat] at hafter
        exact ⟨about, if_pos hseat, seatAfter_unstamped hafter⟩
      · left
        refine ⟨if_neg hseat, ?_⟩
        unfold seatRow
        rw [hothers seatId (Ne.symm hseat)]

end EntitlementDb

/-! ## What each fact makes of the rows its seat may have -/

section After

variable {seatId accountId dateId : Uuid} {activatedAt statedAt : Instant}
  {cancelledAt : Option Instant} {kept : EntitlementSeat} {after : Option EntitlementSeat}

open EntitlementDb

theorem after_activated_none
    (h : seatAfter (.activated seatId accountId dateId statedAt) 0 none after) :
    after = some ⟨seatId, accountId, dateId, .active, statedAt, 0⟩ := by
  rcases h with ⟨row, hwritten, rfl⟩ | ⟨hwritten, -⟩
  · cases hwritten
    rfl
  · cases hwritten

theorem after_activated_some
    (h : seatAfter (.activated seatId accountId dateId statedAt) 0 (some kept) after) :
    after = some kept := by
  rcases h with ⟨row, hwritten, rfl⟩ | ⟨-, rfl⟩
  · cases hwritten
  · rfl

theorem after_cancelled_none
    (h : seatAfter (.cancelled seatId accountId dateId statedAt) 0 none after) :
    after = some ⟨seatId, accountId, dateId, .cancelled, statedAt, 0⟩ := by
  rcases h with ⟨row, hwritten, rfl⟩ | ⟨hwritten, -⟩
  · cases hwritten
    rfl
  · cases hwritten

theorem after_cancelled_active
    (h : seatAfter (.cancelled seatId accountId dateId statedAt) 0
      (some ⟨seatId, accountId, dateId, .active, activatedAt, 0⟩) after) :
    after = some ⟨seatId, accountId, dateId, .cancelled, statedAt, 0⟩ := by
  rcases h with ⟨row, hwritten, rfl⟩ | ⟨hwritten, -⟩
  · cases hwritten
    rfl
  · cases hwritten

theorem after_cancelledKeptRow_none
    (h : seatAfter (.cancelledKeptRow seatId cancelledAt) 0 none after) : False := by
  rcases h with ⟨row, hwritten, -⟩ | ⟨hwritten, -⟩
  · cases hwritten
  · cases hwritten

theorem after_cancelledKeptRow_active
    (h : seatAfter (.cancelledKeptRow seatId cancelledAt) 0
      (some ⟨seatId, accountId, dateId, .active, activatedAt, 0⟩) after) :
    after = some ⟨seatId, accountId, dateId, .cancelled, cancelledAt.getD activatedAt, 0⟩ := by
  rcases h with ⟨row, hwritten, rfl⟩ | ⟨hwritten, -⟩
  · cases hwritten
    rfl
  · cases hwritten

/-- Nothing is written over an ended row. -/
theorem after_of_ended {about : SeatMessageFact} (hended : kept.state = .cancelled)
    (h : seatAfter about 0 (some kept) after) : after = some kept := by
  rcases h with ⟨row, hwritten, rfl⟩ | ⟨-, rfl⟩
  · cases about with
    | activated => cases hwritten
    | cancelled =>
        simp only [SeatMessageFact.written, cancelSeat, hended] at hwritten
        cases hwritten
    | cancelledKeptRow =>
        simp only [SeatMessageFact.written, cancelKeptSeat, hended] at hwritten
        cases hwritten
  · rfl

end After

/-! ## What a seat settles on -/

section Settling

variable {dateId seatId accountId seatDateId : Uuid} {activatedAt : Instant}
  {stated : List EntitlementFact} {fact : EntitlementFact} {about cancellation : SeatMessageFact}

theorem eq_seat_of_aboutSeat (h : aboutSeat seatId fact = some about) :
    fact = .seat about ∧ about.seatId = seatId := by
  cases fact with
  | date other => cases h
  | seat other =>
      simp only [aboutSeat] at h
      split_ifs at h with hseat
      · cases h
        exact ⟨rfl, hseat⟩

/-- What arrives about a seat something is stated about is part of what is stated. -/
theorem Arrives.mem_aboutSeat (h : Arrives dateId stated fact)
    (hne : stated.filterMap (aboutSeat seatId) ≠ []) (habout : aboutSeat seatId fact = some about) :
    about ∈ stated.filterMap (aboutSeat seatId) := by
  refine List.mem_filterMap.mpr ⟨fact, h.resolve_right ?_, habout⟩
  rw [not_not]
  obtain ⟨rfl, hseat⟩ := eq_seat_of_aboutSeat habout
  obtain ⟨other, hother⟩ := List.exists_mem_of_ne_nil _ hne
  obtain ⟨fact, hfact, hstates⟩ := List.mem_filterMap.mp hother
  obtain ⟨rfl, hother⟩ := eq_seat_of_aboutSeat hstates
  exact ⟨other, hfact, hother.trans hseat.symm⟩

/-- A seat with no cancellation stated settles on its activation. -/
theorem seat_settles_activated
    (hstory : stated.filterMap (aboutSeat seatId) =
      [.activated seatId accountId seatDateId activatedAt]) :
    Settles EntitlementDb.Applies (fun _ => True) (EntitlementDb.seatRow seatId) none
      (aboutSeatRow seatId accountId seatDateId activatedAt) (Arrives dateId stated)
      (some ⟨seatId, accountId, seatDateId, .active, activatedAt, 0⟩) := by
  have habout : ∀ {fact about}, Arrives dateId stated fact → aboutSeat seatId fact = some about →
      about = .activated seatId accountId seatDateId activatedAt := by
    intro fact about hfact habout
    have hmem := hfact.mem_aboutSeat (by rw [hstory]; exact List.cons_ne_nil _ _) habout
    rw [hstory] at hmem
    exact List.mem_singleton.mp hmem
  apply Settles.of_constant
  · intro fact row hfact hrow
    obtain ⟨about, hsome, rfl⟩ := Option.map_eq_some_iff.mp hrow
    obtain rfl := habout hfact hsome
    rfl
  · intro s fact t _ hfact hmove
    rcases hmove.seat_cases seatId with ⟨-, hsame⟩ | ⟨about, hsome, hafter⟩
    · exact .inl hsame
    · obtain rfl := habout hfact hsome
      cases hkept : s.seatRow seatId with
      | none =>
          rw [hkept] at hafter
          right
          rw [after_activated_none hafter, aboutSeatRow, hsome]
          rfl
      | some kept =>
          rw [hkept] at hafter
          exact .inl (after_activated_some hafter)
  · intro s fact t _ hfact hmove hstates hblank
    rcases hmove.seat_cases seatId with ⟨hnone, -⟩ | ⟨about, hsome, hafter⟩
    · rw [aboutSeatRow, hnone] at hstates
      cases hstates
    · obtain rfl := habout hfact hsome
      rw [hblank] at hafter
      exact after_activated_none hafter

/-- A seat settles on its cancellation, which writes its row over the activation's. -/
theorem seat_settles_cancelled
    (hstory : stated.filterMap (aboutSeat seatId) =
      [.activated seatId accountId seatDateId activatedAt, cancellation])
    (hended : (cancellation.row accountId seatDateId activatedAt).state = .cancelled)
    (hfirst : ∀ {after}, EntitlementDb.seatAfter cancellation 0 none after →
      after = some (cancellation.row accountId seatDateId activatedAt))
    (hover : ∀ {after}, EntitlementDb.seatAfter cancellation 0
        (some ⟨seatId, accountId, seatDateId, .active, activatedAt, 0⟩) after →
      after = some (cancellation.row accountId seatDateId activatedAt)) :
    Settles EntitlementDb.Applies (fun _ => True) (EntitlementDb.seatRow seatId) none
      (aboutSeatRow seatId accountId seatDateId activatedAt) (Arrives dateId stated)
      (some (cancellation.row accountId seatDateId activatedAt)) := by
  have habout : ∀ {fact about}, Arrives dateId stated fact → aboutSeat seatId fact = some about →
      about = .activated seatId accountId seatDateId activatedAt ∨ about = cancellation := by
    intro fact about hfact habout
    have hmem := hfact.mem_aboutSeat (by rw [hstory]; exact List.cons_ne_nil _ _) habout
    rw [hstory, List.mem_cons, List.mem_singleton] at hmem
    exact hmem
  have hkeptCases : ∀ {kept}, StatedOr none (aboutSeatRow seatId accountId seatDateId activatedAt)
      (Arrives dateId stated) kept → kept = none ∨
        kept = some ⟨seatId, accountId, seatDateId, .active, activatedAt, 0⟩ ∨
          kept = some (cancellation.row accountId seatDateId activatedAt) := by
    rintro kept (hblank | ⟨fact, hfact, hstates⟩)
    · exact .inl hblank
    · obtain ⟨about, hsome, rfl⟩ := Option.map_eq_some_iff.mp hstates
      rcases habout hfact hsome with rfl | rfl
      · exact .inr (.inl rfl)
      · exact .inr (.inr rfl)
  have hcancelled : ∀ {kept after}, (kept = none ∨
      kept = some ⟨seatId, accountId, seatDateId, .active, activatedAt, 0⟩ ∨
        kept = some (cancellation.row accountId seatDateId activatedAt)) →
      EntitlementDb.seatAfter cancellation 0 kept after →
        after = some (cancellation.row accountId seatDateId activatedAt) := by
    rintro kept after (rfl | rfl | rfl) hafter
    · exact hfirst hafter
    · exact hover hafter
    · exact after_of_ended hended hafter
  refine ⟨?_, ?_, ?_⟩
  · intro s fact t _ hpart hfact hmove
    rcases hmove.seat_cases seatId with ⟨-, hsame⟩ | ⟨about, hsome, hafter⟩
    · exact .inl hsame
    · rcases habout hfact hsome with rfl | rfl
      · cases hkept : s.seatRow seatId with
        | none =>
            rw [hkept] at hafter
            right
            rw [after_activated_none hafter, aboutSeatRow, hsome]
            rfl
        | some kept =>
            rw [hkept] at hafter
            exact .inl (after_activated_some hafter)
      · right
        rw [hcancelled (hkeptCases hpart) hafter, aboutSeatRow, hsome]
        rfl
  · intro s fact t _ hpart hfact hmove hstates
    rcases hmove.seat_cases seatId with ⟨hnone, -⟩ | ⟨about, hsome, hafter⟩
    · rw [aboutSeatRow, hnone] at hstates
      cases hstates
    · rcases habout hfact hsome with rfl | rfl
      · rw [aboutSeatRow, hsome, Option.map_some, Option.some.injEq, Option.some.injEq] at hstates
        rw [← hstates] at hended
        cases hended
      · exact hcancelled (hkeptCases hpart) hafter
  · intro s fact t _ hfact hmove hkept
    rcases hmove.seat_cases seatId with ⟨-, hsame⟩ | ⟨about, -, hafter⟩
    · rw [hsame, hkept]
    · rw [hkept] at hafter
      exact after_of_ended hended hafter

variable (dateId) in
/-- Whatever was stated of a seat, its row settles on one fact of its story. -/
theorem exists_seat_settles (hstory : SeatStory seatId (stated.filterMap (aboutSeat seatId)))
    (hne : stated.filterMap (aboutSeat seatId) ≠ []) :
    ∃ accountId seatDateId activatedAt best,
      (∃ fact, Arrives dateId stated fact ∧
        aboutSeatRow seatId accountId seatDateId activatedAt fact = some best) ∧
      Settles EntitlementDb.Applies (fun _ => True) (EntitlementDb.seatRow seatId) none
        (aboutSeatRow seatId accountId seatDateId activatedAt) (Arrives dateId stated) best := by
  have hstates : ∀ about (accountId seatDateId : Uuid) (activatedAt : Instant),
      about ∈ stated.filterMap (aboutSeat seatId) → ∃ fact, Arrives dateId stated fact ∧
        aboutSeatRow seatId accountId seatDateId activatedAt fact =
          some (some (about.row accountId seatDateId activatedAt)) := by
    intro about accountId seatDateId activatedAt hmem
    obtain ⟨fact, hfact, hsome⟩ := List.mem_filterMap.mp hmem
    exact ⟨fact, .inl hfact, by rw [aboutSeatRow, hsome]; rfl⟩
  generalize hlist : stated.filterMap (aboutSeat seatId) = story at hstory
  cases hstory with
  | untouched => exact absurd hlist hne
  | activated accountId seatDateId activatedAt =>
      refine ⟨accountId, seatDateId, activatedAt, _, ?_, seat_settles_activated hlist⟩
      apply hstates (.activated seatId accountId seatDateId activatedAt)
      rw [hlist]
      exact List.mem_cons_self
  | cancelled accountId seatDateId activatedAt cancelledAt =>
      refine ⟨accountId, seatDateId, activatedAt, _, ?_, seat_settles_cancelled hlist rfl
        after_cancelled_none after_cancelled_active⟩
      apply hstates
      rw [hlist]
      exact List.mem_cons_of_mem _ List.mem_cons_self
  | cancelledKeptRow accountId seatDateId activatedAt cancelledAt =>
      refine ⟨accountId, seatDateId, activatedAt, _, ?_, seat_settles_cancelled hlist rfl
        (fun h => (after_cancelledKeptRow_none h).elim) after_cancelledKeptRow_active⟩
      apply hstates
      rw [hlist]
      exact List.mem_cons_of_mem _ List.mem_cons_self

end Settling

end Arthome.Streaming
