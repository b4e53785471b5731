import Arthome.Streaming.EntitlementRuns

/-!
# The entitlement projection converges

However the facts stated about a date and about its seats are delivered, late, twice or
out of order, once all are applied the rows are those of applying each once in the order
it was stated. Every group of the date's row settles on the fact its guard takes over
the others; a seat settles on its cancellation, or on its activation when there is none.
-/

namespace Arthome.Streaming

open Arthome.Core Arthome.Library

variable {γ : Type}

/-- What a fact states in a part of one date's row. -/
def aboutDate (dateId : Uuid) (states : DateFact → Option γ) : EntitlementFact → Option γ
  | .date fact => if fact.dateId = dateId then states fact else none
  | .seat _ => none

@[simp] theorem aboutDate_date (dateId : Uuid) (states : DateFact → Option γ) (fact : DateFact) :
    aboutDate dateId states (.date fact) =
      if fact.dateId = dateId then states fact else none := rfl

def aboutSeat (seatId : Uuid) : EntitlementFact → Option SeatMessageFact
  | .date _ => none
  | .seat fact => if fact.seatId = seatId then some fact else none

/-- A seat is activated, then possibly cancelled, under one account and one date; the
cancellation may state the seat alone. -/
inductive SeatStory (seatId : Uuid) : List SeatMessageFact → Prop
  | untouched : SeatStory seatId []
  | activated (accountId dateId : Uuid) (activatedAt : Instant) :
      SeatStory seatId [.activated seatId accountId dateId activatedAt]
  | cancelled (accountId dateId : Uuid) (activatedAt cancelledAt : Instant) :
      SeatStory seatId [.activated seatId accountId dateId activatedAt,
        .cancelled seatId accountId dateId cancelledAt]
  | cancelledKeptRow (accountId dateId : Uuid) (activatedAt : Instant)
      (cancelledAt : Option Instant) :
      SeatStory seatId [.activated seatId accountId dateId activatedAt,
        .cancelledKeptRow seatId cancelledAt]

/-- No two facts state the part at one instant, or under one version, and differ. -/
def DistinctStamps {α : Type} (states : EntitlementFact → Option (Option ℤ × α))
    (stated : List EntitlementFact) : Prop :=
  ∀ v ∈ stated.filterMap states, ∀ w ∈ stated.filterMap states, v.1 = w.1 → v = w

/-- What catalog and ticketing stated about one date and its seats, in the order they did. -/
structure Stated (dateId channelId : Uuid) (stated : List EntitlementFact) : Prop where
  channel : ∀ named ∈ stated.filterMap (aboutDate dateId DateFact.channelId),
    named = some channelId
  oneSchedule : ∀ fact ∈ stated, ∀ fact' ∈ stated,
    (aboutDate dateId DateFact.runtimeMin fact).isSome →
      (aboutDate dateId DateFact.runtimeMin fact').isSome → fact = fact'
  timing : DistinctStamps (aboutDate dateId DateFact.timing) stated
  replay : DistinctStamps (aboutDate dateId DateFact.replay) stated
  rights : DistinctStamps (aboutDate dateId DateFact.rights) stated
  publication : DistinctStamps (aboutDate dateId DateFact.publication) stated
  outcome : (stated.filterMap (aboutDate dateId DateFact.outcome)).Pairwise fun v w =>
    (∀ a ∈ v.1, ∀ b ∈ w.1, a ≤ b) ∧ isFinal v.2 = false
  seats : ∀ seatId, SeatStory seatId (stated.filterMap (aboutSeat seatId))

/-- The fact is about the date, or about a seat something is stated about. -/
def EntitlementFact.Concerns (dateId : Uuid) (stated : List EntitlementFact) :
    EntitlementFact → Prop
  | .date fact => fact.dateId = dateId
  | .seat fact => ∃ other, .seat other ∈ stated ∧ other.seatId = fact.seatId

/-- A fact stated, or one about other dates and seats. -/
def Arrives (dateId : Uuid) (stated : List EntitlementFact) (fact : EntitlementFact) : Prop :=
  fact ∈ stated ∨ ¬ fact.Concerns dateId stated

variable {dateId channelId : Uuid} {stated : List EntitlementFact}

theorem Arrives.mem_of_date {states : DateFact → Option γ} {fact : EntitlementFact}
    (h : Arrives dateId stated fact) (hstates : (aboutDate dateId states fact).isSome) :
    fact ∈ stated := by
  apply h.resolve_right
  rw [not_not]
  cases fact with
  | date fact =>
      rw [aboutDate_date] at hstates
      split_ifs at hstates with hdate
      · exact hdate
      · cases hstates
  | seat fact => cases hstates

theorem Arrives.mem_of_eq {states : DateFact → Option γ} {fact : EntitlementFact} {value : γ}
    (h : Arrives dateId stated fact) (hstates : aboutDate dateId states fact = some value) :
    fact ∈ stated := by
  have hsome : (aboutDate dateId states fact).isSome := by
    rw [hstates]
    rfl
  exact h.mem_of_date hsome

theorem Arrives.mem_filterMap {states : DateFact → Option γ} {fact : EntitlementFact} {value : γ}
    (h : Arrives dateId stated fact) (hstates : aboutDate dateId states fact = some value) :
    value ∈ stated.filterMap (aboutDate dateId states) :=
  List.mem_filterMap.mpr ⟨fact, h.mem_of_eq hstates, hstates⟩

/-! ## The groups of the date's row -/

namespace EntitlementDb

variable {s t : EntitlementDb} {columns : EntitlementDate → γ} {blank : γ}
  {states : DateFact → Option γ} {takes : γ → γ → Bool} {fact : EntitlementFact}

/-- What the date's row holds in a group. -/
def group (columns : EntitlementDate → γ) (blank : γ) (dateId : Uuid) (s : EntitlementDb) : γ :=
  groupIn columns blank (s.dates.find? dateId)

/-- A group no fact is applied to stays. -/
theorem Applies.group_eq (h : s.Applies fact t)
    (hother : ∀ about, fact = .date about → about.dateId ≠ dateId) :
    t.dates.find? dateId = s.dates.find? dateId := by
  cases fact with
  | date about =>
      obtain ⟨-, appliedAt, hdates⟩ := h.date
      rw [hdates, if_neg fun h => hother about rfl h.symm]
  | seat about => rw [h.seat.1]

theorem Applies.group_feed (h : s.Applies fact t)
    (happlied : ∀ (fact : DateFact) (appliedAt : Instant) (kept : Option EntitlementDate),
      groupIn columns blank (fact.applied appliedAt kept).1 =
        feed takes (groupIn columns blank kept) (states fact)) :
    t.group columns blank dateId =
      feed takes (s.group columns blank dateId) (aboutDate dateId states fact) := by
  unfold group
  cases fact with
  | date about =>
      obtain ⟨-, appliedAt, hdates⟩ := h.date
      rw [aboutDate_date]
      by_cases hdate : about.dateId = dateId
      · rw [hdates, if_pos hdate.symm, if_pos hdate, happlied, hdate]
      · rw [hdates, if_neg (Ne.symm hdate), if_neg hdate]
        rfl
  | seat about =>
      rw [h.seat.1]
      rfl

/-- The rows of the date that have lost no channel. -/
def ChannelKnown (dateId : Uuid) (s : EntitlementDb) : Prop :=
  ∀ row, s.dates.find? dateId = some row → row.ChannelKnown

theorem Applies.channelKnown (h : s.Applies fact t) (hs : s.ChannelKnown dateId) :
    t.ChannelKnown dateId := by
  intro row hrow
  by_cases hother : ∀ about, fact = .date about → about.dateId ≠ dateId
  · rw [h.group_eq hother] at hrow
    exact hs row hrow
  · push Not at hother
    obtain ⟨about, rfl, hdate⟩ := hother
    obtain ⟨-, appliedAt, hdates⟩ := h.date
    rw [hdates, if_pos hdate.symm, hdate] at hrow
    exact about.applied_channelKnown appliedAt hs hrow

theorem Applies.group_writesOnce (h : s.Applies fact t) (hs : s.ChannelKnown dateId)
    (happlied : ∀ (fact : DateFact) (appliedAt : Instant) (kept : Option EntitlementDate),
      (∀ row, kept = some row → row.ChannelKnown) →
        WritesOnce columns blank (states fact) kept (fact.applied appliedAt kept).1) :
    WritesOnce columns blank (aboutDate dateId states fact) (s.dates.find? dateId)
      (t.dates.find? dateId) := by
  cases fact with
  | date about =>
      obtain ⟨-, appliedAt, hdates⟩ := h.date
      rw [aboutDate_date]
      by_cases hdate : about.dateId = dateId
      · rw [hdates, if_pos hdate.symm, if_pos hdate, hdate]
        exact happlied about appliedAt _ hs
      · rw [hdates, if_neg (Ne.symm hdate), if_neg hdate]
        exact writesOnce_none rfl
  | seat about =>
      rw [h.seat.1]
      exact writesOnce_none rfl

end EntitlementDb

/-! ## Which fact a group settles on -/

theorem stamp_of_states {α : Type} {states : DateFact → Option (Option ℤ × α)}
    (hstates : ∀ fact v, states fact = some v → v.1.isSome) {fact : EntitlementFact}
    {v : Option ℤ × α} (h : aboutDate dateId states fact = some v) : v.1.isSome := by
  cases fact with
  | date about =>
      rw [aboutDate_date] at h
      split_ifs at h
      exact hstates about v h
  | seat about => cases h

/-- Under distinct stamps one fact beats the others. -/
theorem exists_beats_of_distinct {α : Type} {states : DateFact → Option (Option ℤ × α)} {none' : α}
    {compare : ℤ → ℤ → Bool} (hcompare : ∀ a b, a < b → compare a b = true ∧ compare b a = false)
    (hstamp : ∀ fact v, states fact = some v → v.1.isSome)
    (hdistinct : DistinctStamps (aboutDate dateId states) stated)
    (hsome : ∃ fact, Arrives dateId stated fact ∧ (aboutDate dateId states fact).isSome) :
    ∃ best, Beats (takesFrom compare) (none, none') (aboutDate dateId states)
      (Arrives dateId stated) best := by
  refine exists_beats (fun v => v.1.getD 0)
    (fun fact hfact hstates => hfact.mem_of_date hstates) ?_ ?_ ?_ ?_
  · exact hsome
  · intro fact fact' v w hfact hfact' hv hw heq
    apply hdistinct v (hfact.mem_filterMap hv) w (hfact'.mem_filterMap hw)
    obtain ⟨a, ha⟩ := Option.isSome_iff_exists.mp (stamp_of_states hstamp hv)
    obtain ⟨b, hb⟩ := Option.isSome_iff_exists.mp (stamp_of_states hstamp hw)
    rw [ha, hb] at heq ⊢
    exact congrArg some heq
  · intro fact v _ hv
    obtain ⟨a, ha⟩ := Option.isSome_iff_exists.mp (stamp_of_states hstamp hv)
    simp [takesFrom, ha]
  · intro fact fact' v w _ _ hv hw hlt
    obtain ⟨a, ha⟩ := Option.isSome_iff_exists.mp (stamp_of_states hstamp hv)
    obtain ⟨b, hb⟩ := Option.isSome_iff_exists.mp (stamp_of_states hstamp hw)
    rw [ha, hb] at hlt
    have hab := hcompare a b hlt
    simp [takesFrom, ha, hb, hab.1, hab.2]

theorem isNewerOrSame_lt (a b : ℤ) (h : a < b) :
    isNewerOrSame a b = true ∧ isNewerOrSame b a = false := by
  simp [isNewerOrSame, h, h.le]

theorem isNewer_lt (a b : ℤ) (h : a < b) : isNewer a b = true ∧ isNewer b a = false := by
  simp [isNewer, h, h.le]

/-- Only a postponement is not final. -/
theorem eq_postponed_of_not_final {outcome : DateOutcome} (h : isFinal (some outcome) = false) :
    outcome = .postponed := by
  cases outcome with
  | postponed => rfl
  | cancelled => cases h
  | interrupted => cases h

theorem outcome_eq_some {fact : EntitlementFact} {v : Option Instant × Option DateOutcome}
    (h : aboutDate dateId DateFact.outcome fact = some v) :
    ∃ declaredAt outcome, v = (some declaredAt, some outcome) := by
  cases fact with
  | date about =>
      rw [aboutDate_date] at h
      split_ifs at h
      cases about with
      | outcomeDeclared dateId channelId outcome statedAt =>
          exact ⟨statedAt, outcome, (Option.some.inj h).symm⟩
      | _ => cases h
  | seat about => cases h

/-- The outcome declared last beats those before it, none of them being final. -/
theorem exists_beats_outcome
    (houtcome : (stated.filterMap (aboutDate dateId DateFact.outcome)).Pairwise fun v w =>
      (∀ a ∈ v.1, ∀ b ∈ w.1, a ≤ b) ∧ isFinal v.2 = false)
    (hsome : ∃ fact, Arrives dateId stated fact ∧
      (aboutDate dateId DateFact.outcome fact).isSome) :
    ∃ best, Beats takesOutcome (none, none) (aboutDate dateId DateFact.outcome)
      (Arrives dateId stated) best := by
  obtain ⟨fact, hfact, hstates⟩ := hsome
  obtain ⟨v, hv⟩ := Option.isSome_iff_exists.mp hstates
  have hmem : v ∈ stated.filterMap (aboutDate dateId DateFact.outcome) := hfact.mem_filterMap hv
  have hne : stated.filterMap (aboutDate dateId DateFact.outcome) ≠ [] := List.ne_nil_of_mem hmem
  have hsplit := List.dropLast_append_getLast hne
  have hlast := List.getLast_mem hne
  generalize (stated.filterMap (aboutDate dateId DateFact.outcome)).getLast hne = best
    at hsplit hlast
  obtain ⟨chosen, hchosen, hbest⟩ := List.mem_filterMap.mp hlast
  obtain ⟨bestAt, outcome, rfl⟩ := outcome_eq_some hbest
  refine ⟨_, ⟨chosen, .inl hchosen, hbest⟩, rfl, ?_⟩
  intro other w hother hw hdiffers
  obtain ⟨otherAt, otherOutcome, rfl⟩ := outcome_eq_some hw
  have hwMem : (some otherAt, some otherOutcome) ∈
      stated.filterMap (aboutDate dateId DateFact.outcome) := hother.mem_filterMap hw
  rw [← hsplit] at hwMem houtcome
  have hbefore := (List.mem_append.mp hwMem).resolve_right fun h =>
    hdiffers (List.mem_singleton.mp h)
  obtain ⟨hle, hnotFinal⟩ := (List.pairwise_append.mp houtcome).2.2 _ hbefore _ List.mem_cons_self
  have hle' : otherAt ≤ bestAt := hle otherAt rfl bestAt rfl
  obtain rfl := eq_postponed_of_not_final hnotFinal
  constructor
  · simp [takesOutcome, takesFrom, isNewerOrSame, hle', isFinal]
  · cases houtcomeFinal : isFinal (some outcome) with
    | true => simp [takesOutcome, houtcomeFinal]
    | false =>
        obtain rfl := eq_postponed_of_not_final houtcomeFinal
        have hlt : otherAt < bestAt := by
          apply lt_of_le_of_ne hle'
          rintro rfl
          exact hdiffers rfl
        simp [takesOutcome, takesFrom, isNewerOrSame, hlt]

end Arthome.Streaming
