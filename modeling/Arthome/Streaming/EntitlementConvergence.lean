import Arthome.Streaming.EntitlementSeats

/-!
# Every order and duplication of the facts

Two runs that applied all that was stated about a date and its seats, and nothing else
about them, leave the same rows: each part of a row settles on the same fact in both.
The run that applies each fact once, in the order stated, is one of them.
-/

namespace Arthome.Streaming

open Arthome.Core Arthome.Library

variable {γ : Type} {dateId channelId : Uuid} {stated : List EntitlementFact}

def EntitlementDb.hasDate (dateId : Uuid) (s : EntitlementDb) : Bool :=
  (s.dates.find? dateId).isSome

/-- All that was stated, and nothing else about the date and its seats, applied to tables that
held no row of them. -/
structure Fed (dateId : Uuid) (stated : List EntitlementFact) (s : EntitlementDb)
    (facts : List EntitlementFact) (t : EntitlementDb) : Prop where
  feeds : Feeds EntitlementDb.Applies s facts t
  arrives : ∀ fact ∈ facts, Arrives dateId stated fact
  all : ∀ fact ∈ stated, fact ∈ facts
  noDate : s.dates.find? dateId = none
  noSeat : ∀ fact, .seat fact ∈ stated → s.seats.find? fact.seatId = none

namespace Fed

variable {s s' t t' : EntitlementDb} {facts facts' : List EntitlementFact}
  {columns : EntitlementDate → γ} {blank : γ} {states : DateFact → Option γ}
  {takes : γ → γ → Bool}

theorem group_blank (h : Fed dateId stated s facts t) : s.group columns blank dateId = blank := by
  unfold EntitlementDb.group
  rw [h.noDate]
  rfl

/-- A guarded group ends on the fact that beats the others. -/
theorem group_eq (h : Fed dateId stated s facts t) (h' : Fed dateId stated s' facts' t')
    (happlied : ∀ (fact : DateFact) (appliedAt : Instant) (kept : Option EntitlementDate),
      groupIn columns blank (fact.applied appliedAt kept).1 =
        feed takes (groupIn columns blank kept) (states fact))
    (hbeats : (∃ fact, Arrives dateId stated fact ∧ (aboutDate dateId states fact).isSome) →
      ∃ best, Beats takes blank (aboutDate dateId states) (Arrives dateId stated) best) :
    t.group columns blank dateId = t'.group columns blank dateId := by
  have hfeed : ∀ {v fact w}, True → Arrives dateId stated fact → EntitlementDb.Applies v fact w →
      w.group columns blank dateId =
        feed takes (v.group columns blank dateId) (aboutDate dateId states fact) :=
    fun _ _ hmove => hmove.group_feed happlied
  refine part_eq_of_feeds (fun _ => True) (aboutDate dateId states) (fun _ _ _ => trivial) ?_ ?_
    trivial trivial h.group_blank h'.group_blank h.feeds h'.feeds
    h.arrives h'.arrives ?_
  · intro hsome
    obtain ⟨best, hbest⟩ := hbeats hsome
    exact ⟨best, hbest.stated, hbest.settles hfeed⟩
  · intro v fact w _ hfact hmove hnone
    rw [hfeed trivial hfact hmove, hnone]
    rfl
  · intro fact hfact hstates
    have hmem := hfact.mem_of_date hstates
    exact ⟨h.all fact hmem, h'.all fact hmem⟩

/-- A part every fact states alike ends the same. -/
theorem once_eq (h : Fed dateId stated s facts t) (h' : Fed dateId stated s' facts' t')
    (happlied : ∀ (fact : DateFact) (appliedAt : Instant) (kept : Option EntitlementDate),
      (∀ row, kept = some row → row.ChannelKnown) →
        WritesOnce columns blank (states fact) kept (fact.applied appliedAt kept).1)
    (hvalue : (∃ fact, Arrives dateId stated fact ∧ (aboutDate dateId states fact).isSome) →
      ∃ value, (∃ fact, Arrives dateId stated fact ∧ aboutDate dateId states fact = some value) ∧
        ∀ fact, Arrives dateId stated fact → ∀ other, aboutDate dateId states fact = some other →
          other = value) :
    t.group columns blank dateId = t'.group columns blank dateId := by
  have hknown : ∀ {v : EntitlementDb}, v.dates.find? dateId = none → v.ChannelKnown dateId := by
    intro v hv row hrow
    rw [hv] at hrow
    cases hrow
  refine part_eq_of_feeds (EntitlementDb.ChannelKnown dateId) (aboutDate dateId states)
    (fun hv _ hmove => hmove.channelKnown hv) ?_ ?_
    (hknown h.noDate) (hknown h'.noDate) h.group_blank h'.group_blank h.feeds h'.feeds
    h.arrives h'.arrives ?_
  · intro hsome
    obtain ⟨value, hstated, hsame⟩ := hvalue hsome
    refine ⟨value, hstated, Settles.of_constant ?_ ?_ ?_⟩
    · exact fun {fact stated} hfact hstates => hsame fact hfact stated hstates
    · exact fun hs _ hmove => (hmove.group_writesOnce hs happlied).1
    · exact fun hs _ hmove hstates hblank =>
        (hmove.group_writesOnce hs happlied).2 value hstates hblank
  · intro v fact w hv hfact hmove hnone
    have hwrites := hmove.group_writesOnce hv happlied
    rw [hnone] at hwrites
    rcases hwrites.1 with hsame | hwritten
    · exact hsame
    · cases hwritten
  · intro fact hfact hstates
    have hmem := hfact.mem_of_date hstates
    exact ⟨h.all fact hmem, h'.all fact hmem⟩

/-- The date has its row once anything is stated about it. -/
theorem hasDate_eq (h : Fed dateId stated s facts t) (h' : Fed dateId stated s' facts' t') :
    t.hasDate dateId = t'.hasDate dateId := by
  have hwritten : ∀ {v fact w}, EntitlementDb.Applies v fact w →
      w.hasDate dateId =
        (v.hasDate dateId || (aboutDate dateId (fun _ => some true) fact).isSome) := by
    intro v fact w hmove
    unfold EntitlementDb.hasDate
    cases fact with
    | date about =>
        obtain ⟨-, appliedAt, hdates⟩ := hmove.date
        rw [hdates, aboutDate_date]
        by_cases hdate : about.dateId = dateId
        · rw [if_pos hdate.symm, if_pos hdate, about.applied_isSome appliedAt, Option.isSome_some,
            Bool.or_true]
        · rw [if_neg (Ne.symm hdate), if_neg hdate, Option.isSome_none, Bool.or_false]
    | seat about =>
        rw [hmove.seat.1, aboutDate, Option.isSome_none, Bool.or_false]
  have htrue : ∀ {fact stated}, aboutDate dateId (fun _ => some true) fact = some stated →
      stated = true := by
    intro fact stated hstates
    cases fact with
    | date about =>
        rw [aboutDate_date] at hstates
        split_ifs at hstates
        exact (Option.some.inj hstates).symm
    | seat about => cases hstates
  have hnone : ∀ {v : EntitlementDb}, v.dates.find? dateId = none → v.hasDate dateId = false := by
    intro v hv
    rw [EntitlementDb.hasDate, hv]
    rfl
  refine part_eq_of_feeds (fun _ => True) (aboutDate dateId fun _ => some true)
    (fun _ _ _ => trivial) ?_ ?_ trivial trivial (hnone h.noDate) (hnone h'.noDate)
    h.feeds h'.feeds h.arrives h'.arrives ?_
  · rintro ⟨fact, hfact, hstates⟩
    obtain ⟨value, hvalue⟩ := Option.isSome_iff_exists.mp hstates
    obtain rfl := htrue hvalue
    refine ⟨true, ⟨fact, hfact, hvalue⟩, Settles.of_constant ?_ ?_ ?_⟩
    · exact fun _ hstates => htrue hstates
    · intro v fact w _ _ hmove
      rw [hwritten hmove]
      cases hstates : aboutDate dateId (fun _ => some true) fact with
      | none =>
          left
          simp
      | some stated =>
          right
          rw [htrue hstates]
          simp
    · intro v fact w _ _ hmove hstates _
      rw [hwritten hmove, hstates]
      simp
  · intro v fact w _ _ hmove hnone
    rw [hwritten hmove, hnone]
    simp
  · intro fact hfact hstates
    have hmem := hfact.mem_of_date hstates
    exact ⟨h.all fact hmem, h'.all fact hmem⟩

/-- A seat's row ends on one fact of the seat's story. -/
theorem seatRow_eq (hstated : Stated dateId channelId stated) (h : Fed dateId stated s facts t)
    (h' : Fed dateId stated s' facts' t') {fact : SeatMessageFact} (hfact : .seat fact ∈ stated) :
    t.seatRow fact.seatId = t'.seatRow fact.seatId := by
  have hmem : fact ∈ stated.filterMap (aboutSeat fact.seatId) :=
    List.mem_filterMap.mpr ⟨_, hfact, if_pos rfl⟩
  obtain ⟨accountId, seatDateId, activatedAt, best, ⟨chosen, hchosen, hbest⟩, hsettles⟩ :=
    exists_seat_settles dateId (hstated.seats fact.seatId) (List.ne_nil_of_mem hmem)
  have hchosenMem : chosen ∈ stated := by
    apply hchosen.resolve_right
    rw [not_not]
    obtain ⟨about, habout, -⟩ := Option.map_eq_some_iff.mp hbest
    obtain ⟨rfl, hseat⟩ := eq_seat_of_aboutSeat habout
    exact ⟨fact, hfact, hseat.symm⟩
  have hblank : ∀ {v : EntitlementDb}, v.seats.find? fact.seatId = none →
      v.seatRow fact.seatId = none := by
    intro v hv
    rw [EntitlementDb.seatRow, hv]
    rfl
  rw [hsettles.settled (fun _ _ _ => trivial) h.feeds h.arrives trivial
      (.inl (hblank (h.noSeat fact hfact))) ⟨chosen, h.all chosen hchosenMem, hbest⟩,
    hsettles.settled (fun _ _ _ => trivial) h'.feeds h'.arrives trivial
      (.inl (hblank (h'.noSeat fact hfact))) ⟨chosen, h'.all chosen hchosenMem, hbest⟩]

end Fed

/-! ## The rows of two complete feedings -/

/-- The row apart from the instant streaming wrote it at. -/
def EntitlementDate.unstamped (row : EntitlementDate) : EntitlementDate :=
  { row with appliedAt := 0 }

theorem EntitlementDate.unstamped_eq {row row' : EntitlementDate} (hdate : row.dateId = row'.dateId)
    (hchannel : row.channelId = row'.channelId) (hruntime : row.runtimeMin = row'.runtimeMin)
    (htiming : row.timing = row'.timing) (hreplay : row.replay = row'.replay)
    (hrights : row.rights = row'.rights) (hpublication : row.publication = row'.publication)
    (houtcome : row.outcomeDeclared = row'.outcomeDeclared) : row.unstamped = row'.unstamped := by
  obtain ⟨htimingAt, hstartsAt⟩ := Prod.mk.inj htiming
  obtain ⟨hreplayAt, hreplay⟩ := Prod.mk.inj hreplay
  obtain ⟨hpolicy, hhours⟩ := Prod.mk.inj hreplay
  obtain ⟨hrightsAt, hrights⟩ := Prod.mk.inj hrights
  obtain ⟨hscope, hrights⟩ := Prod.mk.inj hrights
  obtain ⟨hcountries, hreason⟩ := Prod.mk.inj hrights
  obtain ⟨hversion, hstate⟩ := Prod.mk.inj hpublication
  obtain ⟨hdeclaredAt, houtcome⟩ := Prod.mk.inj houtcome
  unfold unstamped
  congr

/-- One schedule states one runtime. -/
theorem runtimeMin_eq_of_stated (hstated : Stated dateId channelId stated)
    (hsome : ∃ fact, Arrives dateId stated fact ∧
      (aboutDate dateId DateFact.runtimeMin fact).isSome) :
    ∃ value, (∃ fact, Arrives dateId stated fact ∧
        aboutDate dateId DateFact.runtimeMin fact = some value) ∧
      ∀ fact, Arrives dateId stated fact →
        ∀ other, aboutDate dateId DateFact.runtimeMin fact = some other → other = value := by
  obtain ⟨fact, hfact, hstates⟩ := hsome
  obtain ⟨value, hvalue⟩ := Option.isSome_iff_exists.mp hstates
  refine ⟨value, ⟨fact, hfact, hvalue⟩, ?_⟩
  intro fact' hfact' other hother
  have hstates' : (aboutDate dateId DateFact.runtimeMin fact').isSome := by
    rw [hother]
    rfl
  obtain rfl := hstated.oneSchedule fact (hfact.mem_of_date hstates) fact'
    (hfact'.mem_of_date hstates') hstates hstates'
  rw [hvalue] at hother
  exact (Option.some.inj hother).symm

namespace Fed

variable {s s' t t' : EntitlementDb} {facts facts' : List EntitlementFact}

/-- Every column of the date's row but its stamp is decided by what was stated. -/
theorem date_eq (hstated : Stated dateId channelId stated) (h : Fed dateId stated s facts t)
    (h' : Fed dateId stated s' facts' t') :
    (t.dates.find? dateId).map EntitlementDate.unstamped =
      (t'.dates.find? dateId).map EntitlementDate.unstamped := by
  have htiming := h.group_eq h' DateFact.timing_applied
    (exists_beats_of_distinct isNewerOrSame_lt DateFact.timing_stamp hstated.timing)
  have hreplay := h.group_eq h' DateFact.replay_applied
    (exists_beats_of_distinct isNewerOrSame_lt DateFact.replay_stamp hstated.replay)
  have hrights := h.group_eq h' DateFact.rights_applied
    (exists_beats_of_distinct isNewerOrSame_lt DateFact.rights_stamp hstated.rights)
  have hpublication := h.group_eq h' DateFact.publication_applied
    (exists_beats_of_distinct isNewer_lt DateFact.publication_stamp hstated.publication)
  have houtcome := h.group_eq h' DateFact.outcome_applied (exists_beats_outcome hstated.outcome)
  have hruntime := h.once_eq h'
    (fun fact appliedAt kept _ => fact.runtimeMin_applied appliedAt kept)
    (runtimeMin_eq_of_stated hstated)
  have hchannel := h.once_eq h' (fun fact appliedAt kept => fact.channelId_applied appliedAt) (by
    rintro ⟨fact, hfact, hstates⟩
    obtain ⟨value, hvalue⟩ := Option.isSome_iff_exists.mp hstates
    refine ⟨value, ⟨fact, hfact, hvalue⟩, fun fact' hfact' other hother => ?_⟩
    rw [hstated.channel value (hfact.mem_filterMap hvalue)]
    exact hstated.channel other (hfact'.mem_filterMap hother))
  have hdate := h.hasDate_eq h'
  unfold EntitlementDb.hasDate at hdate
  unfold EntitlementDb.group at htiming hreplay hrights hpublication houtcome hruntime hchannel
  cases hrow : t.dates.find? dateId with
  | none =>
      rw [hrow] at hdate
      cases hrow' : t'.dates.find? dateId with
      | none => rfl
      | some row =>
          rw [hrow'] at hdate
          cases hdate
  | some row =>
      rw [hrow] at hdate
      obtain ⟨row', hrow'⟩ := Option.isSome_iff_exists.mp hdate.symm
      rw [hrow, hrow'] at htiming hreplay hrights hpublication houtcome hruntime hchannel
      rw [hrow', Option.map_some, Option.map_some]
      refine congrArg some (EntitlementDate.unstamped_eq ?_ hchannel hruntime htiming hreplay
        hrights hpublication houtcome)
      exact (Table.key_of_find? hrow).trans (Table.key_of_find? hrow').symm

end Fed

/-! ## What a run applies -/

/-- A cancellation that states the seat alone. -/
def EntitlementFact.endsKeptRow : EntitlementFact → Bool
  | .seat (.cancelledKeptRow _ _) => true
  | _ => false

namespace EntitlementDb

variable {s t : EntitlementDb} {delivery : Delivery} {deliveries : List Delivery}

/-- Nothing is refused but a cancellation that states the seat alone while no row is kept. -/
theorem refused_cases {refusal : EntitlementRefusal} (h : s.record delivery = .error refusal) :
    ∃ seatId statedAt, delivery.fact = .seat (.cancelledKeptRow seatId statedAt) ∧
      s.seats.find? seatId = none := by
  obtain ⟨messageId, fact, appliedAt⟩ := delivery
  cases fact with
  | date fact => cases h
  | seat fact =>
      simp only [record, recordSeatFact] at h
      cases hclaim : Messaging.claimMessage s.processed messageId with
      | none =>
          rw [hclaim] at h
          cases h
      | some processed =>
          rw [hclaim] at h
          cases hwritten : fact.written appliedAt (s.seats.find? fact.seatId) with
          | ok row => cases row <;> simp [hwritten] at h
          | error refusal =>
              cases fact with
              | activated => cases hwritten
              | cancelled => cases hwritten
              | cancelledKeptRow seatId statedAt =>
                  refine ⟨seatId, statedAt, rfl, ?_⟩
                  cases hrow : s.seats.find? seatId with
                  | none => rfl
                  | some row =>
                      simp [SeatMessageFact.written, SeatMessageFact.seatId, hrow] at hwritten

/-- A message that is not refused is claimed. -/
theorem mem_processed_deliver (h : ∀ refusal, s.record delivery ≠ .error refusal) :
    delivery.messageId ∈ (s.deliver delivery).processed := by
  rcases s.deliver_cases delivery with ⟨hsame, hclaimed | ⟨refusal, hrefused⟩⟩ | ⟨-, -, hprocessed⟩
  · rwa [hsame]
  · exact absurd hrefused (h refusal)
  · rw [hprocessed]
    exact List.mem_cons_self

theorem run_append (s : EntitlementDb) (first later : List Delivery) :
    s.run (first ++ later) = (s.run first).run later := List.foldl_append

/-- A message delivered and not refused when it was is claimed at the end. -/
theorem mem_processed_run {first later : List Delivery}
    (h : ∀ refusal, (s.run first).record delivery ≠ .error refusal) :
    delivery.messageId ∈ (s.run (first ++ delivery :: later)).processed := by
  have hrun : s.run (first ++ delivery :: later) =
      ((s.run first).deliver delivery).run later := s.run_append first (delivery :: later)
  rw [hrun]
  exact processed_subset_run (mem_processed_deliver h)

/-- A seat's row stays once it is there, and an activation leaves one. -/
theorem Applies.seat_isSome {fact : EntitlementFact} {seatId : Uuid} (h : s.Applies fact t)
    (hrow : (s.seatRow seatId).isSome ∨ ∃ accountId dateId activatedAt,
      fact = .seat (.activated seatId accountId dateId activatedAt)) :
    (t.seatRow seatId).isSome := by
  rcases h.seat_cases seatId with ⟨hnone, hsame⟩ | ⟨about, habout, hafter⟩
  · rcases hrow with hkept | ⟨accountId, dateId, activatedAt, rfl⟩
    · rwa [hsame]
    · rw [aboutSeat, SeatMessageFact.seatId, if_pos rfl] at hnone
      cases hnone
  · rcases hafter with ⟨row, -, hwritten⟩ | ⟨hsuperseded, hsame⟩
    · rw [hwritten]
      rfl
    · rw [hsame]
      rcases hrow with hkept | ⟨accountId, dateId, activatedAt, rfl⟩
      · exact hkept
      · obtain ⟨hfact, -⟩ := eq_seat_of_aboutSeat habout
        obtain rfl := EntitlementFact.seat.inj hfact
        cases hkept : s.seatRow seatId with
        | none =>
            rw [hkept] at hsuperseded
            cases hsuperseded
        | some kept => rfl

/-- Once an activation is fed the seat has its row. -/
theorem seat_isSome_of_feeds {facts : List EntitlementFact} {seatId accountId dateId : Uuid}
    {activatedAt : Instant} (h : Feeds Applies s facts t)
    (hmem : .seat (.activated seatId accountId dateId activatedAt) ∈ facts) :
    (t.seatRow seatId).isSome := by
  have hkept : ∀ {v w : EntitlementDb} {facts}, Feeds Applies v facts w →
      (v.seatRow seatId).isSome → (w.seatRow seatId).isSome := by
    intro v w facts hfeeds hv
    refine hfeeds.invariant (fun v => (v.seatRow seatId).isSome) hv (fun _ _ => trivial) ?_
    exact fun hv _ hmove => hmove.seat_isSome (.inl hv)
  induction h with
  | nil s => cases hmem
  | cons hfirst hrest ih =>
      rcases List.mem_cons.mp hmem with rfl | hlater
      · apply hkept hrest
        exact hfirst.seat_isSome (.inr ⟨_, _, _, rfl⟩)
      · exact ih hlater

/-- Nothing is known of the date and the seats, and no message on them is claimed. -/
structure Untouched (s : EntitlementDb) (dateId : Uuid) (stated : List EntitlementFact)
    (deliveries : List Delivery) : Prop where
  date : s.dates.find? dateId = none
  seats : ∀ fact, .seat fact ∈ stated → s.seats.find? fact.seatId = none
  fresh : ∀ delivery ∈ deliveries, delivery.messageId ∉ s.processed

/-- A run that claims a message for every fact stated applies them all. -/
theorem exists_fed (hunknown : s.Untouched dateId stated deliveries)
    (hids : ∀ delivery ∈ deliveries, ∀ other ∈ deliveries,
      delivery.messageId = other.messageId → delivery.fact = other.fact)
    (harrives : ∀ delivery ∈ deliveries, Arrives dateId stated delivery.fact)
    (hclaimed : ∀ fact ∈ stated, ∃ delivery ∈ deliveries, delivery.fact = fact ∧
      delivery.messageId ∈ (s.run deliveries).processed) :
    ∃ facts, Fed dateId stated s facts (s.run deliveries) := by
  obtain ⟨facts, hfeeds, hfrom, hprocessed⟩ := exists_feeds s deliveries
  refine ⟨facts, hfeeds, ?_, ?_, hunknown.date, hunknown.seats⟩
  · intro fact hfact
    obtain ⟨delivery, hdelivery, rfl⟩ := hfrom fact hfact
    exact harrives delivery hdelivery
  · intro fact hfact
    obtain ⟨delivery, hdelivery, rfl, hmem⟩ := hclaimed fact hfact
    rcases hprocessed _ hmem with hbefore | ⟨other, hother, hid, hfed⟩
    · exact absurd hbefore (hunknown.fresh delivery hdelivery)
    · rw [hids delivery hdelivery other hother hid.symm]
      exact hfed

/-- A seat's story names its activation before the cancellation that states the seat alone. -/
theorem activated_before {seatId : Uuid} {statedAt : Option Instant}
    {before after : List SeatMessageFact}
    (hstory : SeatStory seatId (before ++ .cancelledKeptRow seatId statedAt :: after)) :
    ∃ accountId dateId activatedAt,
      .activated seatId accountId dateId activatedAt ∈ before := by
  generalize hlist : before ++ .cancelledKeptRow seatId statedAt :: after = story at hstory
  have hmem : .cancelledKeptRow seatId statedAt ∈ story := by
    rw [← hlist]
    exact List.mem_append_right _ List.mem_cons_self
  cases before with
  | cons first before =>
      cases hstory with
      | untouched => cases hmem
      | activated accountId dateId activatedAt =>
          obtain ⟨rfl, -⟩ := List.cons.inj hlist
          exact ⟨accountId, dateId, activatedAt, List.mem_cons_self⟩
      | cancelled accountId dateId activatedAt cancelledAt =>
          obtain ⟨rfl, -⟩ := List.cons.inj hlist
          exact ⟨accountId, dateId, activatedAt, List.mem_cons_self⟩
      | cancelledKeptRow accountId dateId activatedAt cancelledAt =>
          obtain ⟨rfl, -⟩ := List.cons.inj hlist
          exact ⟨accountId, dateId, activatedAt, List.mem_cons_self⟩
  | nil => cases hstory <;> cases hlist

/-- Delivered once in the order stated, every fact is applied. -/
theorem claimed_once (hstated : Stated dateId channelId stated)
    (honce : deliveries.map Delivery.fact = stated)
    (hids : (deliveries.map Delivery.messageId).Nodup)
    (hunknown : s.Untouched dateId stated deliveries) {delivery : Delivery}
    (hdelivery : delivery ∈ deliveries) :
    delivery.messageId ∈ (s.run deliveries).processed := by
  obtain ⟨first, later, hsplit⟩ := List.append_of_mem hdelivery
  rw [hsplit]
  apply mem_processed_run
  intro refusal hrefused
  obtain ⟨seatId, statedAt, hfact, hnone⟩ := refused_cases hrefused
  have hbare : aboutSeat seatId (.seat (.cancelledKeptRow seatId statedAt)) =
      some (.cancelledKeptRow seatId statedAt) := if_pos rfl
  have hstory := hstated.seats seatId
  rw [← honce, hsplit, List.map_append, List.map_cons, hfact, List.filterMap_append,
    List.filterMap_cons_some hbare] at hstory
  obtain ⟨accountId, seatDateId, activatedAt, hactivated⟩ := activated_before hstory
  obtain ⟨fact, hmem, habout⟩ := List.mem_filterMap.mp hactivated
  obtain ⟨rfl, -⟩ := eq_seat_of_aboutSeat habout
  obtain ⟨activation, hactivation, hactivationFact⟩ := List.mem_map.mp hmem
  obtain ⟨facts, hfeeds, -, hprocessed⟩ := exists_feeds s first
  -- the activation was claimed: it is never refused
  have hclaimed : activation.messageId ∈ (s.run first).processed := by
    obtain ⟨before, after, rfl⟩ := List.append_of_mem hactivation
    apply mem_processed_run
    intro refusal hrefused
    obtain ⟨_, _, hbare, -⟩ := refused_cases hrefused
    rw [hactivationFact] at hbare
    cases hbare
  have hfirst : ∀ other ∈ first, other ∈ deliveries := by
    intro other hother
    rw [hsplit]
    exact List.mem_append_left _ hother
  rcases hprocessed _ hclaimed with hbefore | ⟨other, hother, hid, hfed⟩
  · exact hunknown.fresh activation (hfirst activation hactivation) hbefore
  · have hsame : other = activation :=
      List.inj_on_of_nodup_map hids (hfirst other hother) (hfirst activation hactivation) hid
    rw [hsame, hactivationFact] at hfed
    have hrow := seat_isSome_of_feeds hfeeds hfed
    rw [seatRow, hnone] at hrow
    cases hrow

/-! ## The stamps -/

/-- The rows of the date and of the seats were written at `now`. -/
def StampedAt (now : Instant) (dateId : Uuid) (seats : Uuid → Prop) (s : EntitlementDb) : Prop :=
  (∀ row, s.dates.find? dateId = some row → row.appliedAt = now) ∧
    ∀ seatId, seats seatId → ∀ row, s.seats.find? seatId = some row → row.appliedAt = now

theorem written_appliedAt {fact : SeatMessageFact} {appliedAt : Instant}
    {kept : Option EntitlementSeat} {row : EntitlementSeat}
    (h : fact.written appliedAt kept = .ok (some row)) : row.appliedAt = appliedAt := by
  cases fact with
  | activated =>
      cases kept with
      | none =>
          cases h
          rfl
      | some kept => cases h
  | cancelled =>
      cases kept with
      | none =>
          cases h
          rfl
      | some kept =>
          simp only [SeatMessageFact.written, cancelSeat] at h
          split_ifs at h
          · cases h
            rfl
          · cases h
  | cancelledKeptRow =>
      cases kept with
      | none => cases h
      | some kept =>
          simp only [SeatMessageFact.written, cancelKeptSeat] at h
          split_ifs at h
          · cases h
            rfl
          · cases h

end EntitlementDb

/-- Every row a fact writes carries the reading of the clock. -/
theorem DateFact.applied_appliedAt (fact : DateFact) (appliedAt : Instant)
    {kept : Option EntitlementDate} (hkept : ∀ row, kept = some row → row.appliedAt = appliedAt)
    {row : EntitlementDate} (hrow : (fact.applied appliedAt kept).1 = some row) :
    row.appliedAt = appliedAt := by
  refine applied_invariant (P := fun row => row.appliedAt = appliedAt) fact appliedAt rfl
    ?_ ?_ ?_ ?_ ?_ ?_ ?_ hkept hrow
  · exact fun _ _ => rfl
  · exact fun _ _ _ h => h
  · exact fun _ _ _ _ _ h => h
  · exact fun _ _ _ _ h => h
  · exact fun _ _ _ _ _ h => h
  · exact fun _ _ _ _ h => h
  · exact fun _ _ _ _ h => h

namespace EntitlementDb

variable {s : EntitlementDb} {now : Instant} {seats : Uuid → Prop}

theorem stampedAt_deliver {delivery : Delivery} (hnow : delivery.appliedAt = now)
    (h : StampedAt now dateId seats s) : StampedAt now dateId seats (s.deliver delivery) := by
  obtain ⟨messageId, fact, appliedAt⟩ := delivery
  obtain rfl : appliedAt = now := hnow
  cases hclaim : Messaging.claimMessage s.processed messageId with
  | none =>
      have hsame : s.deliver ⟨messageId, fact, appliedAt⟩ = s := by
        cases fact with
        | date fact => simp [deliver, record, recordDateFact, hclaim]
        | seat fact => simp [deliver, record, recordSeatFact, hclaim]
      rwa [hsame]
  | some processed =>
      cases fact with
      | date fact =>
          refine ⟨fun row hrow => ?_, fun seatId hseat row hrow => h.2 seatId hseat row ?_⟩
          · simp only [deliver, record, recordDateFact, hclaim] at hrow
            rw [find?_dates_applied] at hrow
            split_ifs at hrow with hdate
            · subst hdate
              exact fact.applied_appliedAt appliedAt h.1 hrow
            · exact h.1 row hrow
          · simpa [deliver, record, recordDateFact, hclaim] using hrow
      | seat fact =>
          cases hwritten : fact.written appliedAt (s.seats.find? fact.seatId) with
          | error refusal =>
              have hsame : s.deliver ⟨messageId, .seat fact, appliedAt⟩ = s := by
                simp [deliver, record, recordSeatFact, hclaim, hwritten]
              rwa [hsame]
          | ok written =>
              cases written with
              | none =>
                  have hsame : s.deliver ⟨messageId, .seat fact, appliedAt⟩ =
                      { s with processed } := by
                    simp [deliver, record, recordSeatFact, hclaim, hwritten]
                  rw [hsame]
                  exact h
              | some written =>
                  have hafter : s.deliver ⟨messageId, .seat fact, appliedAt⟩ =
                      { s with processed, seats := s.seats.upsert written } := by
                    simp [deliver, record, recordSeatFact, hclaim, hwritten]
                  rw [hafter]
                  refine ⟨h.1, fun seatId hmem row hrow => ?_⟩
                  by_cases hseat : written.seatId = seatId
                  · subst hseat
                    rw [Table.find?_upsert_self] at hrow
                    exact Option.some.inj hrow ▸ written_appliedAt hwritten
                  · rw [Table.find?_upsert_of_ne _ hseat] at hrow
                    exact h.2 seatId hmem row hrow

theorem stampedAt_run {deliveries : List Delivery}
    (hnow : ∀ delivery ∈ deliveries, delivery.appliedAt = now)
    (h : StampedAt now dateId seats s) : StampedAt now dateId seats (s.run deliveries) := by
  induction deliveries generalizing s with
  | nil => exact h
  | cons delivery deliveries ih =>
      rw [List.forall_mem_cons] at hnow
      exact ih hnow.2 (stampedAt_deliver hnow.1 h)

end EntitlementDb

/-- Rows alike apart from their stamps are alike when both are stamped at one instant. -/
theorem eq_of_unstamped {α : Type} {unstamped : α → α} {stamp : α → Instant} {now : Instant}
    (hinj : ∀ a b, unstamped a = unstamped b → stamp a = stamp b → a = b) {a b : Option α}
    (heq : a.map unstamped = b.map unstamped) (ha : ∀ x, a = some x → stamp x = now)
    (hb : ∀ x, b = some x → stamp x = now) : a = b := by
  cases a with
  | none =>
      cases b with
      | none => rfl
      | some y => cases heq
  | some x =>
      cases b with
      | none => cases heq
      | some y =>
          refine congrArg some (hinj x y (Option.some.inj heq) ?_)
          rw [ha x rfl, hb y rfl]

theorem EntitlementDate.eq_of_unstamped (row row' : EntitlementDate)
    (h : row.unstamped = row'.unstamped) (hstamp : row.appliedAt = row'.appliedAt) :
    row = row' := by
  have hrow : row = { row.unstamped with appliedAt := row.appliedAt } := rfl
  rw [hrow, h, hstamp]
  rfl

theorem EntitlementSeat.eq_of_unstamped (row row' : EntitlementSeat)
    (h : row.unstamped = row'.unstamped) (hstamp : row.appliedAt = row'.appliedAt) :
    row = row' := by
  have hrow : row = { row.unstamped with appliedAt := row.appliedAt } := rfl
  rw [hrow, h, hstamp]
  rfl

/-- The entitlement projection converges. Whatever the order and the duplication the facts stated
about a date and its seats are delivered in, among any facts about other dates and seats, once all
are applied the rows are those of delivering each once in the order stated, the instants streaming
wrote them at apart; and those too, where the clock reads alike. Only a cancellation that states
its seat alone can be refused, so of it alone must it be said that it was not. -/
theorem entitlement_converges (hstated : Stated dateId channelId stated) {s : EntitlementDb}
    {once deliveries : List Delivery} (hunknown : s.Untouched dateId stated (once ++ deliveries))
    (honce : once.map Delivery.fact = stated) (honceIds : (once.map Delivery.messageId).Nodup)
    (hids : ∀ delivery ∈ deliveries, ∀ other ∈ deliveries,
      delivery.messageId = other.messageId → delivery.fact = other.fact)
    (harrives : ∀ delivery ∈ deliveries, Arrives dateId stated delivery.fact)
    (happlied : ∀ fact ∈ stated, ∃ delivery ∈ deliveries, delivery.fact = fact ∧
      (fact.endsKeptRow = true → delivery.messageId ∈ (s.run deliveries).processed)) :
    (((s.run deliveries).dates.find? dateId).map EntitlementDate.unstamped =
        ((s.run once).dates.find? dateId).map EntitlementDate.unstamped ∧
      ∀ fact, .seat fact ∈ stated →
        ((s.run deliveries).seats.find? fact.seatId).map EntitlementSeat.unstamped =
          ((s.run once).seats.find? fact.seatId).map EntitlementSeat.unstamped) ∧
    ∀ now, (∀ delivery ∈ once ++ deliveries, delivery.appliedAt = now) →
      (s.run deliveries).dates.find? dateId = (s.run once).dates.find? dateId ∧
        ∀ fact, .seat fact ∈ stated →
          (s.run deliveries).seats.find? fact.seatId = (s.run once).seats.find? fact.seatId := by
  have honceUntouched : s.Untouched dateId stated once :=
    ⟨hunknown.date, hunknown.seats,
      fun delivery h => hunknown.fresh delivery (List.mem_append_left _ h)⟩
  have hdeliveriesUntouched : s.Untouched dateId stated deliveries :=
    ⟨hunknown.date, hunknown.seats,
      fun delivery h => hunknown.fresh delivery (List.mem_append_right _ h)⟩
  obtain ⟨facts, hfed⟩ := EntitlementDb.exists_fed hdeliveriesUntouched hids harrives (by
    intro fact hfact
    obtain ⟨delivery, hdelivery, rfl, hbare⟩ := happlied fact hfact
    refine ⟨delivery, hdelivery, rfl, ?_⟩
    by_cases hends : delivery.fact.endsKeptRow = true
    · exact hbare hends
    · obtain ⟨first, later, rfl⟩ := List.append_of_mem hdelivery
      apply EntitlementDb.mem_processed_run
      intro refusal hrefused
      obtain ⟨seatId, statedAt, hkeptRow, -⟩ := EntitlementDb.refused_cases hrefused
      rw [hkeptRow] at hends
      exact hends rfl)
  obtain ⟨onceFacts, honceFed⟩ := EntitlementDb.exists_fed honceUntouched (by
      intro delivery hdelivery other hother hid
      rw [List.inj_on_of_nodup_map honceIds hdelivery hother hid])
    (fun delivery hdelivery => .inl (honce ▸ List.mem_map_of_mem hdelivery)) (by
      intro fact hfact
      rw [← honce] at hfact
      obtain ⟨delivery, hdelivery, rfl⟩ := List.mem_map.mp hfact
      exact ⟨delivery, hdelivery, rfl,
        EntitlementDb.claimed_once hstated honce honceIds honceUntouched hdelivery⟩)
  have hdate := hfed.date_eq hstated honceFed
  have hseats : ∀ fact, .seat fact ∈ stated →
      ((s.run deliveries).seats.find? fact.seatId).map EntitlementSeat.unstamped =
        ((s.run once).seats.find? fact.seatId).map EntitlementSeat.unstamped :=
    fun fact hfact => hfed.seatRow_eq hstated honceFed hfact
  refine ⟨⟨hdate, hseats⟩, fun now hnow => ?_⟩
  have hstamped : ∀ {run : List Delivery}, (∀ delivery ∈ run, delivery.appliedAt = now) →
      EntitlementDb.StampedAt now dateId
        (fun seatId => ∃ fact, .seat fact ∈ stated ∧ fact.seatId = seatId) (s.run run) := by
    intro run hrun
    refine EntitlementDb.stampedAt_run hrun ⟨?_, ?_⟩
    · intro row hrow
      rw [hunknown.date] at hrow
      cases hrow
    · rintro seatId ⟨fact, hfact, rfl⟩ row hrow
      rw [hunknown.seats fact hfact] at hrow
      cases hrow
  have honceAt := hstamped fun delivery h => hnow delivery (List.mem_append_left _ h)
  have hdeliveriesAt := hstamped fun delivery h => hnow delivery (List.mem_append_right _ h)
  constructor
  · exact eq_of_unstamped EntitlementDate.eq_of_unstamped hdate hdeliveriesAt.1 honceAt.1
  · intro fact hfact
    exact eq_of_unstamped EntitlementSeat.eq_of_unstamped (hseats fact hfact)
      (hdeliveriesAt.2 _ ⟨fact, hfact, rfl⟩) (honceAt.2 _ ⟨fact, hfact, rfl⟩)

/-! ## A date, two seats -/

namespace Sample

def scheduled : EntitlementFact :=
  .date (.scheduled 1 2 1000 90 ⟨.included, 48⟩ ⟨some .worldwide, [], none⟩ 10)

def rescheduled : EntitlementFact := .date (.rescheduled 1 2000 20)

def wentLive : EntitlementFact := .date (.publicationStateChanged 1 2 (some .live) 3 30)

def dateCancelled : EntitlementFact := .date (.outcomeDeclared 1 2 .cancelled 50)

def activated : EntitlementFact := .seat (.activated 7 8 1 15)

def cancelled : EntitlementFact := .seat (.cancelled 7 8 1 40)

def otherActivated : EntitlementFact := .seat (.activated 9 8 1 16)

def otherCancelled : EntitlementFact := .seat (.cancelledKeptRow 9 none)

def facts : List EntitlementFact :=
  [scheduled, activated, otherActivated, rescheduled, wentLive, cancelled, otherCancelled,
    dateCancelled]

/-- Each fact once, in the order stated. -/
def once : List Delivery :=
  [⟨101, scheduled, 60⟩, ⟨102, activated, 60⟩, ⟨103, otherActivated, 60⟩, ⟨104, rescheduled, 60⟩,
    ⟨105, wentLive, 60⟩, ⟨106, cancelled, 60⟩, ⟨107, otherCancelled, 60⟩, ⟨108, dateCancelled, 60⟩]

/-- The reschedule before the schedule, a cancellation before its activation, a duplicate and a
copy under an id of its own. -/
def deliveries : List Delivery :=
  [⟨108, dateCancelled, 60⟩, ⟨106, cancelled, 60⟩, ⟨104, rescheduled, 60⟩, ⟨105, wentLive, 60⟩,
    ⟨102, activated, 60⟩, ⟨101, scheduled, 60⟩, ⟨104, rescheduled, 60⟩, ⟨109, scheduled, 60⟩,
    ⟨103, otherActivated, 60⟩, ⟨107, otherCancelled, 60⟩]

theorem facts_stated : Stated 1 2 facts where
  channel := by decide
  oneSchedule := by decide
  timing := by unfold DistinctStamps; decide
  replay := by unfold DistinctStamps; decide
  rights := by unfold DistinctStamps; decide
  publication := by unfold DistinctStamps; decide
  outcome := List.pairwise_singleton _ _
  seats := by
    intro seatId
    by_cases hfirst : 7 = seatId
    · subst hfirst
      exact .cancelled 8 1 15 40
    · by_cases hsecond : 9 = seatId
      · subst hsecond
        exact .cancelledKeptRow 8 1 16 none
      · have hnone : facts.filterMap (aboutSeat seatId) = [] := by
          simp [facts, scheduled, activated, otherActivated, rescheduled, wentLive, cancelled,
            otherCancelled, dateCancelled, List.filterMap_cons, aboutSeat, SeatMessageFact.seatId,
            hfirst, hsecond]
        rw [hnone]
        exact .untouched

end Sample

/-- A date and two seats, delivered out of order and twice, end as stated. -/
theorem entitlement_converges_sample :
    (EntitlementDb.empty.run Sample.deliveries).dates.find? 1 =
      (EntitlementDb.empty.run Sample.once).dates.find? 1 :=
  ((entitlement_converges Sample.facts_stated
    ⟨rfl, fun _ _ => rfl, fun _ _ => List.not_mem_nil⟩ rfl (by decide) (by decide)
    (fun delivery h => .inl ((by decide : ∀ delivery ∈ Sample.deliveries,
      delivery.fact ∈ Sample.facts) delivery h))
    (by decide +kernel)).2 60 (by decide)).1

end Arthome.Streaming
