import Arthome.Catalog.DateSteps

/-!
# A date's rows over every run

A date has a slug exactly when its publication is public, and a replay only after its
run: opened by the live's end as the date promised, online exactly when the publication
says so, with its file, and none still open under an outcome that takes it away.
-/

namespace Arthome.Catalog.Dates

open Arthome.Core Library Messaging

theorem mem_run_already_ended {state : PublicationState} :
    state ∈ RUN_ALREADY_ENDED ↔ state = .ended ∨ state = .replayOnline := by
  simp [RUN_ALREADY_ENDED]

theorem mem_still_open {state : ReplayState} :
    state ∈ STILL_OPEN ↔ state = .pending ∨ state = .online := by
  simp [STILL_OPEN]

section Records

variable [PublicationRules] [ReplayRules]

/-- What a replay's row agrees on with its date's and its publication's. -/
structure ReplayFollows (date : PerformanceDateSnapshot) (state : PublicationState)
    (replay : ReplaySnapshot) : Prop where
  key : replay.dateId = date.id
  channel : replay.channelId = date.channelId
  ended : state ∈ RUN_ALREADY_ENDED
  policy : replay.policy = date.replayPolicy
  closesAt : replay.closesAt =
    ReplayRules.replayClosesAt replay.liveEndedAt (date.replayWindowHours.getD 0)
  online_iff : replay.onlineAt.isSome = true ↔ state = .replayOnline
  pending : replay.state = .pending → replay.onlineAt = none
  online : replay.state = .online → replay.onlineAt.isSome = true
  file : replay.onlineAt.isSome = true → replay.assetReadyAt.isSome = true
  closed_iff : replay.closedAt.isSome = true ↔ replay.state = .closed
  withdrawn_iff : replay.withdrawnAt.isSome = true ↔ replay.state = .withdrawn
  kept : replay.state ∈ STILL_OPEN → ReplayRules.outcomeWithdrawsReplay date.outcome = false

/-- What a date's rows agree on. -/
structure DateRecord.Sound (record : DateRecord) : Prop where
  key : record.publication.dateId = record.date.id
  channel : record.publication.channelId = record.date.channelId
  public_iff : record.publication.state.isPublic = record.date.slug.isSome
  undeclared : record.date.slug = none →
    record.date.outcome = none ∧ record.date.rescheduledTo = none
  follows : ∀ {replay}, record.replay = some replay →
    ReplayFollows record.date record.publication.state replay
  online : record.publication.state = .replayOnline → record.replay.isSome = true
  promised : record.publication.state ∈ RUN_ALREADY_ENDED →
    PublicationRules.createsReplayOnLiveEnd record.date.replayPolicy
      (record.date.replayWindowHours.getD 0) record.date.outcome = true →
    record.replay.isSome = true

end Records

section Moves

variable [PublicationRules] [ReplayRules] [LawfulPublicationRules] {now : Instant}
  {record record' : DateRecord} {events : List DateKeyedEvent}

omit [LawfulPublicationRules] in
theorem draft_sound (draft : DateDraft) : DateRecord.Sound
    ⟨(PerformanceDate.draft draft now).current, Publication.draft draft.id draft.channelId, none⟩
    where
  key := rfl
  channel := rfl
  public_iff := rfl
  undeclared _ := ⟨rfl, rfl⟩
  follows h := by cases h
  online h := by cases h
  promised h := by
    rcases mem_run_already_ended.mp h with h | h
    · cases h
    · cases h

omit [LawfulPublicationRules] in
/-- A date not yet ended has no replay. -/
theorem DateRecord.Sound.replay_none (h : record.Sound)
    (hstate : record.publication.state ∉ RUN_ALREADY_ENDED) : record.replay = none := by
  cases hreplay : record.replay with
  | none => rfl
  | some replay => exact absurd (h.follows hreplay).ended hstate

omit [LawfulPublicationRules] in
/-- A date moved before its run's end has no replay, before or after. -/
theorem DateRecord.Sound.beforeEnd {publication : PublicationSnapshot} (h : record.Sound)
    (date : PerformanceDateSnapshot) (hkept : record.date.Kept date)
    (hkey : publication.dateId = record.publication.dateId)
    (hchannel : publication.channelId = record.publication.channelId)
    (hpublic : publication.state.isPublic = date.slug.isSome)
    (hundeclared : date.slug = none → date.outcome = none ∧ date.rescheduledTo = none)
    (hbefore : record.publication.state ∉ RUN_ALREADY_ENDED)
    (hafter : publication.state ∉ RUN_ALREADY_ENDED) :
    DateRecord.Sound ⟨date, publication, record.replay⟩ where
  key := by rw [hkey, h.key, hkept.id]
  channel := by rw [hchannel, h.channel, hkept.channelId]
  public_iff := hpublic
  undeclared := hundeclared
  follows hreplay := absurd (hreplay.symm.trans (h.replay_none hbefore)) (Option.some_ne_none _)
  online honline := absurd (mem_run_already_ended.mpr (.inr honline)) hafter
  promised hended := absurd hended hafter

omit [PublicationRules] [ReplayRules] [LawfulPublicationRules] in
theorem not_ended_of_commanded {state : PublicationState} (h : state ∈ COMMANDED_STATES)
    (hreplay : state ≠ .replayOnline) : state ∉ RUN_ALREADY_ENDED := by
  cases state <;> simp_all [COMMANDED_STATES, RUN_ALREADY_ENDED]

omit [PublicationRules] [ReplayRules] [LawfulPublicationRules] in
theorem not_ended_of_private {state : PublicationState} (h : state.isPublic = false) :
    state ∉ RUN_ALREADY_ENDED := by
  cases state <;> simp_all [PublicationState.isPublic, RUN_ALREADY_ENDED]

omit [LawfulPublicationRules] in
/-- A replay's row moved, in the same state of its date. -/
theorem DateRecord.Sound.replayMoved {moved : ReplaySnapshot} (h : record.Sound)
    (hfollows : ReplayFollows record.date record.publication.state moved) :
    DateRecord.Sound { record with replay := some moved } where
  key := h.key
  channel := h.channel
  public_iff := h.public_iff
  undeclared := h.undeclared
  follows hmoved := by
    cases hmoved
    exact hfollows
  online _ := rfl
  promised _ _ := rfl

omit [LawfulPublicationRules] [PublicationRules] in
/-- A pending replay put online with its file, as its publication is. -/
theorem ReplayFollows.wentOnline {date : PerformanceDateSnapshot} {replay : ReplaySnapshot}
    {state : PublicationState} (h : ReplayFollows date state replay)
    (hpending : replay.state = .pending) (hfile : replay.assetReadyAt.isSome = true) :
    ReplayFollows date .replayOnline ((Replay.restore replay).moveTo .online
      (fun current => { current with onlineAt := some now }) now).current where
  key := h.key
  channel := h.channel
  ended := mem_run_already_ended.mpr (.inr rfl)
  policy := h.policy
  closesAt := h.closesAt
  online_iff := ⟨fun _ => rfl, fun _ => rfl⟩
  pending hstate := by cases hstate
  online _ := rfl
  file _ := hfile
  closed_iff := h.closed_iff.trans (by simp [hpending, Replay.moveTo])
  withdrawn_iff := h.withdrawn_iff.trans (by simp [hpending, Replay.moveTo])
  kept _ := h.kept (mem_still_open.mpr (.inl hpending))

omit [LawfulPublicationRules] [PublicationRules] in
/-- A replay still open closed: at its term, or by its file's loss. -/
theorem ReplayFollows.closed {date : PerformanceDateSnapshot} {replay : ReplaySnapshot}
    {state : PublicationState} (h : ReplayFollows date state replay)
    (hopen : replay.state ∈ STILL_OPEN) :
    ReplayFollows date state ((Replay.restore replay).moveTo .closed
      (fun current => { current with closedAt := some now }) now).current where
  key := h.key
  channel := h.channel
  ended := h.ended
  policy := h.policy
  closesAt := h.closesAt
  online_iff := h.online_iff
  pending hstate := by cases hstate
  online hstate := by cases hstate
  file := h.file
  closed_iff := ⟨fun _ => rfl, fun _ => rfl⟩
  withdrawn_iff := h.withdrawn_iff.trans (by
    rcases mem_still_open.mp hopen with hstate | hstate
    · simp [hstate, Replay.moveTo]
    · simp [hstate, Replay.moveTo])
  kept hstate := by
    rcases mem_still_open.mp hstate with h | h
    · cases h
    · cases h

omit [LawfulPublicationRules] [PublicationRules] in
/-- A replay still open taken away by its date's outcome. -/
theorem ReplayFollows.withdrawn {date date' : PerformanceDateSnapshot} {replay : ReplaySnapshot}
    {state : PublicationState} (h : ReplayFollows date state replay) (hkept : date.Kept date')
    (hopen : replay.state ∈ STILL_OPEN) :
    ReplayFollows date' state ((Replay.restore replay).moveTo .withdrawn
      (fun current => { current with withdrawnAt := some now }) now).current where
  key := h.key.trans hkept.id.symm
  channel := h.channel.trans hkept.channelId.symm
  ended := h.ended
  policy := h.policy.trans hkept.replayPolicy.symm
  closesAt := by
    rw [hkept.replayWindowHours]
    exact h.closesAt
  online_iff := h.online_iff
  pending hstate := by cases hstate
  online hstate := by cases hstate
  file := h.file
  closed_iff := h.closed_iff.trans (by
    rcases mem_still_open.mp hopen with hstate | hstate
    · simp [hstate, Replay.moveTo]
    · simp [hstate, Replay.moveTo])
  withdrawn_iff := ⟨fun _ => rfl, fun _ => rfl⟩
  kept hstate := by
    rcases mem_still_open.mp hstate with h | h
    · cases h
    · cases h

omit [LawfulPublicationRules] [PublicationRules] in
/-- A replay kept by its date's outcome. -/
theorem ReplayFollows.declared {date date' : PerformanceDateSnapshot} {replay : ReplaySnapshot}
    {state : PublicationState} (h : ReplayFollows date state replay) (hkept : date.Kept date')
    (houtcome : replay.state ∈ STILL_OPEN →
      ReplayRules.outcomeWithdrawsReplay date'.outcome = false) :
    ReplayFollows date' state replay where
  key := h.key.trans hkept.id.symm
  channel := h.channel.trans hkept.channelId.symm
  ended := h.ended
  policy := h.policy.trans hkept.replayPolicy.symm
  closesAt := by
    rw [hkept.replayWindowHours]
    exact h.closesAt
  online_iff := h.online_iff
  pending := h.pending
  online := h.online
  file := h.file
  closed_iff := h.closed_iff
  withdrawn_iff := h.withdrawn_iff
  kept := houtcome

/-- The replay of a date that ended is the one it promised. -/
theorem opened_follows {date : PerformanceDateSnapshot} {endedAt : Instant} {opened : Replay}
    (h : replayOpenedBy date endedAt now = some opened) :
    ReplayFollows date .ended opened.current := by
  simp only [replayOpenedBy] at h
  split_ifs at h with hcreates
  cases h
  exact {
    key := rfl
    channel := rfl
    ended := mem_run_already_ended.mpr (.inl rfl)
    policy := rfl
    closesAt := rfl
    online_iff := by simp [Replay.opened]
    pending := fun _ => rfl
    online := fun hstate => by cases hstate
    file := fun honline => by cases honline
    closed_iff := by simp [Replay.opened]
    withdrawn_iff := by simp [Replay.opened]
    kept := fun _ => ((LawfulPublicationRules.creates_iff _ _ _).mp hcreates).2 }

omit [PublicationRules] [LawfulPublicationRules] in
/-- A replay an outcome leaves is closed already, or kept by it. -/
theorem kept_of_withdrawnBy_eq_none {replay : ReplaySnapshot} {outcome : DateOutcome}
    (hreplay : record.replay = some replay) (h : record.withdrawnBy outcome now = none)
    (hopen : replay.state ∈ STILL_OPEN) :
    ReplayRules.outcomeWithdrawsReplay (some outcome) = false := by
  rw [← Bool.not_eq_true]
  intro hwithdraws
  rw [DateRecord.withdrawnBy, if_pos hwithdraws, hreplay, Option.bind_some, Replay.withdraw,
    if_neg (by exact not_not.mpr hopen)] at h
  cases h

theorem DateMove.sound (hmove : DateMove now record record' events) (h : record.Sound) :
    record'.Sound := by
  cases hmove with
  | transitioned hcommanded hpublic hrun hended hreplay =>
      exact h.beforeEnd record.date ⟨rfl, rfl, rfl, rfl, rfl, rfl, rfl⟩ rfl rfl
        (hpublic.trans h.public_iff) h.undeclared
        (fun hmem => (mem_run_already_ended.mp hmem).elim hended hrun.2)
        (not_ended_of_commanded hcommanded hreplay)
  | published hcommanded hprivate hpublic hreplay hslug =>
      exact h.beforeEnd _ ⟨rfl, rfl, rfl, rfl, rfl, rfl, rfl⟩ rfl rfl hpublic
        (fun hnone => absurd hnone (Option.some_ne_none _)) (not_ended_of_private hprivate)
        (not_ended_of_commanded hcommanded hreplay)
  | runStarted htechnical =>
      have hpublic : PublicationState.isPublic .live = record.date.slug.isSome := by
        rw [← h.public_iff, htechnical]
        rfl
      exact h.beforeEnd record.date ⟨rfl, rfl, rfl, rfl, rfl, rfl, rfl⟩ rfl rfl hpublic h.undeclared
        (fun hmem => by rw [htechnical] at hmem; exact absurd hmem (by decide))
        (show PublicationState.live ∉ RUN_ALREADY_ENDED by decide)
  | @wentOnline replay _ hended hreplay hpending hfile =>
      refine ⟨h.key, h.channel, ?_, h.undeclared, ?_, fun _ => rfl, fun _ _ => rfl⟩
      · rw [← h.public_iff, hended]
        rfl
      · intro _ hmoved
        cases hmoved
        exact (h.follows hreplay).wentOnline hpending hfile
  | runEnded hlive hnone =>
      have hreplay : record.replay = none := h.replay_none (by rw [hlive]; decide)
      refine ⟨h.key, h.channel, ?_, h.undeclared, ?_, (fun hstate => by cases hstate), ?_⟩
      · rw [← h.public_iff, hlive]
        rfl
      · intro _ hsome
        exact absurd (hsome.symm.trans hreplay) (Option.some_ne_none _)
      · intro _ hcreates
        simp only [replayOpenedBy] at hnone
        rw [if_pos hcreates] at hnone
        cases hnone
  | replayOpened hlive hopened hnone =>
      refine ⟨h.key, h.channel, ?_, h.undeclared, ?_, (fun hstate => by cases hstate),
        fun _ _ => rfl⟩
      · rw [← h.public_iff, hlive]
        rfl
      · intro _ hsome
        cases hsome
        exact opened_follows hopened
  | @declared outcome message hpublic hstanding hslug =>
      have hkept : record.date.Kept (record.date.declared outcome message now) :=
        ⟨rfl, rfl, rfl, rfl, rfl, rfl, rfl⟩
      have hunslugged : record.date.slug ≠ none := Option.ne_none_iff_isSome.mpr hslug
      refine ⟨h.key, h.channel, h.public_iff, fun hnone => absurd hnone hunslugged, ?_, ?_, ?_⟩
      · intro replay hreplay
        cases htaken : record.withdrawnBy outcome now with
        | none =>
            rw [htaken] at hreplay
            exact (h.follows hreplay).declared hkept (kept_of_withdrawnBy_eq_none hreplay htaken)
        | some moved =>
            rw [htaken] at hreplay
            cases hreplay
            obtain ⟨replay, hfound, hopen, rfl⟩ := withdrawnBy_eq_some htaken
            exact (h.follows hfound).withdrawn hkept hopen
      · intro honline
        rw [Option.isSome_or, h.online honline, Bool.or_true]
      · intro hended hcreates
        have hpromised := h.promised hended ((LawfulPublicationRules.creates_iff _ _ _).mpr
          ⟨((LawfulPublicationRules.creates_iff _ _ _).mp hcreates).1,
            LawfulPublicationRules.keeps_replay _ hstanding⟩)
        rw [Option.isSome_or, hpromised, Bool.or_true]
  | @postponed message movedTo previousSlug slug hpublic hstanding hslug =>
      have hkept : record.date.Kept (record.date.movedOn .postponed message movedTo slug now) :=
        ⟨rfl, rfl, rfl, rfl, rfl, rfl, rfl⟩
      have hreplayed := LawfulPublicationRules.keeps_replay (some .postponed) (.inr rfl)
      refine ⟨h.key, h.channel, ?_, fun hnone => absurd hnone (Option.some_ne_none _), ?_, h.online,
        ?_⟩
      · exact h.public_iff.trans (by rw [hslug]; rfl)
      · intro replay hreplay
        exact (h.follows hreplay).declared hkept fun _ => hreplayed
      · intro hended hcreates
        refine h.promised hended ((LawfulPublicationRules.creates_iff _ _ _).mpr ⟨?_, ?_⟩)
        · exact ((LawfulPublicationRules.creates_iff _ _ _).mp hcreates).1
        · exact LawfulPublicationRules.keeps_replay _ hstanding
  | @assetLearned replay fact moved hreplay hmoved =>
      have hfollows := h.follows hreplay
      obtain ⟨hopen, ⟨-, rfl⟩ | ⟨asset, -, hfile, rfl⟩⟩ := learnAsset_eq_some hmoved
      · exact h.replayMoved (hfollows.closed hopen)
      · exact h.replayMoved { hfollows with file := fun _ => rfl }

end Moves

/-! ## Rows that name rows -/

namespace Db

section References

variable {db db' : Db}

/-- A transaction that leaves the dates keeps what they name. -/
theorem References.of_dates (h : db.References) (hdates : db'.dates = db.dates)
    (hpublications : db'.publications = db.publications) (hreplays : db'.replays = db.replays)
    (hshows : ∀ {id shown}, db.shows.find? id = some shown →
      ∃ next, db'.shows.find? id = some next ∧ next.channelId = shown.channelId)
    (hvenues : ∀ {id venue}, db.venues.find? id = some venue →
      ∃ next, db'.venues.find? id = some next) : db'.References where
  dated hfound := by
    rw [hdates]
    rw [hpublications] at hfound
    exact h.dated hfound
  published hfound := by
    rw [hpublications]
    rw [hdates] at hfound
    exact h.published hfound
  replayed hfound := by
    rw [hpublications]
    rw [hreplays] at hfound
    exact h.replayed hfound
  shown hfound := by
    rw [hdates] at hfound
    obtain ⟨shown, hshown, hchannel⟩ := h.shown hfound
    obtain ⟨next, hnext, hkept⟩ := hshows hshown
    exact ⟨next, hnext, hkept.trans hchannel⟩
  venue hfound := by
    rw [hdates] at hfound
    obtain ⟨venue, hvenue⟩ := h.venue hfound
    exact hvenues hvenue

/-- A date's rows written under one id name its show and its venue. -/
theorem References.of_written {record : DateRecord} {events : List DateKeyedEvent}
    {context : DateWireContext} {shown : Show} {venue : Venue} (h : db.References)
    (hwritten : Written db db' record events context)
    (hshown : db.shows.find? record.date.showId = some shown)
    (hchannel : shown.channelId = record.date.channelId)
    (hvenue : db.venues.find? record.date.venueId = some venue) : db'.References where
  dated {id publication} hfound := by
    rw [hwritten.dates]
    rw [hwritten.publications] at hfound
    split_ifs with hid
    · exact ⟨_, rfl⟩
    · rw [if_neg hid] at hfound
      exact h.dated hfound
  published {id date} hfound := by
    rw [hwritten.publications]
    rw [hwritten.dates] at hfound
    split_ifs with hid
    · exact ⟨_, rfl⟩
    · rw [if_neg hid] at hfound
      exact h.published hfound
  replayed {id replay} hfound := by
    rw [hwritten.publications]
    rw [hwritten.replays] at hfound
    split_ifs with hid
    · exact ⟨_, rfl⟩
    · rw [if_neg hid] at hfound
      exact h.replayed hfound
  shown {id date} hfound := by
    rw [hwritten.dates] at hfound
    rw [hwritten.shows]
    split_ifs at hfound with hid
    · cases hfound
      exact ⟨shown, hshown, hchannel⟩
    · exact h.shown hfound
  venue {id date} hfound := by
    rw [hwritten.dates] at hfound
    rw [hwritten.venues]
    split_ifs at hfound with hid
    · cases hfound
      exact ⟨venue, hvenue⟩
    · exact h.venue hfound

theorem references_empty : References empty where
  dated h := by cases h
  published h := by cases h
  replayed h := by cases h
  shown h := by cases h
  venue h := by cases h

theorem References.step [PublicationRules] [ReplayRules] {publicWebOrigin : String}
    (h : db.References) (hstep : Step publicWebOrigin db db') : db'.References := by
  cases hstep with
  | unmoved hunmoved =>
      obtain ⟨_, _, rfl⟩ := hunmoved
      exact h.of_dates rfl rfl rfl (fun hshown => ⟨_, hshown, rfl⟩) fun hvenue => ⟨_, hvenue⟩
  | showPublished hinsert hdb =>
      subst hdb
      exact h.of_dates rfl rfl rfl
        (fun hshown => ⟨_, Table.find?_of_insert hinsert hshown, rfl⟩) fun hvenue => ⟨_, hvenue⟩
  | @showUpdated shown next now hshown hkept hdb =>
      subst hdb
      refine h.of_dates rfl rfl rfl (fun {id other} hother => ?_) fun hvenue => ⟨_, hvenue⟩
      by_cases hid : id = next.id
      · subst hid
        rw [hshown] at hother
        cases hother
        exact ⟨next, Table.find?_put_self hshown, hkept.channelId⟩
      · exact ⟨other, (Table.find?_put_of_ne (Ne.symm hid)).trans hother, rfl⟩
  | venueCreated hinsert hdb =>
      subst hdb
      exact h.of_dates rfl rfl rfl (fun hshown => ⟨_, hshown, rfl⟩)
        fun hvenue => ⟨_, Table.find?_of_insert hinsert hvenue⟩
  | faceUpdated hid hdb =>
      subst hdb
      exact h.of_dates rfl rfl rfl (fun hshown => ⟨_, hshown, rfl⟩) fun hvenue => ⟨_, hvenue⟩
  | drafted hdrafted =>
      obtain ⟨hshown, hchannel, hvenue, -, -, hwritten⟩ := hdrafted
      exact h.of_written hwritten hshown hchannel hvenue
  | moved hmoved =>
      obtain ⟨hrecord, hmove, hshown, hvenue, hwritten⟩ := hmoved
      have hkept := hmove.kept
      obtain ⟨shown, hfound, hchannel⟩ := h.shown (recordOf_eq_some.mp hrecord).2.1
      rw [← hkept.showId] at hfound
      rw [← hkept.venueId] at hvenue
      exact h.of_written hwritten hfound (hchannel.trans hkept.channelId.symm) hvenue

end References

theorem recordOf_congr {db db' : Db} (hdates : db'.dates = db.dates)
    (hpublications : db'.publications = db.publications) (hreplays : db'.replays = db.replays)
    (dateId : Uuid) : db'.recordOf dateId = db.recordOf dateId := by
  unfold recordOf
  rw [hdates, hpublications, hreplays]

theorem recordOf_written {db db' : Db} {record : DateRecord} {events : List DateKeyedEvent}
    {context : DateWireContext} (h : Written db db' record events context) (dateId : Uuid) :
    db'.recordOf dateId =
      if dateId = record.date.id then some record else db.recordOf dateId := by
  unfold recordOf
  rw [h.dates, h.publications, h.replays]
  split_ifs
  · rfl
  · rfl

section Records

variable [PublicationRules] [ReplayRules]

/-- Every date's rows agree. -/
def RecordsSound (db : Db) : Prop :=
  ∀ dateId record, db.recordOf dateId = some record → record.Sound

theorem recordsSound_empty : RecordsSound empty := by
  intro dateId record h
  cases h

theorem RecordsSound.step [LawfulPublicationRules] {publicWebOrigin : String} {db db' : Db}
    (hreferences : db.References) (h : db.RecordsSound) (hstep : Step publicWebOrigin db db') :
    db'.RecordsSound := by
  intro dateId record hrecord
  cases hstep with
  | unmoved hunmoved =>
      obtain ⟨_, _, rfl⟩ := hunmoved
      exact h _ _ hrecord
  | showPublished hinsert hdb =>
      subst hdb
      exact h _ _ hrecord
  | showUpdated hshown hkept hdb =>
      subst hdb
      exact h _ _ hrecord
  | venueCreated hinsert hdb =>
      subst hdb
      exact h _ _ hrecord
  | faceUpdated hid hdb =>
      subst hdb
      exact h _ _ hrecord
  | drafted hdrafted =>
      obtain ⟨-, -, -, -, hpublication, hwritten⟩ := hdrafted
      rw [recordOf_written hwritten] at hrecord
      split_ifs at hrecord with hid
      · cases hrecord
        next draft _ _ =>
        have hreplay : db.replays.find? draft.id = none := by
          cases hfound : db.replays.find? draft.id with
          | none => rfl
          | some replay =>
              obtain ⟨publication, hsome⟩ := hreferences.replayed hfound
              exact absurd (hsome.symm.trans hpublication) (Option.some_ne_none _)
        rw [hreplay]
        exact draft_sound draft
      · exact h _ _ hrecord
  | moved hmoved =>
      obtain ⟨hfound, hmove, -, -, hwritten⟩ := hmoved
      rw [recordOf_written hwritten] at hrecord
      split_ifs at hrecord with hid
      · cases hrecord
        exact hmove.sound (h _ _ hfound)
      · exact h _ _ hrecord

end Records

end Db

/-! ## Over every run -/

section Runs

variable [PublicationRules] [ReplayRules] [LawfulPublicationRules] [SlugRules]
  {publicWebOrigin : String}

/-- What the first state has and every step keeps holds of every reached state. -/
theorem World.reached_keeps {P : Db → Prop} (hempty : P .empty)
    (hstep : ∀ {db db'}, db.References → P db → Db.Step publicWebOrigin db db' → P db')
    (transactions : List Transaction) :
    (World.reached publicWebOrigin transactions).db.References ∧
      P (World.reached publicWebOrigin transactions).db := by
  induction transactions using List.reverseRecOn with
  | nil => exact ⟨Db.references_empty, hempty⟩
  | append_singleton transactions transaction ih =>
      obtain ⟨hreferences, hkept⟩ := ih
      rw [World.reached, List.foldl_append]
      change (World.advance publicWebOrigin (World.reached publicWebOrigin transactions)
        transaction).db.References ∧ P (World.advance publicWebOrigin
          (World.reached publicWebOrigin transactions) transaction).db
      unfold World.advance
      split
      · next db' hperform =>
        have hdone := perform_step hreferences hperform
        exact ⟨hreferences.step hdone, hstep hreferences hkept hdone⟩
      · exact ⟨hreferences, hkept⟩

variable (publicWebOrigin) in
theorem World.reached_sound (transactions : List Transaction) :
    (World.reached publicWebOrigin transactions).db.References ∧
      (World.reached publicWebOrigin transactions).db.RecordsSound :=
  World.reached_keeps Db.recordsSound_empty (fun hreferences h hstep => h.step hreferences hstep)
    transactions

/-- In every run of the commands and the facts, whatever reads the facts made: a date has a slug
exactly when it is public; its replay agrees with it and with its publication, online exactly when
the publication says so; and a date ended has the replay it promised, unless its outcome took it
away. -/
theorem replays_follow_publications (transactions : List Transaction) {dateId : Uuid}
    {publication : PublicationSnapshot}
    (hpublication :
      (World.reached publicWebOrigin transactions).db.publications.find? dateId =
        some publication) :
    ∃ date, (World.reached publicWebOrigin transactions).db.dates.find? dateId = some date ∧
      publication.state.isPublic = date.slug.isSome ∧
      (∀ replay, (World.reached publicWebOrigin transactions).db.replays.find? dateId =
        some replay → ReplayFollows date publication.state replay) ∧
      (publication.state = .replayOnline →
        ((World.reached publicWebOrigin transactions).db.replays.find? dateId).isSome = true) ∧
      (publication.state ∈ RUN_ALREADY_ENDED →
        PublicationRules.createsReplayOnLiveEnd date.replayPolicy (date.replayWindowHours.getD 0)
          date.outcome = true →
        ((World.reached publicWebOrigin transactions).db.replays.find? dateId).isSome = true) := by
  obtain ⟨hreferences, hsound⟩ := World.reached_sound publicWebOrigin transactions
  obtain ⟨date, hdate⟩ := hreferences.dated hpublication
  have hrecord : DateRecord.Sound ⟨date, publication,
      (World.reached publicWebOrigin transactions).db.replays.find? dateId⟩ :=
    hsound dateId _ (Db.recordOf_eq_some.mpr ⟨hpublication, hdate, rfl⟩)
  exact ⟨date, hdate, hrecord.public_iff, fun _ hreplay => hrecord.follows hreplay, hrecord.online,
    hrecord.promised⟩

end Runs

namespace Sample

open Arthome.Core.Sample Arthome.Catalog.Sample

def sampleShow : PublishShowBody where
  channelId := 2
  artistId := 21
  categoryId := "theatre"
  genreIds := []
  tagIds := []
  runtimeMin := 90
  languageDependency := .none
  spokenLanguages := ["fr"]
  subtitleLanguages := []
  surtitleLanguages := []
  media := ⟨[], [⟨"poster.jpg", 600, 900⟩]⟩
  title := ⟨"hamlet", ""⟩
  synopsis := ⟨"un prince", ""⟩

/-- A date published, played and put online, its show and its channel renamed on the way. -/
def sampleTransactions : List Transaction :=
  [.publishShow sampleShow 5 1, .createVenue ⟨3, "odeon", "paris", "fr", "Europe/Paris"⟩,
    .draftDate 2 ⟨7, 5, 3, 90000000, .included, some 48⟩ 2,
    .recordChecklistFact 101 ⟨7, .atLeastOneActivePrice, true, 3⟩,
    .recordChecklistFact 102 ⟨7, .capacity, true, 3⟩,
    .recordChecklistFact 103 ⟨7, .technicalCheckPassed, true, 3⟩,
    .recordChecklistFact 104 ⟨7, .chatModeSet, true, 3⟩,
    .transitionPublication 7 ⟨.scheduled, 1, some .pricesEngaged⟩ 4,
    .declareOutcome 7 ⟨.postponed, ⟨"fr", "reporte"⟩, some 180000000, 2⟩ 5,
    .transitionPublication 7 ⟨.technical, 3, none⟩ 6,
    .learnRunFact 105 ⟨7, none⟩ 180000000,
    .learnRunFact 106 ⟨7, some 185000000⟩ 185000001,
    .learnReplayAssetFact 107 ⟨7, some ⟨5000, 185000500⟩⟩ ⟨0, 0, le_refl 0⟩ 185000600,
    .updateShow 5 ⟨some ["tragedie"], none, none, none, none, none⟩ 185000700,
    .transitionPublication 7 ⟨.replayOnline, 6, some .replaySold⟩ 185000800,
    .updateChannelIdentity 2 0 (some "troupe") 22 185000900]

/-- The state the sample ends in. -/
def sampleDb : Db := (World.reached "https://arthome.example" sampleTransactions).db

theorem replays_follow_publications_sample :
    ∃ publication date, sampleDb.publications.find? 7 = some publication ∧
      sampleDb.dates.find? 7 = some date ∧ publication.state = .replayOnline ∧
      (sampleDb.replays.find? 7).isSome = true := by
  have hstate : (sampleDb.publications.find? 7).map PublicationSnapshot.state =
      some .replayOnline := by decide +kernel
  obtain ⟨publication, hpublication, hstate⟩ := Option.map_eq_some_iff.mp hstate
  obtain ⟨date, hdate, -, -, honline, -⟩ := replays_follow_publications sampleTransactions
    hpublication
  exact ⟨publication, date, hpublication, hdate, hstate, honline hstate⟩

end Sample

end Arthome.Catalog.Dates
