import Arthome.Catalog.DateMoves

/-!
# The transactions as steps

A transaction of catalog's publishes or updates a show, creates a venue, renames a
channel, drafts a date, moves one date, or leaves every row there is. A date's is one of
its moves, recorded with its show and its venue: its rows, its public row and its outbox
rows, together.
-/

namespace Arthome.Catalog.Dates

open Arthome.Core Library Messaging

/-! ## What the tables hold after -/

/-- A replay's events are one write like a date's. -/
theorem Details.projectDateEvents_replay (details : Details) (events : List ReplayStateChanged)
    (copies : DateCopies) (artistOf : Uuid → Option Artist) :
    details.projectDateEvents (events.map .replayStateChanged) copies artistOf =
      .ok (details.projectReplayEvents events) := by
  have hnone : (events.map DateKeyedEvent.replayStateChanged).findSome?
      DateKeyedEvent.scheduled = none := by
    rw [List.findSome?_eq_none_iff]
    intro event hevent
    obtain ⟨change, -, rfl⟩ := List.mem_map.mp hevent
    rfl
  simp only [Details.projectDateEvents, hnone, Details.projectReplayEvents]

namespace Db

/-- A date's rows in the tables. -/
def recordOf (db : Db) (dateId : Uuid) : Option DateRecord := do
  let publication ← db.publications.find? dateId
  let date ← db.dates.find? dateId
  return ⟨date, publication, db.replays.find? dateId⟩

/-- What a date's transaction writes: the date's rows, its public row and its outbox rows. -/
structure Written (db db' : Db) (record : DateRecord) (events : List DateKeyedEvent)
    (context : DateWireContext) : Prop where
  dates (k : Uuid) : db'.dates.find? k =
    if k = record.date.id then some record.date else db.dates.find? k
  publications (k : Uuid) : db'.publications.find? k =
    if k = record.date.id then some record.publication else db.publications.find? k
  replays (k : Uuid) : db'.replays.find? k =
    if k = record.date.id then record.replay else db.replays.find? k
  shows : db'.shows = db.shows
  venues : db'.venues = db.venues
  artists : db'.artists = db.artists
  details : db.details.projectDateEvents events ⟨context.shown, context.venue⟩ db.artists.find? =
    .ok db'.details
  outbox : db'.outbox = writeDateIntegrationEvents db.outbox events context

theorem findDate_eq_ok {db : Db} {dateId : Uuid} {date : PerformanceDate}
    (h : db.findDate dateId = .ok (some date)) :
    db.publications.find? dateId = some date.publication ∧
      db.dates.find? dateId = some date.current ∧ date.events = [] := by
  unfold findDate at h
  cases hpublication : db.publications.find? dateId with
  | none => simp [hpublication] at h
  | some publication =>
      simp only [hpublication, bind_ok_iff, orRefuse_ok_iff, pure_ok_iff, Option.some.injEq] at h
      obtain ⟨current, hcurrent, rfl⟩ := h
      exact ⟨rfl, hcurrent, rfl⟩

theorem loadDate_eq_ok {db : Db} {dateId : Uuid} {loaded : LoadedDate}
    (h : db.loadDate dateId = .ok loaded) :
    db.publications.find? dateId = some loaded.date.publication ∧
      db.dates.find? dateId = some loaded.date.current ∧ loaded.date.events = [] ∧
      db.shows.find? loaded.date.current.showId = some loaded.shown ∧
      db.venues.find? loaded.date.current.venueId = some loaded.venue := by
  simp only [loadDate, bind_ok_iff, orRefuse_ok_iff, pure_ok_iff] at h
  obtain ⟨found, hfound, date, rfl, shown, hshown, venue, hvenue, rfl⟩ := h
  obtain ⟨hpublication, hcurrent, hevents⟩ := findDate_eq_ok hfound
  exact ⟨hpublication, hcurrent, hevents, hshown, hvenue⟩

section Saves

variable {db saved : Db}

theorem putDate_eq_ok {current : PerformanceDateSnapshot} (h : db.putDate current = .ok saved) :
    saved = { db with dates := db.dates.put current } := by
  simp only [putDate, bind_ok_iff, require_ok_iff, pure_ok_iff] at h
  obtain ⟨-, -, rfl⟩ := h
  rfl

/-- The date's rows are put as the command left them. -/
theorem saveDate_eq_ok {loaded date : PerformanceDate}
    (hcurrent : db.dates.find? date.current.id = some loaded.current)
    (h : db.saveDate loaded date = .ok saved) :
    saved = { db with
      dates := db.dates.put date.current
      publications := db.publications.put date.publication } := by
  simp only [saveDate, bind_ok_iff, require_ok_iff, orRefuse_ok_iff] at h
  obtain ⟨row, -, -, -, h⟩ := h
  split_ifs at h with hsame
  · simp only [pure_ok_iff] at h
    rw [← hsame] at hcurrent
    rw [← h, Table.put_self hcurrent]
  · rw [putDate_eq_ok h]

theorem saveReplay_eq_ok {loadedVersion : ℕ} {replay : Replay}
    (h : db.saveReplay loadedVersion replay = .ok saved) :
    saved = { db with replays := db.replays.put replay.current } := by
  simp only [saveReplay, bind_ok_iff, require_ok_iff, orRefuse_ok_iff, pure_ok_iff] at h
  obtain ⟨row, -, -, -, rfl⟩ := h
  rfl

theorem insertReplay_eq_ok {replay : Replay} (h : db.insertReplay replay = .ok saved) :
    ∃ replays, db.replays.insert replay.current = some replays ∧ saved = { db with replays } := by
  simp only [insertReplay, bind_ok_iff, orRefuse_ok_iff, pure_ok_iff] at h
  obtain ⟨replays, hreplays, rfl⟩ := h
  exact ⟨replays, hreplays, rfl⟩

variable [SlugRules]

theorem retireSlugsMovedFrom_eq (db : Db) (events : List DateKeyedEvent) :
    ∃ aliases, db.retireSlugsMovedFrom events = { db with aliases } := by
  unfold retireSlugsMovedFrom
  induction events generalizing db with
  | nil => exact ⟨db.aliases, rfl⟩
  | cons event events ih =>
      rw [List.foldl_cons]
      split
      · split_ifs
        · exact ih db
        · exact ih _
      · exact ih db

theorem recordDateEvents_eq_ok {events : List DateKeyedEvent} {context : DateWireContext}
    (h : db.recordDateEvents events context = .ok saved) :
    saved.dates = db.dates ∧ saved.publications = db.publications ∧ saved.replays = db.replays ∧
      saved.shows = db.shows ∧ saved.venues = db.venues ∧ saved.artists = db.artists ∧
      db.details.projectDateEvents events ⟨context.shown, context.venue⟩ db.artists.find? =
        .ok saved.details ∧
      saved.outbox = writeDateIntegrationEvents db.outbox events context := by
  obtain ⟨aliases, haliases⟩ := retireSlugsMovedFrom_eq db events
  simp only [recordDateEvents, haliases, bind_ok_iff, pure_ok_iff] at h
  obtain ⟨details, hdetails, rfl⟩ := h
  exact ⟨rfl, rfl, rfl, rfl, rfl, rfl, hdetails, rfl⟩

end Saves

theorem recordOf_eq_some {db : Db} {dateId : Uuid} {record : DateRecord} :
    db.recordOf dateId = some record ↔ db.publications.find? dateId = some record.publication ∧
      db.dates.find? dateId = some record.date ∧ db.replays.find? dateId = record.replay := by
  unfold recordOf
  cases db.publications.find? dateId with
  | none => simp
  | some publication =>
      cases db.dates.find? dateId with
      | none => simp
      | some date =>
          obtain ⟨date', publication', replay'⟩ := record
          simp only [Option.bind_eq_bind, Option.bind_some, Option.pure_def, Option.some.injEq,
            DateRecord.mk.injEq]
          tauto

/-- The rows a command found, under the date's id. -/
theorem recordOf_loaded {db : Db} {dateId : Uuid} {loaded : LoadedDate}
    (h : db.loadDate dateId = .ok loaded) :
    db.recordOf dateId =
      some ⟨loaded.date.current, loaded.date.publication, db.replays.find? dateId⟩ := by
  obtain ⟨hpublication, hcurrent, -⟩ := loadDate_eq_ok h
  exact recordOf_eq_some.mpr ⟨hpublication, hcurrent, rfl⟩

/-- A date's rows put, and their events recorded. -/
theorem written_of_recorded [SlugRules] {db saved db' : Db} {dateId : Uuid}
    {record record' : DateRecord} {events : List DateKeyedEvent} {context : DateWireContext}
    (hrecord : db.recordOf dateId = some record) (hid : record'.date.id = dateId)
    (hpublication : record'.publication.dateId = dateId)
    (hsaved : saved = { db with
      dates := db.dates.put record'.date
      publications := db.publications.put record'.publication
      replays := saved.replays
      processed := saved.processed })
    (hreplays : ∀ k, saved.replays.find? k =
      if k = dateId then record'.replay else db.replays.find? k)
    (h : saved.recordDateEvents events context = .ok db') :
    Written db db' record' events context := by
  obtain ⟨hrow, hdate, -⟩ := recordOf_eq_some.mp hrecord
  obtain ⟨hdates, hpublications, hreplays', hshows, hvenues, hartists, hdetails, houtbox⟩ :=
    recordDateEvents_eq_ok h
  rw [hsaved] at hdates hpublications hshows hvenues hartists hdetails houtbox
  exact {
    dates := fun k => by
      rw [hdates]
      exact Table.find?_put (hid.symm ▸ hdate)
    publications := fun k => by
      rw [hpublications, hid, Table.find?_put (hpublication.symm ▸ hrow), hpublication]
    replays := fun k => by rw [hreplays', hid, hreplays]
    shows := hshows
    venues := hvenues
    artists := hartists
    details := hdetails
    outbox := houtbox }

/-- A date's transaction: one move of its rows, recorded with the show and the venue they name. -/
inductive Moved [PublicationRules] [ReplayRules] (publicWebOrigin : String) (now : Instant)
    (db db' : Db) : Prop where
  | intro {dateId : Uuid} {record record' : DateRecord} {events : List DateKeyedEvent}
      {shown : Show} {venue : Venue} (hrecord : db.recordOf dateId = some record)
      (hmove : DateMove now record record' events)
      (hshown : db.shows.find? record.date.showId = some shown)
      (hvenue : db.venues.find? record.date.venueId = some venue)
      (hwritten : Written db db' record' events ⟨publicWebOrigin, shown, venue⟩)

/-- A date drafted on a show of its channel. -/
inductive Drafted [PublicationRules] (publicWebOrigin : String) (now : Instant) (db db' : Db) :
    Prop where
  | intro {draft : DateDraft} {shown : Show} {venue : Venue}
      (hshown : db.shows.find? draft.showId = some shown)
      (hchannel : shown.channelId = draft.channelId)
      (hvenue : db.venues.find? draft.venueId = some venue)
      (hdate : db.dates.find? draft.id = none) (hpublication : db.publications.find? draft.id = none)
      (hwritten : Written db db'
        ⟨(PerformanceDate.draft draft now).current, Publication.draft draft.id draft.channelId,
          db.replays.find? draft.id⟩
        (PerformanceDate.draft draft now).events ⟨publicWebOrigin, shown, venue⟩)

/-- What a fact that moved nothing leaves. -/
def Unmoved (db db' : Db) : Prop :=
  ∃ checklistFacts processed, db' = { db with checklistFacts, processed }

/-- Every row names rows there are, and a date a show of its channel. -/
structure References (db : Db) : Prop where
  dated {id : Uuid} {publication : PublicationSnapshot} :
    db.publications.find? id = some publication → ∃ date, db.dates.find? id = some date
  published {id : Uuid} {date : PerformanceDateSnapshot} :
    db.dates.find? id = some date → ∃ publication, db.publications.find? id = some publication
  replayed {id : Uuid} {replay : ReplaySnapshot} :
    db.replays.find? id = some replay → ∃ publication, db.publications.find? id = some publication
  shown {id : Uuid} {date : PerformanceDateSnapshot} : db.dates.find? id = some date →
    ∃ shown, db.shows.find? date.showId = some shown ∧ shown.channelId = date.channelId
  venue {id : Uuid} {date : PerformanceDateSnapshot} : db.dates.find? id = some date →
    ∃ venue, db.venues.find? date.venueId = some venue

/-- What an update leaves of a show. -/
structure ShowKept (shown next : Show) : Prop where
  id : next.id = shown.id
  slug : next.slug = shown.slug
  channelId : next.channelId = shown.channelId
  artistId : next.artistId = shown.artistId
  categoryId : next.categoryId = shown.categoryId
  runtimeMin : next.runtimeMin = shown.runtimeMin
  spokenLanguages : next.spokenLanguages = shown.spokenLanguages
  subtitleLanguages : next.subtitleLanguages = shown.subtitleLanguages
  surtitleLanguages : next.surtitleLanguages = shown.surtitleLanguages

/-- What a transaction commits. -/
inductive Step [PublicationRules] [ReplayRules] (publicWebOrigin : String) (db db' : Db) : Prop where
  | unmoved (h : Unmoved db db')
  | showPublished {shown : Show} {shows : Table Show.id} {now : Instant}
      (hinsert : db.shows.insert shown = some shows)
      (h : db' = { db with
        shows := shows
        outbox := db.outbox ++ [showPublishedMessage shown now] })
  | showUpdated {shown next : Show} {now : Instant} (hshown : db.shows.find? next.id = some shown)
      (hkept : ShowKept shown next)
      (h : db' = { db with
        shows := db.shows.put next
        details := db.details.projectShowCopy next
        outbox := db.outbox ++ [showUpdatedMessage next now] })
  | venueCreated {venue : Venue} {venues : Table Venue.id}
      (hinsert : db.venues.insert venue = some venues) (h : db' = { db with venues := venues })
  | faceUpdated {artist : Artist} {now : Instant}
      (hid : ∀ current, db.artists.find? artist.channelId = some current → artist.id = current.id)
      (h : db' = { db with
        artists := db.artists.upsert artist
        details := db.details.projectArtist artist
        outbox := db.outbox ++
          [.artistUpdated ⟨artist.id, artist.channelId, artist.publicName, now⟩] })
  | drafted {now : Instant} (h : Drafted publicWebOrigin now db db')
  | moved {now : Instant} (h : Moved publicWebOrigin now db db')

end Db

/-! ## Every transaction of a date is a move -/

section Transactions

open Db Details

variable [PublicationRules] [ReplayRules] [LawfulPublicationRules] [SlugRules]
  {publicWebOrigin : String} {db db' : Db} {dateId : Uuid} {now : Instant}

omit [LawfulPublicationRules] in
/-- The rows of a move, as they were loaded and put. -/
theorem moved_of_recorded {saved : Db} {loaded : LoadedDate} {record' : DateRecord}
    {events : List DateKeyedEvent} (hload : db.loadDate dateId = .ok loaded)
    (hmove : DateMove now
      ⟨loaded.date.current, loaded.date.publication, db.replays.find? dateId⟩ record' events)
    (hsaved : saved = { db with
      dates := db.dates.put record'.date
      publications := db.publications.put record'.publication
      replays := saved.replays
      processed := saved.processed })
    (hreplays : ∀ k, saved.replays.find? k =
      if k = dateId then record'.replay else db.replays.find? k)
    (h : saved.recordDateEvents events ⟨publicWebOrigin, loaded.shown, loaded.venue⟩ = .ok db') :
    Moved publicWebOrigin now db db' := by
  obtain ⟨hpublication, hcurrent, -, hshown, hvenue⟩ := loadDate_eq_ok hload
  have hrecord := recordOf_loaded hload
  refine .intro hrecord hmove hshown hvenue (written_of_recorded hrecord ?_ ?_ hsaved hreplays h)
  · exact hmove.kept.id.trans (Table.key_of_find? hcurrent)
  · exact hmove.publication_key.1.trans (Table.key_of_find? hpublication)

omit [PublicationRules] [ReplayRules] [LawfulPublicationRules] in
/-- A date's slug names its day at least. -/
theorem freeDateSlug_ne_empty (s : Pages) (id showId : Uuid) (startsAt : Instant)
    (timeZone : String) (now : Instant) : s.freeDateSlug id showId startsAt timeZone now ≠ "" := by
  intro hempty
  have hmem := (s.freeDateSlug_cases id showId startsAt timeZone now).1
  rw [hempty] at hmem
  simp only [dateSlugCandidates, List.mem_cons, List.not_mem_nil, or_false] at hmem
  rcases hmem with h | h | h
  all_goals
    have hlength := congrArg (fun slug => slug.toList.length) h
    simp at hlength

theorem transitionIn_moved {command : PublicationTransitionCommand}
    (h : transitionIn publicWebOrigin db dateId command now = .ok db') :
    Moved publicWebOrigin now db db' := by
  simp only [transitionIn, bind_ok_iff, require_ok_iff] at h
  obtain ⟨-, hcommanded, loaded, hload, date, hdate, h⟩ := h
  obtain ⟨hpublication, hcurrent, hevents, -⟩ := loadDate_eq_ok hload
  split_ifs at h with hreplay
  · simp only [bind_ok_iff] at h
    obtain ⟨replay, honline, saved, hsaved, stored, hstored, h⟩ := h
    obtain ⟨hended, hkept, hmoved, irreversible, hraised⟩ :=
      transitionPublication_online hevents hreplay hdate
    unfold replayPutOnline findReplay at honline
    cases hfound : db.replays.find? dateId with
    | none => simp [hfound, bind_ok_iff] at honline
    | some row =>
        simp only [hfound, Option.map_some] at honline
        obtain ⟨hpending, hfile, rfl⟩ := goOnline_eq_ok honline
        have hid : date.current.id = dateId := by rw [hkept, Table.key_of_find? hcurrent]
        rw [saveDate_eq_ok (hid.symm ▸ hcurrent) hsaved] at hstored
        have hput := saveReplay_eq_ok hstored
        rw [hraised] at h
        refine moved_of_recorded hload (.wentOnline hended hfound hpending hfile)
          (by rw [hput, hkept, hmoved]) (fun k => ?_) h
        have hkey : row.dateId = dateId := Table.key_of_find? hfound
        rw [hput, ← hkey]
        exact Table.find?_put (hkey.symm ▸ hfound)
  · simp only [bind_ok_iff] at h
    obtain ⟨saved, hsaved, h⟩ := h
    have hmove := transitionPublication_moves (db.replays.find? dateId) hevents hcommanded hreplay
      hdate
    have hid : date.current.id = dateId := hmove.kept.id.trans (Table.key_of_find? hcurrent)
    have hput := saveDate_eq_ok (hid.symm ▸ hcurrent) hsaved
    exact moved_of_recorded hload hmove (by rw [hput]) (fun k => by
      rw [hput]
      split_ifs with hk
      · rw [hk]
      · rfl) h

theorem declareIn_moved {body : DeclareOutcomeBody}
    (h : declareIn publicWebOrigin db dateId body now = .ok db') :
    Moved publicWebOrigin now db db' := by
  simp only [declareIn, bind_ok_iff, require_ok_iff] at h
  obtain ⟨-, hmoves, loaded, hload, date, hdate, saved, hsaved, h⟩ := h
  obtain ⟨-, hcurrent, hevents, -⟩ := loadDate_eq_ok hload
  obtain ⟨hpublic, hstanding, hpublication, previousSlug, hslug, houtcome⟩ :=
    declareOutcome_eq_ok hevents hdate
  have hkey : loaded.date.current.id = dateId := Table.key_of_find? hcurrent
  have hid : date.current.id = dateId := by
    rcases houtcome with ⟨-, hdeclared, -⟩ | ⟨movedTo, slug, -, -, hmoved, -⟩
    · rw [hdeclared]
      exact hkey
    · rw [hmoved]
      exact hkey
  have hput := saveDate_eq_ok (hid.symm ▸ hcurrent) hsaved
  have hreplays : ∀ k, saved.replays.find? k =
      if k = dateId then db.replays.find? dateId else db.replays.find? k := by
    intro k
    rw [hput]
    split_ifs with hk
    · rw [hk]
    · rfl
  let record : DateRecord :=
    ⟨loaded.date.current, loaded.date.publication, db.replays.find? dateId⟩
  have hwithdrawn : (if ReplayRules.outcomeWithdrawsReplay (some body.outcome) then
      (db.findReplay dateId).bind fun replay => replay.withdraw now else none) =
      record.withdrawnBy body.outcome now := by
    simp only [DateRecord.withdrawnBy, findReplay, Option.bind_map, record]
    rfl
  rw [hwithdrawn] at h
  rcases houtcome with ⟨-, hdeclared, hraised⟩ | ⟨movedTo, slug, hto, hfree, hmoved, hraised⟩
  · have hmove := @DateMove.declared _ _ now record body.outcome body.message hpublic hstanding
      (Option.isSome_iff_exists.mpr ⟨previousSlug, hslug⟩)
    cases htaken : record.withdrawnBy body.outcome now with
    | none =>
        rw [htaken] at hmove
        simp only [htaken, hraised] at h
        exact moved_of_recorded hload hmove (by rw [hput, hdeclared, hpublication]) hreplays h
    | some replay =>
        rw [htaken] at hmove
        simp only [htaken, bind_ok_iff, hraised] at h
        obtain ⟨stored, hstored, h⟩ := h
        refine moved_of_recorded hload hmove ?_ ?_ h
        · rw [saveReplay_eq_ok hstored, hput, hdeclared, hpublication]
        · intro k
          obtain ⟨row, hrow, -, rfl⟩ := withdrawnBy_eq_some htaken
          have hfound : db.replays.find? dateId = some row := hrow
          have hkeyed : row.dateId = dateId := Table.key_of_find? hfound
          rw [saveReplay_eq_ok hstored, hput, ← hkeyed]
          exact Table.find?_put (hkeyed.symm ▸ hfound)
  · have hpostponed : body.outcome = .postponed :=
      hmoves.mpr fun hnone => Option.some_ne_none movedTo (hto.symm.trans hnone)
    have hkept : record.withdrawnBy body.outcome now = none := by
      rw [hpostponed, DateRecord.withdrawnBy,
        LawfulPublicationRules.keeps_replay _ (.inr rfl), if_neg Bool.false_ne_true]
    have hnamed : slug ≠ "" := by
      obtain ⟨at', -, rfl⟩ := Option.map_eq_some_iff.mp hfree
      exact freeDateSlug_ne_empty _ _ _ _ _ _
    have hmove := @DateMove.postponed _ _ now record body.message movedTo previousSlug slug hpublic
      hstanding hslug hnamed
    rw [hkept, hraised] at h
    simp only [hpostponed] at h
    exact moved_of_recorded hload hmove (by rw [hput, hmoved, hpublication, hpostponed]) hreplays h

omit [ReplayRules] [LawfulPublicationRules] in
theorem draftIn_drafted {channelId : Uuid} {body : DraftDateBody}
    (h : draftIn publicWebOrigin db channelId body now = .ok db') :
    Drafted publicWebOrigin now db db' := by
  simp only [draftIn, bind_ok_iff, orRefuse_ok_iff, require_ok_iff] at h
  obtain ⟨shown, hshown, venue, hvenue, -, -, -, -, inserted, hinserted, h⟩ := h
  rw [Option.filter_eq_some_iff, decide_eq_true_eq] at hshown
  simp only [insertDate, bind_ok_iff, orRefuse_ok_iff, pure_ok_iff] at hinserted
  obtain ⟨dates, hdates, publications, hpublications, rfl⟩ := hinserted
  have hshowId : shown.id = body.showId := Table.key_of_find? hshown.1
  have hvenueId : venue.id = body.venueId := Table.key_of_find? hvenue
  obtain ⟨hdates', hpublications', hreplays, hshows, hvenues, hartists, hdetails, houtbox⟩ :=
    recordDateEvents_eq_ok h
  refine .intro (hshowId.symm ▸ hshown.1) hshown.2 (hvenueId.symm ▸ hvenue)
    (Table.insert_eq_some hdates).2 (Table.insert_eq_some hpublications).2 {
      dates := fun k => ?_
      publications := fun k => ?_
      replays := fun k => ?_
      shows := hshows
      venues := hvenues
      artists := hartists
      details := hdetails
      outbox := houtbox }
  · rw [hdates']
    exact Table.find?_insert hdates
  · rw [hpublications']
    exact Table.find?_insert hpublications
  · rw [hreplays]
    split_ifs with hk
    · rw [hk]
      rfl
    · rfl

omit [LawfulPublicationRules] [SlugRules] in
/-- The replay opened by an end, under its date's id. -/
theorem replayOpenedBy_key {date : PerformanceDateSnapshot} {endedAt : Instant} {opened : Replay}
    (h : replayOpenedBy date endedAt now = some opened) : opened.current.dateId = date.id := by
  simp only [replayOpenedBy] at h
  split_ifs at h
  cases h
  rfl

theorem learnRunFact_moved {messageId : Uuid} {fact : RunFact} {outcome : Outcome}
    (h : learnRunFact publicWebOrigin db messageId fact now = .ok (db', outcome)) :
    Unmoved db db' ∨ Moved publicWebOrigin now db db' := by
  unfold learnRunFact at h
  split at h
  · cases h
    exact .inl ⟨_, _, rfl⟩
  · next processed _ =>
    simp only [bind_ok_iff] at h
    obtain ⟨loaded, hload, h⟩ := h
    have hload' : db.loadDate fact.dateId = .ok loaded := hload
    obtain ⟨-, hcurrent, hevents, -⟩ := loadDate_eq_ok hload'
    have hkey : loaded.date.current.id = fact.dateId := Table.key_of_find? hcurrent
    have hput : ∀ {date saved},
        { db with processed := processed }.saveDate loaded.date date = .ok saved →
        date.current = loaded.date.current → saved = { db with
          dates := db.dates.put date.current
          publications := db.publications.put date.publication
          processed := processed } := fun hsaved hsame =>
      saveDate_eq_ok (by rw [hsame, hkey]; exact hcurrent) hsaved
    have hsame : ∀ k, db.replays.find? k =
        if k = fact.dateId then db.replays.find? fact.dateId else db.replays.find? k := by
      intro k
      split_ifs with hk
      · rw [hk]
      · rfl
    cases hfact : fact.endedAt with
    | none =>
        simp only [hfact, bind_ok_iff] at h
        obtain ⟨_ | date, hlearned, h⟩ := h
        · cases h
          exact .inl ⟨_, _, rfl⟩
        · obtain ⟨htechnical, rfl⟩ := learnRunStarted_eq_ok hevents hlearned
          simp only [Option.bind_none, bind_ok_iff, pure_ok_iff, Prod.mk.injEq] at h
          obtain ⟨saved, hsaved, _, hrecorded, rfl, -⟩ := h
          have hstored := hput hsaved rfl
          exact .inr (moved_of_recorded hload' (.runStarted htechnical) (by rw [hstored])
            (by rw [hstored]; exact hsame) hrecorded)
    | some endedAt =>
        simp only [hfact, bind_ok_iff] at h
        obtain ⟨_ | date, hlearned, h⟩ := h
        · cases h
          exact .inl ⟨_, _, rfl⟩
        · obtain ⟨hlive, rfl⟩ := learnRunEnded_eq_ok hevents hlearned
          obtain ⟨saved, hsaved, h⟩ := bind_ok_iff.mp h
          have hstored := hput hsaved rfl
          cases hopened : replayOpenedBy loaded.date.current endedAt now with
          | none =>
              simp only [Option.bind_some, hopened, bind_ok_iff, pure_ok_iff, Prod.mk.injEq] at h
              obtain ⟨_, hrecorded, rfl, -⟩ := h
              exact .inr (moved_of_recorded hload' (.runEnded hlive hopened) (by rw [hstored])
                (by rw [hstored]; exact hsame) hrecorded)
          | some opened =>
              simp only [Option.bind_some, hopened, bind_ok_iff, pure_ok_iff, Prod.mk.injEq] at h
              obtain ⟨inserted, hinserted, _, hrecorded, rfl, -⟩ := h
              obtain ⟨replays, hinsert, rfl⟩ := insertReplay_eq_ok hinserted
              rw [hstored] at hinsert
              have hopenedKey : opened.current.dateId = fact.dateId :=
                (replayOpenedBy_key hopened).trans hkey
              have hnone := (Table.insert_eq_some hinsert).2
              rw [hopenedKey] at hnone
              refine .inr (moved_of_recorded hload' (.replayOpened hlive hopened hnone)
                (by rw [hstored]) (fun k => ?_) hrecorded)
              rw [← hopenedKey]
              exact Table.find?_insert hinsert

omit [PublicationRules] [ReplayRules] [LawfulPublicationRules] [SlugRules] in
/-- What a fact about the file leaves of a replay's row. -/
theorem learnAsset_eq_some {replay : ReplaySnapshot} {fact : ReplayAssetFact} {moved : Replay}
    (h : learnAsset (Replay.restore replay) fact now = some moved) :
    replay.state ∈ STILL_OPEN ∧
      (fact.ready = none ∧ moved = (Replay.restore replay).moveTo .closed
          (fun current => { current with closedAt := some now }) now ∨
        ∃ asset, fact.ready = some asset ∧ replay.assetReadyAt = none ∧
          moved = ⟨{ replay with
            assetDurationSec := some asset.durationSec
            assetReadyAt := some asset.availableFrom
            version := replay.version + 1 }, []⟩) := by
  unfold learnAsset at h
  cases hfact : fact.ready with
  | none =>
      simp only [hfact, Replay.close] at h
      split_ifs at h with hopen
      exact ⟨hopen, .inl ⟨rfl, (Option.some.inj h).symm⟩⟩
  | some asset =>
      simp only [hfact, Replay.learnAssetReady] at h
      split_ifs at h with hopen
      rw [not_or, not_not, not_not] at hopen
      exact ⟨hopen.1, .inr ⟨asset, rfl, hopen.2, (Option.some.inj h).symm⟩⟩

omit [LawfulPublicationRules] [SlugRules] in
theorem learnReplayAssetFact_moved {publicationSeen replaySeen : Db} {messageId : Uuid}
    {fact : ReplayAssetFact} {outcome : Outcome} (hreferences : db.References)
    (h : learnReplayAssetFact db publicationSeen replaySeen messageId fact now =
      .ok (db', outcome)) :
    Unmoved db db' ∨ Moved publicWebOrigin now db db' := by
  unfold learnReplayAssetFact at h
  split at h
  · cases h
    exact .inl ⟨_, _, rfl⟩
  · next processed _ =>
    simp only [bind_ok_iff] at h
    obtain ⟨publication, -, h⟩ := h
    split at h
    · simp only [bind_ok_iff, pure_ok_iff, Prod.mk.injEq] at h
      obtain ⟨-, -, rfl, -⟩ := h
      exact .inl ⟨_, _, rfl⟩
    · next replay hfound =>
      obtain ⟨-, -, hread⟩ := Option.bind_eq_some_iff.mp hfound
      obtain ⟨row, hrow, rfl⟩ := Option.map_eq_some_iff.mp hread
      have hrow' : db.replays.find? fact.dateId = some row := hrow
      split at h
      · cases h
        exact .inl ⟨_, _, rfl⟩
      · next moved hmoved =>
        simp only [bind_ok_iff, pure_ok_iff, Prod.mk.injEq] at h
        obtain ⟨saved, hsaved, rfl, -⟩ := h
        rw [saveReplay_eq_ok hsaved]
        obtain ⟨publication, hpublication⟩ := hreferences.replayed hrow'
        obtain ⟨date, hdate⟩ := hreferences.dated hpublication
        obtain ⟨shown, hshown, -⟩ := hreferences.shown hdate
        obtain ⟨venue, hvenue⟩ := hreferences.venue hdate
        have hkey : row.dateId = fact.dateId := Table.key_of_find? hrow'
        have hid : date.id = fact.dateId := Table.key_of_find? hdate
        have hmovedKey : moved.current.dateId = row.dateId := by
          obtain ⟨-, ⟨-, rfl⟩ | ⟨_, -, -, rfl⟩⟩ := learnAsset_eq_some hmoved
          · rfl
          · rfl
        have hrecord : db.recordOf fact.dateId = some ⟨date, publication, some row⟩ :=
          recordOf_eq_some.mpr ⟨hpublication, hdate, hrow'⟩
        refine .inr (.intro hrecord (.assetLearned rfl hmoved) hshown hvenue {
          dates := fun k => ?_
          publications := fun k => ?_
          replays := fun k => ?_
          shows := rfl
          venues := rfl
          artists := rfl
          details := projectDateEvents_replay _ _ _ _
          outbox := ?_ })
        · split_ifs with hk
          · rw [hk, hid]
            exact hdate
          · rfl
        · split_ifs with hk
          · rw [hk, hid]
            exact hpublication
          · rfl
        · rw [hid, ← hkey, ← hmovedKey]
          exact Table.find?_put ((hmovedKey.trans hkey).symm ▸ hrow')
        · simp only [Db.recordReplayEvents, writeDateIntegrationEvents, List.map_map]
          rfl

theorem perform_step {w : World} {transaction : Transaction} (hreferences : w.db.References)
    (h : transaction.perform publicWebOrigin w = .ok db') : Step publicWebOrigin w.db db' := by
  cases transaction with
  | publishShow body showId now =>
      simp only [Transaction.perform, publishShow, bind_ok_iff, require_ok_iff, orRefuse_ok_iff,
        pure_ok_iff] at h
      obtain ⟨-, -, shows, hshows, rfl⟩ := h
      exact .showPublished hshows rfl
  | updateShow showId changes now =>
      simp only [Transaction.perform, updateShow, bind_ok_iff, orRefuse_ok_iff, pure_ok_iff] at h
      obtain ⟨shown, hshown, rfl⟩ := h
      have hkey : shown.id = showId := Table.key_of_find? hshown
      rw [← hkey] at hshown
      refine @Step.showUpdated _ _ _ _ _ shown _ now ?_ ?_ rfl
      · exact hshown
      · exact ⟨rfl, rfl, rfl, rfl, rfl, rfl, rfl, rfl, rfl⟩
  | createVenue venue =>
      simp only [Transaction.perform, createVenue, bind_ok_iff, orRefuse_ok_iff, pure_ok_iff] at h
      obtain ⟨venues, hvenues, rfl⟩ := h
      exact .venueCreated hvenues rfl
  | updateChannelIdentity channelId expectedVersion publicName newId now =>
      simp only [Transaction.perform, updateChannelIdentity, bind_ok_iff, require_ok_iff,
        orRefuse_ok_iff, pure_ok_iff] at h
      obtain ⟨-, -, publicName, -, rfl⟩ := h
      exact .faceUpdated (fun current hcurrent => by rw [hcurrent]; rfl) rfl
  | draftDate channelId body now => exact .drafted (draftIn_drafted h)
  | transitionPublication dateId command now => exact .moved (transitionIn_moved h)
  | declareOutcome dateId body now => exact .moved (declareIn_moved h)
  | recordChecklistFact messageId fact =>
      obtain ⟨⟨after, outcome⟩, hfact, rfl⟩ := map_ok_iff.mp h
      refine .unmoved ?_
      unfold recordChecklistFact at hfact
      split at hfact
      · cases hfact
        exact ⟨_, _, rfl⟩
      · simp only [bind_ok_iff, orRefuse_ok_iff] at hfact
        obtain ⟨-, -, hfact⟩ := hfact
        split_ifs at hfact
        · cases hfact
          exact ⟨_, _, rfl⟩
        · cases hfact
          exact ⟨_, _, rfl⟩
  | learnRunFact messageId fact now =>
      obtain ⟨⟨after, outcome⟩, hfact, rfl⟩ := map_ok_iff.mp h
      rcases learnRunFact_moved hfact with hunmoved | hmoved
      · exact .unmoved hunmoved
      · exact .moved hmoved
  | learnReplayAssetFact messageId fact reads now =>
      obtain ⟨⟨after, outcome⟩, hfact, rfl⟩ := map_ok_iff.mp h
      rcases learnReplayAssetFact_moved hreferences hfact with hunmoved | hmoved
      · exact .unmoved hunmoved
      · exact .moved hmoved

end Transactions

end Arthome.Catalog.Dates
