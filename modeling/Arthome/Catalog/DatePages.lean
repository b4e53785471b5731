import Arthome.Catalog.DateRuns

/-!
# The public row is a view

A date's public row is what its own rows, its show's, its venue's and its channel's say,
its version aside: there exactly when the date is public, whatever order the commands, the
facts and the updates of a show or a channel's face came in. `DateRecord.page` is that
view; each write of the row is shown to keep up with it.
-/

namespace Arthome.Catalog.Dates

open Arthome.Core Library Messaging

/-- The row, its version aside. -/
def DateDetailPublic.unversioned (row : DateDetailPublic) : DateDetailPublic :=
  { row with version := 0 }

/-- What the rows say of a public date. -/
def DateRecord.page (record : DateRecord) (shown : Show) (venue : Venue) (artist : Option Artist) :
    Option DateDetailPublic :=
  record.date.slug.map fun slug => {
    dateId := record.date.id
    showId := record.date.showId
    channelId := record.date.channelId
    venueId := record.date.venueId
    venueName := venue.name
    venueCity := venue.city
    venueCountry := venue.country
    venueTimezone := venue.timeZone
    startsAt := record.date.startsAt
    runtimeMin := record.date.runtimeMin
    replayPolicy := record.date.replayPolicy
    replayWindowHours := record.date.replayWindowHours.getD 0
    rights := record.date.rights
    showSlug := shown.slug
    slug := slug
    publicationState := record.publication.state
    outcome := record.date.outcome
    artistName := artist.map Artist.publicName
    rescheduledTo := record.date.rescheduledTo
    replayState := record.replay.map ReplaySnapshot.state
    replayClosesAt := record.replay.map ReplaySnapshot.closesAt
    replayOnlineAt := record.replay.bind ReplaySnapshot.onlineAt
    replayDurationSec := record.replay.bind fun replay =>
      if replay.onlineAt.isSome then replay.assetDurationSec else none
    artistId := (artist.map Artist.id).getD shown.artistId
    categoryId := shown.categoryId
    genreIds := shown.genreIds
    tagIds := shown.tagIds
    languageDependency := shown.languageDependency
    spokenLanguages := shown.spokenLanguages
    subtitleLanguages := shown.subtitleLanguages
    surtitleLanguages := shown.surtitleLanguages
    media := shown.media
    title := shown.title
    synopsis := shown.synopsis
    version := 0 }

/-- What the tables say of a public date. -/
def Db.page (db : Db) (dateId : Uuid) : Option DateDetailPublic := do
  let record ← db.recordOf dateId
  let shown ← db.shows.find? record.date.showId
  let venue ← db.venues.find? record.date.venueId
  record.page shown venue (db.artists.find? record.date.channelId)

/-- The public row under an id, its version aside. -/
def Details.row (details : Details) (dateId : Uuid) : Option DateDetailPublic :=
  (details.find? dateId).map DateDetailPublic.unversioned

/-! ## The row's writes, its version aside -/

namespace Details

variable {details details' : Details} {dateId : Uuid}

theorem row_updateWhere {matched : DateDetailPublic → Bool}
    {changed : DateDetailPublic → DateDetailPublic}
    {hkey : ∀ row, (changed row).dateId = row.dateId}
    (hmatched : ∀ row, matched row.unversioned = matched row)
    (hchanged : ∀ row, (changed row).unversioned = changed row.unversioned) (dateId : Uuid) :
    (details.updateWhere matched changed hkey).row dateId =
      (details.row dateId).map fun row => if matched row then changed row else row := by
  unfold row updateWhere
  rw [Table.find?_update, Option.map_map, Option.map_map]
  congr 1
  funext row
  simp only [Function.comp, hmatched]
  split_ifs
  · rw [← hchanged]
    rfl
  · rfl

/-- The show's copy, as a row takes it. -/
def showCopied (next : Show) (row : DateDetailPublic) : DateDetailPublic :=
  { row with
    genreIds := next.genreIds
    tagIds := next.tagIds
    languageDependency := next.languageDependency
    media := next.media
    title := next.title
    synopsis := next.synopsis }

theorem row_projectShowCopy (next : Show) (dateId : Uuid) :
    (details.projectShowCopy next).row dateId =
      (details.row dateId).map fun row =>
        if row.showId = next.id then showCopied next row else row := by
  have hrow := @row_updateWhere details (fun row => decide (row.showId = next.id))
    (showCopied next) (fun _ => rfl) (fun _ => rfl) (fun _ => rfl) dateId
  simp only [decide_eq_true_eq] at hrow
  exact hrow

/-- The channel's face, as a row takes it. -/
def faceCopied (artist : Artist) (row : DateDetailPublic) : DateDetailPublic :=
  { row with artistId := artist.id, artistName := some artist.publicName }

theorem row_projectArtist (artist : Artist) (dateId : Uuid) :
    (details.projectArtist artist).row dateId =
      (details.row dateId).map fun row =>
        if row.channelId = artist.channelId then faceCopied artist row else row := by
  have hrow := @row_updateWhere details (fun row => decide (row.channelId = artist.channelId))
    (faceCopied artist) (fun _ => rfl) (fun _ => rfl) (fun _ => rfl) dateId
  simp only [decide_eq_true_eq] at hrow
  exact hrow

theorem row_dateId {row : DateDetailPublic} (h : details.row dateId = some row) :
    row.dateId = dateId := by
  obtain ⟨kept, hkept, rfl⟩ := Option.map_eq_some_iff.mp h
  have hkey : kept.dateId = dateId := Table.key_of_find? hkept
  exact hkey

/-- The events of one date that is not going public change its row, and no other. -/
theorem row_projectDateEvents_update {events : List DateKeyedEvent} {copies : DateCopies}
    {artistOf : Uuid → Option Artist}
    (hscheduled : events.findSome? DateKeyedEvent.scheduled = none)
    (hids : ∀ event ∈ events, event.dateId = dateId)
    (h : details.projectDateEvents events copies artistOf = .ok details') (k : Uuid) :
    details'.row k =
      if k = dateId then (details.row k).map (mergedChangesOf events).appliedTo
      else details.row k := by
  simp only [projectDateEvents, hscheduled, Except.ok.injEq] at h
  subst h
  have hnone : ∀ row, DateChanges.none.appliedTo row = row := fun row => rfl
  cases events with
  | nil =>
      simp only [updatePublicDate, mergedChangesOf, List.foldl_nil]
      split_ifs
      · exact (congrFun Option.map_id _).symm
      · rfl
  | cons first rest =>
      have hfirst : first.dateId = dateId := hids first List.mem_cons_self
      have hrow := @row_updateWhere details (fun row => decide (row.dateId = first.dateId))
        (mergedChangesOf (first :: rest)).appliedTo (fun _ => rfl) (fun _ => rfl) (fun _ => rfl) k
      simp only [updatePublicDate]
      by_cases hsame : mergedChangesOf (first :: rest) = DateChanges.none
      · rw [if_pos hsame, hsame]
        split_ifs
        · exact (congrFun Option.map_id _).symm
        · rfl
      · rw [if_neg hsame, hrow]
        cases hfound : details.row k with
        | none => simp
        | some row =>
            have hkey : row.dateId = k := row_dateId hfound
            simp only [Option.map_some, hkey, hfirst, decide_eq_true_eq]
            split_ifs
            · rfl
            · rfl

/-- A date going public has its whole row, and no other row changes. -/
theorem row_projectDateEvents_insert {events : List DateKeyedEvent} {copies : DateCopies}
    {artistOf : Uuid → Option Artist} {facts : PublicDateFacts}
    (hscheduled : events.findSome? DateKeyedEvent.scheduled = some facts)
    (h : details.projectDateEvents events copies artistOf = .ok details') :
    ∃ state, (mergedChangesOf events).publicationState = some state ∧ ∀ k, details'.row k =
      if k = facts.dateId then
        some ((mergedChangesOf events).appliedTo
          (publicRowOf facts copies (artistOf facts.channelId) state).unversioned)
      else details.row k := by
  simp only [projectDateEvents, hscheduled, insertPublicDate, bind_ok_iff, orRefuse_ok_iff] at h
  obtain ⟨state, hstate, hinsert⟩ := h
  refine ⟨state, hstate, fun k => ?_⟩
  unfold row
  rw [Table.find?_insert hinsert]
  split_ifs with hk hk' hk'
  · rfl
  · exact absurd hk hk'
  · exact absurd hk' hk
  · rfl

end Details

/-! ## The moves, seen on the page -/

section Moves

variable [PublicationRules] [ReplayRules] {now : Instant} {record record' : DateRecord}
  {events : List DateKeyedEvent}

/-- A replay opened states itself once. -/
theorem replayOpenedBy_eq_some {date : PerformanceDateSnapshot} {endedAt : Instant}
    {opened : Replay} (h : replayOpenedBy date endedAt now = some opened) :
    opened = Replay.opened date.id date.channelId date.replayPolicy endedAt
      (date.replayWindowHours.getD 0) now := by
  simp only [replayOpenedBy] at h
  split_ifs at h
  exact (Option.some.inj h).symm

/-- Every event of a move is the date's. -/
theorem DateMove.events_dateId (hmove : DateMove now record record' events) (h : record.Sound) :
    ∀ event ∈ events, event.dateId = record.date.id := by
  cases hmove with
  | transitioned | runStarted | runEnded =>
      simp [PublicationSnapshot.changeTo, DateKeyedEvent.dateId, h.key]
  | published => simp [PublicationSnapshot.changeTo, DateKeyedEvent.dateId, h.key, publicFactsOf]
  | wentOnline hended hreplay hpending hfile =>
      simp [PublicationSnapshot.changeTo, DateKeyedEvent.dateId, h.key, Replay.moveTo,
        Replay.restore, Replay.stateChanged, (h.follows hreplay).key]
  | replayOpened hlive hopened hnone =>
      rw [replayOpenedBy_eq_some hopened]
      simp [PublicationSnapshot.changeTo, DateKeyedEvent.dateId, h.key, Replay.opened,
        Replay.stateChanged]
  | @declared outcome message hpublic hstanding hslug =>
      cases htaken : record.withdrawnBy outcome now with
      | none => simp [DateKeyedEvent.dateId]
      | some moved =>
          obtain ⟨replay, hreplay, -, rfl⟩ := withdrawnBy_eq_some htaken
          simp [DateKeyedEvent.dateId, Replay.moveTo, Replay.restore, Replay.stateChanged,
            (h.follows hreplay).key]
  | postponed hpublic hstanding hslug => simp [DateKeyedEvent.dateId]
  | @assetLearned replay fact moved hreplay hmoved =>
      obtain ⟨-, ⟨-, rfl⟩ | ⟨asset, -, -, rfl⟩⟩ := learnAsset_eq_some hmoved
      · simp [DateKeyedEvent.dateId, Replay.moveTo, Replay.restore, Replay.stateChanged,
          (h.follows hreplay).key]
      · simp

/-- A move that leaves the date as public as it was changes the page by its events. -/
theorem DateMove.page_updated (hmove : DateMove now record record' events) (h : record.Sound)
    (hscheduled : events.findSome? DateKeyedEvent.scheduled = none) (shown : Show) (venue : Venue)
    (artist : Option Artist) :
    record'.page shown venue artist =
      (record.page shown venue artist).map (mergedChangesOf events).appliedTo := by
  cases hmove with
  | transitioned | runStarted | runEnded =>
      simp [DateRecord.page, Function.comp_def, mergedChangesOf, changesOf,
        PublicationSnapshot.changeTo, DateChanges.merge, DateChanges.none, DateChanges.appliedTo,
        PublicationSnapshot.movedTo]
  | published => cases hscheduled
  | wentOnline hended hreplay hpending hfile =>
      simp [DateRecord.page, Function.comp_def, mergedChangesOf, changesOf, replayChangesOf,
        PublicationSnapshot.changeTo, DateChanges.merge, DateChanges.none, DateChanges.appliedTo,
        PublicationSnapshot.movedTo, Replay.moveTo, Replay.restore, Replay.stateChanged]
  | replayOpened hlive hopened hnone =>
      rw [replayOpenedBy_eq_some hopened]
      simp [DateRecord.page, Function.comp_def, mergedChangesOf, changesOf, replayChangesOf,
        PublicationSnapshot.changeTo, DateChanges.merge, DateChanges.none, DateChanges.appliedTo,
        PublicationSnapshot.movedTo, Replay.opened, Replay.stateChanged]
  | @declared outcome message hpublic hstanding hslug =>
      cases htaken : record.withdrawnBy outcome now with
      | none =>
          simp [DateRecord.page, Function.comp_def, mergedChangesOf, changesOf, DateChanges.merge,
            DateChanges.none, DateChanges.appliedTo, PerformanceDateSnapshot.declared]
      | some moved =>
          obtain ⟨replay, hreplay, -, rfl⟩ := withdrawnBy_eq_some htaken
          simp [DateRecord.page, Function.comp_def, mergedChangesOf, changesOf, replayChangesOf,
            DateChanges.merge, DateChanges.none, DateChanges.appliedTo,
            PerformanceDateSnapshot.declared, Replay.moveTo, Replay.restore, Replay.stateChanged]
          rfl
  | postponed hpublic hstanding hslug =>
      simp [DateRecord.page, hslug, mergedChangesOf, changesOf, DateChanges.merge,
        DateChanges.none, DateChanges.appliedTo, PerformanceDateSnapshot.movedOn]
  | @assetLearned replay fact moved hreplay hmoved =>
      obtain ⟨hopen, ⟨-, rfl⟩ | ⟨asset, -, hfile, rfl⟩⟩ := learnAsset_eq_some hmoved
      · simp [DateRecord.page, Function.comp_def, mergedChangesOf, changesOf, replayChangesOf,
          DateChanges.merge, DateChanges.none, DateChanges.appliedTo, Replay.moveTo,
          Replay.restore, Replay.stateChanged]
        rfl
      · have honline : replay.onlineAt = none := by
          cases hat : replay.onlineAt with
          | none => rfl
          | some onlineAt =>
              have hready := (h.follows hreplay).file (by rw [hat]; rfl)
              rw [hfile] at hready
              cases hready
        simp [DateRecord.page, Function.comp_def, mergedChangesOf, DateChanges.none,
          DateChanges.appliedTo, hreplay, honline]

/-- A move that makes the date public states all of its page. -/
theorem DateMove.page_inserted (hmove : DateMove now record record' events) (h : record.Sound)
    {facts : PublicDateFacts} (hscheduled : events.findSome? DateKeyedEvent.scheduled = some facts)
    (state : PublicationState) (copies : DateCopies)
    (hvenue : copies.venue.id = record.date.venueId) (artist : Option Artist) :
    facts.dateId = record.date.id ∧ facts.channelId = record.date.channelId ∧
      record'.page copies.shown copies.venue artist = some
        ((mergedChangesOf events).appliedTo (publicRowOf facts copies artist state).unversioned) := by
  have hreplays : ∀ changes : List ReplayStateChanged,
      (changes.map DateKeyedEvent.replayStateChanged).findSome? DateKeyedEvent.scheduled = none := by
    intro changes
    rw [List.findSome?_eq_none_iff]
    intro event hevent
    obtain ⟨change, -, rfl⟩ := List.mem_map.mp hevent
    rfl
  cases hmove with
  | @published toState irreversible slug runtimeMin hcommanded hprivate hpublic hreplay hslug =>
      cases hscheduled
      have hnone : record.replay = none := h.replay_none (not_ended_of_private hprivate)
      obtain ⟨houtcome, hrescheduled⟩ := h.undeclared hslug
      refine ⟨rfl, rfl, ?_⟩
      simp [DateRecord.page, mergedChangesOf, changesOf, PublicationSnapshot.changeTo,
        DateChanges.merge, DateChanges.none, DateChanges.appliedTo, PublicationSnapshot.movedTo,
        publicRowOf, publicFactsOf, DateDetailPublic.unversioned, hnone, houtcome, hrescheduled,
        hvenue]
  | transitioned | runStarted | runEnded | postponed => cases hscheduled
  | wentOnline | replayOpened | declared =>
      rw [List.findSome?_cons] at hscheduled
      exact absurd (hscheduled.symm.trans (hreplays _)) (Option.some_ne_none _)
  | assetLearned => exact absurd (hscheduled.symm.trans (hreplays _)) (Option.some_ne_none _)

end Moves

/-! ## The view kept up -/

/-- The public rows are what the tables say of each date. -/
def Db.PagesAreViews (db : Db) : Prop :=
  ∀ dateId, db.details.row dateId = db.page dateId

theorem pagesAreViews_empty : Db.PagesAreViews .empty := fun _ => rfl

/-- A page after a show's update. -/
theorem DateRecord.page_showUpdated {shown next : Show} (h : Db.ShowKept shown next)
    (record : DateRecord) (venue : Venue) (artist : Option Artist) :
    record.page next venue artist =
      (record.page shown venue artist).map (Details.showCopied next) := by
  cases hslug : record.date.slug with
  | none => simp [DateRecord.page, hslug]
  | some slug =>
      simp [DateRecord.page, hslug, Details.showCopied, h.slug, h.artistId, h.categoryId,
        h.spokenLanguages, h.subtitleLanguages, h.surtitleLanguages]

/-- A page under its channel's face. -/
theorem DateRecord.page_faceUpdated (record : DateRecord) (shown : Show) (venue : Venue)
    (kept : Option Artist) (artist : Artist) :
    record.page shown venue (some artist) =
      (record.page shown venue kept).map (Details.faceCopied artist) := by
  cases hslug : record.date.slug with
  | none => simp [DateRecord.page, hslug]
  | some slug => simp [DateRecord.page, hslug, Details.faceCopied]

/-- What a page shows of its date. -/
theorem DateRecord.page_of_some {record : DateRecord} {shown : Show} {venue : Venue}
    {artist : Option Artist} {row : DateDetailPublic}
    (h : record.page shown venue artist = some row) :
    row.showId = record.date.showId ∧ row.channelId = record.date.channelId := by
  obtain ⟨slug, -, rfl⟩ := Option.map_eq_some_iff.mp h
  exact ⟨rfl, rfl⟩

namespace Db

variable {db db' : Db} {dateId : Uuid} {record : DateRecord}

theorem page_eq {shown : Show} {venue : Venue} (hrecord : db.recordOf dateId = some record)
    (hshown : db.shows.find? record.date.showId = some shown)
    (hvenue : db.venues.find? record.date.venueId = some venue) :
    db.page dateId = record.page shown venue (db.artists.find? record.date.channelId) := by
  simp only [page, hrecord, hshown, hvenue, Option.bind_eq_bind, Option.bind_some]

theorem page_none (hrecord : db.recordOf dateId = none) : db.page dateId = none := by
  simp only [page, hrecord, Option.bind_eq_bind, Option.bind_none]

theorem References.of_record (h : db.References) (hrecord : db.recordOf dateId = some record) :
    ∃ shown venue, db.shows.find? record.date.showId = some shown ∧
      db.venues.find? record.date.venueId = some venue := by
  obtain ⟨-, hdate, -⟩ := recordOf_eq_some.mp hrecord
  obtain ⟨shown, hshown, -⟩ := h.shown hdate
  obtain ⟨venue, hvenue⟩ := h.venue hdate
  exact ⟨shown, venue, hshown, hvenue⟩

/-- A transaction on a show or a channel keeps the views when it changes each page as its row. -/
theorem PagesAreViews.of_pages (h : db.PagesAreViews) (hreferences : db.References)
    (hrecords : ∀ dateId, db'.recordOf dateId = db.recordOf dateId)
    {changed : DateDetailPublic → DateDetailPublic}
    (hrows : ∀ dateId, db'.details.row dateId = (db.details.row dateId).map changed)
    (hpages : ∀ {dateId record shown venue}, db.recordOf dateId = some record →
      db.shows.find? record.date.showId = some shown →
      db.venues.find? record.date.venueId = some venue →
      ∃ shown' venue', db'.shows.find? record.date.showId = some shown' ∧
        db'.venues.find? record.date.venueId = some venue' ∧
        record.page shown' venue' (db'.artists.find? record.date.channelId) =
          (record.page shown venue (db.artists.find? record.date.channelId)).map changed) :
    db'.PagesAreViews := by
  intro dateId
  rw [hrows, h dateId]
  cases hrecord : db.recordOf dateId with
  | none => rw [page_none hrecord, page_none ((hrecords dateId).trans hrecord), Option.map_none]
  | some record =>
      obtain ⟨shown, venue, hshown, hvenue⟩ := hreferences.of_record hrecord
      obtain ⟨shown', venue', hshown', hvenue', hpage⟩ := hpages hrecord hshown hvenue
      rw [page_eq hrecord hshown hvenue, page_eq ((hrecords dateId).trans hrecord) hshown' hvenue',
        hpage]

/-- A date's rows written keep the views when the date's row follows, and no other row changes. -/
theorem PagesAreViews.of_written {events : List DateKeyedEvent} {context : DateWireContext}
    (h : db.PagesAreViews) (hwritten : Written db db' record events context)
    (hrow : db'.details.row record.date.id = db'.page record.date.id)
    (hother : ∀ k, k ≠ record.date.id → db'.details.row k = db.details.row k) :
    db'.PagesAreViews := by
  intro k
  by_cases hk : k = record.date.id
  · rw [hk, hrow]
  · rw [hother k hk, h k]
    have hsame : db'.recordOf k = db.recordOf k := by rw [recordOf_written hwritten, if_neg hk]
    simp only [page, hsame, hwritten.shows, hwritten.venues, hwritten.artists]

variable [PublicationRules] [ReplayRules] [LawfulPublicationRules] {publicWebOrigin : String}

omit [LawfulPublicationRules] in
theorem PagesAreViews.step (h : db.PagesAreViews) (hreferences : db.References)
    (hsound : db.RecordsSound) (hstep : Step publicWebOrigin db db') : db'.PagesAreViews := by
  cases hstep with
  | unmoved hunmoved =>
      obtain ⟨_, _, rfl⟩ := hunmoved
      exact h
  | showPublished hinsert hdb =>
      subst hdb
      refine h.of_pages hreferences (fun _ => rfl) (fun _ => (congrFun Option.map_id _).symm) ?_
      intro dateId record shown venue hrecord hshown hvenue
      exact ⟨shown, venue, Table.find?_of_insert hinsert hshown, hvenue,
        (congrFun Option.map_id _).symm⟩
  | venueCreated hinsert hdb =>
      subst hdb
      refine h.of_pages hreferences (fun _ => rfl) (fun _ => (congrFun Option.map_id _).symm) ?_
      intro dateId record shown venue hrecord hshown hvenue
      exact ⟨shown, venue, hshown, Table.find?_of_insert hinsert hvenue,
        (congrFun Option.map_id _).symm⟩
  | @showUpdated kept next now hkeptShown hkept hdb =>
      subst hdb
      refine h.of_pages hreferences (fun _ => rfl) (Details.row_projectShowCopy next) ?_
      intro dateId record shown venue hrecord hshown hvenue
      by_cases hshow : record.date.showId = next.id
      · rw [hshow, hkeptShown] at hshown
        cases hshown
        refine ⟨next, venue, ?_, hvenue, ?_⟩
        · rw [hshow]
          exact Table.find?_put_self hkeptShown
        · rw [record.page_showUpdated hkept]
          refine Option.map_congr fun row hrow => ?_
          rw [if_pos ((DateRecord.page_of_some hrow).1.trans hshow)]
      · refine ⟨shown, venue, (Table.find?_put_of_ne (Ne.symm hshow)).trans hshown, hvenue, ?_⟩
        refine ((congrFun Option.map_id _).symm).trans (Option.map_congr fun row hrow => ?_)
        rw [if_neg fun hsame => hshow ((DateRecord.page_of_some hrow).1.symm.trans hsame)]
        rfl
  | @faceUpdated artist now hid hdb =>
      subst hdb
      refine h.of_pages hreferences (fun _ => rfl) (Details.row_projectArtist artist) ?_
      intro dateId record shown venue hrecord hshown hvenue
      refine ⟨shown, venue, hshown, hvenue, ?_⟩
      rw [Table.find?_upsert]
      split_ifs with hchannel
      · rw [record.page_faceUpdated shown venue (db.artists.find? record.date.channelId)]
        refine Option.map_congr fun row hrow => ?_
        rw [if_pos ((DateRecord.page_of_some hrow).2.trans hchannel)]
      · refine ((congrFun Option.map_id _).symm).trans (Option.map_congr fun row hrow => ?_)
        rw [if_neg fun hsame => hchannel ((DateRecord.page_of_some hrow).2.symm.trans hsame)]
        rfl
  | @drafted now hdrafted =>
      obtain @⟨draft, shown, venue, hshown, -, hvenue, -, hpublication, hwritten⟩ := hdrafted
      have hrows := Details.row_projectDateEvents_update rfl
        (fun event hevent => by
          cases List.mem_singleton.mp hevent
          rfl : ∀ event ∈ (PerformanceDate.draft draft now).events, event.dateId = draft.id)
        hwritten.details
      have hnone : db.details.row draft.id = none := by
        rw [h, page_none]
        simp [recordOf, hpublication]
      refine h.of_written hwritten ?_ fun k hk => ?_
      · change db'.details.row draft.id = db'.page draft.id
        have hrecord := (recordOf_written hwritten draft.id).trans (if_pos rfl)
        rw [hrows, if_pos rfl, hnone,
          page_eq hrecord (hwritten.shows.symm ▸ hshown) (hwritten.venues.symm ▸ hvenue)]
        rfl
      · have hk' : k ≠ draft.id := hk
        rw [hrows, if_neg hk']
  | moved hmoved =>
      obtain @⟨dateId, record, record', events, shown, venue, hrecord, hmove, hshown, hvenue,
        hwritten⟩ := hmoved
      have hsound := hsound _ _ hrecord
      have hkept := hmove.kept
      have hid : record.date.id = dateId :=
        Table.key_of_find? (recordOf_eq_some.mp hrecord).2.1
      have hrow : db.details.row record.date.id =
          record.page shown venue (db.artists.find? record.date.channelId) := by
        rw [h, hid, page_eq hrecord hshown hvenue]
      have hpage : db'.page record'.date.id =
          record'.page shown venue (db.artists.find? record'.date.channelId) := by
        have hrecord' := (recordOf_written hwritten record'.date.id).trans (if_pos rfl)
        rw [← hkept.showId, ← hwritten.shows] at hshown
        rw [← hkept.venueId, ← hwritten.venues] at hvenue
        rw [page_eq hrecord' hshown hvenue, hwritten.artists]
      cases hscheduled : events.findSome? DateKeyedEvent.scheduled with
      | none =>
          have hrows := Details.row_projectDateEvents_update hscheduled
            (hmove.events_dateId hsound) hwritten.details
          refine h.of_written hwritten ?_ fun k hk => by rw [hrows, if_neg (hkept.id ▸ hk)]
          rw [hpage, hmove.page_updated hsound hscheduled, hrows, if_pos hkept.id, hkept.id,
            hkept.channelId, hrow]
      | some facts =>
          obtain ⟨state, -, hrows⟩ := Details.row_projectDateEvents_insert hscheduled
            hwritten.details
          obtain ⟨hfacts, hchannel, hinserted⟩ := hmove.page_inserted hsound hscheduled
            state ⟨shown, venue⟩ (Table.key_of_find? hvenue)
            (db.artists.find? record.date.channelId)
          refine h.of_written hwritten ?_ fun k hk => by
            rw [hrows, if_neg fun hsame => hk (by rw [hsame, hfacts, hkept.id])]
          rw [hpage, hkept.channelId, hinserted, hrows, if_pos (by rw [hkept.id, hfacts]), hchannel]

end Db

/-! ## Over every run -/

section Runs

variable [PublicationRules] [ReplayRules] [LawfulPublicationRules] [SlugRules]
  {publicWebOrigin : String}

variable (publicWebOrigin) in
theorem World.reached_pages (transactions : List Transaction) :
    (World.reached publicWebOrigin transactions).db.PagesAreViews := by
  have hkept : (World.reached publicWebOrigin transactions).db.References ∧
      ((World.reached publicWebOrigin transactions).db.RecordsSound ∧
        (World.reached publicWebOrigin transactions).db.PagesAreViews) :=
    World.reached_keeps (P := fun db => db.RecordsSound ∧ db.PagesAreViews)
      ⟨Db.recordsSound_empty, pagesAreViews_empty⟩
      (fun hreferences h hstep =>
        ⟨h.1.step hreferences hstep, h.2.step hreferences h.1 hstep⟩) transactions
  exact hkept.2.2

/-- In every run the public row of a date is what its rows, its show's, its venue's and its
channel's say, its version aside; and there is one exactly when the date is public. -/
theorem public_rows_are_views (transactions : List Transaction) (dateId : Uuid) :
    (World.reached publicWebOrigin transactions).db.details.row dateId =
        (World.reached publicWebOrigin transactions).db.page dateId ∧
      (((World.reached publicWebOrigin transactions).db.details.find? dateId).isSome = true ↔
        ∃ publication,
          (World.reached publicWebOrigin transactions).db.publications.find? dateId =
            some publication ∧ publication.state.isPublic = true) := by
  have hpage := World.reached_pages publicWebOrigin transactions dateId
  obtain ⟨hreferences, hsound⟩ := World.reached_sound publicWebOrigin transactions
  refine ⟨hpage, ?_⟩
  have hrow : ((World.reached publicWebOrigin transactions).db.details.find? dateId).isSome =
      ((World.reached publicWebOrigin transactions).db.page dateId).isSome := by
    rw [← hpage, Details.row, Option.isSome_map]
  rw [hrow]
  cases hpublication : (World.reached publicWebOrigin transactions).db.publications.find? dateId with
  | none =>
      rw [Db.page_none (by simp [Db.recordOf, hpublication])]
      simp
  | some publication =>
      obtain ⟨date, hdate⟩ := hreferences.dated hpublication
      have hrecord : (World.reached publicWebOrigin transactions).db.recordOf dateId =
          some ⟨date, publication,
            (World.reached publicWebOrigin transactions).db.replays.find? dateId⟩ :=
        Db.recordOf_eq_some.mpr ⟨hpublication, hdate, rfl⟩
      obtain ⟨shown, venue, hshown, hvenue⟩ := hreferences.of_record hrecord
      rw [Db.page_eq hrecord hshown hvenue, DateRecord.page, Option.isSome_map,
        ← (hsound _ _ hrecord).public_iff]
      simp

end Runs

namespace Sample

open Arthome.Core.Sample Arthome.Catalog.Sample

theorem public_rows_are_views_sample :
    sampleDb.details.row 7 = sampleDb.page 7 ∧
      (sampleDb.page 7).map (fun row => (row.slug, row.genreIds, row.artistName, row.replayState)) =
        some ("2026-12-16", ["tragedie"], some "troupe", some .online) := by
  refine ⟨(public_rows_are_views sampleTransactions 7).1, ?_⟩
  decide +kernel

end Sample

end Arthome.Catalog.Dates
