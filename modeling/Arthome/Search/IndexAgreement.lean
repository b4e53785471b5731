import Arthome.Catalog.DateCards
import Arthome.Search.DateStreams

/-!
# The index and the page agree

A date is read from two places: its public row, which catalog writes with the date, and the
search index, which the indexer fills from catalog's messages. Once every message of the date,
of its show and of its channel is applied, in any order and however often, the card read from
the index is the card read from the row, the venue's name aside; and a date that is not public
is in neither.
-/

namespace Arthome.Search

open Arthome.Core Library Library.Register
open Arthome.Catalog.Dates

/-! ## The columns a group ends on -/

section Columns

variable {φ α γ : Type} {states : φ → Option (ℤ × α)} {stated applied : List φ}

/-- Under growing stamps a group ends on what was stated last, however the facts came. -/
theorem columns_of_lastOf (columns : α → γ) (empty : γ)
    (hgrowing : (stated.filterMap states).Pairwise fun a b => a.1 < b.1)
    (h : Applies stated applied) :
    ((applied.filterMap states).foldl (Register.ofColumns columns).deliver (none, empty)).2 =
      (lastOf (stated.filterMap states)).elim empty columns := by
  have hsame : ∀ b, b ∈ applied.filterMap states ↔ b ∈ stated.filterMap states := by
    intro b
    simp only [List.mem_filterMap, h _]
  rw [foldl_deliver_of_log (Register.ofColumns columns) rfl hgrowing hsame, lastOf]
  cases (stated.filterMap states).getLast? <;> rfl

end Columns

/-! ## The row of a public date -/

/-- What the indexer's row of a public date says of its rows. -/
structure DateProjection.Mirrors (row : DateProjection) (origin showSlug : String) (venue : Venue)
    (record : DateRecord) (slug : String) : Prop where
  scheduled : ∃ startsAt first,
    row.scheduled = some (scheduledFields origin showSlug venue record.date startsAt first) ∧
    row.movedStartsAt.getD startsAt = record.date.startsAt ∧ row.movedSlug.getD first = slug ∧
    row.movedCanonicalUrl.getD (dateUrl origin showSlug first) = dateUrl origin showSlug slug
  publicationState : row.publicationState = some record.publication.state
  outcome : row.outcome = record.date.outcome
  rescheduledTo : row.outcomeRescheduledTo = record.date.rescheduledTo
  replayState : row.replayState = record.replay.map ReplaySnapshot.state
  replayLiveEndedAt : row.replayLiveEndedAt = record.replay.map ReplaySnapshot.liveEndedAt
  replayClosesAt : row.replayClosesAt = record.replay.map ReplaySnapshot.closesAt
  replayOnlineAt : row.replayOnlineAt = record.replay.bind ReplaySnapshot.onlineAt
  replayDurationSec : row.replayDurationSec = record.replay.bind fun replay =>
    if replay.onlineAt.isSome then replay.assetDurationSec else none

/-- The instants a date's declarations and moves are stated at grow. -/
structure DateInstantsGrow (facts : List DateFact) : Prop where
  declarations : (facts.filterMap DateFact.declaration).Pairwise fun a b => a.1 < b.1
  moves : (facts.filterMap DateFact.move).Pairwise fun a b => a.1 < b.1

section Rows

variable {origin showSlug slug : String} {venue : Venue} {record : DateRecord}
  {facts applied : List DateFact}

theorem scheduled_of_lastOf {fields : ScheduledDateFields}
    (hlast : lastOf (facts.filterMap DateFact.schedule) = some fields)
    (hgrowing : (facts.filterMap DateFact.schedule).Pairwise fun a b => a.1 < b.1)
    (happlied : Applies facts applied) (dateId : Uuid) :
    (rowOf (.empty dateId) applied).scheduled = some fields := by
  have hpart := congrArg Prod.snd (schedulePart_rowOf (.empty dateId) applied)
  have hcolumns := columns_of_lastOf (fun fields : ScheduledDateFields =>
    (some fields.showId, some fields)) (none, none) hgrowing happlied
  rw [hlast] at hcolumns
  exact congrArg Prod.snd (hpart.trans hcolumns)

/-- A replay's columns, as its row states them. -/
theorem replayColumns_eq {row : DateProjection} {replay : Option ReplaySnapshot}
    (h : row.replayPart.2 =
      (replay.map statedReplay).elim (none, none, none, none, none) fun replay =>
        (some replay.state, some replay.liveEndedAt, some replay.closesAt, replay.onlineAt,
          replay.durationSec)) :
    row.replayState = replay.map ReplaySnapshot.state ∧
      row.replayLiveEndedAt = replay.map ReplaySnapshot.liveEndedAt ∧
      row.replayClosesAt = replay.map ReplaySnapshot.closesAt ∧
      row.replayOnlineAt = replay.bind ReplaySnapshot.onlineAt ∧
      row.replayDurationSec = replay.bind fun replay =>
        if replay.onlineAt.isSome then replay.assetDurationSec else none := by
  simp only [DateProjection.replayPart] at h
  cases replay with
  | none =>
      simp only [Option.map_none, Option.elim_none, Prod.mk.injEq] at h
      exact h
  | some replay =>
      simp only [Option.map_some, Option.elim_some, Prod.mk.injEq] at h
      exact h

/-- Where the facts of a public date end its row. -/
theorem Streams.mirrors (h : Streams origin showSlug venue record facts)
    (hslug : record.date.slug = some slug) (hpublic : record.publication.state.isPublic = true)
    (hinstants : DateInstantsGrow facts) (happlied : Applies facts applied) (dateId : Uuid) :
    (rowOf (.empty dateId) applied).Mirrors origin showSlug venue record slug := by
  have houtcome : (rowOf (.empty dateId) applied).outcomePart.2 =
      (declaredOutcome record.date).elim (none, none) fun declared =>
        (declared.outcome, declared.rescheduledTo) := by
    rw [outcomePart_rowOf, ← h.declarations]
    exact columns_of_lastOf _ (none, none) hinstants.declarations happlied
  have hmove : (rowOf (.empty dateId) applied).movePart.2 =
      (lastOf (facts.filterMap DateFact.move)).elim (none, none, none) fun move =>
        (some move.startsAt, move.slug, move.canonicalUrl) := by
    rw [movePart_rowOf]
    exact columns_of_lastOf _ (none, none, none) hinstants.moves happlied
  have hreplay : (rowOf (.empty dateId) applied).replayPart.2 =
      (record.replay.map statedReplay).elim (none, none, none, none, none) fun replay =>
        (some replay.state, some replay.liveEndedAt, some replay.closesAt, replay.onlineAt,
          replay.durationSec) := by
    rw [replayPart_rowOf, ← h.replayChanges.last]
    exact columns_of_lastOf _ (none, none, none, none, none) h.replayChanges.growing happlied
  obtain ⟨hreplayState, hended, hcloses, honline, hduration⟩ := replayColumns_eq hreplay
  refine ⟨?_, ?_, ?_, ?_, hreplayState, hended, hcloses, honline, hduration⟩
  · obtain ⟨version, startsAt, first, hschedules, hplaced⟩ := h.scheduled hslug
    refine ⟨startsAt, first, ?_, ?_⟩
    · exact scheduled_of_lastOf (by rw [hschedules]; rfl)
        (by rw [hschedules]; exact List.pairwise_singleton _ _) happlied dateId
    · cases hlast : lastOf (facts.filterMap DateFact.move) with
      | none =>
          rw [hlast] at hmove hplaced
          simp only [DateProjection.movePart, Option.elim_none, Prod.mk.injEq] at hmove
          obtain ⟨hstart, hmovedSlug, hurl⟩ := hmove
          simp only [Option.getD_none, placedAt, DateMove.mk.injEq, Option.some.injEq] at hplaced
          rw [hstart, hmovedSlug, hurl]
          exact hplaced
      | some move =>
          rw [hlast] at hmove hplaced
          simp only [DateProjection.movePart, Option.elim_some, Prod.mk.injEq] at hmove
          obtain ⟨hstart, hmovedSlug, hurl⟩ := hmove
          rw [Option.getD_some] at hplaced
          rw [hstart, hmovedSlug, hurl, hplaced]
          exact ⟨rfl, rfl, rfl⟩
  · obtain ⟨state, hstate, htracks⟩ := h.transitions
    cases state with
    | none =>
        rw [Option.getD_none, Option.some.injEq] at hstate
        rw [← hstate] at hpublic
        cases hpublic
    | some state =>
        rw [Option.getD_some] at hstate
        obtain ⟨version, hlatest⟩ := htracks.isLatest
        have hknown : TransitionsKnown facts := by
          intro t ht hnone
          rw [← eq_of_isLatest ht hlatest.1 (isLatest_le hlatest ht.1), hstate] at hnone
          cases hnone
        rw [(publication_decided dateId hknown happlied hlatest).2, hstate]
  · have hcolumn := congrArg Prod.fst houtcome
    refine hcolumn.trans ?_
    unfold declaredOutcome
    cases record.date.outcome with
    | none => rfl
    | some outcome => rfl
  · have hcolumn := congrArg Prod.snd houtcome
    refine hcolumn.trans ?_
    unfold declaredOutcome
    cases hdeclared : record.date.outcome with
    | none => exact (h.undeclared hdeclared).symm
    | some outcome => rfl

/-- A date with no schedule stated is not scheduled. -/
theorem unscheduled_of_nil (hschedules : facts.filterMap DateFact.schedule = [])
    (happlied : Applies facts applied) (dateId : Uuid) :
    (rowOf (.empty dateId) applied).scheduled = none := by
  have hpart := schedulePart_rowOf (.empty dateId) applied
  rw [happlied.filterMap_eq_nil hschedules] at hpart
  exact congrArg (fun part => part.2.2) hpart

end Rows

/-! ## The row of a show, and a channel's face -/

section Shows

variable {shown : Show} {facts : List ShowFact} {applied : List (ShowFact × Option String)}

/-- Where a show's facts end its row. -/
theorem ShowStreams.mirrors (h : ShowStreams shown facts)
    (hgrowing : (facts.filterMap ShowFact.update).Pairwise fun a b => a.1 < b.1)
    (happlied : Applies facts (applied.map Prod.fst)) (showId : Uuid) :
    (∃ publishedAt, (showRowOf (.empty showId) applied).published =
        some (publishedFields shown publishedAt)) ∧
      (showRowOf (.empty showId) applied).updatable = some (updatableFields shown) := by
  constructor
  · obtain ⟨version, publishedAt, hpublished⟩ := h.published
    have hpart := congrArg Prod.snd (publishedPart_showRowOf (.empty showId) applied)
    have hcolumns := columns_of_lastOf (some : PublishedShowFields → _) none
      (by rw [hpublished]; exact List.pairwise_singleton _ _) happlied
    rw [hpublished] at hcolumns
    exact ⟨publishedAt, hpart.trans hcolumns⟩
  · have hpart := congrArg Prod.snd (updatablePart_showRowOf (.empty showId) applied)
    have hcolumns := columns_of_lastOf (some : UpdatableShowFields → _) none hgrowing happlied
    rw [h.updated] at hcolumns
    exact hpart.trans hcolumns

/-- The face kept of a channel is the one stated last. -/
theorem face_artistRowOf {stated applied : List ArtistFact}
    (hgrowing : (faceStatements stated).Pairwise fun a b => a.1 < b.1)
    (happlied : Applies stated applied) :
    (artistRowOf applied).map ArtistProjection.face = lastOf (faceStatements stated) := by
  have hsame : ∀ statement, statement ∈ faceStatements applied ↔
      statement ∈ faceStatements stated := by
    intro statement
    simp only [faceStatements, List.mem_map, happlied _]
  rw [artistRowOf_eq]
  change ((faceStatements applied).foldl artistRegister.deliver none).map _ = _
  rw [foldl_deliver_of_log artistRegister rfl hgrowing hsame, lastOf]
  cases (faceStatements stated).getLast? <;> rfl

end Shows

/-! ## The agreement -/

/-- The instants catalog stated each thing at grow, for the date, its show and its channel. -/
structure InstantsGrow (outbox : List CatalogMessage) (dateId showId channelId : Uuid) : Prop where
  date : DateInstantsGrow (dateFactsOf outbox dateId)
  updates : ((showFactsOf outbox showId).filterMap ShowFact.update).Pairwise fun a b => a.1 < b.1
  faces : (faceStatements (artistFactsOf outbox channelId)).Pairwise fun a b => a.1 < b.1

/-- What the indexer applied of an outbox: every fact of the date, of its show and of its channel,
in any order and at least once. -/
structure AppliedAll (outbox : List CatalogMessage) (dateId showId channelId : Uuid)
    (dateFacts : List DateFact) (showFacts : List (ShowFact × Option String))
    (artistFacts : List ArtistFact) : Prop where
  date : Applies (dateFactsOf outbox dateId) dateFacts
  shown : Applies (showFactsOf outbox showId) (showFacts.map Prod.fst)
  artist : Applies (artistFactsOf outbox channelId) artistFacts

/-- What a page is made of. -/
theorem page_eq_some {db : Db} {dateId : Uuid} {view : DateDetailPublic}
    (hreferences : db.References) (h : db.page dateId = some view) :
    ∃ record shown venue slug, db.recordOf dateId = some record ∧
      db.shows.find? record.date.showId = some shown ∧
      db.venues.find? record.date.venueId = some venue ∧ record.date.slug = some slug ∧
      record.page shown venue (db.artists.find? record.date.channelId) = some view := by
  cases hrecord : db.recordOf dateId with
  | none =>
      rw [Db.page_none hrecord] at h
      cases h
  | some record =>
      obtain ⟨shown, venue, hshown, hvenue⟩ := hreferences.of_record hrecord
      rw [Db.page_eq hrecord hshown hvenue] at h
      obtain ⟨slug, hslug, -⟩ := Option.map_eq_some_iff.mp h
      exact ⟨record, shown, venue, slug, rfl, hshown, hvenue, hslug, h⟩

section Agreement

variable [TimingRules] {origin : String}

/-- A document composed of rows that say the date's is read back as its page. -/
theorem publicDateOf_mirrors {kept : DateProjection} {showRow : ShowProjection} {record : DateRecord}
    {shown : Show} {venue : Venue} {artist : Option Artist} {slug : String} {publishedAt : Instant}
    {view : DateDetailPublic} (hmirrors : kept.Mirrors origin shown.slug venue record slug)
    (hid : kept.dateId = record.date.id)
    (hpublished : showRow.published = some (publishedFields shown publishedAt))
    (hupdatable : showRow.updatable = some (updatableFields shown))
    (hpublic : record.publication.state.isPublic = true)
    (hslug : record.date.slug = some slug) (hview : record.page shown venue artist = some view)
    (indexedAt : Instant) :
    ∃ scheduled, kept.scheduled = some scheduled ∧ scheduled.showId = record.date.showId ∧
      scheduled.channelId = record.date.channelId ∧
      servable (dateDocumentOf kept scheduled (some showRow) (artist.map faceOf) indexedAt) =
        true ∧
      publicDateOf (dateDocumentOf kept scheduled (some showRow) (artist.map faceOf) indexedAt) =
        some { publicDateOfRow view origin with venueName := none } := by
  obtain ⟨startsAt, first, hscheduled, hstart, hnamed, hurl⟩ := hmirrors.scheduled
  refine ⟨_, hscheduled, rfl, rfl, ?_, ?_⟩
  · have hdraft : record.publication.state ≠ .draft := fun hstate => by
      rw [hstate] at hpublic
      cases hpublic
    have hreserve : record.publication.state ≠ .reserve := fun hstate => by
      rw [hstate] at hpublic
      cases hpublic
    simp [servable, dateDocumentOf, scheduledFields, hmirrors.publicationState, hpublished, hdraft,
      hreserve]
  rw [DateRecord.page, hslug, Option.map_some, Option.some.injEq] at hview
  subst hview
  have hrenditions : ∀ renditions : List Rendition,
      (renditions.map indexedRendition).map renditionOf = renditions := by
    intro renditions
    rw [List.map_map]
    exact List.map_id _
  have hartistId : (((artist.map faceOf).map fun face => face.artistId).or
      (some shown.artistId)) = some ((artist.map Artist.id).getD shown.artistId) := by
    cases artist with
    | none => rfl
    | some artist => rfl
  have hartistName : (artist.map faceOf).map (fun face => face.publicName) =
      artist.map Artist.publicName := by
    cases artist with
    | none => rfl
    | some artist => rfl
  simp only [publicDateOf, dateDocumentOf, scheduledFields, publishedFields, updatableFields,
    showMediaOf, publicDateOfRow, hmirrors.publicationState, hmirrors.outcome, hmirrors.rescheduledTo,
    hmirrors.replayState, hmirrors.replayClosesAt, hmirrors.replayOnlineAt, hmirrors.replayDurationSec,
    hpublished, hupdatable, hstart, hnamed, hurl, hid, hrenditions, hartistId, hartistName,
    Option.bind_eq_bind, Option.bind_some, Option.map_some, Option.getD_some, Option.pure_def]

variable [PublicationRules] [ReplayRules] [LawfulPublicationRules] [SlugRules] [CardRules]

/-- The card read from the index is the card read from the row, the venue's name aside, and every
search lets it through; what is not public is not in the index. -/
theorem index_agrees_with_pages (transactions : List Transaction) (dateId : Uuid) :
    (∀ row, (World.reached origin transactions).db.details.find? dateId = some row →
      InstantsGrow (World.reached origin transactions).db.outbox dateId row.showId row.channelId →
      ∀ dateFacts showFacts artistFacts indexedAt,
        AppliedAll (World.reached origin transactions).db.outbox dateId row.showId row.channelId
          dateFacts showFacts artistFacts →
        ∃ scheduled, (rowOf (.empty dateId) dateFacts).scheduled = some scheduled ∧
          scheduled.showId = row.showId ∧ scheduled.channelId = row.channelId ∧
          let document := dateDocumentOf (rowOf (.empty dateId) dateFacts) scheduled
            (some (showRowOf (.empty row.showId) showFacts))
            ((artistRowOf artistFacts).map ArtistProjection.face) indexedAt
          servable document = true ∧ ∃ date, publicDateOf document = some date ∧
            ∀ now, date.dateCardOf now =
              ((publicDateOfRow row origin).dateCardOf now).withoutVenueName) ∧
    ((World.reached origin transactions).db.details.find? dateId = none →
      ∀ dateFacts, Applies (dateFactsOf (World.reached origin transactions).db.outbox dateId)
        dateFacts → (rowOf (.empty dateId) dateFacts).scheduled = none) := by
  obtain ⟨hreferences, hsound, hpages, hdates, hshows, hfaces⟩ := reached_agreed origin transactions
  constructor
  · intro row hrow hinstants dateFacts showFacts artistFacts indexedAt happlied
    have hpage : (World.reached origin transactions).db.page dateId = some row.unversioned := by
      rw [← hpages, Details.row, hrow, Option.map_some]
    obtain ⟨record, shown, venue, slug, hrecord, hshown, hvenue, hslug, hview⟩ :=
      page_eq_some hreferences hpage
    obtain ⟨hshowId, hchannelId⟩ := DateRecord.page_of_some hview
    change row.showId = _ at hshowId
    change row.channelId = _ at hchannelId
    have hpublic : record.publication.state.isPublic = true := by
      rw [(hsound _ _ hrecord).public_iff, hslug]
      rfl
    have hid : record.date.id = dateId := Table.key_of_find? (Db.recordOf_eq_some.mp hrecord).2.1
    have hmirrors := (hdates.said hrecord hshown hvenue).mirrors hslug hpublic hinstants.date
      happlied.date dateId
    obtain ⟨⟨publishedAt, hpublished⟩, hupdatable⟩ :=
      (hshows.said (hshowId ▸ hshown)).mirrors hinstants.updates happlied.shown row.showId
    have hface : (artistRowOf artistFacts).map ArtistProjection.face =
        ((World.reached origin transactions).db.artists.find? record.date.channelId).map faceOf := by
      rw [face_artistRowOf hinstants.faces happlied.artist, hfaces, hchannelId]
    obtain ⟨scheduled, hscheduled, hshow, hchannel, hservable, hdate⟩ :=
      publicDateOf_mirrors hmirrors ((dateId_rowOf _ _).trans hid.symm) hpublished hupdatable hpublic hslug
        hview indexedAt
    rw [← hface] at hservable hdate
    refine ⟨scheduled, hscheduled, hshow.trans hshowId.symm, hchannel.trans hchannelId.symm,
      hservable, _, hdate, fun now => ?_⟩
    exact (PublicDate.dateCardOf_withoutVenueName (publicDateOfRow row origin) now).symm
  · intro hnone dateFacts happlied
    have hpage : (World.reached origin transactions).db.page dateId = none := by
      rw [← hpages, Details.row, hnone, Option.map_none]
    cases hrecord : (World.reached origin transactions).db.recordOf dateId with
    | none =>
        have hundrafted := hdates.undrafted hrecord
        exact unscheduled_of_nil (by rw [hundrafted]; rfl) happlied dateId
    | some record =>
        obtain ⟨shown, venue, hshown, hvenue⟩ := hreferences.of_record hrecord
        rw [Db.page_eq hrecord hshown hvenue] at hpage
        have hslug := Option.map_eq_none_iff.mp hpage
        exact unscheduled_of_nil ((hdates.said hrecord hshown hvenue).unscheduled hslug).1
          happlied dateId

end Agreement

namespace Sample

open Arthome.Core.Sample Arthome.Catalog.Sample Arthome.Catalog.Dates.Sample

/-- The sample's date, indexed from its messages read backwards. -/
theorem index_agrees_with_pages_sample :
    ∃ row scheduled date, sampleDb.details.find? 7 = some row ∧
      (rowOf (.empty 7) (dateFactsOf sampleDb.outbox 7).reverse).scheduled = some scheduled ∧
      publicDateOf (dateDocumentOf (rowOf (.empty 7) (dateFactsOf sampleDb.outbox 7).reverse)
        scheduled
        (some (showRowOf (.empty 5) ((showFactsOf sampleDb.outbox 5).map fun fact => (fact, none))))
        ((artistRowOf (artistFactsOf sampleDb.outbox 2)).map ArtistProjection.face) 1) =
          some date ∧
      date.dateCardOf 1 =
        ((publicDateOfRow row "https://arthome.example").dateCardOf 1).withoutVenueName := by
  have hkeys : (sampleDb.details.find? 7).map (fun row => (row.showId, row.channelId)) =
      some (5, 2) := by decide +kernel
  obtain ⟨row, hrow, hkeys⟩ := Option.map_eq_some_iff.mp hkeys
  obtain ⟨hshow, hchannel⟩ := Prod.mk.injEq _ _ _ _ ▸ hkeys
  have hinstants : InstantsGrow sampleDb.outbox 7 row.showId row.channelId := by
    rw [hshow, hchannel]
    exact ⟨⟨by decide +kernel, by decide +kernel⟩, by decide +kernel, by decide +kernel⟩
  have happlied : AppliedAll sampleDb.outbox 7 row.showId row.channelId
      (dateFactsOf sampleDb.outbox 7).reverse
      ((showFactsOf sampleDb.outbox 5).map fun fact => (fact, none))
      (artistFactsOf sampleDb.outbox 2) := by
    rw [hshow, hchannel]
    refine ⟨fun fact => List.mem_reverse, fun fact => ?_, .refl _⟩
    simp
  obtain ⟨scheduled, hscheduled, -, -, -, date, hdate, hcard⟩ :=
    (index_agrees_with_pages sampleTransactions 7).1 row hrow hinstants _ _ _ 1 happlied
  rw [hshow] at hdate
  exact ⟨row, scheduled, date, hrow, hscheduled, hdate, hcard 1⟩

end Sample

end Arthome.Search
