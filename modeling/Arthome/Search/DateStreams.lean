import Arthome.Search.PublishedFacts

/-!
# The outbox over every run

Whatever commands and facts catalog committed, what the indexer reads of its outbox about a
date says where the date's rows stand, what it reads about a show says the show, and what it
reads about a channel says its face. Each transaction adds to one show's or one channel's
facts, and leaves the others'.
-/

namespace Arthome.Search

open Arthome.Core Library Library.Register
open Arthome.Catalog.Dates

/-! ## The facts of a show and of a channel -/

/-- What a publication states of a show, once and for all. -/
def publishedFields (shown : Show) (publishedAt : Instant) : PublishedShowFields where
  channelId := shown.channelId
  artistId := shown.artistId
  categoryId := shown.categoryId
  runtimeMin := shown.runtimeMin
  spokenLanguages := shown.spokenLanguages
  subtitleLanguages := shown.subtitleLanguages
  surtitleLanguages := shown.surtitleLanguages
  publishedAt := publishedAt

/-- What a publication states of a show, and every update again. -/
def updatableFields (shown : Show) : UpdatableShowFields where
  genreIds := shown.genreIds
  tagIds := shown.tagIds
  languageDependency := some shown.languageDependency
  media := showMediaOf shown.media
  title := shown.title
  synopsis := shown.synopsis

/-- A show's facts say the show. -/
structure ShowStreams (shown : Show) (facts : List ShowFact) : Prop where
  published : ∃ version publishedAt, facts.filterMap ShowFact.publication =
    [(version, publishedFields shown publishedAt)]
  updated : lastOf (facts.filterMap ShowFact.update) = some (updatableFields shown)

/-- What catalog says of a channel. -/
def faceOf (artist : Artist) : ArtistFace := ⟨artist.id, artist.publicName⟩

/-- The statements of a channel's face. -/
def faceStatements (facts : List ArtistFact) : List (ℤ × ArtistFace) :=
  facts.map fun fact => (fact.version, fact.face)

theorem publishedFactOf_shown (shown : Show) (now : Instant) (showId : Uuid) :
    showFactsOf [showPublishedMessage shown now] showId =
      if shown.id = showId then [⟨now, some (publishedFields shown now), updatableFields shown⟩]
      else [] := by
  split_ifs with hid
  · simp [showFactsOf, showPublishedMessage, publishedFactOf, publishedFields, updatableFields, hid]
  · simp [showFactsOf, showPublishedMessage, hid]

theorem updatedFactOf_shown (shown : Show) (now : Instant) (showId : Uuid) :
    showFactsOf [showUpdatedMessage shown now] showId =
      if shown.id = showId then [⟨now, none, updatableFields shown⟩] else [] := by
  split_ifs with hid
  · simp [showFactsOf, showUpdatedMessage, updatedFactOf, updatableFields, hid]
  · simp [showFactsOf, showUpdatedMessage, hid]

theorem showStreams_published (shown : Show) (now : Instant) : ShowStreams shown
    [⟨now, some (publishedFields shown now), updatableFields shown⟩] :=
  ⟨⟨now, now, rfl⟩, rfl⟩

/-- An update says the show anew. -/
theorem ShowStreams.updated_to {shown next : Show} {facts : List ShowFact}
    (h : ShowStreams shown facts) (hkept : Db.ShowKept shown next) (now : Instant) :
    ShowStreams next (facts ++ [⟨now, none, updatableFields next⟩]) where
  published := by
    obtain ⟨version, publishedAt, hpublished⟩ := h.published
    refine ⟨version, publishedAt, ?_⟩
    rw [List.filterMap_append, hpublished]
    simp only [publishedFields, hkept.channelId, hkept.artistId, hkept.categoryId, hkept.runtimeMin,
      hkept.spokenLanguages, hkept.subtitleLanguages, hkept.surtitleLanguages]
    rfl
  updated := by
    rw [List.filterMap_append]
    exact lastOf_concat

/-! ## What the outbox says -/

/-- The outbox says where every date stands, and nothing of a date not drafted. -/
structure DatesSaid (origin : String) (db : Db) : Prop where
  said : ∀ {dateId record shown venue}, db.recordOf dateId = some record →
    db.shows.find? record.date.showId = some shown →
    db.venues.find? record.date.venueId = some venue →
    Streams origin shown.slug venue record (dateFactsOf db.outbox dateId)
  undrafted : ∀ {dateId}, db.recordOf dateId = none → dateFactsOf db.outbox dateId = []

theorem datesSaid_of_chronicled {origin : String} {db : Db} (h : Chronicled origin db) :
    DatesSaid origin db where
  said hrecord hshown hvenue := by
    rw [dateFactsOf_eq]
    exact streams_of_chronicle (h.said hrecord hshown hvenue)
  undrafted hnone := by
    rw [dateFactsOf_eq, h.undrafted hnone]
    rfl

/-- The outbox says every show, and nothing of a show not published. -/
structure ShowsSaid (db : Db) : Prop where
  said : ∀ {showId shown}, db.shows.find? showId = some shown →
    ShowStreams shown (showFactsOf db.outbox showId)
  unpublished : ∀ {showId}, db.shows.find? showId = none → showFactsOf db.outbox showId = []

/-- The outbox says every channel's face. -/
def FacesSaid (db : Db) : Prop :=
  ∀ channelId, lastOf (faceStatements (artistFactsOf db.outbox channelId)) =
    (db.artists.find? channelId).map faceOf

section Outbox

variable {outbox messages : List CatalogMessage} {events : List DateKeyedEvent}
  {context : DateWireContext}

theorem showFactsOf_append (showId : Uuid) : showFactsOf (outbox ++ messages) showId =
    showFactsOf outbox showId ++ showFactsOf messages showId :=
  List.filterMap_append

theorem artistFactsOf_append (channelId : Uuid) : artistFactsOf (outbox ++ messages) channelId =
    artistFactsOf outbox channelId ++ artistFactsOf messages channelId :=
  List.filterMap_append

/-- A date's events say nothing of a show. -/
theorem showFactsOf_written (showId : Uuid) :
    showFactsOf (writeDateIntegrationEvents outbox events context) showId =
      showFactsOf outbox showId := by
  unfold writeDateIntegrationEvents
  rw [showFactsOf_append]
  simp [showFactsOf]

/-- A date's events say nothing of a channel. -/
theorem artistFactsOf_written (channelId : Uuid) :
    artistFactsOf (writeDateIntegrationEvents outbox events context) channelId =
      artistFactsOf outbox channelId := by
  unfold writeDateIntegrationEvents
  rw [artistFactsOf_append]
  simp [artistFactsOf]

end Outbox

section Steps

variable [PublicationRules] [ReplayRules] {origin : String} {db db' : Db}

omit [PublicationRules] [ReplayRules] in
/-- The shows are said while no show moves and none is stated. -/
theorem ShowsSaid.unstated (h : ShowsSaid db) (hshows : db'.shows = db.shows)
    (hfacts : ∀ showId, showFactsOf db'.outbox showId = showFactsOf db.outbox showId) :
    ShowsSaid db' where
  said hshown := by
    rw [hfacts]
    exact h.said (hshows ▸ hshown)
  unpublished hnone := by
    rw [hfacts]
    exact h.unpublished (hshows ▸ hnone)

theorem ShowsSaid.step (h : ShowsSaid db) (hstep : Db.Step origin db db') : ShowsSaid db' := by
  cases hstep with
  | unmoved hunmoved =>
      obtain ⟨_, _, rfl⟩ := hunmoved
      exact ⟨h.said, h.unpublished⟩
  | @showPublished published shows now hinsert hdb =>
      subst hdb
      have hfresh := h.unpublished (Table.insert_eq_some hinsert).2
      refine ⟨fun {showId shown} hshown => ?_, fun {showId} hnone => ?_⟩
      · change ShowStreams shown (showFactsOf (db.outbox ++ [_]) showId)
        rw [Table.find?_insert hinsert] at hshown
        rw [showFactsOf_append, publishedFactOf_shown]
        split_ifs at hshown with hid
        · cases hshown
          rw [hid, if_pos rfl, hfresh]
          exact showStreams_published published now
        · rw [if_neg (Ne.symm hid), List.append_nil]
          exact h.said hshown
      · change showFactsOf (db.outbox ++ [_]) showId = []
        rw [Table.find?_insert hinsert] at hnone
        rw [showFactsOf_append, publishedFactOf_shown]
        split_ifs at hnone with hid
        rw [if_neg (Ne.symm hid), List.append_nil]
        exact h.unpublished hnone
  | @showUpdated kept next now hkeptShown hkept hdb =>
      subst hdb
      refine ⟨fun {showId shown} hshown => ?_, fun {showId} hnone => ?_⟩
      · change ShowStreams shown (showFactsOf (db.outbox ++ [_]) showId)
        rw [Table.find?_put hkeptShown] at hshown
        rw [showFactsOf_append, updatedFactOf_shown]
        split_ifs at hshown with hid
        · cases hshown
          rw [hid, if_pos rfl]
          exact (h.said hkeptShown).updated_to hkept now
        · rw [if_neg (Ne.symm hid), List.append_nil]
          exact h.said hshown
      · change showFactsOf (db.outbox ++ [_]) showId = []
        rw [Table.find?_put hkeptShown] at hnone
        rw [showFactsOf_append, updatedFactOf_shown]
        split_ifs at hnone with hid
        rw [if_neg (Ne.symm hid), List.append_nil]
        exact h.unpublished hnone
  | venueCreated hinsert hdb =>
      subst hdb
      exact ⟨h.said, h.unpublished⟩
  | faceUpdated hid hdb =>
      subst hdb
      exact h.unstated rfl fun showId => by
        rw [showFactsOf_append]
        exact List.append_nil _
  | drafted hdrafted =>
      obtain ⟨-, -, -, -, -, hwritten⟩ := hdrafted
      exact h.unstated hwritten.shows fun showId => by
        rw [hwritten.outbox, showFactsOf_written]
  | moved hmoved =>
      obtain ⟨-, -, -, -, hwritten⟩ := hmoved
      exact h.unstated hwritten.shows fun showId => by
        rw [hwritten.outbox, showFactsOf_written]

omit [PublicationRules] [ReplayRules] in
theorem FacesSaid.unstated (h : FacesSaid db) (hartists : db'.artists = db.artists)
    (hfacts : ∀ channelId, artistFactsOf db'.outbox channelId = artistFactsOf db.outbox channelId) :
    FacesSaid db' := by
  intro channelId
  rw [hfacts, hartists]
  exact h channelId

theorem FacesSaid.step (h : FacesSaid db) (hstep : Db.Step origin db db') : FacesSaid db' := by
  cases hstep with
  | unmoved hunmoved =>
      obtain ⟨_, _, rfl⟩ := hunmoved
      exact h
  | showPublished hinsert hdb | showUpdated hshown hkept hdb =>
      subst hdb
      exact h.unstated rfl fun channelId => by
        rw [artistFactsOf_append]
        exact List.append_nil _
  | venueCreated hinsert hdb =>
      subst hdb
      exact h
  | @faceUpdated artist now hid hdb =>
      subst hdb
      intro channelId
      change lastOf (faceStatements (artistFactsOf (db.outbox ++ [_]) channelId)) =
        ((db.artists.upsert artist).find? channelId).map faceOf
      rw [artistFactsOf_append, Table.find?_upsert]
      split_ifs with hchannel
      · have hstated : artistFactsOf
            [.artistUpdated ⟨artist.id, artist.channelId, artist.publicName, now⟩] channelId =
            [⟨now, faceOf artist⟩] := by
          simp [artistFactsOf, artistFactOf, faceOf, hchannel]
        rw [hstated, faceStatements, List.map_append]
        exact lastOf_concat
      · have hstated : artistFactsOf
            [.artistUpdated ⟨artist.id, artist.channelId, artist.publicName, now⟩] channelId =
            [] := by
          simp [artistFactsOf, Ne.symm hchannel]
        rw [hstated, List.append_nil]
        exact h channelId
  | drafted hdrafted =>
      obtain ⟨-, -, -, -, -, hwritten⟩ := hdrafted
      exact h.unstated hwritten.artists fun channelId => by
        rw [hwritten.outbox, artistFactsOf_written]
  | moved hmoved =>
      obtain ⟨-, -, -, -, hwritten⟩ := hmoved
      exact h.unstated hwritten.artists fun channelId => by
        rw [hwritten.outbox, artistFactsOf_written]

end Steps

/-! ## Over every run -/

section Runs

variable [PublicationRules] [ReplayRules] [LawfulPublicationRules] [SlugRules]

/-- The outbox and the public rows, in every state reached. -/
structure Agreed (origin : String) (db : Db) : Prop where
  references : db.References
  sound : db.RecordsSound
  pages : db.PagesAreViews
  dates : DatesSaid origin db
  shows : ShowsSaid db
  faces : FacesSaid db

theorem reached_agreed (origin : String) (transactions : List Transaction) :
    Agreed origin (World.reached origin transactions).db := by
  obtain ⟨hreferences, hsound, hchronicled⟩ :=
    @World.reached_chronicled _ _ origin _ _ transactions
  have hkept := @World.reached_keeps _ _ _ _ origin (fun db => ShowsSaid db ∧ FacesSaid db)
    ⟨⟨fun h => (by cases h), fun _ => rfl⟩, fun _ => rfl⟩
    (fun _ h hstep => ⟨h.1.step hstep, h.2.step hstep⟩) transactions
  exact {
    references := hreferences
    sound := hsound
    pages := World.reached_pages origin transactions
    dates := datesSaid_of_chronicled hchronicled
    shows := hkept.2.1
    faces := hkept.2.2 }

end Runs

end Arthome.Search
