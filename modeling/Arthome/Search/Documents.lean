import Arthome.Search.ReadModel

/-!
# The document of a date

A date's document is composed from its row, from its show's and from its channel's artist. A
move's start, slug and URL replace the schedule's; the instant the date leaves search is its
replay's, once a replay is known, and the scheduled bound before.
-/

namespace Arthome.Search

open Arthome.Core

/-- What core computes of a date's timing. -/
class TimingRules where
  roomOpensMinutesBefore : ℤ
  endsAt : DateTiming → Instant
  replayEndsAt : DateTiming → Option Instant

namespace Sample

scoped instance timingRules : TimingRules where
  roomOpensMinutesBefore := 30
  endsAt timing := timing.startsAt + timing.runtimeMin * 60000
  replayEndsAt timing :=
    if timing.replayPolicy = .none then none
    else some (timing.startsAt + timing.runtimeMin * 60000 + timing.replayWindowHours * 3600000)

end Sample

structure ArtistFace where
  artistId : Uuid
  publicName : String
  deriving Repr, DecidableEq

structure DateDocument where
  dateId : Uuid
  showId : Uuid
  channelId : Uuid
  venueId : Uuid
  startsAt : Instant
  venueTimezone : String
  venueCity : String
  venueCountry : String
  runtimeMin : ℤ
  replayPolicy : Option ReplayPolicy
  replayWindowHours : ℤ
  rightsScope : Option RightsScope
  blackoutCountries : List String
  canonicalUrl : String
  showSlug : String
  slug : String
  publicationState : Option PublicationState
  outcome : Option DateOutcome
  rescheduledTo : Option Instant
  endsAt : Instant
  overAt : Instant
  replayState : Option ReplayState
  replayClosesAt : Option Instant
  replayOnlineAt : Option Instant
  replayDurationSec : Option ℤ
  artistId : Option Uuid
  artistName : Option String
  categoryId : Option String
  genreIds : List String
  tagIds : List String
  languageDependency : Option LanguageDependency
  titleFr : String
  titleEn : String
  media : ShowMedia
  indexedAt : Instant
  deriving Repr, DecidableEq

variable [TimingRules]

/-- An unknown replay policy reads as none. -/
def timingOf (scheduled : ScheduledDateFields) (startsAt : Instant) : DateTiming where
  startsAt := startsAt
  runtimeMin := scheduled.runtimeMin
  roomOpensBeforeMin := TimingRules.roomOpensMinutesBefore
  replayPolicy := scheduled.replayPolicy.getD .none
  replayWindowHours := scheduled.replayWindowHours

omit [TimingRules] in
/-- The instant the date leaves search: its replay's closing, or its live's end when no replay will
exist; the scheduled bound as long as no replay is known. -/
def overAt (date : DateProjection) (scheduledBound : Instant) : Instant :=
  match date.replayState with
  | some .pending | some .online | some .closed => date.replayClosesAt.getD scheduledBound
  | some .withdrawn => date.replayLiveEndedAt.getD scheduledBound
  | none => scheduledBound

/-- The document of a date whose schedule is known. -/
def dateDocumentOf (date : DateProjection) (scheduled : ScheduledDateFields)
    (show' : Option ShowProjection) (artist : Option ArtistFace) (indexedAt : Instant) :
    DateDocument :=
  let updatable := show'.bind fun row => row.updatable
  let published := show'.bind fun row => row.published
  let startsAt := date.movedStartsAt.getD scheduled.startsAt
  let timing := timingOf scheduled startsAt
  let endedAt := TimingRules.endsAt timing
  { dateId := date.dateId
    showId := scheduled.showId
    channelId := scheduled.channelId
    venueId := scheduled.venueId
    startsAt := startsAt
    venueTimezone := scheduled.venueTimezone
    venueCity := scheduled.venueCity
    venueCountry := scheduled.venueCountry
    runtimeMin := scheduled.runtimeMin
    replayPolicy := scheduled.replayPolicy
    replayWindowHours := scheduled.replayWindowHours
    rightsScope := scheduled.rightsScope
    blackoutCountries := scheduled.blackoutCountries
    canonicalUrl := date.movedCanonicalUrl.getD scheduled.canonicalUrl
    showSlug := scheduled.showSlug
    slug := date.movedSlug.getD scheduled.slug
    publicationState := date.publicationState
    outcome := date.outcome
    rescheduledTo := date.outcomeRescheduledTo
    endsAt := endedAt
    overAt := overAt date ((TimingRules.replayEndsAt timing).getD endedAt)
    replayState := date.replayState
    replayClosesAt := date.replayClosesAt
    replayOnlineAt := date.replayOnlineAt
    replayDurationSec := date.replayDurationSec
    artistId := (artist.map fun face => face.artistId).or
      (published.map fun fields => fields.artistId)
    artistName := artist.map fun face => face.publicName
    categoryId := published.map fun fields => fields.categoryId
    genreIds := (updatable.map fun fields => fields.genreIds).getD []
    tagIds := (updatable.map fun fields => fields.tagIds).getD []
    languageDependency := updatable.bind fun fields => fields.languageDependency
    titleFr := (updatable.map fun fields => fields.title.fr).getD ""
    titleEn := (updatable.map fun fields => fields.title.en).getD ""
    media := (updatable.map fun fields => fields.media).getD ⟨[], []⟩
    indexedAt := indexedAt }

end Arthome.Search
