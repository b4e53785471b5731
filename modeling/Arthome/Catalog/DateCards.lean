import Arthome.Catalog.CatalogMessages
import Arthome.Search.Documents

/-!
# The card of a public date

A date is served on a card, whether it is read from its public row or from the search
index: the page's date and the search's are both a `PublicDate`, and the card is made of
that alone. The index holds no venue name.
-/

namespace Arthome.Catalog.Dates

open Arthome.Core
open Arthome.Search (DateDocument LanguageDependency ShowMedia IndexedRendition)

/-- What the replay of a card is shown under. -/
structure ReplayDisplayInput where
  state : ReplayState
  closesAt : Instant
  deriving Repr, DecidableEq

/-- What core reads of a date to display it. -/
structure DisplayInput where
  publicationState : PublicationState
  runState : Option RunState
  outcome : Option DateOutcome
  timing : DateTiming
  now : Instant
  replay : Option ReplayDisplayInput
  deriving Repr, DecidableEq

inductive DisplayState where
  | scheduled
  | roomOpen
  | live
  | ended
  | replay
  | postponed
  | cancelled
  | interrupted
  deriving Repr, DecidableEq

/-- What core and the runtime's time zones compute for a card. -/
class CardRules where
  publicDisplayStateOf : DisplayInput → DisplayState × Option Instant
  roomOpensAt : DateTiming → Instant
  /-- The venue's offset in minutes at the instant. -/
  utcOffsetMinutes : String → Instant → ℤ
  ROOM_OPENS_MINUTES_BEFORE : ℤ

namespace Sample

scoped instance cardRules : CardRules where
  publicDisplayStateOf input :=
    match input.outcome, input.runState with
    | some .cancelled, _ => (.cancelled, none)
    | some .interrupted, _ => (.interrupted, none)
    | some .postponed, _ => (.postponed, none)
    | none, some .onAir => (.live, none)
    | none, some .ended =>
      match input.replay with
      | some ⟨.online, closesAt⟩ =>
        if input.now < closesAt then (.replay, some closesAt) else (.ended, none)
      | _ => (.ended, none)
    | none, _ => (.scheduled, some input.timing.startsAt)
  roomOpensAt timing := timing.startsAt - timing.roomOpensBeforeMin * 60000
  utcOffsetMinutes _ _ := 0
  ROOM_OPENS_MINUTES_BEFORE := 30

end Sample

/-- A public date, whether read from the search index or from `date_detail_public`. -/
structure PublicDate where
  dateId : Uuid
  showId : Uuid
  channelId : Uuid
  artistId : Option Uuid
  artistName : Option String
  venueId : Uuid
  /-- The search index holds no venue name. -/
  venueName : Option String
  venueCity : String
  venueCountry : String
  venueTimezone : String
  startsAt : Instant
  runtimeMin : ℤ
  replayPolicy : ReplayPolicy
  replayWindowHours : ℤ
  rightsScope : RightsScope
  blackoutCountries : List String
  canonicalUrl : String
  showSlug : String
  slug : String
  publicationState : PublicationState
  outcome : Option DateOutcome
  rescheduledTo : Option Instant
  categoryId : Option String
  genreIds : List String
  tagIds : List String
  languageDependency : Option LanguageDependency
  titleFr : String
  titleEn : String
  media : MediaSet
  replayState : Option ReplayState
  replayClosesAt : Option Instant
  replayOnlineAt : Option Instant
  replayDurationSec : Option ℤ
  deriving Repr, DecidableEq

/-! ## The two readers -/

/-- Read from `date_detail_public`. -/
def publicDateOfRow (row : DateDetailPublic) (origin : String) : PublicDate where
  dateId := row.dateId
  showId := row.showId
  channelId := row.channelId
  artistId := some row.artistId
  artistName := row.artistName
  venueId := row.venueId
  venueName := some row.venueName
  venueCity := row.venueCity
  venueCountry := row.venueCountry
  venueTimezone := row.venueTimezone
  startsAt := row.startsAt
  runtimeMin := row.runtimeMin
  replayPolicy := row.replayPolicy
  replayWindowHours := row.replayWindowHours
  rightsScope := row.rights.scope
  blackoutCountries := row.rights.blackoutCountries
  canonicalUrl := dateUrl origin row.showSlug row.slug
  showSlug := row.showSlug
  slug := row.slug
  publicationState := row.publicationState
  outcome := row.outcome
  rescheduledTo := row.rescheduledTo
  categoryId := some row.categoryId
  genreIds := row.genreIds
  tagIds := row.tagIds
  languageDependency := some row.languageDependency
  titleFr := row.title.fr
  titleEn := row.title.en
  media := row.media
  replayState := row.replayState
  replayClosesAt := row.replayClosesAt
  replayOnlineAt := row.replayOnlineAt
  replayDurationSec := row.replayDurationSec

def renditionOf (indexed : IndexedRendition) : Rendition :=
  ⟨indexed.url, indexed.widthPx, indexed.heightPx⟩

/-- What every search asks of a document, the clock and the query's own filters aside: the fields a
card needs, and no state that is not public. -/
def servable (document : DateDocument) : Bool :=
  document.categoryId.isSome && document.publicationState.isSome &&
    document.replayPolicy.isSome && document.rightsScope.isSome &&
    document.publicationState ≠ some .draft && document.publicationState ≠ some .reserve

/-- Read from the search index, as a document the search lets through: the fields a card
requires are present. -/
def publicDateOf (document : DateDocument) : Option PublicDate := do
  let publicationState ← document.publicationState
  let replayPolicy ← document.replayPolicy
  let rightsScope ← document.rightsScope
  return {
    dateId := document.dateId
    showId := document.showId
    channelId := document.channelId
    artistId := document.artistId
    artistName := document.artistName
    venueId := document.venueId
    venueName := none
    venueCity := document.venueCity
    venueCountry := document.venueCountry
    venueTimezone := document.venueTimezone
    startsAt := document.startsAt
    runtimeMin := document.runtimeMin
    replayPolicy := replayPolicy
    replayWindowHours := document.replayWindowHours
    rightsScope := rightsScope
    blackoutCountries := document.blackoutCountries
    canonicalUrl := document.canonicalUrl
    showSlug := document.showSlug
    slug := document.slug
    publicationState := publicationState
    outcome := document.outcome
    rescheduledTo := document.rescheduledTo
    categoryId := document.categoryId
    genreIds := document.genreIds
    tagIds := document.tagIds
    languageDependency := document.languageDependency
    titleFr := document.titleFr
    titleEn := document.titleEn
    media := ⟨document.media.wide.map renditionOf, document.media.poster.map renditionOf⟩
    replayState := document.replayState
    replayClosesAt := document.replayClosesAt
    replayOnlineAt := document.replayOnlineAt
    replayDurationSec := document.replayDurationSec }

/-! ## The card -/

/-- Catalog learns the run through `run.started` and `run.ended` alone. -/
def runStateKnownFrom : PublicationState → Option RunState
  | .scheduled | .technical => some .idle
  | .live => some .onAir
  | .ended | .replayOnline => some .ended
  | .draft | .reserve => none

structure CardReplay where
  policy : ReplayPolicy
  windowHours : ℤ
  availableFrom : Option Instant
  expiresAt : Option Instant
  durationSec : Option ℤ
  deriving Repr, DecidableEq

structure CardVenue where
  id : Uuid
  name : Option String
  city : String
  countryCode : String
  deriving Repr, DecidableEq

structure DateCard where
  id : Uuid
  showId : Uuid
  channelId : Uuid
  /-- Named once the channel has a public face. -/
  artist : Option (Uuid × String)
  slug : String
  canonicalUrl : String
  title : String
  categoryId : Option String
  genreIds : List String
  tagIds : List String
  startsAt : Instant
  venueTimezone : String
  venueUtcOffsetMin : ℤ
  runtimeMin : ℤ
  venue : CardVenue
  roomOpensAt : Instant
  displayState : DisplayState
  displayStateValidUntil : Option Instant
  outcome : Option DateOutcome
  rescheduledTo : Option Instant
  replay : CardReplay
  rightsScope : RightsScope
  blackoutCountries : List String
  media : MediaSet
  languageDependency : Option LanguageDependency
  deriving Repr, DecidableEq

/-- A venue's name left out. -/
def DateCard.withoutVenueName (card : DateCard) : DateCard :=
  { card with venue := { card.venue with name := none } }

namespace PublicDate

/-- The title is served in French, unless that side is empty. -/
def servedInFrench (date : PublicDate) : Bool := 0 < date.titleFr.length

def replayDisplayOf (date : PublicDate) : Option ReplayDisplayInput := do
  return ⟨← date.replayState, ← date.replayClosesAt⟩

/-- The replay's facts, never the scheduled timing's: a window shows once it was online or
closed. -/
def replayOf (date : PublicDate) : CardReplay :=
  if date.replayState = some .online ∨ date.replayState = some .closed then
    ⟨date.replayPolicy, date.replayWindowHours, date.replayOnlineAt, date.replayClosesAt,
      date.replayDurationSec⟩
  else ⟨date.replayPolicy, date.replayWindowHours, none, none, none⟩

variable [CardRules]

def timingOf (date : PublicDate) : DateTiming where
  startsAt := date.startsAt
  runtimeMin := date.runtimeMin
  roomOpensBeforeMin := CardRules.ROOM_OPENS_MINUTES_BEFORE
  replayPolicy := date.replayPolicy
  replayWindowHours := date.replayWindowHours

/-- The public card: no viewer, and the title in its own language. -/
def dateCardOf (date : PublicDate) (now : Instant) : DateCard :=
  let display := CardRules.publicDisplayStateOf {
    publicationState := date.publicationState
    runState := runStateKnownFrom date.publicationState
    outcome := date.outcome
    timing := date.timingOf
    now := now
    replay := date.replayDisplayOf }
  { id := date.dateId
    showId := date.showId
    channelId := date.channelId
    artist := do return (← date.artistId, ← date.artistName)
    slug := date.slug
    canonicalUrl := date.canonicalUrl
    title := if date.servedInFrench then date.titleFr else date.titleEn
    categoryId := date.categoryId
    genreIds := date.genreIds
    tagIds := date.tagIds
    startsAt := date.startsAt
    venueTimezone := date.venueTimezone
    venueUtcOffsetMin := CardRules.utcOffsetMinutes date.venueTimezone date.startsAt
    runtimeMin := date.runtimeMin
    venue := ⟨date.venueId, date.venueName, date.venueCity, date.venueCountry⟩
    roomOpensAt := CardRules.roomOpensAt date.timingOf
    displayState := display.1
    displayStateValidUntil := display.2
    outcome := date.outcome
    rescheduledTo := date.rescheduledTo
    replay := date.replayOf
    rightsScope := date.rightsScope
    blackoutCountries := date.blackoutCountries
    media := date.media
    languageDependency := date.languageDependency }

/-- A card reads the venue's name and passes it on. -/
theorem dateCardOf_withoutVenueName (date : PublicDate) (now : Instant) :
    (date.dateCardOf now).withoutVenueName = { date with venueName := none }.dateCardOf now :=
  rfl

end PublicDate

end Arthome.Catalog.Dates
