import Arthome.Catalog.DateAggregates
import Arthome.Library.Checked
import Arthome.Library.Table
import Arthome.Search.ReadModel

/-!
# The public row of a date

One row per public date, its show and its venue copied in, written by catalog's own
commands in their transaction and read in one query. A command's events are one write:
the whole row when the date goes public, its changes otherwise. A show's update and an
artist's rewrite their copies on every row they concern.
-/

namespace Arthome.Catalog.Dates

open Arthome.Core Library
open Arthome.Search (Bilingual LanguageDependency)

structure Rendition where
  url : String
  widthPx : ℤ
  heightPx : ℤ
  deriving Repr, DecidableEq

structure MediaSet where
  wide : List Rendition
  poster : List Rendition
  deriving Repr, DecidableEq

structure Show where
  id : Uuid
  slug : String
  channelId : Uuid
  artistId : Uuid
  categoryId : String
  genreIds : List String
  tagIds : List String
  runtimeMin : ℤ
  languageDependency : LanguageDependency
  spokenLanguages : List String
  subtitleLanguages : List String
  surtitleLanguages : List String
  media : MediaSet
  title : Bilingual
  synopsis : Bilingual
  deriving Repr, DecidableEq

structure Venue where
  id : Uuid
  name : String
  city : String
  country : String
  timeZone : String
  deriving Repr, DecidableEq

/-- The channel's public face. -/
structure Artist where
  channelId : Uuid
  id : Uuid
  publicName : String
  version : ℕ
  deriving Repr, DecidableEq

structure DateDetailPublic where
  dateId : Uuid
  showId : Uuid
  channelId : Uuid
  venueId : Uuid
  venueName : String
  venueCity : String
  venueCountry : String
  venueTimezone : String
  startsAt : Instant
  runtimeMin : ℤ
  replayPolicy : ReplayPolicy
  /-- 0 without a replay window. -/
  replayWindowHours : ℤ
  rights : TerritoryRights
  showSlug : String
  slug : String
  publicationState : PublicationState
  outcome : Option DateOutcome
  artistName : Option String
  rescheduledTo : Option Instant
  replayState : Option ReplayState
  replayClosesAt : Option Instant
  replayOnlineAt : Option Instant
  replayDurationSec : Option ℤ
  artistId : Uuid
  categoryId : String
  genreIds : List String
  tagIds : List String
  languageDependency : LanguageDependency
  spokenLanguages : List String
  subtitleLanguages : List String
  surtitleLanguages : List String
  media : MediaSet
  title : Bilingual
  synopsis : Bilingual
  version : ℕ
  deriving Repr, DecidableEq

/-! ## The changes of a command -/

/-- The columns a command's events change; those it leaves are none. -/
structure DateChanges where
  outcome : Option (Option DateOutcome)
  rescheduledTo : Option (Option Instant)
  startsAt : Option Instant
  slug : Option String
  publicationState : Option PublicationState
  replayState : Option (Option ReplayState)
  replayClosesAt : Option (Option Instant)
  replayOnlineAt : Option (Option Instant)
  replayDurationSec : Option (Option ℤ)
  deriving Repr, DecidableEq

namespace DateChanges

def none : DateChanges :=
  ⟨.none, .none, .none, .none, .none, .none, .none, .none, .none⟩

/-- The later changes over the earlier. -/
def merge (merged changes : DateChanges) : DateChanges where
  outcome := changes.outcome.or merged.outcome
  rescheduledTo := changes.rescheduledTo.or merged.rescheduledTo
  startsAt := changes.startsAt.or merged.startsAt
  slug := changes.slug.or merged.slug
  publicationState := changes.publicationState.or merged.publicationState
  replayState := changes.replayState.or merged.replayState
  replayClosesAt := changes.replayClosesAt.or merged.replayClosesAt
  replayOnlineAt := changes.replayOnlineAt.or merged.replayOnlineAt
  replayDurationSec := changes.replayDurationSec.or merged.replayDurationSec

/-- The row with the columns changed. -/
def appliedTo (changes : DateChanges) (row : DateDetailPublic) : DateDetailPublic :=
  { row with
    outcome := changes.outcome.getD row.outcome
    rescheduledTo := changes.rescheduledTo.getD row.rescheduledTo
    startsAt := changes.startsAt.getD row.startsAt
    slug := changes.slug.getD row.slug
    publicationState := changes.publicationState.getD row.publicationState
    replayState := changes.replayState.getD row.replayState
    replayClosesAt := changes.replayClosesAt.getD row.replayClosesAt
    replayOnlineAt := changes.replayOnlineAt.getD row.replayOnlineAt
    replayDurationSec := changes.replayDurationSec.getD row.replayDurationSec }

end DateChanges

/-- Exactly what the transition's event carries. -/
def replayChangesOf (change : ReplayStateChanged) : DateChanges :=
  { DateChanges.none with
    replayState := some (some change.toState)
    replayClosesAt := some (some change.closesAt)
    replayOnlineAt := some change.onlineAt
    replayDurationSec := some change.durationSec }

/-- A draft has no public row, `dateScheduled` writes it whole, and the lock shows on no page. -/
def changesOf : DateKeyedEvent → DateChanges
  | .publicationStateChanged _ _ _ toState _ _ _ =>
    { DateChanges.none with publicationState := some toState }
  | .dateOutcomeDeclared _ _ outcome _ rescheduledTo _ =>
    { DateChanges.none with outcome := some (some outcome), rescheduledTo := some rescheduledTo }
  | .dateRescheduled _ _ _ newStartsAt _ newSlug _ =>
    { DateChanges.none with startsAt := some newStartsAt, slug := some newSlug }
  | .replayStateChanged change => replayChangesOf change
  | .dateDrafted .. | .dateScheduled .. | .publicationEngaged .. => DateChanges.none

def mergedChangesOf (events : List DateKeyedEvent) : DateChanges :=
  events.foldl (fun merged event => merged.merge (changesOf event)) DateChanges.none

/-! ## The row's writes -/

/-- What a date's row copies from its show and its venue. -/
structure DateCopies where
  shown : Show
  venue : Venue
  deriving Repr, DecidableEq

/-- The public rows. -/
abbrev Details := Table DateDetailPublic.dateId

/-- The row written whole once, with the state it published in; the channel's face when it has one,
else what the show named. -/
def publicRowOf (date : PublicDateFacts) (copies : DateCopies) (artist : Option Artist)
    (publicationState : PublicationState) : DateDetailPublic where
  dateId := date.dateId
  showId := date.showId
  channelId := date.channelId
  venueId := copies.venue.id
  venueName := copies.venue.name
  venueCity := copies.venue.city
  venueCountry := copies.venue.country
  venueTimezone := copies.venue.timeZone
  startsAt := date.startsAt
  runtimeMin := date.runtimeMin
  replayPolicy := date.replayPolicy
  replayWindowHours := date.replayWindowHours.getD 0
  rights := date.rights
  showSlug := copies.shown.slug
  slug := date.slug
  publicationState := publicationState
  outcome := none
  artistName := artist.map Artist.publicName
  rescheduledTo := none
  replayState := none
  replayClosesAt := none
  replayOnlineAt := none
  replayDurationSec := none
  artistId := (artist.map Artist.id).getD copies.shown.artistId
  categoryId := copies.shown.categoryId
  genreIds := copies.shown.genreIds
  tagIds := copies.shown.tagIds
  languageDependency := copies.shown.languageDependency
  spokenLanguages := copies.shown.spokenLanguages
  subtitleLanguages := copies.shown.subtitleLanguages
  surtitleLanguages := copies.shown.surtitleLanguages
  media := copies.shown.media
  title := copies.shown.title
  synopsis := copies.shown.synopsis
  version := 1

namespace Details

/-- The rows matched by the condition changed, each one more version. -/
def updateWhere (details : Details) (matched : DateDetailPublic → Bool)
    (changed : DateDetailPublic → DateDetailPublic)
    (hkey : ∀ row, (changed row).dateId = row.dateId) : Details :=
  details.update
    (fun row => if matched row then { changed row with version := row.version + 1 } else row)
    fun row => by
      split_ifs
      · exact hkey row
      · rfl

/-- A show's copy, on every public date of it. -/
def projectShowCopy (details : Details) (shown : Show) : Details :=
  updateWhere details (fun row => row.showId = shown.id)
    (fun row => { row with
      genreIds := shown.genreIds
      tagIds := shown.tagIds
      languageDependency := shown.languageDependency
      media := shown.media
      title := shown.title
      synopsis := shown.synopsis })
    fun _ => rfl

/-- The channel's public face, on every public date of the channel. -/
def projectArtist (details : Details) (artist : Artist) : Details :=
  updateWhere details (fun row => row.channelId = artist.channelId)
    (fun row => { row with artistId := artist.id, artistName := some artist.publicName })
    fun _ => rfl

/-- A row is inserted with a state, or refused by its column. -/
def insertPublicDate (details : Details) (date : PublicDateFacts) (copies : DateCopies)
    (artist : Option Artist) (changes : DateChanges) : Except DateRefusal Details := do
  let publicationState ← orRefuse changes.publicationState (.error "publication_state is null")
  orRefuse (details.insert (changes.appliedTo (publicRowOf date copies artist publicationState)))
    (.error "the date is public already")

/-- A date not public yet has no row to change. -/
def updatePublicDate (details : Details) (events : List DateKeyedEvent) (changes : DateChanges) :
    Details :=
  match events with
  | [] => details
  | first :: _ =>
    if changes = DateChanges.none then details
    else updateWhere details (fun row => row.dateId = first.dateId) changes.appliedTo fun _ => rfl

/-- One command's events as one write. -/
def projectDateEvents (details : Details) (events : List DateKeyedEvent) (copies : DateCopies)
    (artistOf : Uuid → Option Artist) : Except DateRefusal Details :=
  let changes := mergedChangesOf events
  match events.findSome? DateKeyedEvent.scheduled with
  | some facts => details.insertPublicDate facts copies (artistOf facts.channelId) changes
  | none => .ok (details.updatePublicDate events changes)

/-- A command that moved the replay alone copies nothing from the show or the venue. -/
def projectReplayEvents (details : Details) (events : List ReplayStateChanged) : Details :=
  let keyed := events.map DateKeyedEvent.replayStateChanged
  details.updatePublicDate keyed (mergedChangesOf keyed)

end Details

end Arthome.Catalog.Dates
