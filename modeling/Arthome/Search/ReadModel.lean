import Arthome.Core.ReplayRules
import Arthome.Core.RunRules
import Arthome.Core.WatchRules
import Mathlib

/-!
# The indexer's copy of a date and of its show

The search indexer keeps what catalog states of a date and of a show. The schedule of a date,
the state of its publication, its outcome, its move and its replay each take a fact that is at
least as new as what set them; so do the two groups of a show. A schedule makes a date
scheduled, unless the state of its publication is known.
-/

namespace Arthome.Search

open Arthome.Core

/-- What a schedule states about a date. -/
structure ScheduledDateFields where
  showId : Uuid
  channelId : Uuid
  venueId : Uuid
  startsAt : Instant
  venueTimezone : String
  venueCity : String
  venueCountry : String
  runtimeMin : ℤ
  replayPolicy : Option ReplayPolicy
  replayWindowHours : ℤ
  rightsScope : Option RightsScope
  blackoutCountries : List String
  canonicalUrl : String
  showSlug : String
  slug : String
  deriving Repr, DecidableEq

/-- What a move states; one older than the slugs carries none, and no URL. -/
structure DateMove where
  startsAt : Instant
  slug : Option String
  canonicalUrl : Option String
  deriving Repr, DecidableEq

structure DeclaredOutcome where
  outcome : Option DateOutcome
  rescheduledTo : Option Instant
  deriving Repr, DecidableEq

structure StatedReplay where
  state : ReplayState
  liveEndedAt : Instant
  closesAt : Instant
  onlineAt : Option Instant
  durationSec : Option ℤ
  deriving Repr, DecidableEq

/-- A fact about one date. A transition is versioned by the publication, a replay by the replay,
the others by the instant they were stated at; a state the indexer does not know reads as none. -/
inductive DateFact where
  | scheduled (version : ℤ) (fields : ScheduledDateFields)
  | stateChanged (version : ℤ) (state : Option PublicationState)
  | outcomeDeclared (version : ℤ) (declared : DeclaredOutcome)
  | rescheduled (version : ℤ) (move : DateMove)
  | replayStateChanged (version : ℤ) (replay : StatedReplay)
  deriving Repr, DecidableEq

structure DateProjection where
  dateId : Uuid
  showId : Option Uuid
  scheduled : Option ScheduledDateFields
  scheduledVersion : Option ℤ
  publicationState : Option PublicationState
  publicationVersion : Option ℤ
  outcome : Option DateOutcome
  outcomeRescheduledTo : Option Instant
  outcomeVersion : Option ℤ
  movedStartsAt : Option Instant
  movedSlug : Option String
  movedCanonicalUrl : Option String
  movedVersion : Option ℤ
  replayState : Option ReplayState
  replayLiveEndedAt : Option Instant
  replayClosesAt : Option Instant
  replayOnlineAt : Option Instant
  replayDurationSec : Option ℤ
  replayVersion : Option ℤ
  deriving Repr, DecidableEq

/-- The row a date's first fact inserts. -/
def DateProjection.empty (dateId : Uuid) : DateProjection where
  dateId := dateId
  showId := none
  scheduled := none
  scheduledVersion := none
  publicationState := none
  publicationVersion := none
  outcome := none
  outcomeRescheduledTo := none
  outcomeVersion := none
  movedStartsAt := none
  movedSlug := none
  movedCanonicalUrl := none
  movedVersion := none
  replayState := none
  replayLiveEndedAt := none
  replayClosesAt := none
  replayOnlineAt := none
  replayDurationSec := none
  replayVersion := none

/-- A group takes a fact no older than the one that set it. -/
def takes (kept : Option ℤ) (version : ℤ) : Bool := kept.all fun kept => kept ≤ version

/-- The row after a fact, nothing when nothing moves. -/
def dateAfter (row : DateProjection) : DateFact → Option DateProjection
  | .scheduled version fields =>
    if takes row.scheduledVersion version then
      some { row with
        showId := some fields.showId
        scheduled := some fields
        scheduledVersion := some version
        publicationState := row.publicationState.or (some .scheduled) }
    else none
  | .stateChanged version state =>
    if takes row.publicationVersion version then
      some { row with publicationState := state, publicationVersion := some version }
    else none
  | .outcomeDeclared version declared =>
    if takes row.outcomeVersion version then
      some { row with
        outcome := declared.outcome
        outcomeRescheduledTo := declared.rescheduledTo
        outcomeVersion := some version }
    else none
  | .replayStateChanged version replay =>
    if takes row.replayVersion version then
      some { row with
        replayState := some replay.state
        replayLiveEndedAt := some replay.liveEndedAt
        replayClosesAt := some replay.closesAt
        replayOnlineAt := replay.onlineAt
        replayDurationSec := replay.durationSec
        replayVersion := some version }
    else none
  | .rescheduled version move =>
    if takes row.movedVersion version then
      some { row with
        movedStartsAt := some move.startsAt
        movedSlug := move.slug
        movedCanonicalUrl := move.canonicalUrl
        movedVersion := some version }
    else none

inductive LanguageDependency where
  | none
  | helpful
  | essential
  deriving Repr, DecidableEq

structure Bilingual where
  fr : String
  en : String
  deriving Repr, DecidableEq

structure IndexedRendition where
  url : String
  widthPx : ℤ
  heightPx : ℤ
  deriving Repr, DecidableEq

structure ShowMedia where
  wide : List IndexedRendition
  poster : List IndexedRendition
  deriving Repr, DecidableEq

/-- What only a publication states about a show. -/
structure PublishedShowFields where
  channelId : Uuid
  artistId : Uuid
  categoryId : String
  runtimeMin : ℤ
  spokenLanguages : List String
  subtitleLanguages : List String
  surtitleLanguages : List String
  publishedAt : Instant
  deriving Repr, DecidableEq

/-- What an update replaces, and a publication states first. -/
structure UpdatableShowFields where
  genreIds : List String
  tagIds : List String
  languageDependency : Option LanguageDependency
  media : ShowMedia
  title : Bilingual
  synopsis : Bilingual
  deriving Repr, DecidableEq

/-- A publication, or an update, which states the updatable group only. -/
structure ShowFact where
  version : ℤ
  published : Option PublishedShowFields
  updatable : UpdatableShowFields
  deriving Repr, DecidableEq

structure ShowProjection where
  showId : Uuid
  /-- The newest fact applied: the show document's version. -/
  version : ℤ
  traceparent : Option String
  published : Option PublishedShowFields
  publishedVersion : Option ℤ
  updatable : Option UpdatableShowFields
  updatableVersion : Option ℤ
  deriving Repr, DecidableEq

def ShowProjection.empty (showId : Uuid) : ShowProjection where
  showId := showId
  version := 0
  traceparent := none
  published := none
  publishedVersion := none
  updatable := none
  updatableVersion := none

/-- The row after a fact, nothing when neither group moves. -/
def showAfter (row : ShowProjection) (fact : ShowFact) (traceparent : Option String) :
    Option ShowProjection :=
  let publishedMoves := fact.published.isSome && takes row.publishedVersion fact.version
  let updatableMoves := takes row.updatableVersion fact.version
  if !publishedMoves && !updatableMoves then none
  else
    some { row with
      published := if publishedMoves then fact.published else row.published
      publishedVersion := if publishedMoves then some fact.version else row.publishedVersion
      updatable := if updatableMoves then some fact.updatable else row.updatable
      updatableVersion := if updatableMoves then some fact.version else row.updatableVersion
      version := max row.version fact.version
      traceparent := traceparent }

end Arthome.Search
