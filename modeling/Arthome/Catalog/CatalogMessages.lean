import Arthome.Catalog.DateDetails

/-!
# The messages catalog publishes

One outbox row per event, in the order the aggregates raised them: a date's, its
publication's and its replay's on the date's topic, a show's and an artist's on their own.
The wire's numbers stand for the members of an enumeration, and no number for none of them.
-/

namespace Arthome.Catalog.Dates

open Arthome.Core
open Arthome.Search (Bilingual LanguageDependency)

/-! ## The wire's numbers -/

def WIRE_PUBLICATION_STATE : PublicationState → ℕ
  | .draft => 1
  | .reserve => 2
  | .scheduled => 3
  | .technical => 4
  | .live => 5
  | .ended => 6
  | .replayOnline => 7

def WIRE_REPLAY_POLICY : ReplayPolicy → ℕ
  | .included => 1
  | .subscription => 2
  | .unit => 3
  | .none => 4

def WIRE_REPLAY_STATE : ReplayState → ℕ
  | .pending => 1
  | .online => 2
  | .closed => 3
  | .withdrawn => 4

def WIRE_RIGHTS_SCOPE : RightsScope → ℕ
  | .worldwide => 1
  | .restricted => 2

def WIRE_DATE_OUTCOME : DateOutcome → ℕ
  | .postponed => 1
  | .cancelled => 2
  | .interrupted => 3

def WIRE_BLACKOUT_REASON : BlackoutReason → ℕ
  | .coProduction => 1
  | .broadcaster => 2
  | .festival => 3

def WIRE_LANGUAGE_DEPENDENCY : LanguageDependency → ℕ
  | .none => 1
  | .helpful => 2
  | .essential => 3

/-- What no member is written as. -/
def UNSPECIFIED : ℕ := 0

structure LocalizedText where
  contentLanguage : String
  text : String
  deriving Repr, DecidableEq

/-- One text per language that has copy: an empty side is absent. -/
def wireLocalizedTexts (text : Bilingual) : List LocalizedText :=
  [⟨"fr", text.fr⟩, ⟨"en", text.en⟩].filter fun entry => 0 < entry.text.length

/-! ## The messages -/

structure DateScheduledMessage where
  dateId : Uuid
  channelId : Uuid
  showId : Uuid
  venueId : Uuid
  startsAt : Instant
  venueTimezone : String
  runtimeMin : ℤ
  replayPolicy : ℕ
  replayWindowHours : ℤ
  rightsScope : ℕ
  blackoutCountries : List String
  blackoutReason : ℕ
  canonicalUrl : String
  showSlug : String
  slug : String
  venueCity : String
  venueCountry : String
  occurredAt : Instant
  deriving Repr, DecidableEq

structure ReplayStateMessage where
  dateId : Uuid
  channelId : Uuid
  fromState : ℕ
  toState : ℕ
  version : ℕ
  policy : ℕ
  liveEndedAt : Instant
  closesAt : Instant
  onlineAt : Option Instant
  durationSec : Option ℤ
  occurredAt : Instant
  deriving Repr, DecidableEq

/-- The messages of the date's topic. -/
inductive DateMessage where
  | drafted (dateId channelId showId venueId : Uuid) (occurredAt : Instant)
  | scheduled (message : DateScheduledMessage)
  | outcomeDeclared (dateId channelId : Uuid) (outcome : ℕ) (message : OutcomeMessage)
      (rescheduledTo : Option Instant) (declaredAt : Instant)
  | rescheduled (dateId : Uuid) (previousStartsAt newStartsAt : Instant)
      (newSlug newCanonicalUrl : String) (occurredAt : Instant)
  | stateChanged (dateId channelId : Uuid) (fromState toState version : ℕ) (irreversible : Bool)
      (occurredAt : Instant)
  | engaged (dateId channelId : Uuid) (occurredAt : Instant)
  | replayStateChanged (message : ReplayStateMessage)
  deriving Repr, DecidableEq

structure ShowPublishedMessage where
  showId : Uuid
  channelId : Uuid
  artistId : Uuid
  categoryId : String
  genreIds : List String
  tagIds : List String
  runtimeMin : ℤ
  languageDependency : ℕ
  spokenLanguages : List String
  subtitleLanguages : List String
  surtitleLanguages : List String
  media : MediaSet
  occurredAt : Instant
  title : List LocalizedText
  synopsis : List LocalizedText
  slug : String
  deriving Repr, DecidableEq

structure ShowUpdatedMessage where
  showId : Uuid
  genreIds : List String
  tagIds : List String
  languageDependency : ℕ
  media : MediaSet
  occurredAt : Instant
  title : List LocalizedText
  synopsis : List LocalizedText
  deriving Repr, DecidableEq

structure ArtistUpdatedMessage where
  artistId : Uuid
  channelId : Uuid
  publicName : String
  occurredAt : Instant
  deriving Repr, DecidableEq

/-- One outbox row. -/
inductive CatalogMessage where
  | showPublished (message : ShowPublishedMessage)
  | showUpdated (message : ShowUpdatedMessage)
  | artistUpdated (message : ArtistUpdatedMessage)
  | date (message : DateMessage)
  deriving Repr, DecidableEq

/-! ## The message of an event -/

def showUrl (origin showSlug : String) : String := origin ++ "/show/" ++ showSlug

def dateUrl (origin showSlug dateSlug : String) : String :=
  showUrl origin showSlug ++ "/date/" ++ dateSlug

/-- What the wire says beyond the date's own facts. -/
structure DateWireContext where
  origin : String
  shown : Show
  venue : Venue
  deriving Repr, DecidableEq

def scheduledMessage (date : PublicDateFacts) (occurredAt : Instant) (context : DateWireContext) :
    DateMessage :=
  .scheduled {
    dateId := date.dateId
    channelId := date.channelId
    showId := date.showId
    venueId := date.venueId
    startsAt := date.startsAt
    venueTimezone := context.venue.timeZone
    runtimeMin := date.runtimeMin
    replayPolicy := WIRE_REPLAY_POLICY date.replayPolicy
    replayWindowHours := date.replayWindowHours.getD 0
    rightsScope := WIRE_RIGHTS_SCOPE date.rights.scope
    blackoutCountries := date.rights.blackoutCountries
    blackoutReason := (date.rights.reason.map WIRE_BLACKOUT_REASON).getD UNSPECIFIED
    canonicalUrl := dateUrl context.origin context.shown.slug date.slug
    showSlug := context.shown.slug
    slug := date.slug
    venueCity := context.venue.city
    venueCountry := context.venue.country
    occurredAt := occurredAt }

def replayStateMessage (change : ReplayStateChanged) : DateMessage :=
  .replayStateChanged {
    dateId := change.dateId
    channelId := change.channelId
    fromState := (change.fromState.map WIRE_REPLAY_STATE).getD UNSPECIFIED
    toState := WIRE_REPLAY_STATE change.toState
    version := change.version
    policy := WIRE_REPLAY_POLICY change.policy
    liveEndedAt := change.liveEndedAt
    closesAt := change.closesAt
    onlineAt := change.onlineAt
    durationSec := change.durationSec
    occurredAt := change.occurredAt }

def integrationEventOf (context : DateWireContext) : DateKeyedEvent → DateMessage
  | .dateDrafted dateId channelId showId venueId occurredAt =>
    .drafted dateId channelId showId venueId occurredAt
  | .dateScheduled facts occurredAt => scheduledMessage facts occurredAt context
  | .dateOutcomeDeclared dateId channelId outcome message rescheduledTo occurredAt =>
    .outcomeDeclared dateId channelId (WIRE_DATE_OUTCOME outcome) message rescheduledTo occurredAt
  | .dateRescheduled dateId _ previousStartsAt newStartsAt _ newSlug occurredAt =>
    .rescheduled dateId previousStartsAt newStartsAt newSlug
      (dateUrl context.origin context.shown.slug newSlug) occurredAt
  | .publicationStateChanged dateId channelId fromState toState version irreversible occurredAt =>
    .stateChanged dateId channelId (WIRE_PUBLICATION_STATE fromState)
      (WIRE_PUBLICATION_STATE toState) version irreversible occurredAt
  | .publicationEngaged dateId channelId occurredAt => .engaged dateId channelId occurredAt
  | .replayStateChanged change => replayStateMessage change

/-- One row per event, in the order the aggregates raised them. -/
def writeDateIntegrationEvents (outbox : List CatalogMessage) (events : List DateKeyedEvent)
    (context : DateWireContext) : List CatalogMessage :=
  outbox ++ events.map fun event => .date (integrationEventOf context event)

def showPublishedMessage (shown : Show) (occurredAt : Instant) : CatalogMessage :=
  .showPublished {
    showId := shown.id
    channelId := shown.channelId
    artistId := shown.artistId
    categoryId := shown.categoryId
    genreIds := shown.genreIds
    tagIds := shown.tagIds
    runtimeMin := shown.runtimeMin
    languageDependency := WIRE_LANGUAGE_DEPENDENCY shown.languageDependency
    spokenLanguages := shown.spokenLanguages
    subtitleLanguages := shown.subtitleLanguages
    surtitleLanguages := shown.surtitleLanguages
    media := shown.media
    occurredAt := occurredAt
    title := wireLocalizedTexts shown.title
    synopsis := wireLocalizedTexts shown.synopsis
    slug := shown.slug }

/-- Every field it names at its new value: a consumer replaces them. -/
def showUpdatedMessage (shown : Show) (occurredAt : Instant) : CatalogMessage :=
  .showUpdated {
    showId := shown.id
    genreIds := shown.genreIds
    tagIds := shown.tagIds
    languageDependency := WIRE_LANGUAGE_DEPENDENCY shown.languageDependency
    media := shown.media
    occurredAt := occurredAt
    title := wireLocalizedTexts shown.title
    synopsis := wireLocalizedTexts shown.synopsis }

end Arthome.Catalog.Dates
