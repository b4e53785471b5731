import Arthome.Catalog.CatalogMessages
import Arthome.Search.Convergence

/-!
# Catalog's messages, as the indexer reads them

The wire's numbers read back as members, and a number no member has as none. A date's, a
show's and an artist's message each states one fact; the outbox states a list of them for
each date, each show and each channel. The artist's face kept of a channel is the last one
stated.
-/

namespace Arthome.Search

open Arthome.Core Library Library.Register
open Arthome.Catalog.Dates (CatalogMessage DateMessage LocalizedText Rendition MediaSet
  ShowPublishedMessage ShowUpdatedMessage ArtistUpdatedMessage wireLocalizedTexts
  WIRE_PUBLICATION_STATE WIRE_REPLAY_POLICY WIRE_REPLAY_STATE WIRE_RIGHTS_SCOPE WIRE_DATE_OUTCOME
  WIRE_LANGUAGE_DEPENDENCY)

/-! ## The wire's numbers -/

def languageDependencyOf : ℕ → Option LanguageDependency
  | 1 => some .none
  | 2 => some .helpful
  | 3 => some .essential
  | _ => none

def replayPolicyOf : ℕ → Option ReplayPolicy
  | 1 => some .included
  | 2 => some .subscription
  | 3 => some .unit
  | 4 => some .none
  | _ => none

def publicationStateOf : ℕ → Option PublicationState
  | 1 => some .draft
  | 2 => some .reserve
  | 3 => some .scheduled
  | 4 => some .technical
  | 5 => some .live
  | 6 => some .ended
  | 7 => some .replayOnline
  | _ => none

def replayStateOf : ℕ → Option ReplayState
  | 1 => some .pending
  | 2 => some .online
  | 3 => some .closed
  | 4 => some .withdrawn
  | _ => none

def dateOutcomeOf : ℕ → Option DateOutcome
  | 1 => some .postponed
  | 2 => some .cancelled
  | 3 => some .interrupted
  | _ => none

def rightsScopeOf : ℕ → Option RightsScope
  | 1 => some .worldwide
  | 2 => some .restricted
  | _ => none

/-- The product's two languages out of the wire's list. -/
def bilingualOf (texts : List LocalizedText) : Bilingual :=
  let textIn (language : String) : String :=
    ((texts.find? fun entry => entry.contentLanguage = language).map LocalizedText.text).getD ""
  ⟨textIn "fr", textIn "en"⟩

def indexedRendition (source : Rendition) : IndexedRendition :=
  ⟨source.url, source.widthPx, source.heightPx⟩

def showMediaOf (media : MediaSet) : ShowMedia :=
  ⟨media.wide.map indexedRendition, media.poster.map indexedRendition⟩

/-! ## The facts -/

/-- What a message of the date's topic states of its date. A draft and a lock are not the indexer's;
a replay in a state the indexer does not know is refused, and waits for a reader that knows it. -/
def dateFactOf : DateMessage → Option (Uuid × DateFact)
  | .scheduled message => some (message.dateId, .scheduled message.occurredAt {
      showId := message.showId
      channelId := message.channelId
      venueId := message.venueId
      startsAt := message.startsAt
      venueTimezone := message.venueTimezone
      venueCity := message.venueCity
      venueCountry := message.venueCountry
      runtimeMin := message.runtimeMin
      replayPolicy := replayPolicyOf message.replayPolicy
      replayWindowHours := message.replayWindowHours
      rightsScope := rightsScopeOf message.rightsScope
      blackoutCountries := message.blackoutCountries
      canonicalUrl := message.canonicalUrl
      showSlug := message.showSlug
      slug := message.slug })
  | .outcomeDeclared dateId _ outcome _ rescheduledTo declaredAt =>
    some (dateId, .outcomeDeclared declaredAt ⟨dateOutcomeOf outcome, rescheduledTo⟩)
  | .rescheduled dateId _ newStartsAt newSlug newCanonicalUrl occurredAt =>
    some (dateId, .rescheduled occurredAt ⟨newStartsAt, if newSlug = "" then none else some newSlug,
      if newCanonicalUrl = "" then none else some newCanonicalUrl⟩)
  | .replayStateChanged message => (replayStateOf message.toState).map fun state =>
    (message.dateId, .replayStateChanged message.version
      ⟨state, message.liveEndedAt, message.closesAt, message.onlineAt, message.durationSec⟩)
  | .stateChanged dateId _ _ toState version _ _ =>
    some (dateId, .stateChanged version (publicationStateOf toState))
  | .drafted .. | .engaged .. => none

def publishedFactOf (message : ShowPublishedMessage) : ShowFact where
  version := message.occurredAt
  published := some {
    channelId := message.channelId
    artistId := message.artistId
    categoryId := message.categoryId
    runtimeMin := message.runtimeMin
    spokenLanguages := message.spokenLanguages
    subtitleLanguages := message.subtitleLanguages
    surtitleLanguages := message.surtitleLanguages
    publishedAt := message.occurredAt }
  updatable := {
    genreIds := message.genreIds
    tagIds := message.tagIds
    languageDependency := languageDependencyOf message.languageDependency
    media := showMediaOf message.media
    title := bilingualOf message.title
    synopsis := bilingualOf message.synopsis }

def updatedFactOf (message : ShowUpdatedMessage) : ShowFact where
  version := message.occurredAt
  published := none
  updatable := {
    genreIds := message.genreIds
    tagIds := message.tagIds
    languageDependency := languageDependencyOf message.languageDependency
    media := showMediaOf message.media
    title := bilingualOf message.title
    synopsis := bilingualOf message.synopsis }

structure ArtistFact where
  version : ℤ
  face : ArtistFace
  deriving Repr, DecidableEq

def artistFactOf (message : ArtistUpdatedMessage) : ArtistFact :=
  ⟨message.occurredAt, message.artistId, message.publicName⟩

/-- A channel's face, under the version it was stated at. -/
structure ArtistProjection where
  face : ArtistFace
  version : ℤ
  deriving Repr, DecidableEq

/-- The first face, or one no older than the one kept. -/
def artistAfter (current : Option ArtistProjection) (fact : ArtistFact) : Option ArtistProjection :=
  if current.any fun kept => fact.version < kept.version then current
  else some ⟨fact.face, fact.version⟩

def artistRowOf (applied : List ArtistFact) : Option ArtistProjection :=
  applied.foldl artistAfter none

/-! ## What an outbox states -/

def dateFactsOf (outbox : List CatalogMessage) (dateId : Uuid) : List DateFact :=
  outbox.filterMap fun
    | .date message => ((dateFactOf message).filter fun fact => fact.1 = dateId).map Prod.snd
    | _ => none

def showFactsOf (outbox : List CatalogMessage) (showId : Uuid) : List ShowFact :=
  outbox.filterMap fun
    | .showPublished message =>
      if message.showId = showId then some (publishedFactOf message) else none
    | .showUpdated message => if message.showId = showId then some (updatedFactOf message) else none
    | _ => none

def artistFactsOf (outbox : List CatalogMessage) (channelId : Uuid) : List ArtistFact :=
  outbox.filterMap fun
    | .artistUpdated message =>
      if message.channelId = channelId then some (artistFactOf message) else none
    | _ => none

/-! ## Every number reads back -/

@[simp] theorem languageDependencyOf_wire (dependency : LanguageDependency) :
    languageDependencyOf (WIRE_LANGUAGE_DEPENDENCY dependency) = some dependency := by
  cases dependency <;> rfl

@[simp] theorem replayPolicyOf_wire (policy : ReplayPolicy) :
    replayPolicyOf (WIRE_REPLAY_POLICY policy) = some policy := by
  cases policy <;> rfl

@[simp] theorem publicationStateOf_wire (state : PublicationState) :
    publicationStateOf (WIRE_PUBLICATION_STATE state) = some state := by
  cases state <;> rfl

@[simp] theorem replayStateOf_wire (state : ReplayState) :
    replayStateOf (WIRE_REPLAY_STATE state) = some state := by
  cases state <;> rfl

@[simp] theorem dateOutcomeOf_wire (outcome : DateOutcome) :
    dateOutcomeOf (WIRE_DATE_OUTCOME outcome) = some outcome := by
  cases outcome <;> rfl

@[simp] theorem rightsScopeOf_wire (scope : RightsScope) :
    rightsScopeOf (WIRE_RIGHTS_SCOPE scope) = some scope := by
  cases scope <;> rfl

/-- A side without copy is absent, and reads back empty. -/
@[simp] theorem bilingualOf_wire (text : Bilingual) :
    bilingualOf (wireLocalizedTexts text) = text := by
  obtain ⟨fr, en⟩ := text
  have hempty : ∀ text : String, ¬ 0 < text.length → text = "" := fun text hlength =>
    String.length_eq_zero_iff.mp (by omega)
  by_cases hfr : 0 < fr.length
  · by_cases hen : 0 < en.length
    · simp [bilingualOf, wireLocalizedTexts, hfr, hen]
    · simp [bilingualOf, wireLocalizedTexts, hfr, hempty en hen]
  · by_cases hen : 0 < en.length
    · simp [bilingualOf, wireLocalizedTexts, hen, hempty fr hfr]
    · simp [bilingualOf, wireLocalizedTexts, hempty fr hfr, hempty en hen]

/-! ## The last face stated -/

def artistRegister : Register (Option ArtistProjection) ℤ ArtistFace where
  stamp kept := kept.map ArtistProjection.version
  write _ version face := some ⟨face, version⟩
  stamp_write _ _ _ := rfl
  write_write _ _ _ _ _ := rfl

theorem artistRowOf_eq (applied : List ArtistFact) : artistRowOf applied =
    (applied.map fun fact => (fact.version, fact.face)).foldl artistRegister.deliver none := by
  have hstep : ∀ kept fact, artistAfter kept fact =
      artistRegister.deliver kept (fact.version, fact.face) := by
    intro kept fact
    cases kept with
    | none => rfl
    | some kept => simp [artistAfter, Register.deliver, Register.isOlder, artistRegister]
  rw [List.foldl_map]
  unfold artistRowOf
  congr 1
  funext kept fact
  exact hstep kept fact

end Arthome.Search
