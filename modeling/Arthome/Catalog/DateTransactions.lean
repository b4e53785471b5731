import Arthome.Catalog.CatalogMessages
import Arthome.Catalog.PublicLinkRuns
import Arthome.Messaging.Claims

/-!
# Catalog's transactions

The studio's commands on shows, venues, channels and dates, and the facts other contexts
tell about a date, each one transaction. A command on a date holds its publication's row
and its show's to the commit, and records every consequence of its events: the slugs a
move replaced, the public row, the outbox rows. A replay's file is learned under the
replay's row alone, the publication read without a lock, and first.
-/

namespace Arthome.Catalog.Dates

open Arthome.Core Library Messaging
open Arthome.Search (Bilingual LanguageDependency)

/-- A checklist fact another context reported. -/
structure PublicationChecklistFact where
  dateId : Uuid
  item : PublicationChecklistItem
  satisfied : Bool
  occurredAt : Instant
  deriving Repr, DecidableEq

def PublicationChecklistFact.key (fact : PublicationChecklistFact) :
    Uuid × PublicationChecklistItem :=
  (fact.dateId, fact.item)

structure Db where
  shows : Table Show.id
  venues : Table Venue.id
  artists : Table Artist.channelId
  dates : Table PerformanceDateSnapshot.id
  publications : Table PublicationSnapshot.dateId
  checklistFacts : Table PublicationChecklistFact.key
  replays : Table ReplaySnapshot.dateId
  details : Details
  aliases : Table SlugAlias.key
  processed : List Uuid
  outbox : List CatalogMessage

namespace Db

def empty : Db :=
  ⟨Table.empty, Table.empty, Table.empty, Table.empty, Table.empty, Table.empty, Table.empty,
    Table.empty, Table.empty, [], []⟩

/-! ## Slugs -/

/-- The rows the public links are made of, as a command at the instant finds them. -/
def links (db : Db) (now : Instant) : Pages where
  shows := Table.empty
  dates := db.dates.mapRows
    (fun date => ⟨date.id, date.showId, ((db.venues.find? date.venueId).map Venue.timeZone).getD "",
      date.startsAt, date.slug⟩) fun _ => rfl
  publicDates := db.details.mapRows (fun row => ⟨row.dateId, row.showId, row.slug⟩) fun _ => rfl
  artists := Table.empty
  aliases := db.aliases
  clock := now

section Slugs

variable [SlugRules]

/-- The slugs a show may take, most readable first; a title too short leaves the id's tail alone. -/
def showSlugCandidates (title : Bilingual) (showId : Uuid) : List String :=
  let base := slugify (if 0 < title.fr.length then title.fr else title.en)
  if base.length < 3 then [uuidTail 12 showId] else [base, base ++ "-" ++ uuidTail 8 showId]

/-- The first candidate no show holds and no retired slug still reserves. -/
def freeShowSlug (db : Db) (title : Bilingual) (showId : Uuid) (now : Instant) : String :=
  ((showSlugCandidates title showId).find? fun candidate =>
    !(db.shows.rows.any fun shown => shown.slug = candidate) &&
      !(db.links now).reservedForAnother ⟨.show, UNSCOPED, candidate⟩ showId now).getD
    (uuidTail 32 showId)

/-- The slugs a move replaced lead on to their dates. -/
def retireSlugsMovedFrom (db : Db) (events : List DateKeyedEvent) : Db :=
  events.foldl (fun db event =>
    match event with
    | .dateRescheduled dateId showId _ _ previousSlug newSlug occurredAt =>
      if newSlug = previousSlug then db
      else { db with
        aliases := db.aliases.upsert
          ⟨Pages.dateSlugKey showId previousSlug, dateId, occurredAt + redirectMs⟩ }
    | _ => db) db

end Slugs

/-! ## The repositories -/

/-- The date under its publication's lock. -/
def findDate (db : Db) (dateId : Uuid) : Except DateRefusal (Option PerformanceDate) :=
  match db.publications.find? dateId with
  | none => .ok none
  | some publication => do
    let current ← orRefuse (db.dates.find? dateId) (.error "EntityNotFoundError")
    return some (.restore current publication)

section Save

variable [SlugRules]

/-- The date's row written, its slug unique within its show. -/
def putDate (db : Db) (current : PerformanceDateSnapshot) : Except DateRefusal Db := do
  let held := current.slug.any fun slug => (db.links 0).dateSlugHeld current.showId current.id slug
  require (held = false) (.error "date_show_slug")
  return { db with dates := db.dates.put current }

/-- The publication's row first, conditioned on the version loaded; the date's when it changed. -/
def saveDate (db : Db) (loaded date : PerformanceDate) : Except DateRefusal Db := do
  let row ← orRefuse (db.publications.find? date.current.id) (.error "EntityNotFoundError")
  require (row.version = loaded.publication.version) (.stateConflict row.version row.state)
  let db := { db with publications := db.publications.put date.publication }
  if date.current = loaded.current then return db else db.putDate date.current

end Save

/-- A draft inserts the date, then its publication. -/
def insertDate (db : Db) (date : PerformanceDate) : Except DateRefusal Db := do
  let dates ← orRefuse (db.dates.insert date.current) (.error "date_pkey")
  let publications ← orRefuse (db.publications.insert date.publication) (.error "publication_pkey")
  return { db with dates, publications }

def findReplay (db : Db) (dateId : Uuid) : Option Replay :=
  (db.replays.find? dateId).map Replay.restore

def saveReplay (db : Db) (loadedVersion : ℕ) (replay : Replay) : Except DateRefusal Db := do
  let row ← orRefuse (db.replays.find? replay.current.dateId) (.error "EntityNotFoundError")
  require (row.version = loadedVersion) (.replayConflict row.version row.state)
  return { db with replays := db.replays.put replay.current }

def insertReplay (db : Db) (replay : Replay) : Except DateRefusal Db := do
  let replays ← orRefuse (db.replays.insert replay.current) (.error "replay_pkey")
  return { db with replays }

/-! ## What a date's command reads and records -/

structure LoadedDate where
  date : PerformanceDate
  shown : Show
  venue : Venue
  deriving Repr, DecidableEq

/-- A missing date is refused; its show is read under its row lock. -/
def loadDate (db : Db) (dateId : Uuid) : Except DateRefusal LoadedDate := do
  let date ← orRefuse (← db.findDate dateId) .notFound
  let shown ← orRefuse (db.shows.find? date.current.showId) (.error "EntityNotFoundError")
  let venue ← orRefuse (db.venues.find? date.current.venueId) (.error "EntityNotFoundError")
  return ⟨date, shown, venue⟩

section Record

variable [SlugRules]

/-- Every consequence of a date's events: the slugs a move replaced, its public row, its outbox
rows. -/
def recordDateEvents (db : Db) (events : List DateKeyedEvent) (context : DateWireContext) :
    Except DateRefusal Db := do
  let db := db.retireSlugsMovedFrom events
  let details ← db.details.projectDateEvents events ⟨context.shown, context.venue⟩ db.artists.find?
  return { db with details, outbox := writeDateIntegrationEvents db.outbox events context }

end Record

/-- The public row and the outbox rows of a command that moved the replay alone. -/
def recordReplayEvents (db : Db) (events : List ReplayStateChanged) : Db :=
  { db with
    details := db.details.projectReplayEvents events
    outbox := db.outbox ++ events.map fun change => .date (replayStateMessage change) }

end Db

/-! ## Shows, venues and channels -/

/-- What a show is published with. -/
structure PublishShowBody where
  channelId : Uuid
  artistId : Uuid
  categoryId : String
  genreIds : List String
  tagIds : List String
  runtimeMin : ℤ
  languageDependency : LanguageDependency
  spokenLanguages : List String
  subtitleLanguages : List String
  surtitleLanguages : List String
  media : MediaSet
  title : Bilingual
  synopsis : Bilingual
  deriving Repr, DecidableEq

def publishShow [SlugRules] (db : Db) (body : PublishShowBody) (showId : Uuid) (now : Instant) :
    Except DateRefusal Db := do
  let slug := db.freeShowSlug body.title showId now
  let shown : Show := {
    id := showId
    slug := slug
    channelId := body.channelId
    artistId := body.artistId
    categoryId := body.categoryId
    genreIds := body.genreIds
    tagIds := body.tagIds
    runtimeMin := body.runtimeMin
    languageDependency := body.languageDependency
    spokenLanguages := body.spokenLanguages
    subtitleLanguages := body.subtitleLanguages
    surtitleLanguages := body.surtitleLanguages
    media := body.media
    title := body.title
    synopsis := body.synopsis }
  require (∀ other ∈ db.shows.rows, other.slug ≠ slug) (.core "show.slug_taken")
  let shows ← orRefuse (db.shows.insert shown) (.error "show_pkey")
  return { db with shows, outbox := db.outbox ++ [showPublishedMessage shown now] }

/-- The fields an update names. -/
structure ShowChanges where
  genreIds : Option (List String)
  tagIds : Option (List String)
  languageDependency : Option LanguageDependency
  media : Option MediaSet
  title : Option Bilingual
  synopsis : Option Bilingual
  deriving Repr, DecidableEq

def updateShow (db : Db) (showId : Uuid) (changes : ShowChanges) (now : Instant) :
    Except DateRefusal Db := do
  let shown ← orRefuse (db.shows.find? showId) .notFound
  let next := { shown with
    genreIds := changes.genreIds.getD shown.genreIds
    tagIds := changes.tagIds.getD shown.tagIds
    languageDependency := changes.languageDependency.getD shown.languageDependency
    media := changes.media.getD shown.media
    title := changes.title.getD shown.title
    synopsis := changes.synopsis.getD shown.synopsis }
  return { db with
    shows := db.shows.put next
    details := db.details.projectShowCopy next
    outbox := db.outbox ++ [showUpdatedMessage next now] }

def createVenue (db : Db) (venue : Venue) : Except DateRefusal Db := do
  let venues ← orRefuse (db.venues.insert venue) (.error "venue_pkey")
  return { db with venues }

/-- The channel's face, its slug and its category aside. -/
def updateChannelIdentity (db : Db) (channelId : Uuid) (expectedVersion : ℕ)
    (publicName : Option String) (newId : Uuid) (now : Instant) : Except DateRefusal Db := do
  let current := db.artists.find? channelId
  let version := (current.map Artist.version).getD 0
  require (expectedVersion = version) (.faceConflict version)
  let publicName ← orRefuse (publicName <|> current.map Artist.publicName)
    (.schemaInvalid ["publicName"])
  let artist : Artist :=
    ⟨channelId, (current.map Artist.id).getD newId, publicName, version + 1⟩
  return { db with
    artists := db.artists.upsert artist
    details := db.details.projectArtist artist
    outbox := db.outbox ++ [.artistUpdated ⟨artist.id, artist.channelId, artist.publicName, now⟩] }

/-! ## The commands of a date -/

structure DraftDateBody where
  dateId : Uuid
  showId : Uuid
  venueId : Uuid
  startsAt : Instant
  replayPolicy : ReplayPolicy
  replayWindowHours : Option ℤ
  deriving Repr, DecidableEq

structure DeclareOutcomeBody where
  outcome : DateOutcome
  message : OutcomeMessage
  rescheduledTo : Option Instant
  expectedVersion : ℕ
  deriving Repr, DecidableEq

/-- The states a studio may ask for: the run's are caused by streaming, never commanded. -/
def COMMANDED_STATES : List PublicationState :=
  [.draft, .reserve, .scheduled, .technical, .replayOnline]

/-- Whether there is copy in one language at least. -/
def hasCopy (text : Bilingual) : Bool := 0 < text.fr.length || 0 < text.en.length

/-- The checklist items catalog holds itself, read off the show. -/
def ownChecklistFacts (shown : Show) : List PublicationChecklistItem :=
  (if hasCopy shown.title && 0 < shown.categoryId.length then [.titleAndDiscipline] else []) ++
    (if 0 < shown.media.poster.length then [.poster] else []) ++
    (if hasCopy shown.synopsis then [.description] else [])

/-- Every item satisfied now: catalog's own, the rest as last reported. -/
def satisfiedChecklistItems (shown : Show) (projectedFacts : List PublicationChecklistFact) :
    List PublicationChecklistItem :=
  ownChecklistFacts shown ++
    (projectedFacts.filter fun fact => fact.satisfied).map fun fact => fact.item

section Commands

variable [PublicationRules] [ReplayRules] [SlugRules] (publicWebOrigin : String)

def draftIn (db : Db) (channelId : Uuid) (body : DraftDateBody) (now : Instant) :
    Except DateRefusal Db := do
  let shown ← orRefuse ((db.shows.find? body.showId).filter fun shown => shown.channelId = channelId)
    (.schemaInvalid ["showId"])
  let venue ← orRefuse (db.venues.find? body.venueId) (.schemaInvalid ["venueId"])
  require ((← db.findDate body.dateId) = none) (.schemaInvalid ["dateId"])
  let date := PerformanceDate.draft {
    id := body.dateId
    showId := shown.id
    venueId := venue.id
    channelId := channelId
    startsAt := body.startsAt
    runtimeMin := shown.runtimeMin
    replayPolicy := body.replayPolicy
    replayWindowHours := body.replayWindowHours } now
  let db ← db.insertDate date
  db.recordDateEvents date.events ⟨publicWebOrigin, shown, venue⟩

omit [ReplayRules] in
/-- The date's replay put online, or the refusal core has for its absence. -/
def replayPutOnline (db : Db) (dateId : Uuid) (now : Instant) : Except DateRefusal Replay :=
  match db.findReplay dateId with
  | none => do
    PublicationRules.assertReplayGoesOnline none
    throw (.error s!"date {dateId} has no replay, and core let it go online")
  | some replay => replay.goOnline now

omit [ReplayRules] in
/-- Putting the replay online moves the publication and the replay, or nothing. -/
def transitionIn (db : Db) (dateId : Uuid) (command : PublicationTransitionCommand) (now : Instant) :
    Except DateRefusal Db := do
  require (command.toState ∈ COMMANDED_STATES) (.schemaInvalid ["to"])
  let loaded ← db.loadDate dateId
  let satisfied := satisfiedChecklistItems loaded.shown
    (db.checklistFacts.rows.filter fun fact => fact.dateId = dateId)
  let current := loaded.date.current
  let freeSlug :=
    if current.slug = none then
      some ((db.links now).freeDateSlug dateId current.showId current.startsAt
        loaded.venue.timeZone now)
    else none
  let date ← loaded.date.transitionPublication command
    ⟨satisfied, freeSlug, loaded.shown.runtimeMin, now⟩
  let context : DateWireContext := ⟨publicWebOrigin, loaded.shown, loaded.venue⟩
  if command.toState = .replayOnline then
    let replay ← replayPutOnline db dateId now
    let saved ← db.saveDate loaded.date date
    let saved ← saved.saveReplay ((db.replays.find? dateId).elim 0 fun row => row.version) replay
    saved.recordDateEvents (date.events ++ replay.events.map .replayStateChanged) context
  else
    let saved ← db.saveDate loaded.date date
    saved.recordDateEvents date.events context

/-- A withdrawing outcome takes the replay away in the same act. -/
def declareIn (db : Db) (dateId : Uuid) (body : DeclareOutcomeBody) (now : Instant) :
    Except DateRefusal Db := do
  require (body.outcome = .postponed ↔ body.rescheduledTo ≠ none) (.schemaInvalid ["rescheduledTo"])
  let loaded ← db.loadDate dateId
  let slugAtNewStart := body.rescheduledTo.map fun movedTo =>
    (db.links now).freeDateSlug dateId loaded.date.current.showId movedTo loaded.venue.timeZone now
  let date ← loaded.date.declareOutcome body.expectedVersion ⟨body.outcome, body.rescheduledTo⟩
    body.message slugAtNewStart now
  let withdrawn :=
    if ReplayRules.outcomeWithdrawsReplay (some body.outcome) then
      (db.findReplay dateId).bind fun replay => replay.withdraw now
    else none
  let context : DateWireContext := ⟨publicWebOrigin, loaded.shown, loaded.venue⟩
  let saved ← db.saveDate loaded.date date
  match withdrawn with
  | none => saved.recordDateEvents date.events context
  | some replay =>
    let saved ← saved.saveReplay ((db.replays.find? dateId).elim 0 fun row => row.version) replay
    saved.recordDateEvents (date.events ++ replay.events.map .replayStateChanged) context

/-! ## The facts told about a date -/

structure ChecklistFact where
  dateId : Uuid
  item : PublicationChecklistItem
  satisfied : Bool
  occurredAt : Instant
  deriving Repr, DecidableEq

omit [PublicationRules] [ReplayRules] [SlugRules] in
/-- An older fact never replaces a newer one for the same item. -/
def recordChecklistFact (db : Db) (messageId : Uuid) (fact : ChecklistFact) :
    Except DateRefusal (Db × Outcome) :=
  match claimMessage db.processed messageId with
  | none => .ok (db, .duplicate)
  | some processed => do
    let db := { db with processed := processed }
    let _ ← orRefuse (db.publications.find? fact.dateId) .notFound
    let row : PublicationChecklistFact := ⟨fact.dateId, fact.item, fact.satisfied, fact.occurredAt⟩
    if (db.checklistFacts.find? row.key).all fun kept => kept.occurredAt ≤ fact.occurredAt then
      return ({ db with checklistFacts := db.checklistFacts.upsert row }, .applied)
    else return (db, .superseded)

/-- The run's start, or its end at its real instant. -/
structure RunFact where
  dateId : Uuid
  endedAt : Option Instant
  deriving Repr, DecidableEq

/-- The live's end opens the date's replay: none when the date promised none, or its outcome took it
away. -/
def replayOpenedBy (date : PerformanceDateSnapshot) (liveEndedAt now : Instant) : Option Replay :=
  let windowHours := date.replayWindowHours.getD 0
  if PublicationRules.createsReplayOnLiveEnd date.replayPolicy windowHours date.outcome then
    some (Replay.opened date.id date.channelId date.replayPolicy liveEndedAt windowHours now)
  else none

/-- The publication's move and the replay it opens, in one transaction. -/
def learnRunFact (db : Db) (messageId : Uuid) (fact : RunFact) (now : Instant) :
    Except DateRefusal (Db × Outcome) :=
  match claimMessage db.processed messageId with
  | none => .ok (db, .duplicate)
  | some processed => do
    let db := { db with processed := processed }
    let loaded ← db.loadDate fact.dateId
    let moved ← match fact.endedAt with
      | none => loaded.date.learnRunStarted now
      | some _ => loaded.date.learnRunEnded now
    match moved with
    | none => return (db, .ignored)
    | some date => do
      let context : DateWireContext := ⟨publicWebOrigin, loaded.shown, loaded.venue⟩
      let saved ← db.saveDate loaded.date date
      match fact.endedAt.bind fun endedAt => replayOpenedBy date.current endedAt now with
      | none => return (← saved.recordDateEvents date.events context, .applied)
      | some replay => do
        let saved ← saved.insertReplay replay
        return (← saved.recordDateEvents
          (date.events ++ replay.events.map .replayStateChanged) context, .applied)

/-- The file streaming announced, or nothing when it expired. -/
structure ReplayAssetFact where
  dateId : Uuid
  ready : Option ReplayAsset
  deriving Repr, DecidableEq

/-- How many commits ago a fact's transaction read the publication, and the replay after it. -/
structure FactReads where
  publication : ℕ
  replay : ℕ
  inOrder : replay ≤ publication

omit [PublicationRules] [ReplayRules] [SlugRules] in
def learnAsset (replay : Replay) (fact : ReplayAssetFact) (now : Instant) : Option Replay :=
  match fact.ready with
  | none => replay.close now
  | some asset => replay.learnAssetReady asset

omit [PublicationRules] [ReplayRules] [SlugRules] in
/-- The publication and then the replay as they were read, and the replay's row as it is under its
lock once it is there. -/
def learnReplayAssetFact (db : Db) (publicationSeen replaySeen : Db) (messageId : Uuid)
    (fact : ReplayAssetFact) (now : Instant) : Except DateRefusal (Db × Outcome) :=
  match claimMessage db.processed messageId with
  | none => .ok (db, .duplicate)
  | some processed => do
    let db := { db with processed := processed }
    let publication ← orRefuse (publicationSeen.publications.find? fact.dateId) .notFound
    match (replaySeen.replays.find? fact.dateId).bind fun _ => db.findReplay fact.dateId with
    | none =>
      require (publication.state ∈ RUN_ALREADY_ENDED) (.replayFactBeforeRunEnded fact.dateId)
      return (db, .ignored)
    | some replay =>
      match learnAsset replay fact now with
      | none => return (db, .ignored)
      | some moved => do
        let saved ← db.saveReplay replay.current.version moved
        return (saved.recordReplayEvents moved.events, .applied)

/-! ## Runs -/

/-- A transaction of catalog's, with what it draws and reads. -/
inductive Transaction where
  | publishShow (body : PublishShowBody) (showId : Uuid) (now : Instant)
  | updateShow (showId : Uuid) (changes : ShowChanges) (now : Instant)
  | createVenue (venue : Venue)
  | updateChannelIdentity (channelId : Uuid) (expectedVersion : ℕ) (publicName : Option String)
      (newId : Uuid) (now : Instant)
  | draftDate (channelId : Uuid) (body : DraftDateBody) (now : Instant)
  | transitionPublication (dateId : Uuid) (command : PublicationTransitionCommand) (now : Instant)
  | declareOutcome (dateId : Uuid) (body : DeclareOutcomeBody) (now : Instant)
  | recordChecklistFact (messageId : Uuid) (fact : ChecklistFact)
  | learnRunFact (messageId : Uuid) (fact : RunFact) (now : Instant)
  | learnReplayAssetFact (messageId : Uuid) (fact : ReplayAssetFact) (reads : FactReads)
      (now : Instant)

/-- The committed state, and those before it with the latest first. -/
structure World where
  db : Db
  past : List Db

namespace World

def empty : World := ⟨.empty, []⟩

/-- The state committed so many commits ago. -/
def before (w : World) (commits : ℕ) : Db := (w.db :: w.past).getD commits w.db

end World

/-- What the transaction commits. -/
def Transaction.perform (w : World) : Transaction → Except DateRefusal Db
  | .publishShow body showId now => Dates.publishShow w.db body showId now
  | .updateShow showId changes now => Dates.updateShow w.db showId changes now
  | .createVenue venue => Dates.createVenue w.db venue
  | .updateChannelIdentity channelId expectedVersion publicName newId now =>
    Dates.updateChannelIdentity w.db channelId expectedVersion publicName newId now
  | .draftDate channelId body now => draftIn publicWebOrigin w.db channelId body now
  | .transitionPublication dateId command now => transitionIn publicWebOrigin w.db dateId command now
  | .declareOutcome dateId body now => declareIn publicWebOrigin w.db dateId body now
  | .recordChecklistFact messageId fact =>
    (Dates.recordChecklistFact w.db messageId fact).map Prod.fst
  | .learnRunFact messageId fact now =>
    (Dates.learnRunFact publicWebOrigin w.db messageId fact now).map Prod.fst
  | .learnReplayAssetFact messageId fact reads now =>
    (Dates.learnReplayAssetFact w.db (w.before reads.publication) (w.before reads.replay) messageId
      fact now).map Prod.fst

namespace World

/-- A transaction committed, or rolled back. -/
def advance (w : World) (transaction : Transaction) : World :=
  match transaction.perform publicWebOrigin w with
  | .ok db => ⟨db, w.db :: w.past⟩
  | .error _ => w

/-- The world after the transactions, from before the first show was published. -/
def reached (transactions : List Transaction) : World :=
  transactions.foldl (advance publicWebOrigin) empty

end World

end Commands

end Arthome.Catalog.Dates
