import Arthome.Catalog.Slugs
import Arthome.Library.Machine
import Arthome.Library.RetiredNames
import Arthome.Library.Table

/-!
# Public links

A date takes a slug of its show when it is published and at each postponement, an artist
takes one at the first update of its channel's identity and whenever an update names
another. A slug replaced is kept as an alias of its page, reserved for it, until it
expires. A link leads to the page that holds its slug, or to the one its alias names.
-/

namespace Arthome.Catalog

open Arthome.Core Arthome.Library

inductive LinkKind where
  | show
  | date
  | artist
  deriving Repr, DecidableEq

/-- A slug's namespace: a date's is its show. -/
structure SlugKey where
  kind : LinkKind
  scope : Option Uuid
  slug : String
  deriving Repr, DecidableEq

/-- Shows and artists share one namespace each. -/
def UNSCOPED : Option Uuid := none

structure SlugAlias where
  key : SlugKey
  targetId : Uuid
  expiresAt : Instant
  deriving Repr, DecidableEq

structure Show where
  id : Uuid
  slug : String
  deriving Repr, DecidableEq

/-- A date's row with its venue's time zone. -/
structure PerformanceDate where
  id : Uuid
  showId : Uuid
  timeZone : String
  startsAt : Instant
  slug : Option String
  deriving Repr, DecidableEq

/-- The public row of a published date. -/
structure DateDetailPublic where
  dateId : Uuid
  showId : Uuid
  slug : String
  deriving Repr, DecidableEq

structure Artist where
  id : Uuid
  channelId : String
  publicName : String
  slug : String
  categoryId : String
  version : ℕ
  deriving Repr, DecidableEq

/-- The rows behind the public links, and the instant of the last command. -/
structure Pages where
  shows : Table Show.slug
  dates : Table PerformanceDate.id
  publicDates : Table DateDetailPublic.dateId
  artists : Table Artist.id
  aliases : Table SlugAlias.key
  clock : Instant

/-- What an identity update asks for. -/
structure UpdateIdentityBody where
  expectedVersion : ℕ
  publicName : Option String
  slug : Option String
  categoryId : Option String
  deriving Repr, DecidableEq

inductive IdentityRefusal where
  | stateConflict (version : ℕ)
  | schemaInvalid (paths : List String)
  | slugTaken
  deriving Repr, DecidableEq

variable [SlugRules]

/-- How long a slug leads on after it is left. -/
def redirectMs : ℤ := SlugRules.SLUG_REDIRECT_DAYS * (24 * 60 * 60 * 1000)

namespace Pages

def initial (shows : Table Show.slug) : Pages :=
  ⟨shows, Table.empty, Table.empty, Table.empty, Table.empty, 0⟩

/-! ## Aliases -/

def retireSlug (s : Pages) (key : SlugKey) (targetId : Uuid) (now : Instant) : Pages :=
  { s with aliases := s.aliases.upsert ⟨key, targetId, now + redirectMs⟩ }

/-- The page a retired slug still points at. -/
def aliasTargetOf (s : Pages) (key : SlugKey) (now : Instant) : Option Uuid :=
  ((s.aliases.find? key).filter fun stored => now < stored.expiresAt).map SlugAlias.targetId

/-- A retired slug not yet expired stays with the page it left. -/
def reservedForAnother (s : Pages) (key : SlugKey) (claimantId : Uuid) (now : Instant) : Bool :=
  match s.aliasTargetOf key now with
  | none => false
  | some target => target ≠ claimantId

/-! ## Dates -/

def dateSlugKey (showId : Uuid) (slug : String) : SlugKey := ⟨.date, some showId, slug⟩

/-- Another date of the show holds the slug. -/
def dateSlugHeld (s : Pages) (showId dateId : Uuid) (slug : String) : Bool :=
  s.dates.rows.any fun date => date.showId = showId && date.slug = some slug && date.id ≠ dateId

/-- The first slug at the start no other date of the show holds or reserves, else the one with the
date's own id. -/
def freeDateSlug (s : Pages) (dateId showId : Uuid) (startsAt : Instant) (timeZone : String)
    (now : Instant) : String :=
  let candidates := dateSlugCandidates startsAt timeZone dateId
  (candidates.find? fun candidate =>
    !s.dateSlugHeld showId dateId candidate &&
      !s.reservedForAnother (dateSlugKey showId candidate) dateId now).getD
    (candidates.getLastD (uuidTail 32 dateId))

/-- The date's row saved; none when the slug's index refuses it. -/
def saveDate (s : Pages) (date : PerformanceDate) (slug : String) : Option Pages :=
  if s.dateSlugHeld date.showId date.id slug then none
  else some { s with dates := s.dates.put { date with slug := some slug } }

def draft (s : Pages) (date : PerformanceDate) : Option Pages :=
  (s.dates.insert { date with slug := none }).map fun dates => { s with dates := dates }

/-- Publishing happens once, and makes the date public under its free slug. -/
def publish (s : Pages) (dateId : Uuid) (now : Instant) : Option Pages := do
  let date ← s.dates.find? dateId
  match date.slug with
  | some _ => none
  | none =>
    let slug := s.freeDateSlug dateId date.showId date.startsAt date.timeZone now
    let saved ← s.saveDate date slug
    let publicDates ← saved.publicDates.insert ⟨dateId, date.showId, slug⟩
    some { saved with publicDates := publicDates, clock := now }

/-- The slug a move replaced keeps leading to its date. -/
def retireSlugsMovedFrom (s : Pages) (date : PerformanceDate) (previousSlug newSlug : String)
    (now : Instant) : Pages :=
  if newSlug = previousSlug then s
  else s.retireSlug (dateSlugKey date.showId previousSlug) date.id now

/-- A postponement moves a public date and its slug in the same act. -/
def postpone (s : Pages) (dateId : Uuid) (movedTo now : Instant) : Option Pages := do
  let date ← s.dates.find? dateId
  let previousSlug ← date.slug
  let slug := s.freeDateSlug dateId date.showId movedTo date.timeZone now
  let saved ← s.saveDate { date with startsAt := movedTo } slug
  let retired := saved.retireSlugsMovedFrom date previousSlug slug now
  some
    { retired with
      publicDates := retired.publicDates.put ⟨dateId, date.showId, slug⟩
      clock := now }

/-! ## Artists -/

def artistSlugKey (slug : String) : SlugKey := ⟨.artist, UNSCOPED, slug⟩

/-- Held by another artist, or still pointing at one that left it. -/
def slugHeldByAnother (s : Pages) (slug : String) (id : Uuid) (now : Instant) : Bool :=
  match s.artists.rows.find? fun artist => artist.slug = slug with
  | some holder => holder.id ≠ id
  | none => s.reservedForAnother (artistSlugKey slug) id now

/-- The name's slug when free, then one carrying the artist's own id. -/
def freeArtistSlug (s : Pages) (publicName : String) (id : Uuid) (now : Instant) : String :=
  let base := slugify publicName
  if base.length < 3 then uuidTail 12 id
  else if s.slugHeldByAnother base id now then base ++ "-" ++ uuidTail 8 id
  else base

/-- The artist's row saved; refused when the slug's index refuses it. -/
def saveArtist (s : Pages) (artist : Artist) : Except IdentityRefusal Pages :=
  if s.artists.rows.any fun other => other.slug = artist.slug && other.id ≠ artist.id then
    .error .slugTaken
  else .ok { s with artists := s.artists.upsert artist }

/-- The slug an update replaces keeps leading to its artist. -/
def leftBy (s : Pages) (current : Option Artist) (slug : String) (now : Instant) : Pages :=
  match current with
  | some artist =>
    if artist.slug ≠ slug then s.retireSlug (artistSlugKey artist.slug) artist.id now else s
  | none => s

def missingPaths (publicName categoryId : Option String) : List String :=
  (if publicName.isNone then ["publicName"] else []) ++
    (if categoryId.isNone then ["categoryId"] else [])

/-- The channel's artist, and the slug an update gives it. -/
def updateIdentity (s : Pages) (channelId : String) (body : UpdateIdentityBody) (newId : Uuid)
    (now : Instant) : Except IdentityRefusal Pages :=
  let current := s.artists.rows.find? fun artist => artist.channelId = channelId
  let version := (current.map Artist.version).getD 0
  let id := (current.map Artist.id).getD newId
  if body.expectedVersion ≠ version then .error (.stateConflict version)
  else
    match body.publicName <|> current.map Artist.publicName,
      body.categoryId <|> current.map Artist.categoryId with
    | some publicName, some categoryId =>
      let slug := ((body.slug <|> current.map Artist.slug).getD
        (s.freeArtistSlug publicName id now))
      if body.slug.isSome && s.slugHeldByAnother slug id now then .error .slugTaken
      else
        ({ s.leftBy current slug now with clock := now } : Pages).saveArtist
          ⟨id, channelId, publicName, slug, categoryId, version + 1⟩
    | publicName, categoryId => .error (.schemaInvalid (missingPaths publicName categoryId))

/-! ## Links -/

def showIdOf (s : Pages) (slug : String) (now : Instant) : Option Uuid :=
  ((s.shows.find? slug).map Show.id) <|> s.aliasTargetOf ⟨.show, UNSCOPED, slug⟩ now

/-- The date a link leads to. -/
def resolveDate (s : Pages) (showSlug slug : String) (now : Instant) : Option Uuid := do
  let showId ← s.showIdOf showSlug now
  let live := s.publicDates.rows.find? fun row => row.showId = showId && row.slug = slug
  let row ← live <|> ((s.aliasTargetOf (dateSlugKey showId slug) now).bind s.publicDates.find?)
  some row.dateId

/-- The artist a link leads to. -/
def resolveArtist (s : Pages) (slug : String) (now : Instant) : Option Uuid := do
  let live := s.artists.rows.find? fun artist => artist.slug = slug
  let artist ← live <|> ((s.aliasTargetOf (artistSlugKey slug) now).bind s.artists.find?)
  some artist.id

/-! ## Commands -/

inductive PageCommand where
  | draft (date : PerformanceDate)
  | publish (dateId : Uuid) (now : Instant)
  | postpone (dateId : Uuid) (movedTo now : Instant)
  | updateIdentity (channelId : String) (body : UpdateIdentityBody) (newId : Uuid) (now : Instant)
  deriving Repr, DecidableEq

/-- A command refused changes nothing, and is not a step. -/
def step (s : Pages) : PageCommand → Option Pages
  | .draft date => s.draft date
  | .publish dateId now => s.publish dateId now
  | .postpone dateId movedTo now => s.postpone dateId movedTo now
  | .updateIdentity channelId body newId now =>
    (s.updateIdentity channelId body newId now).toOption

/-- Commands come in the order of their instants, and the ids they bring differ from those there
are in the tail a last-resort slug uses. -/
def InOrder (s : Pages) : PageCommand → Prop
  | .draft date => ∀ other ∈ s.dates.rows, uuidTail 8 other.id ≠ uuidTail 8 date.id
  | .publish _ now => s.clock ≤ now
  | .postpone _ _ now => s.clock ≤ now
  | .updateIdentity _ _ newId now =>
    s.clock ≤ now ∧ ∀ other ∈ s.artists.rows, uuidTail 8 other.id ≠ uuidTail 8 newId

instance (s : Pages) : ∀ command, Decidable (InOrder s command)
  | .draft _ => inferInstanceAs (Decidable (∀ _ ∈ _, _))
  | .publish _ _ | .postpone _ _ _ => inferInstanceAs (Decidable (_ ≤ _))
  | .updateIdentity _ _ _ _ => inferInstanceAs (Decidable (_ ∧ ∀ _ ∈ _, _))

/-- The slug a new artist falls back on is no other's retired slug: its id's tail alone for a name
too short, its name's slug with the tail when another artist has that one. -/
def LastResortFree (s : Pages) (publicName : String) (id : Uuid) (now : Instant) : Prop :=
  ((slugify publicName).length < 3 →
    s.reservedForAnother (artistSlugKey (uuidTail 12 id)) id now = false) ∧
  (3 ≤ (slugify publicName).length → s.slugHeldByAnother (slugify publicName) id now = true →
    s.reservedForAnother (artistSlugKey (slugify publicName ++ "-" ++ uuidTail 8 id)) id now =
      false)

instance (s : Pages) (publicName : String) (id : Uuid) (now : Instant) :
    Decidable (s.LastResortFree publicName id now) :=
  inferInstanceAs (Decidable ((_ → _) ∧ (_ → _ → _)))

/-- No new artist falls back on a slug another left. -/
def NoLastResortReserved (s : Pages) : PageCommand → Prop
  | .updateIdentity channelId body newId now =>
    (∀ artist ∈ s.artists.rows, artist.channelId ≠ channelId) → body.slug = none →
      ∀ publicName ∈ body.publicName, s.LastResortFree publicName newId now
  | _ => True

instance (s : Pages) : ∀ command, Decidable (NoLastResortReserved s command)
  | .draft _ | .publish _ _ | .postpone _ _ _ => inferInstanceAs (Decidable True)
  | .updateIdentity _ _ _ _ => inferInstanceAs (Decidable ((∀ _ ∈ _, _) → _ → ∀ _ ∈ _, _))

/-- A command in order, whose new artist, if it brings one, falls back on no slug another left. -/
def Respects (s : Pages) (command : PageCommand) : Prop :=
  s.InOrder command ∧ s.NoLastResortReserved command

instance (s : Pages) (command : PageCommand) : Decidable (Respects s command) :=
  inferInstanceAs (Decidable (_ ∧ _))

end Pages

end Arthome.Catalog
