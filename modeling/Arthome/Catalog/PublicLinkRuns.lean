import Arthome.Catalog.PublicLinks

/-!
# Links that keep leading

The slugs of a show's dates, and the slugs of artists, are names their pages hold and
leave: each command is one page taking a name free for it, and so no two pages ever hold
one slug, and a slug left leads where it led while its redirect lasts. An artist's
last-resort slug is the one taken without a look at who left it.
-/

namespace Arthome.Catalog

open Arthome.Core Arthome.Library

namespace Pages

section Rules

variable [SlugRules]

/-- The slugs of a show's dates. -/
def dateNames (s : Pages) (showId : Uuid) : Names Uuid String where
  held id := (s.dates.find? id).bind fun date => if date.showId = showId then date.slug else none
  retired slug := (s.aliases.find? (dateSlugKey showId slug)).map fun stored =>
    (stored.targetId, stored.expiresAt)

def artistNames (s : Pages) : Names Uuid String where
  held id := (s.artists.find? id).map Artist.slug
  retired slug := (s.aliases.find? (artistSlugKey slug)).map fun stored =>
    (stored.targetId, stored.expiresAt)

/-- What the rows keep of one another. -/
structure PagesInv (s : Pages) : Prop where
  tails : ∀ p q date other, s.dates.find? p = some date → s.dates.find? q = some other → q ≠ p →
    uuidTail 8 q ≠ uuidTail 8 p
  dateDistinct : ∀ showId, (s.dateNames showId).Distinct
  artistDistinct : s.artistNames.Distinct
  dateSlugs : ∀ id date slug, s.dates.find? id = some date → date.slug = some slug →
    DateSlugOf id slug
  dateAliases : ∀ showId slug stored, s.aliases.find? (dateSlugKey showId slug) = some stored →
    DateSlugOf stored.targetId slug ∧ ∃ date slug', s.dates.find? stored.targetId = some date ∧
      date.slug = some slug'
  artistAliases : ∀ slug stored, s.aliases.find? (artistSlugKey slug) = some stored →
    ∃ artist, s.artists.find? stored.targetId = some artist
  published : ∀ id row, s.publicDates.find? id = some row ↔
    ∃ date slug, s.dates.find? id = some date ∧ date.slug = some slug ∧
      row = ⟨id, date.showId, slug⟩

/-- Time passes, and one page at most takes a slug free for it. -/
structure Advanced (s s' : Pages) : Prop where
  dates : ∀ showId, Names.Advances redirectMs (s.dateNames showId) (s'.dateNames showId) s.clock
    s'.clock
  artists : Names.Advances redirectMs s.artistNames s'.artistNames s.clock s'.clock

section Views

omit [SlugRules]

variable {s : Pages} {showId id : Uuid} {slug : String} {now : Instant}

theorem held_dateNames :
    (s.dateNames showId).held id = some slug ↔
      ∃ date, s.dates.find? id = some date ∧ date.showId = showId ∧ date.slug = some slug := by
  unfold dateNames
  constructor
  · intro h
    obtain ⟨found, hfound, hslug⟩ := Option.bind_eq_some_iff.mp h
    split_ifs at hslug with hshow
    exact ⟨found, hfound, hshow, hslug⟩
  · rintro ⟨found, hfound, hshow, hslug⟩
    simp [hfound, hshow, hslug]

/-- A stored alias read with its expiry is a name's retirement. -/
theorem target_filter (found : Option SlugAlias) (now : Instant) :
    (found.filter fun stored => now < stored.expiresAt).map SlugAlias.targetId =
      ((found.map fun stored => (stored.targetId, stored.expiresAt)).filter
        fun leaving => now < leaving.2).map Prod.fst := by
  cases found with
  | none => rfl
  | some stored =>
      simp only [Option.map_some, Option.filter_some]
      split_ifs
      · rfl
      · rfl

theorem aliasTargetOf_date :
    s.aliasTargetOf (dateSlugKey showId slug) now = (s.dateNames showId).reserved slug now :=
  target_filter _ now

theorem aliasTargetOf_artist :
    s.aliasTargetOf (artistSlugKey slug) now = s.artistNames.reserved slug now :=
  target_filter _ now

theorem reservedForAnother_eq_false {key : SlugKey} :
    s.reservedForAnother key id now = false ↔
      ∀ target, s.aliasTargetOf key now = some target → target = id := by
  unfold reservedForAnother
  cases s.aliasTargetOf key now with
  | none => simp
  | some target => simp

theorem dateSlugHeld_eq_false :
    s.dateSlugHeld showId id slug = false ↔
      ∀ q, (s.dateNames showId).held q = some slug → q = id := by
  unfold dateSlugHeld
  rw [List.any_eq_false]
  constructor
  · intro h q hq
    obtain ⟨date, hdate, hshow, hslug⟩ := held_dateNames.mp hq
    by_contra hne
    have hid := Table.key_of_find? hdate
    apply h date (Table.mem_of_find? hdate)
    simp [hshow, hslug, hid, hne]
  · intro h date hdate hheld
    simp only [Bool.and_eq_true, decide_eq_true_eq] at hheld
    obtain ⟨⟨hshow, hslug⟩, hne⟩ := hheld
    exact hne (h date.id (held_dateNames.mpr ⟨date, Table.find?_of_mem hdate, hshow, hslug⟩))

end Views

section Slugs

variable {s : Pages} {showId id : Uuid} {slug : String} {now startsAt : Instant}
  {timeZone : String} {date : PerformanceDate}

/-- The slug chosen is a candidate no other has reserved, or the last candidate. -/
theorem freeDateSlug_cases (s : Pages) (id showId : Uuid) (startsAt : Instant) (timeZone : String)
    (now : Instant) :
    s.freeDateSlug id showId startsAt timeZone now ∈ dateSlugCandidates startsAt timeZone id ∧
      (s.reservedForAnother
          (dateSlugKey showId (s.freeDateSlug id showId startsAt timeZone now)) id now = false ∨
        lastSegment (s.freeDateSlug id showId startsAt timeZone now) =
          (uuidTail 8 id).toList) := by
  simp only [freeDateSlug]
  cases hfind : (dateSlugCandidates startsAt timeZone id).find? fun candidate =>
      !s.dateSlugHeld showId id candidate &&
        !s.reservedForAnother (dateSlugKey showId candidate) id now with
  | none =>
      refine ⟨by simp [dateSlugCandidates], .inr ?_⟩
      exact lastSegment_lastCandidate startsAt timeZone id (uuidTail 32 id)
  | some candidate =>
      have hfree := List.find?_some hfind
      simp only [Bool.and_eq_true, Bool.not_eq_true'] at hfree
      exact ⟨List.mem_of_find?_eq_some hfind, .inl hfree.2⟩

/-- No other date of the show has the slug reserved, the last candidate's tail being its own. -/
theorem freeDateSlug_unreserved (h : PagesInv s) (hdate : s.dates.find? id = some date)
    (q : Uuid)
    (hq : (s.dateNames showId).reserved (s.freeDateSlug id showId startsAt timeZone now) now =
      some q) : q = id := by
  rcases (freeDateSlug_cases s id showId startsAt timeZone now).2 with hfree | hlast
  · exact reservedForAnother_eq_false.mp hfree q (aliasTargetOf_date.trans hq)
  · by_contra hne
    unfold Names.reserved at hq
    obtain ⟨leaving, hleaving, rfl⟩ := Option.map_eq_some_iff.mp hq
    obtain ⟨hretired, -⟩ := Option.filter_eq_some_iff.mp hleaving
    obtain ⟨stored, hstored, rfl⟩ := Option.map_eq_some_iff.mp hretired
    obtain ⟨hslug, other, slug', hother, -⟩ := h.dateAliases showId _ stored hstored
    exact not_dateSlugOf (h.tails id _ date other hdate hother hne) hlast hslug

end Slugs

/-! ## Commands -/

section Commands

variable {s s' : Pages} {showId id : Uuid} {slug : String} {now : Instant}
  {date : PerformanceDate}

omit [SlugRules] in
theorem saveDate_eq_some {saved : Pages} (h : s.saveDate date slug = some saved) :
    s.dateSlugHeld date.showId date.id slug = false ∧
      saved = { s with dates := s.dates.put { date with slug := some slug } } := by
  unfold saveDate at h
  split_ifs at h with hheld
  exact ⟨Bool.not_eq_true _ ▸ hheld, (Option.some.inj h).symm⟩

/-- The show's slugs after a date of it is saved under a slug, the one it left retired. -/
theorem dateNames_saved (hdate : s.dates.find? date.id = some date) (startsAt : Instant)
    (hdates : s'.dates = s.dates.put { date with startsAt := startsAt, slug := some slug })
    (haliases : s'.aliases = match date.slug with
      | some previous => if previous = slug then s.aliases else
          s.aliases.upsert ⟨dateSlugKey date.showId previous, date.id, now + redirectMs⟩
      | none => s.aliases) :
    s'.dateNames date.showId = (s.dateNames date.showId).take redirectMs date.id slug now := by
  have hheld : (s.dateNames date.showId).held date.id = date.slug := by
    simp [dateNames, hdate]
  apply Names.ext
  · funext q
    by_cases hq : q = date.id
    · subst hq
      rw [Names.held_take_self]
      have hput : s'.dates.find? date.id =
          some { date with startsAt := startsAt, slug := some slug } := by
        rw [hdates]
        exact Table.find?_put_self hdate
      simp [dateNames, hput]
    · rw [Names.held_take_of_ne hq]
      have hput : s'.dates.find? q = s.dates.find? q := by
        rw [hdates]
        exact Table.find?_put_of_ne (Ne.symm hq)
      simp [dateNames, hput]
  · funext n
    cases hprevious : date.slug with
    | none =>
        rw [hprevious] at haliases hheld
        rw [Names.retired_take_of_not_left (.inl (by rw [hheld]; simp))]
        simp [dateNames, haliases]
    | some previous =>
        rw [hprevious] at haliases hheld
        simp only at haliases
        by_cases hn : previous = n ∧ previous ≠ slug
        · obtain ⟨rfl, hne⟩ := hn
          rw [Names.retired_take_left hheld hne]
          rw [if_neg hne] at haliases
          have hfound := Table.find?_upsert_self s.aliases
            ⟨dateSlugKey date.showId previous, date.id, now + redirectMs⟩
          simp only [dateNames, haliases]
          rw [hfound]
          rfl
        · rw [Names.retired_take_of_not_left]
          · simp only [dateNames]
            congr 1
            split_ifs at haliases with hsame
            · rw [haliases]
            · rw [haliases, Table.find?_upsert_of_ne]
              intro hkey
              have hslugs : previous = n := congrArg SlugKey.slug hkey
              exact hn ⟨hslugs, hsame⟩
          · rw [hheld]
            by_cases hpn : previous = n
            · right
              rw [← hpn]
              by_contra hne
              exact hn ⟨hpn, hne⟩
            · left
              simpa using hpn

omit [SlugRules] in
/-- The slugs of another show stay as they are. -/
theorem dateNames_other (hdate : s.dates.find? date.id = some date) (startsAt : Instant)
    (hne : showId ≠ date.showId)
    (hdates : s'.dates = s.dates.put { date with startsAt := startsAt, slug := some slug })
    (haliases : ∀ n, s'.aliases.find? (dateSlugKey showId n) =
      s.aliases.find? (dateSlugKey showId n)) : s'.dateNames showId = s.dateNames showId := by
  apply Names.ext
  · funext q
    by_cases hq : q = date.id
    · subst hq
      have hput : s'.dates.find? date.id =
          some { date with startsAt := startsAt, slug := some slug } := by
        rw [hdates]
        exact Table.find?_put_self hdate
      simp [dateNames, hput, hdate, hne.symm]
    · have hput : s'.dates.find? q = s.dates.find? q := by
        rw [hdates]
        exact Table.find?_put_of_ne (Ne.symm hq)
      simp [dateNames, hput]
  · funext n
    simp [dateNames, haliases]

theorem publish_cases (h : s.publish id now = some s') :
    ∃ date publicDates, s.dates.find? id = some date ∧ date.slug = none ∧
      s.dateSlugHeld date.showId id
        (s.freeDateSlug id date.showId date.startsAt date.timeZone now) = false ∧
      s.publicDates.insert ⟨id, date.showId,
        s.freeDateSlug id date.showId date.startsAt date.timeZone now⟩ = some publicDates ∧
      s' =
        { s with
          dates := s.dates.put
            { date with
              slug := some (s.freeDateSlug id date.showId date.startsAt date.timeZone now) }
          publicDates := publicDates
          clock := now } := by
  obtain ⟨date, hdate, h⟩ := Option.bind_eq_some_iff.mp h
  cases hslug : date.slug with
  | some slug =>
      simp only [hslug] at h
      cases h
  | none =>
      simp only [hslug] at h
      obtain ⟨saved, hsaved, h⟩ := Option.bind_eq_some_iff.mp h
      obtain ⟨publicDates, hpublic, h⟩ := Option.bind_eq_some_iff.mp h
      obtain ⟨hheld, rfl⟩ := saveDate_eq_some hsaved
      rw [Table.key_of_find? hdate] at hheld
      cases h
      exact ⟨date, publicDates, hdate, hslug, hheld, hpublic, rfl⟩

theorem postpone_cases {movedTo : Instant} (h : s.postpone id movedTo now = some s') :
    ∃ date previous, s.dates.find? id = some date ∧ date.slug = some previous ∧
      s.dateSlugHeld date.showId id
        (s.freeDateSlug id date.showId movedTo date.timeZone now) = false ∧
      s'.dates = s.dates.put
        { date with
          startsAt := movedTo
          slug := some (s.freeDateSlug id date.showId movedTo date.timeZone now) } ∧
      s'.aliases =
        (if previous = s.freeDateSlug id date.showId movedTo date.timeZone now then s.aliases
        else s.aliases.upsert ⟨dateSlugKey date.showId previous, id, now + redirectMs⟩) ∧
      s'.publicDates = s.publicDates.put ⟨id, date.showId,
        s.freeDateSlug id date.showId movedTo date.timeZone now⟩ ∧
      s'.artists = s.artists ∧ s'.shows = s.shows ∧ s'.clock = now := by
  obtain ⟨date, hdate, h⟩ := Option.bind_eq_some_iff.mp h
  obtain ⟨previous, hprevious, h⟩ := Option.bind_eq_some_iff.mp h
  obtain ⟨saved, hsaved, h⟩ := Option.bind_eq_some_iff.mp h
  obtain ⟨hheld, rfl⟩ := saveDate_eq_some hsaved
  have hid := Table.key_of_find? hdate
  cases h
  refine ⟨date, previous, hdate, hprevious, hid ▸ hheld, ?_⟩
  unfold retireSlugsMovedFrom retireSlug
  by_cases hsame : s.freeDateSlug id date.showId movedTo date.timeZone now = previous
  · rw [if_pos hsame, if_pos hsame.symm]
    exact ⟨rfl, rfl, rfl, rfl, rfl, rfl⟩
  · rw [if_neg hsame, if_neg (Ne.symm hsame), hid]
    exact ⟨rfl, rfl, rfl, rfl, rfl, rfl⟩

end Commands

section Identities

variable {s s' : Pages} {id : Uuid} {slug : String} {now : Instant}

omit [SlugRules] in
theorem find?_slug_eq_none {artists : Table Artist.id}
    (h : (artists.rows.find? fun artist => artist.slug = slug) = none) :
    ∀ artist ∈ artists.rows, artist.slug ≠ slug := by
  intro artist hartist
  simpa using List.find?_eq_none.mp h artist hartist

omit [SlugRules] in
theorem held_artistNames : s.artistNames.held id = some slug ↔
    ∃ artist, s.artists.find? id = some artist ∧ artist.slug = slug := Option.map_eq_some_iff

omit [SlugRules] in
/-- A slug no other artist holds or has reserved, and the artist does not hold already. -/
theorem unreserved_of_not_heldByAnother (h : s.slugHeldByAnother slug id now = false)
    (hunheld : ∀ artist, s.artists.find? id = some artist → artist.slug ≠ slug) :
    s.reservedForAnother (artistSlugKey slug) id now = false := by
  unfold slugHeldByAnother at h
  cases hholder : s.artists.rows.find? fun artist => artist.slug = slug with
  | some holder =>
      rw [hholder] at h
      have hmem := List.mem_of_find?_eq_some hholder
      have hslug : holder.slug = slug := by simpa using List.find?_some hholder
      have hid : holder.id = id := by simpa using h
      exact absurd hslug (hunheld holder (hid ▸ Table.find?_of_mem hmem))
  | none =>
      rw [hholder] at h
      exact h

/-- The aliases once the slug the artist held, if it is another, is retired. -/
def aliasesLeft (s : Pages) (current : Option Artist) (slug : String) (now : Instant) :
    Table SlugAlias.key :=
  match current with
  | some artist =>
    if artist.slug = slug then s.aliases
    else s.aliases.upsert ⟨artistSlugKey artist.slug, artist.id, now + redirectMs⟩
  | none => s.aliases

/-- The row an update saves, and the slug its artist left. -/
structure Updated (s s' : Pages) (channelId : String) (body : UpdateIdentityBody) (newId : Uuid)
    (now : Instant) (current : Option Artist) (publicName : String) (row : Artist) : Prop where
  found : (s.artists.rows.find? fun artist => artist.channelId = channelId) = current
  named : (body.publicName <|> current.map Artist.publicName) = some publicName
  id : row.id = (current.map Artist.id).getD newId
  slug : row.slug = (body.slug <|> current.map Artist.slug).getD
    (s.freeArtistSlug publicName row.id now)
  asked : body.slug.isSome = true → s.slugHeldByAnother row.slug row.id now = false
  unheld : ∀ other ∈ s.artists.rows, other.slug = row.slug → other.id = row.id
  artists : s'.artists = s.artists.upsert row
  aliases : s'.aliases = s.aliasesLeft current row.slug now
  dates : s'.dates = s.dates
  publicDates : s'.publicDates = s.publicDates
  shows : s'.shows = s.shows
  clock : s'.clock = now

omit [SlugRules] in
theorem saveArtist_eq_ok {artist : Artist} {saved : Pages} (h : s.saveArtist artist = .ok saved) :
    (∀ other ∈ s.artists.rows, other.slug = artist.slug → other.id = artist.id) ∧
      saved = { s with artists := s.artists.upsert artist } := by
  unfold saveArtist at h
  split_ifs at h with hheld
  refine ⟨?_, (Except.ok.inj h).symm⟩
  intro other hother hslug
  by_contra hne
  exact hheld (List.any_eq_true.mpr ⟨other, hother, by simp [hslug, hne]⟩)

/-- The slug an update replaced is all it retires. -/
theorem leftBy_eq (current : Option Artist) (slug : String) (now : Instant) :
    s.leftBy current slug now = { s with aliases := s.aliasesLeft current slug now } := by
  cases current with
  | none => rfl
  | some artist =>
      by_cases hsame : artist.slug = slug
      · simp [leftBy, aliasesLeft, hsame]
      · simp [leftBy, aliasesLeft, hsame, retireSlug]

theorem updateIdentity_updated {channelId : String} {body : UpdateIdentityBody} {newId : Uuid}
    (h : s.updateIdentity channelId body newId now = .ok s') :
    ∃ current publicName row, Updated s s' channelId body newId now current publicName row := by
  simp only [updateIdentity] at h
  split_ifs at h with hversion
  generalize hcurrent : (s.artists.rows.find? fun artist => artist.channelId = channelId) = current
    at h
  split at h
  next publicName categoryId hname hcategory =>
    split_ifs at h with htaken
    rw [leftBy_eq] at h
    obtain ⟨hunheld, rfl⟩ := saveArtist_eq_ok h
    refine ⟨current, publicName,
      ⟨(current.map Artist.id).getD newId, channelId, publicName,
        (body.slug <|> current.map Artist.slug).getD
          (s.freeArtistSlug publicName ((current.map Artist.id).getD newId) now),
        categoryId, (current.map Artist.version).getD 0 + 1⟩,
      hcurrent, hname, rfl, rfl, ?_, hunheld, rfl, rfl, rfl, rfl, rfl, rfl⟩
    intro hasked
    simpa [hasked] using htaken
  next => cases h

section Update

variable {channelId : String} {body : UpdateIdentityBody} {newId : Uuid}
  {current : Option Artist} {publicName : String} {row : Artist}

omit [SlugRules] in
/-- Only a new artist's id was in no row before. -/
theorem find?_of_found (hfound : (s.artists.rows.find? fun artist =>
      artist.channelId = channelId) = current)
    (hid : row.id = (current.map Artist.id).getD newId)
    (hnew : ∀ other ∈ s.artists.rows, uuidTail 8 other.id ≠ uuidTail 8 newId) :
    s.artists.find? row.id = current := by
  cases current with
  | some artist =>
      rw [hid]
      exact Table.find?_of_mem (List.mem_of_find?_eq_some hfound)
  | none =>
      cases hother : s.artists.find? row.id with
      | none => rfl
      | some other =>
          have htail := hnew other (Table.mem_of_find? hother)
          rw [Table.key_of_find? hother, hid] at htail
          exact absurd rfl htail

/-- The artists' slugs after an update is one artist taking a slug. -/
theorem artistNames_updated (h : Updated s s' channelId body newId now current publicName row)
    (hcurrent : s.artists.find? row.id = current) :
    s'.artistNames = s.artistNames.take redirectMs row.id row.slug now := by
  have hheld : s.artistNames.held row.id = current.map Artist.slug :=
    congrArg (Option.map Artist.slug) hcurrent
  apply Names.ext
  · funext q
    by_cases hq : q = row.id
    · rw [hq, Names.held_take_self]
      simp only [artistNames, h.artists, Table.find?_upsert_self, Option.map_some]
    · rw [Names.held_take_of_ne hq]
      simp only [artistNames, h.artists, Table.find?_upsert_of_ne _ (Ne.symm hq)]
  · funext n
    have haliases := h.aliases
    cases current with
    | none =>
        rw [Names.retired_take_of_not_left (.inl (by rw [hheld]; simp))]
        simp only [artistNames, haliases, aliasesLeft]
    | some artist =>
        simp only [Option.map_some] at hheld
        simp only [aliasesLeft] at haliases
        have hid : artist.id = row.id := Table.key_of_find? hcurrent
        by_cases hn : artist.slug = n ∧ artist.slug ≠ row.slug
        · obtain ⟨rfl, hne⟩ := hn
          rw [Names.retired_take_left hheld hne]
          rw [if_neg hne] at haliases
          have hstored := Table.find?_upsert_self s.aliases
            ⟨artistSlugKey artist.slug, artist.id, now + redirectMs⟩
          simp only [artistNames, haliases]
          rw [hstored, Option.map_some, hid]
        · rw [Names.retired_take_of_not_left]
          · simp only [artistNames]
            congr 1
            split_ifs at haliases with hsame
            · rw [haliases]
            · rw [haliases, Table.find?_upsert_of_ne]
              intro hkey
              exact hn ⟨congrArg SlugKey.slug hkey, hsame⟩
          · rw [hheld]
            by_cases hslug : artist.slug = n
            · right
              rw [← hslug]
              by_contra hne
              exact hn ⟨hslug, hne⟩
            · left
              simpa using hslug

/-- The slug found for a new artist is no other's retired slug, if its last resort is none. -/
theorem freeArtistSlug_unreserved (hresort : s.LastResortFree publicName id now)
    (hnew : s.artists.find? id = none) :
    s.reservedForAnother (artistSlugKey (s.freeArtistSlug publicName id now)) id now = false := by
  simp only [freeArtistSlug]
  split_ifs with hshort hheld
  · exact hresort.1 hshort
  · exact hresort.2 (Nat.le_of_not_lt hshort) hheld
  · apply unreserved_of_not_heldByAnother (Bool.not_eq_true _ ▸ hheld)
    intro artist hartist
    rw [hnew] at hartist
    cases hartist

/-- A slug an artist takes anew is no other's, and no other has it reserved. -/
theorem free_of_updated (h : Updated s s' channelId body newId now current publicName row)
    (hcurrent : s.artists.find? row.id = current)
    (hlast : NoLastResortReserved s (.updateIdentity channelId body newId now))
    (hchanged : ∀ artist, current = some artist → artist.slug ≠ row.slug) :
    s.artistNames.Free row.id row.slug now := by
  have hunheld : ∀ artist, s.artists.find? row.id = some artist → artist.slug ≠ row.slug :=
    fun artist hartist => hchanged artist (hcurrent.symm.trans hartist)
  constructor
  · intro q hq
    obtain ⟨artist, hartist, hslug⟩ := held_artistNames.mp hq
    rw [← Table.key_of_find? hartist]
    exact h.unheld artist (Table.mem_of_find? hartist) hslug
  · have hunreserved : s.reservedForAnother (artistSlugKey row.slug) row.id now = false := by
      cases hasked : body.slug with
      | some slug =>
          exact unreserved_of_not_heldByAnother (h.asked (by rw [hasked]; rfl)) hunheld
      | none =>
          cases hfound : current with
          | some artist =>
              have hsame := h.slug
              rw [hasked, hfound] at hsame
              exact absurd hsame.symm (hchanged artist hfound)
          | none =>
              have hid : row.id = newId := by simpa [hfound] using h.id
              have hslug : row.slug = s.freeArtistSlug publicName newId now := by
                simpa [hasked, hfound, hid] using h.slug
              have hname : body.publicName = some publicName := by simpa [hfound] using h.named
              have hnone : ∀ artist ∈ s.artists.rows, artist.channelId ≠ channelId := by
                intro artist hartist
                simpa using List.find?_eq_none.mp (h.found.trans hfound) artist hartist
              rw [hslug, hid]
              apply freeArtistSlug_unreserved (hlast hnone hasked publicName hname)
              rw [← hid]
              exact hcurrent.trans hfound
    intro q hq
    exact reservedForAnother_eq_false.mp hunreserved q (aliasTargetOf_artist.trans hq)

/-- An update moves the artists' slugs by one artist taking one free for it. -/
theorem artistNames_advances (h : Updated s s' channelId body newId now current publicName row)
    (hcurrent : s.artists.find? row.id = current)
    (hlast : NoLastResortReserved s (.updateIdentity channelId body newId now))
    (hclock : s.clock ≤ now) :
    Names.Advances redirectMs s.artistNames s'.artistNames s.clock s'.clock := by
  rw [h.clock]
  refine ⟨hclock, ?_⟩
  by_cases hsame : ∃ artist, current = some artist ∧ artist.slug = row.slug
  · obtain ⟨artist, hartist, hslug⟩ := hsame
    left
    rw [artistNames_updated h hcurrent]
    exact Names.take_of_held (held_artistNames.mpr ⟨artist, hcurrent.trans hartist, hslug⟩)
  · right
    refine ⟨row.id, row.slug, ?_, artistNames_updated h hcurrent⟩
    apply free_of_updated h hcurrent hlast
    exact fun artist hartist hslug => hsame ⟨artist, hartist, hslug⟩

end Update

end Identities

section Steps

variable {s s' : Pages} {showId id : Uuid} {slug : String} {now : Instant}
  {date : PerformanceDate}

omit [SlugRules] in
theorem pagesInv_initial (shows : Table Show.slug) : PagesInv (initial shows) where
  tails p q date other h := by cases h
  dateDistinct showId p q n h := by cases h
  artistDistinct p q n h := by cases h
  dateSlugs id date slug h := by cases h
  dateAliases showId slug stored h := by cases h
  artistAliases slug stored h := by cases h
  published id row := by
    constructor
    · intro h
      cases h
    · rintro ⟨date, slug, h, -⟩
      cases h

/-- A date saved under one of its slugs, with its public row. -/
theorem PagesInv.saved (h : PagesInv s) (hdate : s.dates.find? id = some date)
    (startsAt : Instant) (hslug : DateSlugOf id slug)
    (hdates : s'.dates = s.dates.put { date with startsAt := startsAt, slug := some slug })
    (haliases : ∀ showId n stored, s'.aliases.find? (dateSlugKey showId n) = some stored →
      s.aliases.find? (dateSlugKey showId n) = some stored ∨
        stored.targetId = id ∧ DateSlugOf id n)
    (hartistAliases : ∀ n, s'.aliases.find? (artistSlugKey n) = s.aliases.find? (artistSlugKey n))
    (hpublic : ∀ q, s'.publicDates.find? q =
      if q = id then some ⟨id, date.showId, slug⟩ else s.publicDates.find? q)
    (hartists : s'.artists = s.artists) (hadvanced : Advanced s s') : PagesInv s' := by
  have hid : date.id = id := Table.key_of_find? hdate
  have hfind : ∀ q, s'.dates.find? q =
      if q = id then some { date with startsAt := startsAt, slug := some slug }
      else s.dates.find? q := by
    intro q
    rw [hdates, ← hid]
    exact Table.find?_put (hid ▸ hdate)
  have hbefore : ∀ q found, s'.dates.find? q = some found → ∃ old, s.dates.find? q = some old := by
    intro q found hfound
    rw [hfind] at hfound
    split_ifs at hfound with hq
    · exact ⟨date, hq ▸ hdate⟩
    · exact ⟨found, hfound⟩
  constructor
  · intro p q found other hfound hother hne
    obtain ⟨old, hold⟩ := hbefore p found hfound
    obtain ⟨old', hold'⟩ := hbefore q other hother
    exact h.tails p q old old' hold hold' hne
  · exact fun showId => (h.dateDistinct showId).advances (hadvanced.dates showId)
  · exact h.artistDistinct.advances hadvanced.artists
  · intro q found n hfound hn
    rw [hfind] at hfound
    split_ifs at hfound with hq
    · cases hfound
      cases hn
      rw [hq]
      exact hslug
    · exact h.dateSlugs q found n hfound hn
  · intro showId n stored hstored
    have hkept : ∀ q old n', s.dates.find? q = some old → old.slug = some n' →
        ∃ found n'', s'.dates.find? q = some found ∧ found.slug = some n'' := by
      intro q old n' hold hn'
      rw [hfind]
      split_ifs with hq
      · exact ⟨_, slug, rfl, rfl⟩
      · exact ⟨old, n', hold, hn'⟩
    rcases haliases showId n stored hstored with hold | ⟨htarget, hn⟩
    · obtain ⟨hn, found, n', hfound, hn'⟩ := h.dateAliases showId n stored hold
      exact ⟨hn, hkept _ found n' hfound hn'⟩
    · rw [htarget, hfind, if_pos rfl]
      exact ⟨hn, _, slug, rfl, rfl⟩
  · intro n stored hstored
    rw [hartistAliases] at hstored
    rw [hartists]
    exact h.artistAliases n stored hstored
  · intro q row
    rw [hpublic, hfind]
    split_ifs with hq
    · rw [hq]
      constructor
      · intro hrow
        exact ⟨_, slug, rfl, rfl, (Option.some.inj hrow).symm⟩
      · rintro ⟨found, n, hfound, hn, hrow⟩
        cases hfound
        cases hn
        exact congrArg some hrow.symm
    · exact h.published q row

/-- A draft takes no slug. -/
theorem draft_step (h : PagesInv s) (horder : InOrder s (.draft date))
    (hstep : s.draft date = some s') : PagesInv s' ∧ Advanced s s' := by
  obtain ⟨dates, hinsert, rfl⟩ := Option.map_eq_some_iff.mp hstep
  have hnone := (Table.insert_eq_some hinsert).2
  have hold : ∀ q found, s.dates.find? q = some found → dates.find? q = some found :=
    fun q found hfound => Table.find?_of_insert hinsert hfound
  have hnew : ∀ q found, dates.find? q = some found →
      s.dates.find? q = some found ∨ q = date.id ∧ found.slug = none := by
    intro q found hfound
    by_cases hq : q = date.id
    · rw [hq, Table.find?_insert_self hinsert] at hfound
      cases hfound
      exact .inr ⟨hq, rfl⟩
    · rw [Table.find?_insert_of_ne hinsert (Ne.symm hq)] at hfound
      exact .inl hfound
  have hnames : ∀ showId, ({ s with dates := dates } : Pages).dateNames showId =
      s.dateNames showId := by
    intro showId
    apply Names.ext
    · funext q
      by_cases hq : q = date.id
      · have hself : dates.find? date.id = some { date with slug := none } :=
          Table.find?_insert_self hinsert
        have hbefore : s.dates.find? date.id = none := hnone
        simp [dateNames, hq, hself, hbefore]
      · have hsame : dates.find? q = s.dates.find? q :=
          Table.find?_insert_of_ne hinsert (Ne.symm hq)
        simp [dateNames, hsame]
    · rfl
  have hadvanced : Advanced s { s with dates := dates } :=
    ⟨fun showId => ⟨le_refl _, .inl (hnames showId)⟩, ⟨le_refl _, .inl rfl⟩⟩
  refine ⟨?_, hadvanced⟩
  constructor
  · intro p q found other hfound hother hne
    rcases hnew p found hfound with hfound | ⟨rfl, -⟩
    · rcases hnew q other hother with hother | ⟨rfl, -⟩
      · exact h.tails p q found other hfound hother hne
      · have htail := horder found (Table.mem_of_find? hfound)
        rw [Table.key_of_find? hfound] at htail
        exact htail.symm
    · rcases hnew q other hother with hother | ⟨rfl, -⟩
      · have htail := horder other (Table.mem_of_find? hother)
        rw [Table.key_of_find? hother] at htail
        exact htail
      · exact absurd rfl hne
  · exact fun showId => (h.dateDistinct showId).advances (hadvanced.dates showId)
  · exact h.artistDistinct.advances hadvanced.artists
  · intro q found n hfound hn
    rcases hnew q found hfound with hfound | ⟨-, hdraft⟩
    · exact h.dateSlugs q found n hfound hn
    · rw [hdraft] at hn
      cases hn
  · intro showId n stored hstored
    obtain ⟨hn, found, n', hfound, hn'⟩ := h.dateAliases showId n stored hstored
    exact ⟨hn, found, n', hold _ found hfound, hn'⟩
  · exact h.artistAliases
  · intro q row
    rw [h.published]
    constructor
    · rintro ⟨found, n, hfound, hrow⟩
      exact ⟨found, n, hold q found hfound, hrow⟩
    · rintro ⟨found, n, hfound, hn, hrow⟩
      rcases hnew q found hfound with hfound | ⟨-, hdraft⟩
      · exact ⟨found, n, hfound, hn, hrow⟩
      · rw [hdraft] at hn
        cases hn

theorem publish_step (h : PagesInv s) (hclock : s.clock ≤ now)
    (hstep : s.publish id now = some s') : PagesInv s' ∧ Advanced s s' := by
  obtain ⟨date, publicDates, hdate, hnone, hheld, hpublic, rfl⟩ := publish_cases hstep
  have hid : date.id = id := Table.key_of_find? hdate
  subst hid
  have hadvanced : Advanced s
      { s with
        dates := s.dates.put
          { date with
            slug := some (s.freeDateSlug date.id date.showId date.startsAt date.timeZone now) }
        publicDates := publicDates
        clock := now } := by
    refine ⟨?_, hclock, .inl rfl⟩
    intro showId
    refine ⟨hclock, ?_⟩
    by_cases hshow : showId = date.showId
    · subst hshow
      right
      refine ⟨date.id, _, ⟨dateSlugHeld_eq_false.mp hheld, freeDateSlug_unreserved h hdate⟩, ?_⟩
      apply dateNames_saved hdate date.startsAt rfl
      rw [hnone]
    · exact .inl (dateNames_other hdate date.startsAt hshow rfl fun _ => rfl)
  refine ⟨?_, hadvanced⟩
  refine h.saved hdate date.startsAt (dateSlugOf_candidate (freeDateSlug_cases s _ _ _ _ now).1)
    rfl (fun _ _ _ => .inl) (fun _ => rfl) ?_ rfl hadvanced
  intro q
  split_ifs with hq
  · rw [hq]
    exact Table.find?_insert_self hpublic
  · exact Table.find?_insert_of_ne hpublic (Ne.symm hq)

theorem postpone_step {movedTo : Instant} (h : PagesInv s) (hclock : s.clock ≤ now)
    (hstep : s.postpone id movedTo now = some s') : PagesInv s' ∧ Advanced s s' := by
  obtain ⟨date, previous, hdate, hprevious, hheld, hdates, haliases, hpublic, hartists, -,
    hnow⟩ := postpone_cases hstep
  have hid : date.id = id := Table.key_of_find? hdate
  subst hid
  have hother : ∀ key, key ≠ dateSlugKey date.showId previous →
      s'.aliases.find? key = s.aliases.find? key := by
    intro key hkey
    rw [haliases]
    split_ifs
    · rfl
    · exact Table.find?_upsert_of_ne _ (Ne.symm hkey)
  have hartistAliases : ∀ n, s'.aliases.find? (artistSlugKey n) =
      s.aliases.find? (artistSlugKey n) := by
    intro n
    apply hother
    intro hkey
    cases congrArg SlugKey.kind hkey
  have hadvanced : Advanced s s' := by
    rw [← hnow] at hclock
    refine ⟨?_, hclock, .inl ?_⟩
    · intro showId
      refine ⟨hclock, ?_⟩
      by_cases hshow : showId = date.showId
      · subst hshow
        right
        rw [hnow]
        refine ⟨date.id, _, ⟨dateSlugHeld_eq_false.mp hheld, freeDateSlug_unreserved h hdate⟩, ?_⟩
        apply dateNames_saved hdate movedTo hdates
        rw [hprevious]
        exact haliases
      · left
        apply dateNames_other hdate movedTo hshow hdates
        intro n
        apply hother
        intro hkey
        exact hshow (Option.some.inj (congrArg SlugKey.scope hkey))
    · apply Names.ext
      · simp [artistNames, hartists]
      · funext n
        simp only [artistNames, hartistAliases]
  refine ⟨?_, hadvanced⟩
  apply h.saved hdate movedTo (dateSlugOf_candidate (freeDateSlug_cases s _ _ _ _ now).1) hdates _
    hartistAliases _ hartists hadvanced
  · intro showId n stored hstored
    by_cases hkey : dateSlugKey showId n = dateSlugKey date.showId previous
    · rw [haliases] at hstored
      split_ifs at hstored with hsame
      · exact .inl hstored
      · right
        rw [hkey] at hstored
        have hself := Table.find?_upsert_self s.aliases
          ⟨dateSlugKey date.showId previous, date.id, now + redirectMs⟩
        have hstoredEq := Option.some.inj (hstored.symm.trans hself)
        have hn : n = previous := congrArg SlugKey.slug hkey
        rw [hstoredEq, hn]
        exact ⟨rfl, h.dateSlugs date.id date previous hdate hprevious⟩
    · rw [hother _ hkey] at hstored
      exact .inl hstored
  · intro q
    have hrow : s.publicDates.find? date.id = some ⟨date.id, date.showId, previous⟩ :=
      (h.published date.id _).mpr ⟨date, previous, hdate, hprevious, rfl⟩
    rw [hpublic]
    exact Table.find?_put hrow

theorem update_step {channelId : String} {body : UpdateIdentityBody} {newId : Uuid}
    (h : PagesInv s) (horder : InOrder s (.updateIdentity channelId body newId now))
    (hlast : NoLastResortReserved s (.updateIdentity channelId body newId now))
    (hstep : s.updateIdentity channelId body newId now = .ok s') :
    PagesInv s' ∧ Advanced s s' := by
  obtain ⟨current, publicName, row, hupdated⟩ := updateIdentity_updated hstep
  have hcurrent := find?_of_found hupdated.found hupdated.id horder.2
  have hdateAliases : ∀ showId n, s'.aliases.find? (dateSlugKey showId n) =
      s.aliases.find? (dateSlugKey showId n) := by
    intro showId n
    rw [hupdated.aliases]
    cases current with
    | none => rfl
    | some artist =>
        unfold aliasesLeft
        dsimp only
        split_ifs
        · rfl
        · apply Table.find?_upsert_of_ne
          intro hkey
          cases congrArg SlugKey.kind hkey
  have hdateNames : ∀ showId, s'.dateNames showId = s.dateNames showId := by
    intro showId
    apply Names.ext
    · simp [dateNames, hupdated.dates]
    · funext n
      simp only [dateNames, hdateAliases]
  have hclock : s.clock ≤ s'.clock := by
    rw [hupdated.clock]
    exact horder.1
  have hadvanced : Advanced s s' :=
    ⟨fun showId => ⟨hclock, .inl (hdateNames showId)⟩,
      artistNames_advances hupdated hcurrent hlast horder.1⟩
  refine ⟨?_, hadvanced⟩
  constructor
  · rw [hupdated.dates]
    exact h.tails
  · exact fun showId => (h.dateDistinct showId).advances (hadvanced.dates showId)
  · exact h.artistDistinct.advances hadvanced.artists
  · rw [hupdated.dates]
    exact h.dateSlugs
  · intro showId n stored hstored
    rw [hdateAliases] at hstored
    rw [hupdated.dates]
    exact h.dateAliases showId n stored hstored
  · intro n stored hstored
    have hkept : ∀ q artist, s.artists.find? q = some artist →
        ∃ kept, s'.artists.find? q = some kept := by
      intro q artist hartist
      rw [hupdated.artists]
      by_cases hq : row.id = q
      · rw [← hq]
        exact ⟨row, Table.find?_upsert_self s.artists row⟩
      · rw [Table.find?_upsert_of_ne _ hq]
        exact ⟨artist, hartist⟩
    rw [hupdated.aliases] at hstored
    cases hcase : current with
    | none =>
        rw [hcase] at hstored
        obtain ⟨artist, hartist⟩ := h.artistAliases n stored hstored
        exact hkept _ artist hartist
    | some artist =>
        rw [hcase] at hstored hcurrent
        simp only [aliasesLeft] at hstored
        split_ifs at hstored
        · obtain ⟨found, hfound⟩ := h.artistAliases n stored hstored
          exact hkept _ found hfound
        · by_cases hkey : artistSlugKey artist.slug = artistSlugKey n
          · have hself := Table.find?_upsert_self s.aliases
              ⟨artistSlugKey artist.slug, artist.id, now + redirectMs⟩
            rw [← hkey] at hstored
            rw [← Option.some.inj (hself.symm.trans hstored)]
            have hid : artist.id = row.id := Table.key_of_find? hcurrent
            exact hkept artist.id artist (hid ▸ hcurrent)
          · have hother := Table.find?_upsert_of_ne s.aliases hkey
              (a := ⟨artistSlugKey artist.slug, artist.id, now + redirectMs⟩)
            rw [hother] at hstored
            obtain ⟨found, hfound⟩ := h.artistAliases n stored hstored
            exact hkept _ found hfound
  · rw [hupdated.dates, hupdated.publicDates]
    exact h.published

/-- What a command keeps, and what it moves. -/
theorem step_advances {command : PageCommand} (h : PagesInv s) (horder : InOrder s command)
    (hlast : NoLastResortReserved s command) (hstep : s.step command = some s') :
    PagesInv s' ∧ Advanced s s' := by
  cases command with
  | draft date => exact draft_step h horder hstep
  | publish dateId now => exact publish_step h horder hstep
  | postpone dateId movedTo now => exact postpone_step h horder hstep
  | updateIdentity channelId body newId now =>
      have hok : s.updateIdentity channelId body newId now = .ok s' := by
        simp only [step] at hstep
        cases hupdate : s.updateIdentity channelId body newId now with
        | error refusal =>
            rw [hupdate] at hstep
            cases hstep
        | ok updated =>
            rw [hupdate] at hstep
            cases hstep
            rfl
      exact update_step h horder hlast hok

theorem step_shows {command : PageCommand} (hstep : s.step command = some s') :
    s'.shows = s.shows := by
  cases command with
  | draft date =>
      obtain ⟨dates, -, rfl⟩ := Option.map_eq_some_iff.mp hstep
      rfl
  | publish dateId now =>
      obtain ⟨date, publicDates, -, -, -, -, rfl⟩ := publish_cases hstep
      rfl
  | postpone dateId movedTo now =>
      obtain ⟨date, previous, -, -, -, -, -, -, -, hshows, -⟩ := postpone_cases hstep
      exact hshows
  | updateIdentity channelId body newId now =>
      simp only [step] at hstep
      cases hupdate : s.updateIdentity channelId body newId now with
      | error refusal =>
          rw [hupdate] at hstep
          cases hstep
      | ok updated =>
          rw [hupdate] at hstep
          cases hstep
          obtain ⟨current, publicName, row, hupdated⟩ := updateIdentity_updated hupdate
          exact hupdated.shows

end Steps

/-! ## Where links lead -/

section Links

omit [SlugRules]

variable {s : Pages} {showId id : Uuid} {slug : String} {now : Instant} {page : Show}

theorem showIdOf_slug (hshow : page ∈ s.shows.rows) (now : Instant) :
    s.showIdOf page.slug now = some page.id := by
  unfold showIdOf
  rw [Table.find?_of_mem hshow]
  rfl

/-- The date that holds a slug is the one its link leads to. -/
theorem resolveDate_of_held (h : PagesInv s) (hshow : page ∈ s.shows.rows)
    (hheld : (s.dateNames page.id).held id = some slug) (now : Instant) :
    s.resolveDate page.slug slug now = some id := by
  obtain ⟨date, hdate, hdateShow, hslug⟩ := held_dateNames.mp hheld
  have hrow : s.publicDates.find? id = some ⟨id, page.id, slug⟩ :=
    (h.published id _).mpr ⟨date, slug, hdate, hslug, by rw [hdateShow]⟩
  have hlive : ∃ live, (s.publicDates.rows.find? fun row =>
      row.showId = page.id && row.slug = slug) = some live ∧ live.dateId = id := by
    cases hfound : s.publicDates.rows.find? fun row =>
        row.showId = page.id && row.slug = slug with
    | none =>
        have hno := List.find?_eq_none.mp hfound _ (Table.mem_of_find? hrow)
        simp at hno
    | some live =>
        refine ⟨live, rfl, ?_⟩
        have hmem := List.mem_of_find?_eq_some hfound
        have hmatches := List.find?_some hfound
        simp only [Bool.and_eq_true, decide_eq_true_eq] at hmatches
        obtain ⟨other, n, hother, hn, hliveRow⟩ :=
          (h.published live.dateId live).mp (Table.find?_of_mem hmem)
        apply h.dateDistinct page.id live.dateId id slug _ hheld
        refine held_dateNames.mpr ⟨other, hother, ?_, ?_⟩
        · rw [← hmatches.1, hliveRow]
        · rw [hn, ← hmatches.2, hliveRow]
  obtain ⟨live, hfound, hid⟩ := hlive
  simp only [resolveDate, showIdOf_slug hshow, Option.bind_eq_bind, Option.bind_some]
  rw [hfound]
  exact congrArg some hid

/-- A slug no date holds leads to the one that left it. -/
theorem resolveDate_of_retired (h : PagesInv s) (hshow : page ∈ s.shows.rows)
    (hunheld : ∀ q, (s.dateNames page.id).held q ≠ some slug) {expiry : ℤ}
    (hretired : (s.dateNames page.id).retired slug = some (id, expiry)) (hnow : now < expiry) :
    s.resolveDate page.slug slug now = some id := by
  have hnone : (s.publicDates.rows.find? fun row =>
      row.showId = page.id && row.slug = slug) = none := by
    rw [List.find?_eq_none]
    intro row hrow hmatches
    simp only [Bool.and_eq_true, decide_eq_true_eq] at hmatches
    obtain ⟨other, n, hother, hn, hrowEq⟩ :=
      (h.published row.dateId row).mp (Table.find?_of_mem hrow)
    apply hunheld row.dateId
    refine held_dateNames.mpr ⟨other, hother, ?_, ?_⟩
    · rw [← hmatches.1, hrowEq]
    · rw [hn, ← hmatches.2, hrowEq]
  have htarget : s.aliasTargetOf (dateSlugKey page.id slug) now = some id :=
    aliasTargetOf_date.trans (Names.reserved_of_retired hretired hnow)
  obtain ⟨stored, hstored, hpair⟩ := Option.map_eq_some_iff.mp hretired
  have htargetId : stored.targetId = id := congrArg Prod.fst hpair
  obtain ⟨-, date, n, hdate, hn⟩ := h.dateAliases page.id slug stored hstored
  have hrow : s.publicDates.find? id = some ⟨id, date.showId, n⟩ :=
    (h.published id _).mpr ⟨date, n, htargetId ▸ hdate, hn, rfl⟩
  simp only [resolveDate, showIdOf_slug hshow, Option.bind_eq_bind, Option.bind_some]
  rw [hnone, htarget, Option.bind_some, hrow]
  rfl

theorem resolveArtist_of_held (h : PagesInv s) (hheld : s.artistNames.held id = some slug)
    (now : Instant) : s.resolveArtist slug now = some id := by
  obtain ⟨artist, hartist, hslug⟩ := held_artistNames.mp hheld
  cases hfound : s.artists.rows.find? fun artist => artist.slug = slug with
  | none => exact absurd hslug (find?_slug_eq_none hfound artist (Table.mem_of_find? hartist))
  | some live =>
      have hlive : live.slug = slug := by simpa using List.find?_some hfound
      have hid : live.id = id := by
        apply h.artistDistinct live.id id slug _ hheld
        exact held_artistNames.mpr
          ⟨live, Table.find?_of_mem (List.mem_of_find?_eq_some hfound), hlive⟩
      simp only [resolveArtist, hfound, Option.bind_eq_bind]
      exact congrArg some hid

theorem resolveArtist_of_retired (h : PagesInv s)
    (hunheld : ∀ q, s.artistNames.held q ≠ some slug) {expiry : ℤ}
    (hretired : s.artistNames.retired slug = some (id, expiry)) (hnow : now < expiry) :
    s.resolveArtist slug now = some id := by
  have hnone : (s.artists.rows.find? fun artist => artist.slug = slug) = none := by
    rw [List.find?_eq_none]
    intro artist hartist hslug
    exact hunheld artist.id (held_artistNames.mpr
      ⟨artist, Table.find?_of_mem hartist, by simpa using hslug⟩)
  have htarget : s.aliasTargetOf (artistSlugKey slug) now = some id :=
    aliasTargetOf_artist.trans (Names.reserved_of_retired hretired hnow)
  obtain ⟨stored, hstored, hpair⟩ := Option.map_eq_some_iff.mp hretired
  have htargetId : stored.targetId = id := congrArg Prod.fst hpair
  obtain ⟨artist, hartist⟩ := h.artistAliases slug stored hstored
  rw [htargetId] at hartist
  simp only [resolveArtist, hnone, htarget, Option.bind_eq_bind, Option.bind_some]
  rw [hartist]
  exact congrArg some (Table.key_of_find? hartist)

end Links

/-! ## Runs -/

/-- No two pages hold one slug, and a slug held leads to the page that holds it. -/
structure LinksLead (s : Pages) : Prop where
  dateSlugs : ∀ date ∈ s.dates.rows, ∀ other ∈ s.dates.rows, date.showId = other.showId →
    ∀ slug, date.slug = some slug → other.slug = some slug → date.id = other.id
  artistSlugs : ∀ artist ∈ s.artists.rows, ∀ other ∈ s.artists.rows, artist.slug = other.slug →
    artist.id = other.id
  dates : ∀ page ∈ s.shows.rows, ∀ date ∈ s.dates.rows, date.showId = page.id →
    ∀ slug, date.slug = some slug → ∀ now, s.resolveDate page.slug slug now = some date.id
  artists : ∀ artist ∈ s.artists.rows, ∀ now, s.resolveArtist artist.slug now = some artist.id

def DateLeft (s s' : Pages) (date : PerformanceDate) (slug : String) : Prop :=
  date ∈ s.dates.rows ∧ date.slug = some slug ∧
    ∀ kept ∈ s'.dates.rows, kept.id = date.id → kept.slug ≠ some slug

def ArtistLeft (s s' : Pages) (artist : Artist) : Prop :=
  artist ∈ s.artists.rows ∧ ∀ kept ∈ s'.artists.rows, kept.id = artist.id → kept.slug ≠ artist.slug

/-- While the redirect lasts no other date of the show has the slug, and it leads to the date. -/
def DateLeads (s : Pages) (date : PerformanceDate) (slug : String) (left : Instant) : Prop :=
  ∀ now, s.clock ≤ now → now < left + redirectMs →
    (∀ other ∈ s.dates.rows, other.showId = date.showId → other.slug = some slug →
      other.id = date.id) ∧
    ∀ page ∈ s.shows.rows, page.id = date.showId →
      s.resolveDate page.slug slug now = some date.id

def ArtistLeads (s : Pages) (artist : Artist) (left : Instant) : Prop :=
  ∀ now, s.clock ≤ now → now < left + redirectMs →
    (∀ other ∈ s.artists.rows, other.slug = artist.slug → other.id = artist.id) ∧
      s.resolveArtist artist.slug now = some artist.id

section Runs

variable {s s' : Pages}

omit [SlugRules] in
theorem linksLead (h : PagesInv s) : LinksLead s := by
  have hheldDate : ∀ date ∈ s.dates.rows, ∀ slug, date.slug = some slug →
      (s.dateNames date.showId).held date.id = some slug :=
    fun date hdate slug hslug =>
      held_dateNames.mpr ⟨date, Table.find?_of_mem hdate, rfl, hslug⟩
  have hheldArtist : ∀ artist ∈ s.artists.rows, s.artistNames.held artist.id = some artist.slug :=
    fun artist hartist => held_artistNames.mpr ⟨artist, Table.find?_of_mem hartist, rfl⟩
  constructor
  · intro date hdate other hother hshow slug hslug hotherSlug
    apply h.dateDistinct date.showId date.id other.id slug (hheldDate date hdate slug hslug)
    rw [hshow]
    exact hheldDate other hother slug hotherSlug
  · intro artist hartist other hother hslug
    apply h.artistDistinct artist.id other.id artist.slug (hheldArtist artist hartist)
    rw [hslug]
    exact hheldArtist other hother
  · intro page hpage date hdate hshow slug hslug now
    exact resolveDate_of_held h hpage (hshow ▸ hheldDate date hdate slug hslug) now
  · intro artist hartist now
    exact resolveArtist_of_held h (hheldArtist artist hartist) now

/-- What a run keeps: the rows of one another, the shows, and every slug that leads on. -/
theorem run_advances (h : PagesInv s) (hrun : Reaches Respects step s s') :
    PagesInv s' ∧ s.clock ≤ s'.clock ∧ s'.shows = s.shows ∧
      (∀ showId p n left, left ≤ s.clock →
        (s.dateNames showId).LeadsOn redirectMs p n left s.clock →
        (s'.dateNames showId).LeadsOn redirectMs p n left s'.clock) ∧
      ∀ p n left, left ≤ s.clock → s.artistNames.LeadsOn redirectMs p n left s.clock →
        s'.artistNames.LeadsOn redirectMs p n left s'.clock := by
  apply hrun.invariant (P := fun t => PagesInv t ∧ s.clock ≤ t.clock ∧ t.shows = s.shows ∧
      (∀ showId p n left, left ≤ s.clock →
        (s.dateNames showId).LeadsOn redirectMs p n left s.clock →
        (t.dateNames showId).LeadsOn redirectMs p n left t.clock) ∧
      ∀ p n left, left ≤ s.clock → s.artistNames.LeadsOn redirectMs p n left s.clock →
        t.artistNames.LeadsOn redirectMs p n left t.clock)
  · exact ⟨h, le_refl _, rfl, fun _ _ _ _ _ hleads => hleads, fun _ _ _ _ hleads => hleads⟩
  · rintro v command w ⟨hv, hclock, hshows, hdates, hartists⟩ ⟨horder, hlast⟩ hstep
    obtain ⟨hw, hadvanced⟩ := step_advances hv horder hlast hstep
    have hlater : v.clock ≤ w.clock := hadvanced.artists.1
    refine ⟨hw, le_trans hclock hlater, (step_shows hstep).trans hshows, ?_, ?_⟩
    · intro showId p n left hleft hleads
      exact (hdates showId p n left hleft hleads).advances (hv.dateDistinct showId)
        (le_trans hleft hclock) (hadvanced.dates showId)
    · intro p n left hleft hleads
      exact (hartists p n left hleft hleads).advances hv.artistDistinct (le_trans hleft hclock)
        hadvanced.artists

omit [SlugRules] in
theorem not_held_of_dateLeft {date : PerformanceDate} {slug : String}
    (h : DateLeft s s' date slug) : (s'.dateNames date.showId).held date.id ≠ some slug := by
  intro hheld
  obtain ⟨kept, hkept, -, hslug⟩ := held_dateNames.mp hheld
  exact h.2.2 kept (Table.mem_of_find? hkept) (Table.key_of_find? hkept) hslug

omit [SlugRules] in
theorem not_held_of_artistLeft {artist : Artist} (h : ArtistLeft s s' artist) :
    s'.artistNames.held artist.id ≠ some artist.slug := by
  intro hheld
  obtain ⟨kept, hkept, hslug⟩ := held_artistNames.mp hheld
  exact h.2 kept (Table.mem_of_find? hkept) (Table.key_of_find? hkept) hslug

/-- A date's slug that leads on leads to the date. -/
theorem dateLeads_of_leadsOn (h : PagesInv s) {date : PerformanceDate} {slug : String}
    {left : Instant}
    (hleads : (s.dateNames date.showId).LeadsOn redirectMs date.id slug left s.clock) :
    s.DateLeads date slug left := by
  intro now hclock hnow
  rcases hleads (lt_of_le_of_lt hclock hnow) with hheld | ⟨hunheld, expiry, hexpiry, hretired⟩
  · constructor
    · intro other hother hshow hslug
      apply h.dateDistinct date.showId other.id date.id slug _ hheld
      exact held_dateNames.mpr ⟨other, Table.find?_of_mem hother, hshow, hslug⟩
    · intro page hpage hshow
      exact resolveDate_of_held h hpage (hshow ▸ hheld) now
  · constructor
    · intro other hother hshow hslug
      exact absurd (held_dateNames.mpr ⟨other, Table.find?_of_mem hother, hshow, hslug⟩)
        (hunheld other.id)
    · intro page hpage hshow
      rw [← hshow] at hunheld hretired
      exact resolveDate_of_retired h hpage hunheld hretired (lt_of_lt_of_le hnow hexpiry)

/-- An artist's slug that leads on leads to the artist. -/
theorem artistLeads_of_leadsOn (h : PagesInv s) {artist : Artist} {left : Instant}
    (hleads : s.artistNames.LeadsOn redirectMs artist.id artist.slug left s.clock) :
    s.ArtistLeads artist left := by
  intro now hclock hnow
  rcases hleads (lt_of_le_of_lt hclock hnow) with hheld | ⟨hunheld, expiry, hexpiry, hretired⟩
  · refine ⟨?_, resolveArtist_of_held h hheld now⟩
    intro other hother hslug
    apply h.artistDistinct other.id artist.id artist.slug _ hheld
    exact held_artistNames.mpr ⟨other, Table.find?_of_mem hother, hslug⟩
  · refine ⟨?_, resolveArtist_of_retired h hunheld hretired (lt_of_lt_of_le hnow hexpiry)⟩
    intro other hother hslug
    exact absurd (held_artistNames.mpr ⟨other, Table.find?_of_mem hother, hslug⟩)
      (hunheld other.id)

/-- Links keep leading where they led, as long as no new artist falls back on a slug another left. -/
theorem links_keep_leading (shows : Table Show.slug) (s : Pages)
    (hrun : Reaches Respects step (initial shows) s) :
    LinksLead s ∧ ∀ command s' later, Respects s command → s.step command = some s' →
      Reaches Respects step s' later →
      (∀ date slug, DateLeft s s' date slug → later.DateLeads date slug s'.clock) ∧
        ∀ artist, ArtistLeft s s' artist → later.ArtistLeads artist s'.clock := by
  have hinv := (run_advances (pagesInv_initial shows) hrun).1
  refine ⟨linksLead hinv, ?_⟩
  intro command s' later hrespects hstep hlater
  obtain ⟨hinv', hadvanced⟩ := step_advances hinv hrespects.1 hrespects.2 hstep
  obtain ⟨hlaterInv, -, -, hdates, hartists⟩ := run_advances hinv' hlater
  constructor
  · intro date slug hleft
    apply dateLeads_of_leadsOn hlaterInv
    apply hdates _ _ _ _ (le_refl _)
    apply Names.leadsOn_of_left (hinv.dateDistinct date.showId) (hadvanced.dates date.showId) _
      (not_held_of_dateLeft hleft)
    exact held_dateNames.mpr ⟨date, Table.find?_of_mem hleft.1, rfl, hleft.2.1⟩
  · intro artist hleft
    apply artistLeads_of_leadsOn hlaterInv
    apply hartists _ _ _ (le_refl _)
    apply Names.leadsOn_of_left hinv.artistDistinct hadvanced.artists _
      (not_held_of_artistLeft hleft)
    exact held_artistNames.mpr ⟨artist, Table.find?_of_mem hleft.1, rfl⟩

end Runs

end Rules

end Pages

namespace Sample

open Pages

/-- Two evenings of December, and texts already folded. -/
scoped instance slugRules : SlugRules where
  wallClockAt startsAt _ := ⟨2026, 12, if startsAt < 86400000 then 15 else 16, 20, 0⟩
  folded text := text
  SLUG_REDIRECT_DAYS := 30

def sampleShows : Table Show.slug := ⟨[⟨5, "hamlet"⟩], by decide⟩

/-- A date published and postponed by a day, its former day's slug left free. -/
def sampleCommands : List PageCommand :=
  [.draft ⟨10, 5, "Europe/Paris", 0, none⟩, .draft ⟨11, 5, "Europe/Paris", 0, none⟩,
    .publish 10 0]

theorem links_keep_leading_sample :
    ∃ s s', s.step (.postpone 10 90000000 1000) = some s' ∧
      DateLeft s s' ⟨10, 5, "Europe/Paris", 0, some "2026-12-15"⟩ "2026-12-15" ∧
      s'.resolveDate "hamlet" "2026-12-15" 2000 = some 10 := by
  have hruns : ((sampleCommands.foldlM (fun s a => if Respects s a then s.step a else none)
      (initial sampleShows)).bind fun s => (s.step (.postpone 10 90000000 1000)).map fun s' =>
        (s.dates.rows, s'.dates.rows, s'.shows.rows, s'.clock,
          decide (Respects s (.postpone 10 90000000 1000)))) =
      some ([⟨10, 5, "Europe/Paris", 0, some "2026-12-15"⟩, ⟨11, 5, "Europe/Paris", 0, none⟩],
        [⟨10, 5, "Europe/Paris", 90000000, some "2026-12-16"⟩,
          ⟨11, 5, "Europe/Paris", 0, none⟩], [⟨5, "hamlet"⟩], 1000, true) := by
    decide +kernel
  obtain ⟨s, hs, hrest⟩ := Option.bind_eq_some_iff.mp hruns
  obtain ⟨s', hs', hrows⟩ := Option.map_eq_some_iff.mp hrest
  simp only [Prod.mk.injEq, decide_eq_true_eq] at hrows
  obtain ⟨hdates, hdates', hshows, hclock, hrespects⟩ := hrows
  have hleft : DateLeft s s' ⟨10, 5, "Europe/Paris", 0, some "2026-12-15"⟩ "2026-12-15" := by
    unfold DateLeft
    rw [hdates, hdates']
    decide
  have hkept := ((links_keep_leading sampleShows s (Reaches.of_guarded hs)).2 _ s' s' hrespects hs'
    .refl).1 _ _ hleft 2000
  rw [hclock, hshows] at hkept
  exact ⟨s, s', hs', hleft, (hkept (by decide) (by decide)).2 ⟨5, "hamlet"⟩ (by simp) rfl⟩

/-- An artist named after a slug of its own choice leaves it, and a new artist of the same name whose
id ends the way it does falls back on it. -/
def lastResortCommands : List PageCommand :=
  [.updateIdentity "channel-a" ⟨0, some "dune", some "dune-0000002a", some "theatre"⟩ 1 0]

theorem left_slug_given_away :
    ∃ s s' later artist, Reaches InOrder step (initial sampleShows) s ∧
      s.InOrder (.updateIdentity "channel-a" ⟨1, none, some "dune", none⟩ 2 1000) ∧
      s.step (.updateIdentity "channel-a" ⟨1, none, some "dune", none⟩ 2 1000) = some s' ∧
      ArtistLeft s s' artist ∧ Reaches InOrder step s' later ∧ later.clock ≤ 2000 ∧
      2000 < s'.clock + redirectMs ∧ later.resolveArtist artist.slug 2000 ≠ some artist.id := by
  have hruns : ((lastResortCommands.foldlM (fun s a => if InOrder s a then s.step a else none)
      (initial sampleShows)).bind fun s =>
        (s.step (.updateIdentity "channel-a" ⟨1, none, some "dune", none⟩ 2 1000)).bind fun s' =>
          ([PageCommand.updateIdentity "channel-b" ⟨0, some "dune", none, some "theatre"⟩ 42
              2000].foldlM (fun s a => if InOrder s a then s.step a else none) s').map fun later =>
            ((s.artists.rows, s'.artists.rows, s'.clock, later.clock),
              later.resolveArtist "dune-0000002a" 2000,
              decide (s.InOrder (.updateIdentity "channel-a" ⟨1, none, some "dune", none⟩ 2
                1000)))) =
      some (([⟨1, "channel-a", "dune", "dune-0000002a", "theatre", 1⟩],
        [⟨1, "channel-a", "dune", "dune", "theatre", 2⟩], 1000, 2000), some 42, true) := by
    decide +kernel
  obtain ⟨s, hs, hrest⟩ := Option.bind_eq_some_iff.mp hruns
  obtain ⟨s', hs', hrest'⟩ := Option.bind_eq_some_iff.mp hrest
  obtain ⟨later, hlater, hrows⟩ := Option.map_eq_some_iff.mp hrest'
  simp only [Prod.mk.injEq, decide_eq_true_eq] at hrows
  obtain ⟨⟨hartists, hartists', hclock, hlaterClock⟩, hresolves, horder⟩ := hrows
  refine ⟨s, s', later, ⟨1, "channel-a", "dune", "dune-0000002a", "theatre", 1⟩,
    Reaches.of_guarded hs, horder, hs', ?_, Reaches.of_guarded hlater, hlaterClock.le, ?_, ?_⟩
  · unfold ArtistLeft
    rw [hartists, hartists']
    decide
  · rw [hclock]
    decide
  · rw [hresolves]
    decide

end Sample

end Arthome.Catalog
