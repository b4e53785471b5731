import Arthome.Library.Reply
import Arthome.Streaming.PlaybackSessions
import Arthome.Streaming.PreviewCover

/-!
# The playback desk

The only evaluation of the right that issues a lease. An opening takes over what it
must and resumes the device's own lease; a renewal gives way to the screens opened
later, and its refusal is committed with the lease it revokes. Each call is one
transaction under the lock of the account's screens on the date: what it throws leaves
the table as it was.
-/

namespace Arthome.Streaming

open Arthome.Core Library

/-- The verified caller. -/
structure Viewer where
  accountId : Uuid
  profileId : Uuid
  deviceId : Uuid
  deriving Repr, DecidableEq

structure OpeningRequest where
  viewer : Viewer
  dateId : Uuid
  surface : Surface
  viewerCountry : String
  deriving Repr, DecidableEq

/-- What this service holds about a date, each part none while the facts it needs are unknown. -/
structure DateFacts where
  timing : Option DateTiming
  publicationState : Option PublicationState
  outcome : Option DateOutcome
  rights : Option TerritoryRights
  deriving Repr, DecidableEq

/-- An account's standing on a date. -/
structure EntitlementFacts where
  activeSeatsOnDate : ℤ
  seatExpired : Bool
  planOpenings : List PlanOpening
  date : Option DateFacts
  deriving Repr, DecidableEq

/-- What a transaction reads beside the sessions: the standing, the run, the preview meter. -/
structure DeskFacts where
  entitlement : EntitlementFacts
  runState : Option RunState
  previewSecondsLeft : ℤ
  /-- How far a preview token may reach; none when the budget covers nothing. -/
  cover : Option Instant
  deriving Repr, DecidableEq

structure ScreenCount where
  /-- At an opening, the other screens left once it has taken over; at a renewal, the newer ones. -/
  opened : ℤ
  allowed : ℤ
  deriving Repr, DecidableEq

inductive PlaybackRefusal where
  | notFound
  | refused (reason : RevokeReason)
  | screens (allowed : ℤ) (activeSessions : List ActiveScreen)
  /-- Another profile's or device's session. -/
  | forbidden
  /-- Thrown: the transaction is rolled back. -/
  | failed
  deriving Repr, DecidableEq

structure Opened where
  session : PlaybackSession
  resumedExistingSession : Bool
  previewSecondsLeft : ℤ
  deriving Repr, DecidableEq

structure Renewed where
  session : PlaybackSession
  previewSecondsLeft : ℤ
  deriving Repr, DecidableEq

/-- The screens' refusal is served with the screens, so the surface can offer to release one. -/
def refusalFor (reason : RevokeReason) (listed : PlaybackRefusal) : PlaybackRefusal :=
  if reason = .denied .concurrentLimitReached then listed else .refused reason

section Verdicts

variable [WatchRules]

def screensAllowedBy (facts : EntitlementFacts) : ℤ :=
  WatchRules.concurrentStreamsAllowedFor facts.planOpenings facts.activeSeatsOnDate

def refusedFor (reason : WatchDenialReason) : WatchVerdict := ⟨false, .none, some reason, 0⟩

/-- The verdict on facts read fresh, failing closed on an unknown one. -/
def verdictOf (facts : EntitlementFacts) (runState : Option RunState) (screens : ScreenCount)
    (previewSecondsLeft : ℤ) (viewerCountry : String) (now : Instant) : WatchVerdict :=
  match facts.date with
  | none => refusedFor .notPublished
  | some date =>
    match date.publicationState, date.timing, date.rights with
    | some publicationState, some timing, some rights =>
      WatchRules.decideWatch
        { holdsSeat := 0 < facts.activeSeatsOnDate
          seatExpired := facts.seatExpired
          planOpenings := facts.planOpenings
          concurrentStreamsOpen := screens.opened
          concurrentStreamsAllowed := screens.allowed
          previewSecondsLeft
          viewerCountry
          rights
          timing
          publicationState
          runState
          outcome := date.outcome
          now }
    | some _, some _, none => refusedFor .outOfTerritory
    | _, _, _ => refusedFor .notPublished

/-- The token's scope and expiry for an allowed verdict; a preview the meter cannot cover is spent. -/
def issueFor (verdict : WatchVerdict) (cover : Option Instant) (tokenId : Uuid) (now : Instant) :
    Except WatchDenialReason Issue :=
  if !verdict.allowed || verdict.reason.isSome || verdict.scope = .none then
    .error (verdict.reason.getD .notPublished)
  else
    let leaseExpiresAt := WatchRules.playbackLeaseExpiresAt now
    match verdict.scope, cover with
    | .preview, none => .error .previewExhausted
    | .preview, some cover => .ok ⟨.preview, tokenId, tokenExpiresAt now cover, leaseExpiresAt, now⟩
    | scope, _ =>
      .ok ⟨scope, tokenId, PreviewRules.playbackTokenExpiresAt now, leaseExpiresAt, now⟩

end Verdicts

namespace PlaybackSessions

/-- An opening answered as a resumption of the device's own lease. -/
def resumption (s : PlaybackSessions) (own : Option Uuid) (reopening : Reopening) :
    Option (PlaybackSessions × PlaybackSession × Bool) :=
  own.bind fun own =>
    match s.reopen own reopening with
    | (reopened, some session) => some (reopened, session, true)
    | (_, none) => none

/-- The lease of an opening: the device's own resumed, or a new one. -/
def leaseFor (s : PlaybackSessions) (request : OpeningRequest) (resumedId : Option Uuid)
    (reopening : Reopening) (id : Uuid) : Option (PlaybackSessions × PlaybackSession × Bool) :=
  let viewer := request.viewer
  match resumedId with
  | some resumedId => s.resumption (some resumedId) reopening
  | none =>
    let opening : Opening := { reopening with
      id, accountId := viewer.accountId, deviceId := viewer.deviceId, dateId := request.dateId }
    match s.insert opening with
    | none => none
    | some (inserted, true) => (inserted.byId id).map fun session => (inserted, session, false)
    -- A racing opening on the same device won the one-active-lease index.
    | some (kept, false) =>
      kept.resumption (((kept.activeOnDate viewer.accountId request.dateId).find? fun lease =>
        lease.deviceId = viewer.deviceId).map fun lease => lease.id) reopening

/-- The leases of an account on a date that still hold a screen. -/
def screensOn [RunRules] (s : PlaybackSessions) (accountId dateId : Uuid) (now : Instant) :
    List PlaybackSession :=
  (s.activeOnDate accountId dateId).filter fun lease => holdsAScreen lease.toScreenLease now

/-- The other devices' screens an opening finds. -/
def otherScreens [RunRules] (s : PlaybackSessions) (request : OpeningRequest) (now : Instant) :
    List PlaybackSession :=
  (s.screensOn request.viewer.accountId request.dateId now).filter fun lease =>
    lease.deviceId ≠ request.viewer.deviceId

section Openings

variable [WatchRules]

/-- The screens an opening takes over. -/
def takenOver (s : PlaybackSessions) (request : OpeningRequest) (facts : DeskFacts)
    (now : Instant) : List ScreenLease :=
  leasesTakenOverBy ((s.otherScreens request now).map PlaybackSession.toScreenLease)
    (screensAllowedBy facts.entitlement)

def openingVerdict (s : PlaybackSessions) (request : OpeningRequest) (facts : DeskFacts)
    (now : Instant) : WatchVerdict :=
  let left : ℤ := (s.otherScreens request now).length - (s.takenOver request facts now).length
  verdictOf facts.entitlement facts.runState ⟨left, screensAllowedBy facts.entitlement⟩
    facts.previewSecondsLeft request.viewerCountry now

/-- The lapsed leases expired and the excess revoked. -/
def cleared (s : PlaybackSessions) (request : OpeningRequest) (facts : DeskFacts) (now : Instant) :
    PlaybackSessions :=
  let active := s.activeOnDate request.viewer.accountId request.dateId
  let lapsed := active.filter fun lease => !holdsAScreen lease.toScreenLease now
  (s.expire (lapsed.map fun lease => lease.id) now).revoke
    ((s.takenOver request facts now).map ScreenLease.id) (.denied .concurrentLimitReached) now

/-- `id` and `tokenId` are drawn, `signs` says whether the provider signs. -/
def openPlayback (s : PlaybackSessions) (request : OpeningRequest) (facts : DeskFacts)
    (id tokenId : Uuid) (signs : Bool) (now : Instant) :
    Reply PlaybackSessions PlaybackRefusal Opened :=
  let viewer := request.viewer
  if facts.entitlement.date.isNone then .refuse s .notFound
  else
    let screens := s.screensOn viewer.accountId request.dateId now
    let resumed := resumableLeaseOf (screens.map PlaybackSession.toScreenLease) viewer.deviceId now
    let verdict := s.openingVerdict request facts now
    match issueFor verdict facts.cover tokenId now with
    | .error reason =>
      .refuse s (refusalFor (.denied reason)
        (.screens (screensAllowedBy facts.entitlement) (activeScreensOf screens viewer.deviceId)))
    | .ok issue =>
      let reopening : Reopening :=
        { issue with profileId := viewer.profileId, surface := request.surface }
      match (s.cleared request facts now).leaseFor request (resumed.map ScreenLease.id) reopening id
        with
      | none => .refuse s .failed
      | some (opened, session, resumedExistingSession) =>
        if signs then
          .answer opened ⟨session, resumedExistingSession, verdict.previewSecondsLeft⟩
        else .refuse s .failed

end Openings

/-- Whether the caller is the profile on the device the session is held by. -/
def heldByCaller (viewer : Viewer) (session : PlaybackSession) : Bool :=
  session.profileId = viewer.profileId && session.deviceId = viewer.deviceId

def renewalVerdict [WatchRules] (s : PlaybackSessions) (lease : PlaybackSession)
    (viewerCountry : String) (facts : DeskFacts) (now : Instant) : WatchVerdict :=
  let screens := (s.screensOn lease.accountId lease.dateId now).map PlaybackSession.toScreenLease
  let newer := newerScreensThan lease.toScreenLease screens now
  verdictOf facts.entitlement facts.runState ⟨newer, screensAllowedBy facts.entitlement⟩
    facts.previewSecondsLeft viewerCountry now

/-- A released, expired or lapsed lease answers not found; a revoked one, what revoked it. -/
def renewPlayback [WatchRules] (s : PlaybackSessions) (viewer : Viewer) (sessionId : Uuid)
    (viewerCountry : String) (facts : DeskFacts) (tokenId : Uuid) (signs : Bool) (now : Instant) :
    Reply PlaybackSessions PlaybackRefusal Renewed :=
  match s.byId sessionId with
  | none => .refuse s .notFound
  | some found =>
    if found.accountId ≠ viewer.accountId then .refuse s .notFound
    else if !heldByCaller viewer found then .refuse s .forbidden
    else
      let active := s.activeOnDate viewer.accountId found.dateId
      let screens := s.screensOn viewer.accountId found.dateId now
      let listed := PlaybackRefusal.screens (screensAllowedBy facts.entitlement)
        (activeScreensOf (screens.filter fun lease => lease.id ≠ sessionId) viewer.deviceId)
      match active.find? fun lease => lease.id = sessionId with
      | none =>
        match found.state, found.revokeReason with
        | .revoked, some reason => .refuse s (refusalFor reason listed)
        | _, _ => .refuse s .notFound
      | some lease =>
        if !holdsAScreen lease.toScreenLease now then .refuse (s.expire [lease.id] now) .notFound
        else
          let verdict := s.renewalVerdict lease viewerCountry facts now
          match issueFor verdict facts.cover tokenId now with
          | .error reason =>
            .refuse (s.revoke [lease.id] (.denied reason) now) (refusalFor (.denied reason) listed)
          | .ok issue =>
            match s.renew lease.id issue with
            | (renewed, some session) =>
              if signs then .answer renewed ⟨session, verdict.previewSecondsLeft⟩
              else .refuse s .failed
            | (_, none) => .refuse s .failed

/-- False for an unknown session or another account's. -/
def releasePlayback (s : PlaybackSessions) (accountId sessionId : Uuid) (now : Instant) :
    PlaybackSessions × Bool :=
  match s.byId sessionId with
  | none => (s, false)
  | some found =>
    if found.accountId ≠ accountId then (s, false) else (s.release found.id now, true)

end PlaybackSessions

/-- One transaction on the sessions. -/
inductive DeskStep where
  | openPlayback (request : OpeningRequest) (facts : DeskFacts) (id tokenId : Uuid) (signs : Bool)
  | renewPlayback (viewer : Viewer) (sessionId : Uuid) (viewerCountry : String) (facts : DeskFacts)
      (tokenId : Uuid) (signs : Bool)
  | releasePlayback (accountId sessionId : Uuid)
  | revokeDevice (target : RevocationTarget)
  | sweep (picked : List Uuid)
  deriving Repr, DecidableEq

namespace PlaybackSessions

variable [WatchRules]

/-- A transaction, with the instant it read. -/
def step (s : PlaybackSessions) (a : Instant × DeskStep) : PlaybackSessions :=
  match a.2 with
  | .openPlayback request facts id tokenId signs =>
    (s.openPlayback request facts id tokenId signs a.1).state
  | .renewPlayback viewer sessionId viewerCountry facts tokenId signs =>
    (s.renewPlayback viewer sessionId viewerCountry facts tokenId signs a.1).state
  | .releasePlayback accountId sessionId => (s.releasePlayback accountId sessionId a.1).1
  | .revokeDevice target => s.revokeDevice target .signedOutElsewhere a.1
  | .sweep picked => s.expireLapsed picked a.1

/-- Any transactions one after the other, whatever instants they read. -/
def run (s : PlaybackSessions) (steps : List (Instant × DeskStep)) : PlaybackSessions :=
  steps.foldl step s

end PlaybackSessions

end Arthome.Streaming
