import Arthome.Streaming.ScreenAllowance

/-!
# The playback sessions

The statements on the table of the sessions, every one conditioned on the state it
moves: an update only reaches active rows, and a partial unique index keeps one active
session for each account, date and device.
-/

namespace Arthome.Streaming

open Arthome.Core Library

inductive PlaybackSessionState where
  | active
  | released
  | expired
  | revoked
  deriving Repr, DecidableEq

inductive RevokeReason where
  | denied (reason : WatchDenialReason)
  | signedOutElsewhere
  deriving Repr, DecidableEq

structure PlaybackSession extends ScreenLease where
  accountId : Uuid
  profileId : Uuid
  dateId : Uuid
  state : PlaybackSessionState
  revokeReason : Option RevokeReason
  scope : WatchScope
  surface : Surface
  tokenId : Uuid
  tokenExpiresAt : Instant
  closedAt : Option Instant
  deriving Repr, DecidableEq

/-- What an opening or a renewal writes of the token it issued and the lease it extended. -/
structure Issue where
  scope : WatchScope
  tokenId : Uuid
  tokenExpiresAt : Instant
  leaseExpiresAt : Instant
  at' : Instant
  deriving Repr, DecidableEq

/-- A resumption takes the device's lease with the opener's profile. -/
structure Reopening extends Issue where
  profileId : Uuid
  surface : Surface
  deriving Repr, DecidableEq

structure Opening extends Reopening where
  id : Uuid
  accountId : Uuid
  deviceId : Uuid
  dateId : Uuid
  deriving Repr, DecidableEq

structure ActiveScreen where
  sessionId : Uuid
  deviceId : Uuid
  isCurrentDevice : Bool
  deviceLabel : Surface
  openedAt : Instant
  deriving Repr, DecidableEq

/-- What a refusal lists of the screens, in the order they opened. -/
def activeScreensOf (screens : List PlaybackSession) (deviceId : Uuid) : List ActiveScreen :=
  let byOpening := screens.insertionSort fun left right => left.openedAt - right.openedAt ≤ 0
  byOpening.map fun screen =>
    { sessionId := screen.id
      deviceId := screen.deviceId
      isCurrentDevice := screen.deviceId = deviceId
      deviceLabel := screen.surface
      openedAt := screen.openedAt }

/-- Which leases a device's revocation reaches: a profile's close narrows it to the profile's, opened
at or before it. -/
structure RevocationTarget where
  accountId : Uuid
  deviceId : Uuid
  profileId : Option Uuid
  openedAtOrBefore : Option Instant
  deriving Repr, DecidableEq

def RevocationTarget.reaches (target : RevocationTarget) (row : PlaybackSession) : Bool :=
  row.accountId = target.accountId && row.deviceId = target.deviceId &&
    target.profileId.all (fun profileId => row.profileId = profileId) &&
      target.openedAtOrBefore.all fun openedAtOrBefore => row.openedAt ≤ openedAtOrBefore

/-- The sessions, by id. -/
abbrev PlaybackSessions := Table fun row : PlaybackSession => row.id

namespace PlaybackSession

/-- A row closed, in a state that is not active. -/
def closed (row : PlaybackSession) (state : PlaybackSessionState) (reason : Option RevokeReason)
    (at' : Instant) : PlaybackSession :=
  { row with state, revokeReason := reason, closedAt := some at' }

/-- The device's lease taken over by its own opening: same id, a new token and lease, opened now. -/
def reopened (row : PlaybackSession) (reopening : Reopening) : PlaybackSession :=
  { row with
    profileId := reopening.profileId
    scope := reopening.scope
    surface := reopening.surface
    tokenId := reopening.tokenId
    tokenExpiresAt := reopening.tokenExpiresAt
    leaseExpiresAt := reopening.leaseExpiresAt
    openedAt := reopening.at'
    lastRenewedAt := reopening.at' }

def renewed (row : PlaybackSession) (issue : Issue) : PlaybackSession :=
  { row with
    scope := issue.scope
    tokenId := issue.tokenId
    tokenExpiresAt := issue.tokenExpiresAt
    leaseExpiresAt := issue.leaseExpiresAt
    lastRenewedAt := issue.at' }

@[simp] theorem closed_id (row : PlaybackSession) (state : PlaybackSessionState)
    (reason : Option RevokeReason) (at' : Instant) : (row.closed state reason at').id = row.id := rfl

@[simp] theorem reopened_id (row : PlaybackSession) (reopening : Reopening) :
    (row.reopened reopening).id = row.id := rfl

@[simp] theorem renewed_id (row : PlaybackSession) (issue : Issue) :
    (row.renewed issue).id = row.id := rfl

/-- An account's screens on a date: what the locks and the unique index are about. -/
def isOn (row : PlaybackSession) (accountId dateId : Uuid) : Bool :=
  row.accountId = accountId && row.dateId = dateId && row.state = .active

end PlaybackSession

/-- The row an opening inserts. -/
def Opening.row (opening : Opening) : PlaybackSession where
  id := opening.id
  deviceId := opening.deviceId
  openedAt := opening.at'
  lastRenewedAt := opening.at'
  leaseExpiresAt := opening.leaseExpiresAt
  accountId := opening.accountId
  profileId := opening.profileId
  dateId := opening.dateId
  state := .active
  revokeReason := none
  scope := opening.scope
  surface := opening.surface
  tokenId := opening.tokenId
  tokenExpiresAt := opening.tokenExpiresAt
  closedAt := none

namespace PlaybackSessions

/-- One statement on the active rows it chooses. -/
def updateActive (s : PlaybackSessions) (chosen : PlaybackSession → Bool)
    (write : PlaybackSession → PlaybackSession) (hwrite : ∀ row, (write row).id = row.id) :
    PlaybackSessions :=
  s.update (fun row => if row.state = .active ∧ chosen row then write row else row) fun row => by
    split_ifs
    · exact hwrite row
    · rfl

/-- The account's active leases on the date, by id. -/
def activeOnDate (s : PlaybackSessions) (accountId dateId : Uuid) : List PlaybackSession :=
  (s.rows.filter fun row => row.isOn accountId dateId).insertionSort fun left right =>
    left.id ≤ right.id

def byId (s : PlaybackSessions) (id : Uuid) : Option PlaybackSession := s.find? id

/-- `false` when the one-active-lease index is taken on the device; `none` when the id is. -/
def insert (s : PlaybackSessions) (opening : Opening) : Option (PlaybackSessions × Bool) :=
  if s.rows.any fun row =>
      row.isOn opening.accountId opening.dateId && row.deviceId = opening.deviceId then
    some (s, false)
  else (Table.insert s opening.row).map fun inserted => (inserted, true)

def closeActive (s : PlaybackSessions) (ids : List Uuid) (state : PlaybackSessionState)
    (reason : Option RevokeReason) (at' : Instant) : PlaybackSessions :=
  s.updateActive (fun row => row.id ∈ ids) (fun row => row.closed state reason at')
    fun row => row.closed_id state reason at'

def reopen (s : PlaybackSessions) (id : Uuid) (reopening : Reopening) :
    PlaybackSessions × Option PlaybackSession :=
  let written := s.updateActive (fun row => row.id = id) (fun row => row.reopened reopening)
    fun row => row.reopened_id reopening
  (written, (s.byId id).bind fun row => if row.state = .active then written.byId id else none)

def renew (s : PlaybackSessions) (id : Uuid) (issue : Issue) :
    PlaybackSessions × Option PlaybackSession :=
  let written := s.updateActive (fun row => row.id = id) (fun row => row.renewed issue)
    fun row => row.renewed_id issue
  (written, (s.byId id).bind fun row => if row.state = .active then written.byId id else none)

def revoke (s : PlaybackSessions) (ids : List Uuid) (reason : RevokeReason) (at' : Instant) :
    PlaybackSessions := s.closeActive ids .revoked (some reason) at'

def expire (s : PlaybackSessions) (ids : List Uuid) (at' : Instant) : PlaybackSessions :=
  s.closeActive ids .expired none at'

def release (s : PlaybackSessions) (id : Uuid) (at' : Instant) : PlaybackSessions :=
  s.closeActive [id] .released none at'

def revokeDevice (s : PlaybackSessions) (target : RevocationTarget) (reason : RevokeReason)
    (at' : Instant) : PlaybackSessions :=
  s.updateActive target.reaches (fun row => row.closed .revoked (some reason) at')
    fun row => row.closed_id .revoked (some reason) at'

/-- The sweep, of the lapsed rows it picked: the batch's, less those another transaction holds. -/
def expireLapsed (s : PlaybackSessions) (picked : List Uuid) (now : Instant) : PlaybackSessions :=
  s.updateActive (fun row => row.leaseExpiresAt ≤ now && row.id ∈ picked)
    (fun row => row.closed .expired row.revokeReason now)
    fun row => row.closed_id .expired row.revokeReason now

/-- At most one active lease for each account, date and device. -/
def OneActive (s : PlaybackSessions) : Prop :=
  s.rows.Pairwise fun row other => ∀ accountId dateId,
    row.isOn accountId dateId = true → other.isOn accountId dateId = true →
      row.deviceId ≠ other.deviceId

/-! ## What the statements keep -/

section Rules

variable {s t : PlaybackSessions} {accountId dateId : Uuid} {row : PlaybackSession}
  {chosen : PlaybackSession → Bool} {write : PlaybackSession → PlaybackSession}
  {hwrite : ∀ row, (write row).id = row.id}

theorem byId_updateActive (id : Uuid) :
    (s.updateActive chosen write hwrite).byId id =
      (s.byId id).map fun row => if row.state = .active ∧ chosen row then write row else row :=
  Table.find?_update _ _

theorem mem_activeOnDate :
    row ∈ s.activeOnDate accountId dateId ↔ row ∈ s.rows ∧ row.isOn accountId dateId = true := by
  unfold activeOnDate
  rw [(List.perm_insertionSort _ _).mem_iff, List.mem_filter]

theorem activeOnDate_ids (s : PlaybackSessions) (accountId dateId : Uuid) :
    ((s.activeOnDate accountId dateId).map fun row => row.id).Nodup := by
  unfold activeOnDate
  rw [((List.perm_insertionSort _ _).map _).nodup_iff]
  exact s.nodup.sublist (List.filter_sublist.map _)

theorem empty_oneActive : OneActive Table.empty := List.Pairwise.nil

/-- A statement that moves a row to no other account, date or device keeps the index. -/
theorem OneActive.updateActive (h : s.OneActive)
    (hsame : ∀ row accountId dateId, (write row).isOn accountId dateId = true →
      row.state = .active → row.isOn accountId dateId = true)
    (hdevice : ∀ row, (write row).deviceId = row.deviceId) :
    (s.updateActive chosen write hwrite).OneActive := by
  have hback : ∀ row accountId dateId,
      (if row.state = .active ∧ chosen row then write row else row).isOn accountId dateId = true →
        row.isOn accountId dateId = true := by
    intro row accountId dateId hon
    split_ifs at hon with hwritten
    · exact hsame row accountId dateId hon hwritten.1
    · exact hon
  have hkept : ∀ row : PlaybackSession,
      (if row.state = .active ∧ chosen row then write row else row).deviceId = row.deviceId := by
    intro row
    split_ifs
    · exact hdevice row
    · rfl
  apply List.pairwise_map.mpr
  apply h.imp
  intro row other hdiffer accountId dateId hrow hother
  rw [hkept, hkept]
  exact hdiffer accountId dateId (hback _ _ _ hrow) (hback _ _ _ hother)

theorem OneActive.insert (h : s.OneActive) {opening : Opening} {inserted : Bool}
    (hinsert : s.insert opening = some (t, inserted)) : t.OneActive := by
  unfold PlaybackSessions.insert at hinsert
  split_ifs at hinsert with htaken
  · cases hinsert
    exact h
  · obtain ⟨u, hu, hpair⟩ := Option.map_eq_some_iff.mp hinsert
    cases hpair
    rw [Bool.not_eq_true, List.any_eq_false] at htaken
    unfold OneActive
    rw [(Table.insert_eq_some hu).1, List.pairwise_append]
    refine ⟨h, List.pairwise_singleton _ _, ?_⟩
    intro row hrow other hother accountId dateId hon hnew hsame
    obtain rfl := List.mem_singleton.mp hother
    apply htaken row hrow
    simp only [PlaybackSession.isOn, Bool.and_eq_true, decide_eq_true_eq] at hon hnew ⊢
    obtain ⟨⟨rfl, rfl⟩, _⟩ := hnew
    exact ⟨hon, hsame⟩

end Rules

end PlaybackSessions

end Arthome.Streaming
