import Arthome.Core.Vocabulary
import Arthome.Library.Journal
import Arthome.Library.Machine

/-!
# Registered devices and their sessions

A device is known by its token's digest alone; a session is bound to a (device, profile)
pair, and one with no open binding resolves to nothing. Sign-ins, replayed sign-ups,
sign-outs, closes and revocations are transactions of READ COMMITTED statements: a
statement reads the rows committed last and the transaction's own, and waits on a row
another transaction owns. A bulk update finds its rows first, then takes them one by one,
each read again once it is free. A binding's insertion locks its device's row for its
foreign key: it waits on the row's owner, and an owner to be waits on it.
-/

namespace Arthome.Identity

open Arthome.Core Arthome.Library

inductive DeviceKind where
  | tv
  | mobile
  | tablet
  | desktop
  | stick
  | console
  | box
  deriving Repr, DecidableEq

inductive WireSurface where
  | unspecified
  | storefrontWeb
  | storefrontMobile
  | storefrontTv
  | studioWeb
  | studioMobile
  | system
  deriving Repr, DecidableEq

/-- What the devices rest on: the digest of a token, core's lifetime of one, the account of a
better-auth session and of a profile, and the accounts whose status still signs in. -/
class DeviceRules where
  digestOf : String → String
  deviceTokenLifetimeSeconds : ℤ
  accountOfSession : String → Uuid
  accountOfProfile : Uuid → Uuid
  signsIn : Uuid → Bool

structure Device where
  tokenHash : String
  tokenExpiresAt : Instant
  kind : DeviceKind
  label : String
  lastSeenAt : Instant
  revokedAt : Option Instant
  deriving Repr, DecidableEq

structure DeviceSession where
  deviceId : Uuid
  accountId : Uuid
  profileId : Uuid
  authSessionId : String
  openedAt : Instant
  closedAt : Option Instant
  deriving Repr, DecidableEq

structure PresentedDevice where
  token : Option String
  kind : DeviceKind
  label : String
  deriving Repr, DecidableEq

/-- Who acts on a device, from where, under which trace. -/
structure DeviceAct where
  accountId : Uuid
  fromDeviceId : Option Uuid
  surface : WireSurface
  traceparent : Option String
  deriving Repr, DecidableEq

structure ClosedBinding where
  deviceSessionId : Uuid
  deviceId : Uuid
  accountId : Uuid
  profileId : Uuid
  authSessionId : String
  deriving Repr, DecidableEq

def closedBindingOf (id : Uuid) (row : DeviceSession) : ClosedBinding :=
  ⟨id, row.deviceId, row.accountId, row.profileId, row.authSessionId⟩

/-- `identity.device_session.closed.v1`. -/
structure DeviceSessionClosed where
  closed : ClosedBinding
  act : DeviceAct
  occurredAt : Instant
  deriving Repr, DecidableEq

def DeviceSessionClosed.selfInitiated (event : DeviceSessionClosed) : Bool :=
  event.act.fromDeviceId = some event.closed.deviceId

/-- `identity.device.revoked.v1`. -/
structure DeviceRevoked where
  deviceId : Uuid
  accountId : Uuid
  kind : DeviceKind
  act : DeviceAct
  occurredAt : Instant
  deriving Repr, DecidableEq

/-- What a transaction, named by its attempt, does to the devices and their bindings. -/
inductive DeviceRecord where
  | registered (attempt : ℕ) (deviceId : Uuid)
  /-- The presented device kept, its token of this digest replaced. -/
  | kept (attempt : ℕ) (deviceId : Uuid) (tokenHash : String)
  | bound (attempt : ℕ) (deviceSessionId deviceId : Uuid) (authSessionId : String)
  /-- Closed by a later binding of its pair, which this account made. -/
  | replaced (attempt : ℕ) (deviceSessionId accountId : Uuid)
  /-- Closed, with its event in the outbox. -/
  | closed (attempt : ℕ) (event : DeviceSessionClosed)
  /-- Revoked, with its event in the outbox. -/
  | revoked (attempt : ℕ) (event : DeviceRevoked)
  deriving Repr, DecidableEq

/-- The session a sign-up's record keeps, by its ids. -/
structure StoredSession where
  authSessionId : String
  deviceId : Uuid
  deriving Repr, DecidableEq

inductive DeviceOperation where
  /-- A sign-in's or a sign-up's transaction, the session just opened. -/
  | signIn (authSessionId : String) (presented : PresentedDevice)
  /-- A replayed sign-up's, the session it opened afresh for one that no longer resolves. -/
  | reissue (authSessionId : String) (stored : StoredSession) (presented : PresentedDevice)
  | signOut (authSessionId : String) (surface : WireSurface) (traceparent : Option String)
  | closeSession (deviceSessionId : Uuid) (act : DeviceAct)
  | revoke (deviceId : Uuid) (act : DeviceAct)
  deriving Repr, DecidableEq

/-- The session the operation opened. -/
def DeviceOperation.opened : DeviceOperation → Option String
  | .signIn authSessionId _ => some authSessionId
  | .reissue authSessionId _ _ => some authSessionId
  | _ => none

inductive DeviceStage where
  | start
  | profiled (profileId : Uuid)
  /-- A new device is to be registered. -/
  | registering (profileId : Uuid)
  /-- To bind, at this attempt. -/
  | pairing (deviceId profileId : Uuid) (attempt : ℕ)
  /-- The pair's open bindings found, those still to close. -/
  | replacing (deviceId profileId : Uuid) (attempt : ℕ) (now : Instant) (found : List Uuid)
  | lockedBinding (deviceSessionId : Uuid)
  | lockedDevice (deviceId : Uuid)
  /-- The caller's open bindings found, those still to close and those closed. -/
  | closing (deviceId : Uuid) (now : Instant) (found : List Uuid) (closed : List ClosedBinding)
  | recorded (deviceId : Uuid) (now : Instant)
  /-- No other account holds the device. -/
  | revoking (deviceId : Uuid) (now : Instant)
  | done
  | committed
  | failed
  deriving Repr, DecidableEq

/-- The tables, the better-auth sessions expired or deleted, what the open transactions did, and
what the committed ones did, first to last. -/
structure Devices where
  devices : Rows ℕ Uuid (Option Device)
  bindings : Rows ℕ Uuid (Option DeviceSession)
  deviceIds : List Uuid
  bindingIds : List Uuid
  /-- The digests of the tokens ever handed out. -/
  hashes : List String
  ended : List String
  stage : ℕ → DeviceStage
  pending : ℕ → List DeviceRecord
  history : List DeviceRecord

inductive DeviceStep where
  /-- `defaultProfileOf`. -/
  | profile (profileId : Uuid)
  | rotate (now : Instant) (token : String)
  | register (deviceId : Uuid) (now : Instant) (token : String)
  | checkDevice
  | findPair (now : Instant)
  | replace
  | insertBinding (deviceSessionId : Uuid)
  | signOut (now : Instant)
  | lockBinding
  | closeBinding (now : Instant)
  | lockDevice
  | findOwn (now : Instant)
  | closeOwn
  | record
  | checkHeld
  | revokeDevice
  | commit
  | abort
  deriving Repr, DecidableEq

inductive DeviceAction where
  | attempt (id : ℕ) (step : DeviceStep)
  /-- A better-auth session expires or is deleted. -/
  | endSession (authSessionId : String)
  deriving Repr, DecidableEq

namespace Devices

def initial : Devices :=
  ⟨.ofCommitted fun _ => none, .ofCommitted fun _ => none, [], [], [], [], fun _ => .start,
    fun _ => [], []⟩

def enter (s : Devices) (id : ℕ) (stage : DeviceStage) : Devices :=
  { s with stage := Function.update s.stage id stage }

def say (s : Devices) (id : ℕ) (records : List DeviceRecord) : Devices :=
  { s with pending := Function.update s.pending id (s.pending id ++ records) }

def putDevice (s : Devices) (id : ℕ) (deviceId : Uuid) (device : Device) : Devices :=
  { s with devices := s.devices.put id deviceId (some device) }

def putBinding (s : Devices) (id : ℕ) (deviceSessionId : Uuid) (binding : DeviceSession) :
    Devices := { s with bindings := s.bindings.put id deviceSessionId (some binding) }

def commit (s : Devices) (id : ℕ) : Devices :=
  { s.enter id .committed with
    devices := s.devices.commit id
    bindings := s.bindings.commit id
    pending := Function.update s.pending id []
    history := s.history ++ s.pending id }

/-- What the transaction did is forgotten. -/
def fail (s : Devices) (id : ℕ) : Devices :=
  { s.enter id .failed with
    devices := s.devices.rollback id
    bindings := s.bindings.rollback id
    pending := Function.update s.pending id [] }

/-- Another transaction has inserted a binding on the device. -/
def Referenced (s : Devices) (id : ℕ) (deviceId : Uuid) : Prop :=
  ∃ k ∈ s.bindingIds, s.bindings.committed k = none ∧
    ∃ held ∈ s.bindings.held k, held.1 ≠ id ∧ ∃ binding ∈ held.2, binding.deviceId = deviceId

instance (s : Devices) (id : ℕ) (deviceId : Uuid) : Decidable (s.Referenced id deviceId) :=
  inferInstanceAs (Decidable (∃ k ∈ s.bindingIds, _))

/-- The device's row can be locked for an update of its keys. -/
def Lockable (s : Devices) (id : ℕ) (deviceId : Uuid) : Prop :=
  s.devices.Free id deviceId ∧ ¬ s.Referenced id deviceId

instance (s : Devices) (id : ℕ) (deviceId : Uuid) : Decidable (s.Lockable id deviceId) :=
  inferInstanceAs (Decidable (_ ∧ _))

/-- The row is an open binding of the pair. -/
def openOn (deviceId profileId : Uuid) (row : Option DeviceSession) : Bool :=
  match row with
  | some binding =>
    binding.deviceId = deviceId ∧ binding.profileId = profileId ∧ binding.closedAt = none
  | none => false

/-- The row is an open binding the account has on the device. -/
def openOf (deviceId accountId : Uuid) (row : Option DeviceSession) : Bool :=
  match row with
  | some binding =>
    binding.deviceId = deviceId ∧ binding.accountId = accountId ∧ binding.closedAt = none
  | none => false

/-- The row is the session's open binding. -/
def openFor (authSessionId : String) (row : Option DeviceSession) : Bool :=
  match row with
  | some binding => binding.authSessionId = authSessionId ∧ binding.closedAt = none
  | none => false

def bindAttempts : ℕ := 2

/-- `WHERE token_hash = $1 AND revoked_at IS NULL AND token_expires_at > $4`. -/
def rotatable (tokenHash : String) (now : Instant) (device : Option Device) : Bool :=
  match device with
  | some device =>
    device.tokenHash = tokenHash ∧ device.revokedAt = none ∧ now < device.tokenExpiresAt
  | none => false

/-- The recorded device, unless it is revoked or unknown. -/
def checkDevice (s : Devices) (id : ℕ) (profileId : Uuid) (stored : StoredSession) : Devices :=
  match s.devices.view id stored.deviceId with
  | some device =>
    if device.revokedAt = none then s.enter id (.pairing stored.deviceId profileId 1)
    else s.enter id (.registering profileId)
  | none => s.enter id (.registering profileId)

/-- Another transaction owns the row. -/
def OwnedByOther (s : Devices) (id : ℕ) (k : Uuid) : Prop := ¬ s.bindings.Free id k

instance (s : Devices) (id : ℕ) (k : Uuid) : Decidable (s.OwnedByOther id k) :=
  inferInstanceAs (Decidable (¬ _))

/-- The row as its owner will commit it. -/
def ownersRow (s : Devices) (k : Uuid) : Option DeviceSession :=
  match s.bindings.held k with
  | some (_, row) => row
  | none => s.bindings.committed k

/-- Whether the pair is open hangs on another transaction's end. -/
def PairAwaited (s : Devices) (id : ℕ) (deviceId profileId : Uuid) : Prop :=
  ∃ k ∈ s.bindingIds, s.OwnedByOther id k ∧
    openOn deviceId profileId (s.bindings.committed k) ≠ openOn deviceId profileId (s.ownersRow k)

instance (s : Devices) (id : ℕ) (deviceId profileId : Uuid) :
    Decidable (s.PairAwaited id deviceId profileId) :=
  inferInstanceAs (Decidable (∃ k ∈ s.bindingIds, _))

/-- The pair has an open binding. -/
def PairTaken (s : Devices) (id : ℕ) (deviceId profileId : Uuid) : Prop :=
  ∃ k ∈ s.bindingIds, openOn deviceId profileId (s.bindings.view id k) = true

instance (s : Devices) (id : ℕ) (deviceId profileId : Uuid) :
    Decidable (s.PairTaken id deviceId profileId) :=
  inferInstanceAs (Decidable (∃ k ∈ s.bindingIds, _))

/-- A binding of the session is there, committed or not. -/
def SessionTaken (s : Devices) (authSessionId : String) : Prop :=
  ∃ k ∈ s.bindingIds, (∃ binding ∈ s.bindings.committed k, binding.authSessionId = authSessionId) ∨
    ∃ binding ∈ s.ownersRow k, binding.authSessionId = authSessionId

instance (s : Devices) (authSessionId : String) : Decidable (s.SessionTaken authSessionId) :=
  inferInstanceAs (Decidable (∃ k ∈ s.bindingIds, _))

def lockBinding (s : Devices) (id : ℕ) (k : Uuid) (act : DeviceAct) : Option Devices :=
  match s.bindings.view id k with
  | none => some (s.fail id)
  | some binding =>
    if s.bindings.Free id k then
      if binding.accountId ≠ act.accountId then some (s.fail id)
      else if binding.closedAt ≠ none then some ((s.putBinding id k binding).enter id .done)
      else some ((s.putBinding id k binding).enter id (.lockedBinding k))
    else none

def closeBinding (s : Devices) (id : ℕ) (k : Uuid) (act : DeviceAct) (now : Instant) :
    Option Devices :=
  match s.bindings.view id k with
  | none => none
  | some binding =>
    if s.bindings.Free id k then
      some (((s.putBinding id k { binding with closedAt := some now }).say id
        [.closed id ⟨closedBindingOf k binding, act, now⟩]).enter id .done)
    else none

/-- Unknown or revoked: refused. -/
def lockDevice (s : Devices) (id : ℕ) (deviceId : Uuid) : Option Devices :=
  match s.devices.view id deviceId with
  | none => some (s.fail id)
  | some device =>
    if s.Lockable id deviceId then
      if device.revokedAt ≠ none then some (s.fail id)
      else some ((s.putDevice id deviceId device).enter id (.lockedDevice deviceId))
    else none

/-- One of the caller's bindings found closed, with its event. -/
def closeOwn (s : Devices) (id : ℕ) (act : DeviceAct) (deviceId : Uuid) (now : Instant) (k : Uuid)
    (found : List Uuid) (closed : List ClosedBinding) : Option Devices :=
  if s.bindings.Free id k then
    match s.bindings.view id k with
    | some binding =>
      if openOf deviceId act.accountId (some binding) then
        some (((s.putBinding id k { binding with closedAt := some now }).say id
          [.closed id ⟨closedBindingOf k binding, act, now⟩]).enter id
            (.closing deviceId now found (closed ++ [closedBindingOf k binding])))
      else some (s.enter id (.closing deviceId now found closed))
    | none => some (s.enter id (.closing deviceId now found closed))
  else none

/-- None of the caller's bindings was left open: refused. -/
def record (s : Devices) (id : ℕ) (deviceId : Uuid) (now : Instant)
    (closed : List ClosedBinding) : Devices :=
  if closed = [] then s.fail id else s.enter id (.recorded deviceId now)

def revokeDevice (s : Devices) (id : ℕ) (deviceId : Uuid) (act : DeviceAct) (now : Instant) :
    Option Devices :=
  match s.devices.view id deviceId with
  | none => none
  | some device =>
    if s.devices.Free id deviceId then
      some (((s.putDevice id deviceId { device with revokedAt := some now }).say id
        [.revoked id ⟨deviceId, act.accountId, device.kind, act, now⟩]).enter id .done)
    else none

/-- The transaction has begun and not ended. -/
def Running : DeviceStage → Bool
  | .start | .committed | .failed => false
  | _ => true

variable [DeviceRules]

/-- The profile is one of the account whose session was opened. -/
def profile (s : Devices) (id : ℕ) (authSessionId : String) (profileId : Uuid) : Option Devices :=
  if DeviceRules.accountOfProfile profileId = DeviceRules.accountOfSession authSessionId then
    some (s.enter id (.profiled profileId))
  else none

def tokenExpiry (now : Instant) : Instant := now + DeviceRules.deviceTokenLifetimeSeconds * 1000

/-- The presented device's token replaced, or a new device to register. -/
def rotate (s : Devices) (id : ℕ) (profileId : Uuid) (presented : PresentedDevice) (now : Instant)
    (token : String) : Option Devices :=
  match presented.token with
  | none => some (s.enter id (.registering profileId))
  | some old =>
    match s.deviceIds.find? fun d =>
        rotatable (DeviceRules.digestOf old) now (s.devices.view id d) with
    | none => some (s.enter id (.registering profileId))
    | some deviceId =>
      match s.devices.view id deviceId with
      | none => none
      | some device =>
        if s.Lockable id deviceId then
          some
            { ((s.putDevice id deviceId
                { device with
                  tokenHash := DeviceRules.digestOf token
                  tokenExpiresAt := tokenExpiry now
                  lastSeenAt := now }).say id
                [.kept id deviceId (DeviceRules.digestOf old)]).enter id
                (.pairing deviceId profileId 1) with
              hashes := DeviceRules.digestOf token :: s.hashes }
        else none

/-- A new device's row; an id already there fails the statement. -/
def register (s : Devices) (id : ℕ) (profileId : Uuid) (presented : PresentedDevice)
    (deviceId : Uuid) (now : Instant) (token : String) : Option Devices :=
  if s.devices.Free id deviceId ∧ s.devices.view id deviceId = none then
    some
      { ((s.putDevice id deviceId
          { tokenHash := DeviceRules.digestOf token
            tokenExpiresAt := tokenExpiry now
            kind := presented.kind
            label := presented.label
            lastSeenAt := now
            revokedAt := none }).say id [.registered id deviceId]).enter id
          (.pairing deviceId profileId 1) with
        deviceIds := deviceId :: s.deviceIds
        hashes := DeviceRules.digestOf token :: s.hashes }
  else none

/-- One of the pair's bindings found closed, unless it was closed while it was waited on. -/
def replace (s : Devices) (id : ℕ) (authSessionId : String) (deviceId profileId : Uuid)
    (attempt : ℕ) (now : Instant) (k : Uuid) (found : List Uuid) : Option Devices :=
  if s.bindings.Free id k then
    let next := DeviceStage.replacing deviceId profileId attempt now found
    match s.bindings.view id k with
    | some binding =>
      if openOn deviceId profileId (some binding) then
        some (((s.putBinding id k { binding with closedAt := some now }).say id
          [.replaced id k (DeviceRules.accountOfSession authSessionId)]).enter id next)
      else some (s.enter id next)
    | none => some (s.enter id next)
  else none

/-- The insertion waits on the device's owner and on a binding of the pair not settled; an open
binding of the pair leaves it with nothing, and a second attempt is the last. -/
def insertBinding (s : Devices) (id : ℕ) (authSessionId : String) (deviceId profileId : Uuid)
    (attempt : ℕ) (now : Instant) (k : Uuid) : Option Devices :=
  if s.PairAwaited id deviceId profileId then none
  else if s.PairTaken id deviceId profileId then
    if attempt < bindAttempts then
      some (s.enter id (.pairing deviceId profileId (attempt + 1)))
    else some (s.fail id)
  else if s.devices.Free id deviceId ∧ s.devices.view id deviceId ≠ none ∧ s.bindings.Free id k ∧
      s.bindings.view id k = none ∧ ¬ s.SessionTaken authSessionId then
    some
      { ((s.putBinding id k
          { deviceId := deviceId
            accountId := DeviceRules.accountOfSession authSessionId
            profileId := profileId
            authSessionId := authSessionId
            openedAt := now
            closedAt := none }).say id [.bound id k deviceId authSessionId]).enter id .done with
        bindingIds := k :: s.bindingIds }
  else none

/-- The signed-out session's binding closed, its own account acting from its device. -/
def signOut (s : Devices) (id : ℕ) (authSessionId : String) (surface : WireSurface)
    (traceparent : Option String) (now : Instant) : Option Devices :=
  match s.bindingIds.find? fun k => openFor authSessionId (s.bindings.view id k) with
  | none => some (s.enter id .done)
  | some k =>
    match s.bindings.view id k with
    | none => none
    | some binding =>
      if s.bindings.Free id k then
        some (((s.putBinding id k { binding with closedAt := some now }).say id
          [.closed id ⟨closedBindingOf k binding,
            ⟨DeviceRules.accountOfSession authSessionId, some binding.deviceId, surface,
              traceparent⟩, now⟩]).enter id .done)
      else none

/-- The binding still resolves: open, its account still signing in, its session not ended. -/
def Holds (s : Devices) (deviceId : Uuid) (row : Option DeviceSession) : Prop :=
  ∃ binding ∈ row, binding.deviceId = deviceId ∧ binding.closedAt = none ∧
    DeviceRules.signsIn binding.accountId = true ∧ binding.authSessionId ∉ s.ended

instance (s : Devices) (deviceId : Uuid) (row : Option DeviceSession) :
    Decidable (s.Holds deviceId row) :=
  inferInstanceAs (Decidable (∃ binding ∈ row, _))

/-- `STILL_HELD_SQL`. -/
def StillHeld (s : Devices) (id : ℕ) (deviceId : Uuid) : Prop :=
  ∃ k ∈ s.bindingIds, s.Holds deviceId (s.bindings.view id k)

instance (s : Devices) (id : ℕ) (deviceId : Uuid) : Decidable (s.StillHeld id deviceId) :=
  inferInstanceAs (Decidable (∃ k ∈ s.bindingIds, _))

def checkHeld (s : Devices) (id : ℕ) (deviceId : Uuid) (now : Instant) : Devices :=
  if s.StillHeld id deviceId then s.enter id .done else s.enter id (.revoking deviceId now)

variable (operation : ℕ → DeviceOperation)

/-- One statement of a transaction; a step that does not apply, or has to wait, is not made. -/
def attemptStep (s : Devices) (id : ℕ) (step : DeviceStep) : Option Devices :=
  match step, operation id, s.stage id with
  | .profile profileId, .signIn authSessionId _, .start => s.profile id authSessionId profileId
  | .profile profileId, .reissue authSessionId _ _, .start => s.profile id authSessionId profileId
  | .rotate now token, .signIn _ presented, .profiled profileId =>
    s.rotate id profileId presented now token
  | .checkDevice, .reissue _ stored _, .profiled profileId =>
    some (s.checkDevice id profileId stored)
  | .register deviceId now token, .signIn _ presented, .registering profileId =>
    s.register id profileId presented deviceId now token
  | .register deviceId now token, .reissue _ _ presented, .registering profileId =>
    s.register id profileId presented deviceId now token
  | .findPair now, _, .pairing deviceId profileId attempt =>
    some (s.enter id (.replacing deviceId profileId attempt now
      (s.bindingIds.filter fun k => openOn deviceId profileId (s.bindings.view id k))))
  | .replace, operation, .replacing deviceId profileId attempt now (k :: found) =>
    operation.opened.bind fun authSessionId =>
      s.replace id authSessionId deviceId profileId attempt now k found
  | .insertBinding k, operation, .replacing deviceId profileId attempt now [] =>
    operation.opened.bind fun authSessionId =>
      s.insertBinding id authSessionId deviceId profileId attempt now k
  | .signOut now, .signOut authSessionId surface traceparent, .start =>
    s.signOut id authSessionId surface traceparent now
  | .lockBinding, .closeSession k act, .start => s.lockBinding id k act
  | .closeBinding now, .closeSession _ act, .lockedBinding k => s.closeBinding id k act now
  | .lockDevice, .revoke deviceId _, .start => s.lockDevice id deviceId
  | .findOwn now, .revoke _ act, .lockedDevice deviceId =>
    some (s.enter id (.closing deviceId now
      (s.bindingIds.filter fun k => openOf deviceId act.accountId (s.bindings.view id k)) []))
  | .closeOwn, .revoke _ act, .closing deviceId now (k :: found) closed =>
    s.closeOwn id act deviceId now k found closed
  | .record, .revoke _ _, .closing deviceId now [] closed => some (s.record id deviceId now closed)
  | .checkHeld, .revoke _ _, .recorded deviceId now => some (s.checkHeld id deviceId now)
  | .revokeDevice, .revoke _ act, .revoking deviceId now => s.revokeDevice id deviceId act now
  | .commit, _, .done => some (s.commit id)
  | .abort, _, stage => if Running stage then some (s.fail id) else none
  | _, _, _ => none

def step (s : Devices) : DeviceAction → Option Devices
  | .attempt id step => s.attemptStep operation id step
  | .endSession authSessionId => some { s with ended := authSessionId :: s.ended }

end Devices

end Arthome.Identity
