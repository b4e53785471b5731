import Arthome.Identity.DeviceMoves

/-!
# What is known of the devices and their bindings

A binding was bound once and ended once at most, by its own account. A device is revoked
once at most, and what was said of its token stays true. These are facts of a row and of
what was said of it; the rest is known of where each transaction stands.
-/

namespace Arthome.Identity

open Arthome.Core Arthome.Library

namespace DeviceRecord

/-- The record is of the binding. -/
def aboutBinding (k : Uuid) : DeviceRecord → Bool
  | .bound _ k' _ _ => k' = k
  | .replaced _ k' _ => k' = k
  | .closed _ event => event.closed.deviceSessionId = k
  | _ => false

/-- The record is of the device itself. -/
def aboutDevice (d : Uuid) : DeviceRecord → Bool
  | .registered _ d' => d' = d
  | .kept _ d' _ => d' = d
  | .revoked _ event => event.deviceId = d
  | _ => false

def isRevoked : DeviceRecord → Bool
  | .revoked _ _ => true
  | _ => false

/-- The device was revoked. -/
def revokes (d : Uuid) : DeviceRecord → Bool
  | .revoked _ event => event.deviceId = d
  | _ => false

/-- A presented token of this digest kept its device. -/
def keeps (tokenHash : String) : DeviceRecord → Bool
  | .kept _ _ h => h = tokenHash
  | _ => false

def isKept : DeviceRecord → Bool
  | .kept _ _ _ => true
  | _ => false

/-- The binding was ended. -/
def endsBinding (k : Uuid) : DeviceRecord → Bool
  | .replaced _ k' _ => k' = k
  | .closed _ event => event.closed.deviceSessionId = k
  | _ => false

/-- One of these attempts bound a session to the device. -/
def bindsOn (attempts : ℕ → Bool) (d : Uuid) : DeviceRecord → Bool
  | .bound id _ d' _ => attempts id && (d' = d)
  | _ => false

/-- The binding was ended, by its own account. -/
def Ends (k : Uuid) (b : DeviceSession) : DeviceRecord → Prop
  | .replaced _ k' accountId => k' = k ∧ accountId = b.accountId
  | .closed _ event => event.closed = closedBindingOf k b ∧ event.act.accountId = b.accountId
  | _ => False

end DeviceRecord

open DeviceRecord

/-- A binding was bound, and its end is the last that is said of it. -/
def BindingFacts (k : Uuid) (row : Option DeviceSession) (acts : List DeviceRecord) : Prop :=
  match row with
  | none => acts = []
  | some b =>
    ∃ attempt, (b.closedAt = none ∧ acts = [.bound attempt k b.deviceId b.authSessionId]) ∨
      (b.closedAt ≠ none ∧
        ∃ act, acts = [.bound attempt k b.deviceId b.authSessionId, act] ∧ Ends k b act)

/-- A device is revoked by one record. -/
def DeviceFacts (row : Option Device) (acts : List DeviceRecord) : Prop :=
  match row with
  | none => acts = []
  | some device => acts ≠ [] ∧
    (device.revokedAt = none → ∀ act ∈ acts, act.isRevoked = false) ∧
      (device.revokedAt ≠ none → (acts.filter isRevoked).length = 1)

section Facts

variable {k d : Uuid} {b : DeviceSession} {device : Device} {acts : List DeviceRecord}

theorem BindingFacts.bound (h : BindingFacts k none acts) (attempt : ℕ) (hopen : b.closedAt = none) :
    BindingFacts k (some b) (acts ++ [.bound attempt k b.deviceId b.authSessionId]) := by
  have hnil : acts = [] := h
  rw [hnil]
  exact ⟨attempt, .inl ⟨hopen, rfl⟩⟩

theorem BindingFacts.closed (h : BindingFacts k (some b) acts) (hopen : b.closedAt = none)
    {act : DeviceRecord} (hends : Ends k b act) (now : Instant) :
    BindingFacts k (some { b with closedAt := some now }) (acts ++ [act]) := by
  obtain ⟨attempt, hacts | ⟨hclosed, -⟩⟩ := h
  · rw [hacts.2]
    exact ⟨attempt, .inr ⟨by simp, act, rfl, hends⟩⟩
  · exact absurd hopen hclosed

theorem DeviceFacts.unrevoked (h : DeviceFacts (some device) acts)
    (hopen : device.revokedAt = none) : ∀ act ∈ acts, act.isRevoked = false := h.2.1 hopen

theorem DeviceFacts.said (h : ∀ act ∈ acts, act.isRevoked = false) (hopen : device.revokedAt = none)
    {act : DeviceRecord} (hact : act.isRevoked = false) :
    DeviceFacts (some device) (acts ++ [act]) := by
  refine ⟨by simp, fun _ other hother => ?_, fun hrevoked => absurd hopen hrevoked⟩
  rcases List.mem_append.mp hother with hother | hother
  · exact h other hother
  · rw [List.mem_singleton.mp hother]
    exact hact

theorem DeviceFacts.revoked (h : ∀ act ∈ acts, act.isRevoked = false)
    (hclosed : device.revokedAt ≠ none) {act : DeviceRecord} (hact : act.isRevoked = true) :
    DeviceFacts (some device) (acts ++ [act]) := by
  refine ⟨by simp, fun hopen => absurd hopen hclosed, fun _ => ?_⟩
  have hnone : acts.filter isRevoked = [] := by
    rw [List.filter_eq_nil_iff]
    intro other hother
    rw [h other hother]
    exact Bool.false_ne_true
  rw [List.filter_append, hnone]
  simp [hact]

end Facts

namespace Devices

variable [DeviceRules] (operation : ℕ → DeviceOperation) (safe : ℕ → Bool)

/-- The profile is one of the account whose session the operation opened. -/
def ProfileOf (id : ℕ) (p : Uuid) : Prop :=
  ∃ authSessionId, (operation id).opened = some authSessionId ∧
    DeviceRules.accountOfProfile p = DeviceRules.accountOfSession authSessionId

omit [DeviceRules] in
/-- The transaction owns the device's row, and the device is not revoked. -/
def OwnsDevice (s : Devices) (id : ℕ) (d : Uuid) : Prop :=
  s.devices.owner d = some id ∧
    ∃ device, s.devices.view id d = some device ∧ device.revokedAt = none

/-- No binding another account has on the device resolves. -/
def Quiet (s : Devices) (d accountId : Uuid) : Prop :=
  ∀ k b, s.bindings.committed k = some b → b.accountId ≠ accountId → ¬ s.Holds d (some b)

omit [DeviceRules] in
/-- The session was opened by a sign-in or a sign-up. -/
def DeviceOperation.isSignIn : DeviceOperation → Bool
  | .signIn _ _ => true
  | _ => false

/-- What a transaction has established where it stands. -/
def StageFacts (s : Devices) (id : ℕ) : DeviceStage → Prop
  | .profiled p | .registering p => ProfileOf operation id p
  | .pairing d p _ | .replacing d p _ _ _ => ProfileOf operation id p ∧
      (DeviceOperation.isSignIn (operation id) = true → s.OwnsDevice id d)
  | .lockedBinding k => s.bindings.owner k = some id ∧
      ∃ b, s.bindings.view id k = some b ∧ b.closedAt = none ∧
        ∀ k' act, operation id = .closeSession k' act → b.accountId = act.accountId
  | .lockedDevice d | .closing d _ _ _ | .recorded d _ => s.OwnsDevice id d
  | .revoking d _ => s.OwnsDevice id d ∧
      ∀ d' act, operation id = .revoke d' act → s.Quiet d act.accountId
  | .start | .done | .committed | .failed => True

omit [DeviceRules] in
/-- A transaction that has written nothing yet, or has ended. -/
def Idle : DeviceStage → Bool
  | .start | .profiled _ | .registering _ | .committed | .failed => true
  | _ => false

structure DeviceInv (s : Devices) : Prop where
  bindings : Journalled BindingFacts aboutBinding s.bindings s.pending s.history
  devices : Journalled (fun _ => DeviceFacts) aboutDevice s.devices s.pending s.history
  idle : ∀ id, Idle (s.stage id) = true → s.pending id = [] ∧
    (∀ d, s.devices.owner d ≠ some id) ∧ ∀ k, s.bindings.owner k ≠ some id
  stable : ∀ k id row, s.bindings.held k = some (id, row) → ∃ b', row = some b' ∧
    ∀ b, s.bindings.committed k = some b →
      b' = b ∨ b.closedAt = none ∧ ∃ t, b' = { b with closedAt := some t }
  belongs : ∀ k b, s.bindings.Stands k (some b) →
    DeviceRules.accountOfProfile b.profileId = b.accountId ∧
      DeviceRules.accountOfSession b.authSessionId = b.accountId
  known : ∀ k b, s.bindings.Stands k (some b) → k ∈ s.bindingIds
  onePair : ∀ d p k k' row row', s.bindings.Stands k row → s.bindings.Stands k' row' →
    openOn d p row = true → openOn d p row' = true → k ≠ k' →
    ∃ id, s.bindings.owner k = some id ∧ s.bindings.owner k' = some id ∧
      ¬ (openOn d p (s.bindings.view id k) = true ∧ openOn d p (s.bindings.view id k') = true) ∧
      ¬ (openOn d p (s.bindings.committed k) = true ∧
        openOn d p (s.bindings.committed k') = true)
  oneSession : ∀ k k' b b', s.bindings.Stands k (some b) → s.bindings.Stands k' (some b') →
    b.authSessionId = b'.authSessionId → k = k'
  inserted : ∀ k id b, s.bindings.held k = some (id, some b) → s.bindings.committed k = none →
    s.stage id = .done ∧ b.closedAt = none ∧ s.devices.Free id b.deviceId ∧
      s.devices.view id b.deviceId ≠ none ∧
      (safe id = true → ∃ device, s.devices.view id b.deviceId = some device ∧
        device.revokedAt = none)
  staged : ∀ id, s.StageFacts operation id (s.stage id)
  revokeRows : ∀ id d act, operation id = .revoke d act → ∀ k, s.bindings.owner k = some id →
    ∃ b, s.bindings.view id k = some b ∧ b.accountId = act.accountId
  revoking : ∀ id j event, .revoked j event ∈ s.pending id → s.stage id = .done ∧
    (∃ d, operation id = .revoke d event.act) ∧ event.accountId = event.act.accountId ∧
      s.devices.owner event.deviceId = some id ∧ s.Quiet event.deviceId event.act.accountId
  deviceRows : ∀ d id row, s.devices.held d = some (id, row) → row ≠ none
  hashes : ∀ d device, s.devices.Stands d (some device) → device.tokenHash ∈ s.hashes
  oneHash : ∀ d d' device device', s.devices.Stands d (some device) →
    s.devices.Stands d' (some device') → device.tokenHash = device'.tokenHash → d = d'
  keeping : ∀ id j d h, .kept j d h ∈ s.pending id → s.devices.owner d = some id ∧
    (∃ device, s.devices.committed d = some device ∧ device.tokenHash = h) ∧
    ∃ device, s.devices.view id d = some device ∧ device.tokenHash ≠ h
  keptHashes : ∀ j d h, .kept j d h ∈ s.history → h ∈ s.hashes ∧
    ∀ d' device, s.devices.Stands d' (some device) → device.tokenHash ≠ h
  keptOnce : (∀ id, ((s.pending id).filter isKept).length ≤ 1) ∧
    ∀ h, (s.history.filter (keeps h)).length ≤ 1
  binders : (∀ id j k d x, .bound j k d x ∈ s.pending id →
      j = id ∧ (operation id).opened = some x) ∧
    ∀ j k d x, .bound j k d x ∈ s.history → s.stage j = .committed ∧
      (operation j).opened = some x
  order : s.history.Pairwise fun act act' =>
    ∀ d, act.revokes d = true → act'.bindsOn safe d = false

end Devices

end Arthome.Identity
