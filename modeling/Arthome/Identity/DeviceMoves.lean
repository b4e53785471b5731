import Arthome.Identity.Devices

/-!
# What a statement on the devices does

Every statement of a transaction either moves it on, writes one device's row or one
binding's, or ends it. What it found is kept with what it wrote.
-/

namespace Arthome.Identity

open Arthome.Core Arthome.Library

/-- The transaction has ended. -/
def DeviceStage.ended : DeviceStage → Bool
  | .committed | .failed => true
  | _ => false

namespace Devices

theorem say_nil (s : Devices) (id : ℕ) : s.say id [] = s := by
  unfold say
  rw [List.append_nil, Function.update_eq_self]

variable [DeviceRules]

/-- A statement that writes no row. -/
inductive Entering (operation : DeviceOperation) (s : Devices) (id : ℕ) : DeviceStage → Prop
  | profiled (authSessionId : String) (p : Uuid) : s.stage id = .start →
      operation.opened = some authSessionId →
      DeviceRules.accountOfProfile p = DeviceRules.accountOfSession authSessionId →
      Entering operation s id (.profiled p)
  | unregistered (p : Uuid) : s.stage id = .profiled p → Entering operation s id (.registering p)
  | checked (authSessionId : String) (stored : StoredSession) (presented : PresentedDevice)
      (p : Uuid) : operation = .reissue authSessionId stored presented →
      s.stage id = .profiled p → Entering operation s id (.pairing stored.deviceId p 1)
  | pairFound (d p : Uuid) (n : ℕ) (now : Instant) (found : List Uuid) :
      s.stage id = .pairing d p n → Entering operation s id (.replacing d p n now found)
  | skipped (d p : Uuid) (n : ℕ) (now : Instant) (k : Uuid) (found : List Uuid) :
      s.stage id = .replacing d p n now (k :: found) →
      Entering operation s id (.replacing d p n now found)
  | retried (d p : Uuid) (n : ℕ) (now : Instant) : s.stage id = .replacing d p n now [] →
      Entering operation s id (.pairing d p (n + 1))
  | nothingOpen (authSessionId : String) (surface : WireSurface) (traceparent : Option String) :
      operation = .signOut authSessionId surface traceparent → s.stage id = .start →
      Entering operation s id .done
  | ownFound (d : Uuid) (now : Instant) (found : List Uuid) : s.stage id = .lockedDevice d →
      Entering operation s id (.closing d now found [])
  | ownSkipped (d : Uuid) (now : Instant) (k : Uuid) (found : List Uuid)
      (closed : List ClosedBinding) : s.stage id = .closing d now (k :: found) closed →
      Entering operation s id (.closing d now found closed)
  | recorded (d : Uuid) (now : Instant) (closed : List ClosedBinding) :
      s.stage id = .closing d now [] closed → Entering operation s id (.recorded d now)
  | stillHeld (d : Uuid) (now : Instant) : s.stage id = .recorded d now →
      Entering operation s id .done
  | unheld (d : Uuid) (now : Instant) : s.stage id = .recorded d now → ¬ s.StillHeld id d →
      Entering operation s id (.revoking d now)

/-- A device's row written: the row, what is said of it, where the transaction then stands, the
ids and the digests that are new. -/
inductive DeviceWrite (operation : DeviceOperation) (s : Devices) (id : ℕ) : Uuid → Device →
    List DeviceRecord → DeviceStage → List Uuid → List String → Prop
  | kept (d p : Uuid) (device device' : Device) (authSessionId : String)
      (presented : PresentedDevice) : operation = .signIn authSessionId presented →
      s.stage id = .profiled p → s.devices.view id d = some device → device.revokedAt = none →
      device'.revokedAt = none → device'.tokenHash ∉ s.hashes → ¬ s.Referenced id d →
      DeviceWrite operation s id d device' [.kept id d device.tokenHash] (.pairing d p 1) []
        [device'.tokenHash]
  | registered (d p : Uuid) (device : Device) : s.stage id = .registering p →
      s.devices.view id d = none → device.revokedAt = none → device.tokenHash ∉ s.hashes →
      DeviceWrite operation s id d device [.registered id d] (.pairing d p 1) [d]
        [device.tokenHash]
  | locked (d : Uuid) (act : DeviceAct) (device : Device) : operation = .revoke d act →
      s.stage id = .start → s.devices.view id d = some device → device.revokedAt = none →
      ¬ s.Referenced id d →
      DeviceWrite operation s id d device [] (.lockedDevice d) [] []
  | revoked (d d' : Uuid) (act : DeviceAct) (device : Device) (now : Instant) :
      operation = .revoke d' act → s.stage id = .revoking d now →
      s.devices.view id d = some device →
      DeviceWrite operation s id d { device with revokedAt := some now }
        [.revoked id ⟨d, act.accountId, device.kind, act, now⟩] .done [] []

/-- A binding's row written. -/
inductive BindingWrite (operation : DeviceOperation) (s : Devices) (id : ℕ) (step : DeviceStep) :
    Uuid → DeviceSession → List DeviceRecord → DeviceStage → List Uuid → Prop
  | replaced (d p : Uuid) (n : ℕ) (now : Instant) (k : Uuid) (found : List Uuid)
      (authSessionId : String) (b : DeviceSession) : operation.opened = some authSessionId →
      s.stage id = .replacing d p n now (k :: found) → s.bindings.view id k = some b →
      openOn d p (some b) = true →
      BindingWrite operation s id step k { b with closedAt := some now }
        [.replaced id k (DeviceRules.accountOfSession authSessionId)]
        (.replacing d p n now found) []
  | inserted (d p : Uuid) (n : ℕ) (now : Instant) (k : Uuid) (authSessionId : String) :
      step = .insertBinding k → operation.opened = some authSessionId →
      s.stage id = .replacing d p n now [] →
      ¬ s.PairAwaited id d p → ¬ s.PairTaken id d p → s.devices.Free id d →
      s.devices.view id d ≠ none → s.bindings.view id k = none → ¬ s.SessionTaken authSessionId →
      BindingWrite operation s id step k
        ⟨d, DeviceRules.accountOfSession authSessionId, p, authSessionId, now, none⟩
        [.bound id k d authSessionId] .done [k]
  | signedOut (k : Uuid) (now : Instant) (authSessionId : String) (surface : WireSurface)
      (traceparent : Option String) (b : DeviceSession) :
      operation = .signOut authSessionId surface traceparent → s.stage id = .start →
      s.bindings.view id k = some b → openFor authSessionId (some b) = true →
      BindingWrite operation s id step k { b with closedAt := some now }
        [.closed id ⟨closedBindingOf k b, ⟨DeviceRules.accountOfSession authSessionId,
          some b.deviceId, surface, traceparent⟩, now⟩] .done []
  | lockedClosed (k : Uuid) (act : DeviceAct) (b : DeviceSession) :
      operation = .closeSession k act → s.stage id = .start → s.bindings.view id k = some b →
      BindingWrite operation s id step k b [] .done []
  | lockedOpen (k : Uuid) (act : DeviceAct) (b : DeviceSession) :
      operation = .closeSession k act → s.stage id = .start → s.bindings.view id k = some b →
      b.accountId = act.accountId → b.closedAt = none →
      BindingWrite operation s id step k b [] (.lockedBinding k) []
  | closed (k k' : Uuid) (now : Instant) (act : DeviceAct) (b : DeviceSession) :
      operation = .closeSession k' act → s.stage id = .lockedBinding k →
      s.bindings.view id k = some b →
      BindingWrite operation s id step k { b with closedAt := some now }
        [.closed id ⟨closedBindingOf k b, act, now⟩] .done []
  | ownClosed (d d' : Uuid) (now : Instant) (k : Uuid) (found : List Uuid)
      (closed : List ClosedBinding) (act : DeviceAct) (b : DeviceSession) :
      operation = .revoke d' act → s.stage id = .closing d now (k :: found) closed →
      s.bindings.view id k = some b → openOf d act.accountId (some b) = true →
      BindingWrite operation s id step k { b with closedAt := some now }
        [.closed id ⟨closedBindingOf k b, act, now⟩]
        (.closing d now found (closed ++ [closedBindingOf k b])) []

def writeDevice (s : Devices) (id : ℕ) (d : Uuid) (device : Device)
    (records : List DeviceRecord) (stage : DeviceStage) (ids : List Uuid)
    (hashes : List String) : Devices :=
  { ((s.putDevice id d device).say id records).enter id stage with
    deviceIds := ids ++ s.deviceIds
    hashes := hashes ++ s.hashes }

def writeBinding (s : Devices) (id : ℕ) (k : Uuid) (b : DeviceSession)
    (records : List DeviceRecord) (stage : DeviceStage) (ids : List Uuid) : Devices :=
  { ((s.putBinding id k b).say id records).enter id stage with bindingIds := ids ++ s.bindingIds }

inductive DeviceMove (operation : DeviceOperation) (s : Devices) (id : ℕ) (step : DeviceStep) :
    Devices → Prop
  | entered (stage : DeviceStage) : Entering operation s id stage →
      DeviceMove operation s id step (s.enter id stage)
  | deviceWritten (d : Uuid) (device : Device) (records : List DeviceRecord) (stage : DeviceStage)
      (ids : List Uuid) (hashes : List String) :
      DeviceWrite operation s id d device records stage ids hashes → s.devices.Free id d →
      DeviceMove operation s id step (s.writeDevice id d device records stage ids hashes)
  | bindingWritten (k : Uuid) (b : DeviceSession) (records : List DeviceRecord)
      (stage : DeviceStage) (ids : List Uuid) :
      BindingWrite operation s id step k b records stage ids → s.bindings.Free id k →
      DeviceMove operation s id step (s.writeBinding id k b records stage ids)
  | committed : s.stage id = .done → DeviceMove operation s id step (s.commit id)
  | failed : (s.stage id).ended = false → DeviceMove operation s id step (s.fail id)

variable {s s' : Devices} {id : ℕ} {operation : DeviceOperation} {step : DeviceStep}

theorem failed_of_stage {stage : DeviceStage} (hstage : s.stage id = stage)
    (hended : stage.ended = false) : DeviceMove operation s id step (s.fail id) :=
  .failed (hstage ▸ hended)

theorem profile_move {authSessionId : String} {p : Uuid} (hstage : s.stage id = .start)
    (hopened : operation.opened = some authSessionId)
    (h : s.profile id authSessionId p = some s') : DeviceMove operation s id step s' := by
  unfold profile at h
  split_ifs at h with haccount
  cases h
  exact .entered _ (.profiled authSessionId p hstage hopened haccount)

theorem rotate_move {authSessionId : String} {p : Uuid} {presented : PresentedDevice}
    {now : Instant} {token : String} (hop : operation = .signIn authSessionId presented)
    (hstage : s.stage id = .profiled p) (hfresh : DeviceRules.digestOf token ∉ s.hashes)
    (h : s.rotate id p presented now token = some s') :
    DeviceMove operation s id step s' := by
  unfold rotate at h
  split at h
  · cases h
    exact .entered _ (.unregistered p hstage)
  · rename_i old hpresented
    split at h
    · cases h
      exact .entered _ (.unregistered p hstage)
    · rename_i d hfound
      split at h
      · cases h
      · rename_i device hview
        split_ifs at h with hlockable
        cases h
        have hmatch := List.find?_some hfound
        simp only [hview, rotatable, decide_eq_true_eq] at hmatch
        obtain ⟨hhash, hrevoked, -⟩ := hmatch
        rw [← hhash]
        exact .deviceWritten d _ _ _ [] [DeviceRules.digestOf token]
          (.kept d p device _ authSessionId presented hop hstage hview hrevoked hrevoked
            hfresh hlockable.2) hlockable.1

theorem register_move {p : Uuid} {presented : PresentedDevice} {d : Uuid} {now : Instant}
    {token : String} (hstage : s.stage id = .registering p)
    (hfresh : DeviceRules.digestOf token ∉ s.hashes)
    (h : s.register id p presented d now token = some s') : DeviceMove operation s id step s' := by
  unfold register at h
  split_ifs at h with hfree
  cases h
  exact .deviceWritten d _ _ _ [d] [DeviceRules.digestOf token]
    (.registered d p _ hstage hfree.2 rfl hfresh) hfree.1

theorem checkDevice_move {authSessionId : String} {stored : StoredSession}
    {presented : PresentedDevice} {p : Uuid}
    (hop : operation = .reissue authSessionId stored presented)
    (hstage : s.stage id = .profiled p) :
    DeviceMove operation s id step (s.checkDevice id p stored) := by
  unfold checkDevice
  split
  · split_ifs
    · exact .entered _ (.checked authSessionId stored presented p hop hstage)
    · exact .entered _ (.unregistered p hstage)
  · exact .entered _ (.unregistered p hstage)

theorem replace_move {authSessionId : String} {d p : Uuid} {n : ℕ} {now : Instant} {k : Uuid}
    {found : List Uuid} (hopened : operation.opened = some authSessionId)
    (hstage : s.stage id = .replacing d p n now (k :: found))
    (h : s.replace id authSessionId d p n now k found = some s') :
    DeviceMove operation s id step s' := by
  simp only [replace] at h
  split_ifs at h with hfree
  split at h
  · rename_i b hview
    split_ifs at h with hopen
    · cases h
      exact .bindingWritten k _ _ _ []
        (.replaced d p n now k found authSessionId b hopened hstage hview hopen) hfree
    · cases h
      exact .entered _ (.skipped d p n now k found hstage)
  · cases h
    exact .entered _ (.skipped d p n now k found hstage)

theorem insertBinding_move {authSessionId : String} {d p : Uuid} {n : ℕ} {now : Instant}
    {k : Uuid} (hstep : step = .insertBinding k) (hopened : operation.opened = some authSessionId)
    (hstage : s.stage id = .replacing d p n now [])
    (h : s.insertBinding id authSessionId d p n now k = some s') :
    DeviceMove operation s id step s' := by
  unfold insertBinding at h
  split_ifs at h with hawaited htaken hattempts hfree
  · cases h
    exact .entered _ (.retried d p n now hstage)
  · cases h
    exact failed_of_stage hstage rfl
  · obtain ⟨hdevice, hthere, hfree, hview, hsession⟩ := hfree
    cases h
    exact .bindingWritten k _ _ _ [k]
      (.inserted d p n now k authSessionId hstep hopened hstage hawaited htaken hdevice hthere hview
        hsession) hfree

theorem signOut_move {authSessionId : String} {surface : WireSurface}
    {traceparent : Option String} {now : Instant}
    (hop : operation = .signOut authSessionId surface traceparent) (hstage : s.stage id = .start)
    (h : s.signOut id authSessionId surface traceparent now = some s') :
    DeviceMove operation s id step s' := by
  unfold signOut at h
  split at h
  · cases h
    exact .entered _ (.nothingOpen authSessionId surface traceparent hop hstage)
  · rename_i k hfound
    split at h
    · cases h
    · rename_i b hview
      split_ifs at h with hfree
      cases h
      have hopen := List.find?_some hfound
      rw [hview] at hopen
      exact .bindingWritten k _ _ _ []
        (.signedOut k now authSessionId surface traceparent b hop hstage hview hopen) hfree

theorem lockBinding_move {k : Uuid} {act : DeviceAct} (hop : operation = .closeSession k act)
    (hstage : s.stage id = .start) (h : s.lockBinding id k act = some s') :
    DeviceMove operation s id step s' := by
  unfold lockBinding at h
  split at h
  · cases h
    exact failed_of_stage hstage rfl
  · rename_i b hview
    split_ifs at h with hfree haccount hclosed
    · cases h
      exact failed_of_stage hstage rfl
    · cases h
      rw [← say_nil (s.putBinding id k b) id]
      exact .bindingWritten k b [] .done [] (.lockedClosed k act b hop hstage hview) hfree
    · cases h
      rw [← say_nil (s.putBinding id k b) id]
      exact .bindingWritten k b [] (.lockedBinding k) []
        (.lockedOpen k act b hop hstage hview (not_not.mp haccount) (not_not.mp hclosed)) hfree

theorem closeBinding_move {k k' : Uuid} {act : DeviceAct} {now : Instant}
    (hop : operation = .closeSession k' act) (hstage : s.stage id = .lockedBinding k)
    (h : s.closeBinding id k act now = some s') : DeviceMove operation s id step s' := by
  unfold closeBinding at h
  split at h
  · cases h
  · rename_i b hview
    split_ifs at h with hfree
    cases h
    exact .bindingWritten k _ _ _ [] (.closed k k' now act b hop hstage hview) hfree

theorem lockDevice_move {d : Uuid} {act : DeviceAct} (hop : operation = .revoke d act)
    (hstage : s.stage id = .start) (h : s.lockDevice id d = some s') :
    DeviceMove operation s id step s' := by
  unfold lockDevice at h
  split at h
  · cases h
    exact failed_of_stage hstage rfl
  · rename_i device hview
    split_ifs at h with hlockable hrevoked
    · cases h
      exact failed_of_stage hstage rfl
    · cases h
      rw [← say_nil (s.putDevice id d device) id]
      exact .deviceWritten d device [] (.lockedDevice d) [] []
        (.locked d act device hop hstage hview (not_not.mp hrevoked) hlockable.2) hlockable.1

theorem closeOwn_move {d d' : Uuid} {act : DeviceAct} {now : Instant} {k : Uuid}
    {found : List Uuid} {closed : List ClosedBinding} (hop : operation = .revoke d' act)
    (hstage : s.stage id = .closing d now (k :: found) closed)
    (h : s.closeOwn id act d now k found closed = some s') : DeviceMove operation s id step s' := by
  unfold closeOwn at h
  split_ifs at h with hfree
  split at h
  · rename_i b hview
    split_ifs at h with hopen
    · cases h
      exact .bindingWritten k _ _ _ []
        (.ownClosed d d' now k found closed act b hop hstage hview hopen) hfree
    · cases h
      exact .entered _ (.ownSkipped d now k found closed hstage)
  · cases h
    exact .entered _ (.ownSkipped d now k found closed hstage)

theorem record_move {d : Uuid} {now : Instant} {closed : List ClosedBinding}
    (hstage : s.stage id = .closing d now [] closed) :
    DeviceMove operation s id step (s.record id d now closed) := by
  unfold record
  split_ifs
  · exact failed_of_stage hstage rfl
  · exact .entered _ (.recorded d now closed hstage)

theorem checkHeld_move {d : Uuid} {now : Instant} (hstage : s.stage id = .recorded d now) :
    DeviceMove operation s id step (s.checkHeld id d now) := by
  unfold checkHeld
  split_ifs with hheld
  · exact .entered _ (.stillHeld d now hstage)
  · exact .entered _ (.unheld d now hstage hheld)

theorem revokeDevice_move {d d' : Uuid} {act : DeviceAct} {now : Instant}
    (hop : operation = .revoke d' act) (hstage : s.stage id = .revoking d now)
    (h : s.revokeDevice id d act now = some s') : DeviceMove operation s id step s' := by
  unfold revokeDevice at h
  split at h
  · cases h
  · rename_i device hview
    split_ifs at h with hfree
    cases h
    exact .deviceWritten d _ _ _ [] [] (.revoked d d' act device now hop hstage hview) hfree

/-- A token drawn at random has never been drawn: its digest is new. -/
def Fresh (s : Devices) : DeviceStep → Prop
  | .rotate _ token => DeviceRules.digestOf token ∉ s.hashes
  | .register _ _ token => DeviceRules.digestOf token ∉ s.hashes
  | _ => True

instance (s : Devices) : ∀ step, Decidable (s.Fresh step)
  | .rotate _ token => inferInstanceAs (Decidable (DeviceRules.digestOf token ∉ s.hashes))
  | .register _ _ token => inferInstanceAs (Decidable (DeviceRules.digestOf token ∉ s.hashes))
  | .profile _ | .checkDevice | .findPair _ | .replace | .insertBinding _ | .signOut _
  | .lockBinding | .closeBinding _ | .lockDevice | .findOwn _ | .closeOwn | .record | .checkHeld
  | .revokeDevice | .commit | .abort => inferInstanceAs (Decidable True)

theorem attemptStep_move {operation : ℕ → DeviceOperation}
    (hfresh : s.Fresh step) (h : s.attemptStep operation id step = some s') :
    DeviceMove (operation id) s id step s' := by
  unfold attemptStep at h
  split at h
  · rename_i hop hstage
    exact profile_move hstage (by rw [hop]; rfl) h
  · rename_i hop hstage
    exact profile_move hstage (by rw [hop]; rfl) h
  · exact rotate_move ‹_› ‹_› hfresh h
  · rename_i hop hstage
    cases h
    exact checkDevice_move hop hstage
  · exact register_move ‹_› hfresh h
  · exact register_move ‹_› hfresh h
  · cases h
    exact .entered _ (.pairFound _ _ _ _ _ ‹_›)
  · obtain ⟨authSessionId, hopened, hstep⟩ := Option.bind_eq_some_iff.mp h
    exact replace_move hopened ‹_› hstep
  · obtain ⟨authSessionId, hopened, hstep⟩ := Option.bind_eq_some_iff.mp h
    exact insertBinding_move rfl hopened ‹_› hstep
  · exact signOut_move ‹_› ‹_› h
  · exact lockBinding_move ‹_› ‹_› h
  · exact closeBinding_move ‹_› ‹_› h
  · exact lockDevice_move ‹_› ‹_› h
  · cases h
    exact .entered _ (.ownFound _ _ _ ‹_›)
  · exact closeOwn_move ‹_› ‹_› h
  · cases h
    exact record_move ‹_›
  · cases h
    exact checkHeld_move ‹_›
  · exact revokeDevice_move ‹_› ‹_› h
  · cases h
    exact .committed ‹_›
  · split_ifs at h with hrunning
    cases h
    apply DeviceMove.failed
    cases hstage : s.stage id with
    | committed =>
        rw [hstage] at hrunning
        cases hrunning
    | failed =>
        rw [hstage] at hrunning
        cases hrunning
    | _ => rfl
  · cases h

end Devices

end Arthome.Identity
