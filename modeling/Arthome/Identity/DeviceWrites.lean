import Arthome.Identity.DeviceFacts

/-!
# The devices over every run

Each statement keeps what is known: a write of a row is checked against what is said of
the row, the pair, the session and the digest, and leaves what the other transactions own
and have established. A transaction that inserted a binding holds its device against
every revocation, and a revocation that holds its device against every insertion; so
neither commits over the other.
-/

namespace Arthome.Identity

open Arthome.Core Arthome.Library

open DeviceRecord

section Ends

variable {k j d : Uuid} {b : DeviceSession} {act : DeviceRecord}

theorem ends_aboutBinding (h : Ends k b act) : act.aboutBinding j = decide (k = j) := by
  cases act with
  | replaced attempt k' accountId =>
      rw [← h.1]
      rfl
  | closed attempt event =>
      show decide (event.closed.deviceSessionId = j) = _
      rw [h.1]
      rfl
  | _ => exact h.elim

theorem ends_aboutDevice (h : Ends k b act) : act.aboutDevice d = false := by
  cases act with
  | replaced attempt k' accountId => rfl
  | closed attempt event => rfl
  | _ => exact h.elim

theorem ends_isKept (h : Ends k b act) : act.isKept = false := by
  cases act with
  | replaced attempt k' accountId => rfl
  | closed attempt event => rfl
  | _ => exact h.elim

end Ends

namespace Devices

variable [DeviceRules] {operation : ℕ → DeviceOperation} {safe : ℕ → Bool} {s s' : Devices}
  {id : ℕ} {step : DeviceStep}

theorem Entering.not_done {op : DeviceOperation} {stage : DeviceStage}
    (h : Entering op s id stage) : s.stage id ≠ .done := by
  intro hdone
  cases h <;> simp_all

omit [DeviceRules] in
theorem DeviceWrite.not_done {op : DeviceOperation} {d : Uuid} {device : Device}
    {records : List DeviceRecord} {stage : DeviceStage} {ids : List Uuid} {hashes : List String}
    (h : DeviceWrite op s id d device records stage ids hashes) : s.stage id ≠ .done := by
  intro hdone
  cases h <;> simp_all

theorem BindingWrite.not_done {op : DeviceOperation} {k : Uuid} {b : DeviceSession}
    {records : List DeviceRecord} {stage : DeviceStage} {ids : List Uuid}
    (h : BindingWrite op s id step k b records stage ids) : s.stage id ≠ .done := by
  intro hdone
  cases h <;> simp_all

/-- The binding inserted, after everything the insertion checks. -/
structure Inserting (op : DeviceOperation) (s : Devices) (id : ℕ) (step : DeviceStep) (k : Uuid)
    (b : DeviceSession) (records : List DeviceRecord) (stage : DeviceStage) (ids : List Uuid) :
    Prop where
  step : step = .insertBinding k
  opened : op.opened = some b.authSessionId
  account : b.accountId = DeviceRules.accountOfSession b.authSessionId
  staged : ∃ n now, s.stage id = .replacing b.deviceId b.profileId n now []
  settled : ¬ s.PairAwaited id b.deviceId b.profileId
  free : ¬ s.PairTaken id b.deviceId b.profileId
  deviceFree : s.devices.Free id b.deviceId
  deviceThere : s.devices.view id b.deviceId ≠ none
  unknown : s.bindings.view id k = none
  fresh : ¬ s.SessionTaken b.authSessionId
  isOpen : b.closedAt = none
  records : records = [.bound id k b.deviceId b.authSessionId]
  stage : stage = .done
  ids : ids = [k]

/-- An existing binding locked as it is, or closed with a record of its end. -/
structure Rewriting (s : Devices) (id : ℕ) (k : Uuid) (b b₀ : DeviceSession)
    (records : List DeviceRecord) : Prop where
  view : s.bindings.view id k = some b₀
  row : b = b₀ ∧ records = [] ∨ b₀.closedAt = none ∧
    (∃ t, b = { b₀ with closedAt := some t }) ∧ ∃ act, records = [act] ∧ Ends k b₀ act

/-- A statement inserts a binding, or rewrites one it sees. -/
theorem DeviceInv.bindingWrite (h : DeviceInv operation safe s) {k : Uuid} {b : DeviceSession}
    {records : List DeviceRecord} {stage : DeviceStage} {ids : List Uuid}
    (hwrite : BindingWrite (operation id) s id step k b records stage ids) :
    Inserting (operation id) s id step k b records stage ids ∨
      ids = [] ∧ ∃ b₀, Rewriting s id k b b₀ records := by
  cases hwrite with
  | replaced d p n now k found x b₀ hopened hstage hview hopen =>
      have hstaged := h.staged id
      rw [hstage] at hstaged
      obtain ⟨⟨y, hy, hprofile⟩, -⟩ := hstaged
      rw [hopened] at hy
      cases hy
      simp only [openOn, decide_eq_true_eq] at hopen
      obtain ⟨hdevice, hp, hopen⟩ := hopen
      have hbelongs := (h.belongs k b₀ (hview ▸ Rows.stands_view)).1
      rw [hp, hprofile] at hbelongs
      exact .inr ⟨rfl, b₀, hview, .inr ⟨hopen, ⟨now, rfl⟩, _, rfl, rfl, hbelongs⟩⟩
  | inserted d p n now k x hstep hopened hstage hawaited htaken hfree hthere hview hsession =>
      exact .inl ⟨hstep, hopened, rfl, ⟨n, now, hstage⟩, hawaited, htaken, hfree, hthere, hview,
        hsession, rfl, rfl, rfl, rfl⟩
  | signedOut k now x surface traceparent b₀ hop hstage hview hopen =>
      simp only [openFor, decide_eq_true_eq] at hopen
      have hbelongs := (h.belongs k b₀ (hview ▸ Rows.stands_view)).2
      rw [hopen.1] at hbelongs
      exact .inr ⟨rfl, b₀, hview, .inr ⟨hopen.2, ⟨now, rfl⟩, _, rfl, rfl, hbelongs⟩⟩
  | lockedClosed k act b₀ hop hstage hview =>
      exact .inr ⟨rfl, b, hview, .inl ⟨rfl, rfl⟩⟩
  | lockedOpen k act b₀ hop hstage hview haccount hopen =>
      exact .inr ⟨rfl, b, hview, .inl ⟨rfl, rfl⟩⟩
  | closed k k' now act b₀ hop hstage hview =>
      have hstaged := h.staged id
      rw [hstage] at hstaged
      obtain ⟨-, b₁, hview₁, hopen, haccount⟩ := hstaged
      rw [hview] at hview₁
      cases hview₁
      exact .inr ⟨rfl, b₀, hview, .inr ⟨hopen, ⟨now, rfl⟩, _, rfl, rfl,
        (haccount k' act hop).symm⟩⟩
  | ownClosed d d' now k found closed act b₀ hop hstage hview hopen =>
      simp only [openOf, decide_eq_true_eq] at hopen
      exact .inr ⟨rfl, b₀, hview, .inr ⟨hopen.2.2, ⟨now, rfl⟩, _, rfl, rfl, hopen.2.1.symm⟩⟩

omit [DeviceRules] in
theorem Rewriting.closedBinding {k : Uuid} {b b₀ : DeviceSession} {records : List DeviceRecord}
    (h : Rewriting s id k b b₀ records) : ∃ closedAt, b = { b₀ with closedAt := closedAt } := by
  obtain ⟨rfl, -⟩ | ⟨-, ⟨t, rfl⟩, -⟩ := h.row
  · exact ⟨b.closedAt, rfl⟩
  · exact ⟨some t, rfl⟩

/-! ## What is said of each row -/

theorem bindings_step (h : DeviceInv operation safe s)
    (hmove : DeviceMove (operation id) s id step s') :
    Journalled BindingFacts aboutBinding s'.bindings s'.pending s'.history := by
  cases hmove with
  | entered stage hentering => exact h.bindings
  | deviceWritten d device records stage ids hashes hwrite hfree =>
      apply h.bindings.say
      intro act hact j
      cases hwrite with
      | kept => rw [List.mem_singleton.mp hact]; rfl
      | registered => rw [List.mem_singleton.mp hact]; rfl
      | locked => cases hact
      | revoked => rw [List.mem_singleton.mp hact]; rfl
  | bindingWritten k b records stage ids hwrite hfree =>
      have hfacts := h.bindings.viewed id k
      rcases h.bindingWrite hwrite with hins | ⟨-, b₀, hrow⟩
      · rw [hins.unknown] at hfacts
        apply h.bindings.put hfree
        · intro act hact j hj
          rw [hins.records] at hact
          rw [List.mem_singleton.mp hact]
          exact decide_eq_false hj.symm
        · rw [hins.records]
          have hbound := hfacts.bound id hins.isOpen
          simpa [aboutBinding] using hbound
      · rw [hrow.view] at hfacts
        rcases hrow.row with ⟨rfl, rfl⟩ | ⟨hopen, ⟨t, rfl⟩, act, rfl, hends⟩
        · apply h.bindings.put hfree
          · intro act hact
            cases hact
          · simpa using hfacts
        · apply h.bindings.put hfree
          · intro other hother j hj
            rw [List.mem_singleton.mp hother, ends_aboutBinding hends]
            exact decide_eq_false hj.symm
          · have hclosed := hfacts.closed hopen hends t
            rw [List.filter_cons_of_pos (by rw [ends_aboutBinding hends]; simp)]
            exact hclosed
  | committed hstage => exact h.bindings.commit
  | failed hended => exact h.bindings.rollback

theorem devices_step (h : DeviceInv operation safe s)
    (hmove : DeviceMove (operation id) s id step s') :
    Journalled (fun _ => DeviceFacts) aboutDevice s'.devices s'.pending s'.history := by
  cases hmove with
  | entered stage hentering => exact h.devices
  | deviceWritten d device records stage ids hashes hwrite hfree =>
      have hfacts := h.devices.viewed id d
      have hsingle : ∀ act, act.aboutDevice d = true → [act].filter (aboutDevice d) = [act] := by
        intro act hact
        exact List.filter_cons_of_pos hact
      cases hwrite with
      | kept p before _ x presented hop hstage hview hopen hopen' hfresh hunref =>
          rw [hview] at hfacts
          apply h.devices.put hfree
          · intro act hact j hj
            rw [List.mem_singleton.mp hact]
            exact decide_eq_false hj.symm
          · rw [hsingle _ (by simp [aboutDevice])]
            exact DeviceFacts.said (hfacts.unrevoked hopen) hopen' rfl
      | registered p _ hstage hview hopen hfresh =>
          rw [hview] at hfacts
          have hnil : s.history.filter (aboutDevice d) ++ (s.pending id).filter (aboutDevice d) =
            [] := hfacts
          apply h.devices.put hfree
          · intro act hact j hj
            rw [List.mem_singleton.mp hact]
            exact decide_eq_false hj.symm
          · rw [hsingle _ (by simp [aboutDevice]), hnil]
            exact DeviceFacts.said (by simp) hopen rfl
      | locked act _ hop hstage hview hopen hunref =>
          rw [hview] at hfacts
          apply h.devices.put hfree
          · intro other hother
            cases hother
          · simpa using hfacts
      | revoked d' act before now hop hstage hview =>
          have hstaged := h.staged id
          rw [hstage] at hstaged
          obtain ⟨⟨-, before', hview', hopen⟩, -⟩ := hstaged
          rw [hview] at hview' hfacts
          cases hview'
          apply h.devices.put hfree
          · intro other hother j hj
            rw [List.mem_singleton.mp hother]
            exact decide_eq_false hj.symm
          · rw [hsingle _ (by simp [aboutDevice])]
            exact DeviceFacts.revoked (hfacts.unrevoked hopen) (by simp) rfl
  | bindingWritten k b records stage ids hwrite hfree =>
      apply h.devices.say
      intro act hact d
      rcases h.bindingWrite hwrite with hins | ⟨-, b₀, hrow⟩
      · rw [hins.records] at hact
        rw [List.mem_singleton.mp hact]
        rfl
      · rcases hrow.row with ⟨-, rfl⟩ | ⟨-, -, other, rfl, hends⟩
        · cases hact
        · rw [List.mem_singleton.mp hact]
          exact ends_aboutDevice hends
  | committed hstage => exact h.devices.commit
  | failed hended => exact h.devices.rollback

end Devices

end Arthome.Identity
