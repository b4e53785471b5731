import Arthome.Streaming.RecordingCalls

/-!
# A replay announced once and withdrawn once

Whatever pass or settlement writes a date's asset, its state goes forward only, and
what was published of it is read from its state: nothing until it is ready, its
readiness once it is, and after that either nothing or its readiness and its expiry.
-/

namespace Arthome.Streaming

open Arthome.Core Library

def AssetEvent.isReady : AssetEvent → Bool
  | .ready _ _ _ _ _ _ => true
  | .expired _ _ => false

def AssetEvent.isExpired : AssetEvent → Bool
  | .ready _ _ _ _ _ _ => false
  | .expired _ _ => true

/-- The states an asset may go to next. -/
def assetStatesAfter : ReplayAssetState → List ReplayAssetState
  | .recording => [.processing, .deleting, .failed]
  | .processing => [.ready, .deleting, .failed]
  | .ready => [.deleting]
  | .deleting => [.deleted, .failed]
  | .failed => []
  | .deleted => []

namespace ReplayAsset

variable {ρ : Type} {before after : ReplayAsset ρ} {events : List AssetEvent}

theorem canBeWithdrawn_cases {state : ReplayAssetState} (h : canBeWithdrawn state = true) :
    state = .recording ∨ state = .processing ∨ state = .ready := by
  simp only [canBeWithdrawn, Bool.or_eq_true, decide_eq_true_eq, or_assoc] at h
  exact h

theorem deleting_after {state : ReplayAssetState} (h : canBeWithdrawn state = true) :
    .deleting ∈ assetStatesAfter state := by
  obtain rfl | rfl | rfl := canBeWithdrawn_cases h
  · decide
  · decide
  · decide

theorem failed_after {asset : ReplayAsset ρ} (h : asset.callDue.isSome) :
    .failed ∈ assetStatesAfter asset.state := by
  unfold callDue at h
  split at h
  · rename_i hstate
    rw [hstate]
    decide
  · rename_i hstate
    rw [hstate]
    decide
  · rename_i hstate
    rw [hstate]
    decide
  · cases h

/-- The state is left as it was, or goes forward. -/
theorem Move.forward (h : before.Move after events) :
    after.state = before.state ∨ after.state ∈ assetStatesAfter before.state := by
  cases h with
  | kept hstate => exact .inl hstate
  | started ref hnone hfrom hstate => exact .inl hstate
  | closed hfrom hto =>
      right
      rw [hfrom, hto]
      decide
  | announced hfrom hto =>
      right
      rw [hfrom, hto]
      decide
  | deleting hfrom hto => exact .inr (hto ▸ deleting_after hfrom)
  | deleted hdue hto =>
      right
      rw [callDue_eq_delete hdue, hto]
      decide
  | failed hdue hto => exact .inr (hto ▸ failed_after hdue)

/-- An asset fails out of a call it owes. -/
theorem Move.failed_owed (h : before.Move after events) (hfailed : after.state = .failed)
    (hnot : before.state ≠ .failed) : before.callDue.isSome := by
  cases h with
  | kept hstate => exact absurd (hstate ▸ hfailed) hnot
  | started ref hnone hfrom hstate => exact absurd (hstate ▸ hfailed) hnot
  | closed hfrom hto => cases hto.symm.trans hfailed
  | announced hfrom hto => cases hto.symm.trans hfailed
  | deleting hfrom hto => cases hto.symm.trans hfailed
  | deleted hdue hto => cases hto.symm.trans hfailed
  | failed hdue => exact hdue

/-- What is published of an asset, read from its row. -/
def Announced (asset : ReplayAsset ρ) (events : List AssetEvent) : Prop :=
  match asset.state with
  | .recording | .processing => events = []
  | .ready => asset.announcedAt.isSome ∧ ∃ ready, events = [ready] ∧ ready.isReady = true
  | .deleting | .deleted | .failed =>
    events = [] ∨ ∃ ready expired, events = [ready, expired] ∧ ready.isReady = true ∧
      expired.isExpired = true

theorem Announced.of_kept {published : List AssetEvent} (h : before.Announced published)
    (hstate : after.state = before.state) (hannounced : after.announcedAt = before.announcedAt) :
    after.Announced published := by
  unfold Announced at h ⊢
  rw [hstate, hannounced]
  exact h

theorem owesExpiredEvent_eq_false {asset : ReplayAsset ρ} (hready : asset.state = .ready)
    (h : asset.owesExpiredEvent = false) : asset.announcedAt.isSome = false := by
  simpa [owesExpiredEvent, hready] using h

theorem Announced.move {published : List AssetEvent} (h : before.Announced published)
    (hmove : before.Move after events) : after.Announced (published ++ events) := by
  cases hmove with
  | kept hstate href hannounced =>
      rw [List.append_nil]
      exact h.of_kept hstate hannounced
  | started ref hnone hfrom hstate href hannounced =>
      rw [List.append_nil]
      exact h.of_kept hstate hannounced
  | closed hfrom hto =>
      simp only [Announced, hfrom] at h
      simp only [Announced, hto]
      rw [h, List.append_nil]
  | announced hfrom hto href hannounced =>
      simp only [Announced, hfrom] at h
      simp only [Announced, hto]
      exact ⟨hannounced, _, by rw [h, List.nil_append], rfl⟩
  | deleting hfrom hto href hevents =>
      simp only [Announced, hto]
      obtain ⟨rfl, hquiet⟩ | ⟨now, rfl, howes⟩ := hevents
      · rw [List.append_nil]
        obtain hstate | hstate | hstate := canBeWithdrawn_cases hfrom
        · simp only [Announced, hstate] at h
          exact .inl h
        · simp only [Announced, hstate] at h
          exact .inl h
        · simp only [Announced, hstate] at h
          rw [owesExpiredEvent_eq_false hstate hquiet] at h
          simp at h
      · have hstate : before.state = .ready := by
          simp only [owesExpiredEvent, Bool.and_eq_true, decide_eq_true_eq] at howes
          exact howes.1
        simp only [Announced, hstate] at h
        obtain ⟨-, ready, rfl, hready⟩ := h
        exact .inr ⟨ready, _, rfl, hready, rfl⟩
  | deleted hdue hto =>
      simp only [Announced, callDue_eq_delete hdue] at h
      simp only [Announced, hto]
      rw [List.append_nil]
      exact h
  | failed hdue hto =>
      rw [List.append_nil]
      have hstate := failed_after hdue
      simp only [Announced, hto]
      cases hfrom : before.state with
      | recording =>
          simp only [Announced, hfrom] at h
          exact .inl h
      | processing =>
          simp only [Announced, hfrom] at h
          exact .inl h
      | deleting =>
          simp only [Announced, hfrom] at h
          exact h
      | ready => simp [hfrom, assetStatesAfter] at hstate
      | failed => simp [hfrom, assetStatesAfter] at hstate
      | deleted => simp [hfrom, assetStatesAfter] at hstate

end ReplayAsset

namespace Recorder

variable {ρ : Type} {s t : Recorder ρ}

/-- What is published of a date is what its row tells. -/
def Announced (s : Recorder ρ) : Prop :=
  match s.asset with
  | none => s.events = []
  | some asset => asset.Announced s.events

theorem Announced.rowMoves (h : s.Announced) (hmoves : s.RowMoves t) : t.Announced := by
  obtain ⟨events, hevents, hrow⟩ := hmoves
  unfold Announced at h ⊢
  rw [hevents]
  generalize s.asset = before at h hrow
  generalize t.asset = after at hrow
  cases hrow with
  | same =>
      rw [List.append_nil]
      exact h
  | requested dateId channelId startedAt =>
      rw [List.append_nil]
      exact h
  | moved hmove => exact h.move hmove

/-- At most a readiness, then at most an expiry. -/
theorem Announced.events_cases (h : s.Announced) :
    s.events = [] ∨ (∃ ready, s.events = [ready] ∧ ready.isReady = true) ∨
      ∃ ready expired, s.events = [ready, expired] ∧ ready.isReady = true ∧
        expired.isExpired = true := by
  unfold Announced at h
  split at h
  · exact .inl h
  · unfold ReplayAsset.Announced at h
    split at h
    · exact .inl h
    · exact .inl h
    · exact .inr (.inl h.2)
    · exact h.imp_right .inr
    · exact h.imp_right .inr
    · exact h.imp_right .inr

/-- A row keeps its state or goes forward, and is never gone. -/
theorem RowMoves.forward (h : s.RowMoves t) :
    (s.asset = none → ∀ asset ∈ t.asset, asset.state = .recording) ∧
    ∀ before ∈ s.asset, ∃ after ∈ t.asset,
      (after.state = before.state ∨ after.state ∈ assetStatesAfter before.state) ∧
      (after.state = .failed → before.state ≠ .failed → before.callDue.isSome) := by
  obtain ⟨events, -, hrow⟩ := h
  generalize s.asset = before at hrow
  generalize t.asset = after at hrow
  cases hrow with
  | same =>
      refine ⟨by rintro rfl; simp, fun asset hasset => ⟨asset, hasset, .inl rfl, ?_⟩⟩
      exact fun hfailed hnot => absurd hfailed hnot
  | requested dateId channelId startedAt => simp [ReplayAsset.requested]
  | moved hmove =>
      refine ⟨by simp, fun asset hasset => ?_⟩
      obtain rfl := Option.some.inj hasset
      exact ⟨_, rfl, hmove.forward, hmove.failed_owed⟩

theorem AssetEvent.not_ready_of_expired {event : AssetEvent} (h : event.isExpired = true) :
    event.isReady = false := by
  cases event with
  | ready => cases h
  | expired => rfl

theorem AssetEvent.not_expired_of_ready {event : AssetEvent} (h : event.isReady = true) :
    event.isExpired = false := by
  cases event with
  | ready => rfl
  | expired => cases h

section Runs

variable [RunRules] [ReplayRules] [DecidableEq ρ]

/-- A failed or deleted asset stays so in every later state. -/
theorem final_of_reaches {later : Recorder ρ} (h : Reaches (fun _ _ => True) step s later)
    {state : ReplayAssetState} (hstate : assetStatesAfter state = [])
    (hs : ∃ asset ∈ s.asset, asset.state = state) : ∃ asset ∈ later.asset, asset.state = state := by
  apply h.invariant hs
  rintro v a w ⟨before, hbefore, rfl⟩ - hstep
  obtain ⟨after, hafter, hforward, -⟩ := (step_rowMoves hstep).forward.2 before hbefore
  rw [hstate] at hforward
  exact ⟨after, hafter, hforward.resolve_right List.not_mem_nil⟩

/-- For every interleaving of passes, claims, calls, answers and settlements. At most one readiness
and one expiry are published, the expiry after the readiness. Each step leaves the state or moves it
forward, failing only out of a call owed, and nothing follows `failed` and `deleted`. -/
theorem announced_once (h : Reaches (fun _ _ => True) step initial s) :
    (s.events.filter AssetEvent.isReady).length ≤ 1 ∧
    (s.events.filter AssetEvent.isExpired).length ≤ 1 ∧
    (∀ earlier event later, s.events = earlier ++ event :: later → event.isExpired = true →
      ∃ ready ∈ earlier, ready.isReady = true) ∧
    (∀ a t, s.step a = some t →
      (s.asset = none → ∀ asset ∈ t.asset, asset.state = .recording) ∧
      ∀ before ∈ s.asset, ∃ after ∈ t.asset,
        (after.state = before.state ∨ after.state ∈ assetStatesAfter before.state) ∧
        (after.state = .failed → before.state ≠ .failed → before.callDue.isSome)) ∧
    ∀ later, Reaches (fun _ _ => True) step s later → ∀ before ∈ s.asset,
      before.state = .failed ∨ before.state = .deleted →
      ∃ after ∈ later.asset, after.state = before.state := by
  have hannounced : s.Announced := by
    apply h.invariant (show Announced initial from rfl)
    exact fun v a w hv _ hstep => hv.rowMoves (step_rowMoves hstep)
  refine ⟨?_, ?_, ?_, fun a t hstep => (step_rowMoves hstep).forward, ?_⟩
  · obtain hevents | ⟨ready, hevents, hready⟩ | ⟨ready, expired, hevents, hready, hexpired⟩ :=
      hannounced.events_cases
    · simp [hevents]
    · simp [hevents, hready]
    · simp [hevents, hready, AssetEvent.not_ready_of_expired hexpired]
  · obtain hevents | ⟨ready, hevents, hready⟩ | ⟨ready, expired, hevents, hready, hexpired⟩ :=
      hannounced.events_cases
    · simp [hevents]
    · simp [hevents, AssetEvent.not_expired_of_ready hready]
    · simp [hevents, hexpired, AssetEvent.not_expired_of_ready hready]
  · intro earlier event later hsplit hexpiredEvent
    obtain hevents | ⟨ready, hevents, hready⟩ | ⟨ready, expired, hevents, hready, hexpired⟩ :=
      hannounced.events_cases
    · rw [hevents] at hsplit
      simp at hsplit
    · rw [hevents] at hsplit
      cases earlier with
      | nil =>
          rw [List.nil_append, List.cons.injEq] at hsplit
          rw [← hsplit.1, AssetEvent.not_expired_of_ready hready] at hexpiredEvent
          cases hexpiredEvent
      | cons first earlier => simp at hsplit
    · rw [hevents] at hsplit
      cases earlier with
      | nil =>
          rw [List.nil_append, List.cons.injEq] at hsplit
          rw [← hsplit.1, AssetEvent.not_expired_of_ready hready] at hexpiredEvent
          cases hexpiredEvent
      | cons first earlier =>
          rw [List.cons_append, List.cons.injEq] at hsplit
          exact ⟨first, List.mem_cons_self, hsplit.1 ▸ hready⟩
  · rintro later hlater before hbefore hfinal
    apply final_of_reaches hlater ?_ ⟨before, hbefore, rfl⟩
    obtain hstate | hstate := hfinal
    · rw [hstate]
      rfl
    · rw [hstate]
      rfl

end Runs

section Sample

open Arthome.Core.Sample

/-- Recorded, ended, stopped, ready, and expired after its window. -/
def sampleLife : List (RecordingStep ℕ) :=
  let facts : Option AssetDateFacts := some ⟨some ⟨0, 60, 30, .included, 48⟩, none⟩
  [.request 1 2 10 facts, .claim 20 0, .invoke 0, .answer 0 (.start 7),
    .settle 0 facts none 30 .committed, .close (some 5000), .claim 5010 0, .invoke 0,
    .answer 0 .stop, .settle 0 facts (some 5000) 5020 .committed, .claim 5030 0, .invoke 0,
    .answer 0 (.status ⟨true, some 4⟩), .settle 0 facts (some 5000) 5040 .committed,
    .expire 200000000]

theorem announced_once_sample :
    ∃ s : Recorder ℕ, s.events.length = 2 ∧ (s.events.filter AssetEvent.isExpired).length ≤ 1 := by
  have hlife : (sampleLife.foldlM step (initial : Recorder ℕ)).map (fun s => s.events.length) =
      some 2 := by decide +kernel
  obtain ⟨s, hs, hevents⟩ := Option.map_eq_some_iff.mp hlife
  have hreaches : Reaches (fun _ _ => True) step initial s :=
    .of_foldlM (fun _ _ => trivial) hs
  exact ⟨s, hevents, (announced_once hreaches).2.1⟩

end Sample

end Recorder

end Arthome.Streaming
