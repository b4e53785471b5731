import Arthome.Core.Vocabulary
import Mathlib.Order.MinMax

/-!
# Core's rules for a date's run

The enumerations of a run and what `@arthome/core` decides about one: which
transitions it may make, when a run left on air ends by itself, which incident a
returning feed lifts. `LawfulRunRules` is what the results rely on: a transition
changes the state, an ended run makes none, an interrupted one that was checked
may go back on air, only a checked run goes on air, and a run ends by itself
neither before its scheduled end nor before its last loss.
-/

namespace Arthome.Core

inductive RunState where
  | idle
  | rehearsal
  | onAir
  | interrupted
  | ended
  deriving Repr, DecidableEq

inductive PublicationState where
  | draft
  | reserve
  | scheduled
  | technical
  | live
  | ended
  | replayOnline
  deriving Repr, DecidableEq

inductive IncidentKind where
  | holdScreen
  | postponed
  | cancelled
  | interrupted
  deriving Repr, DecidableEq

inductive IncidentCause where
  | venueFeedLost
  | runDeskDisconnected
  | bitrateCollapsed
  | compatibilityWorkerFailed
  | providerError
  | manual
  deriving Repr, DecidableEq

inductive IncidentTrigger where
  | manual
  | auto
  deriving Repr, DecidableEq

inductive TechnicalCheckFailure where
  | noFeed
  | codecNotCarried
  | bitrateBelowFloor
  deriving Repr, DecidableEq

inductive Surface where
  | unspecified
  | storefrontWeb
  | storefrontMobile
  | storefrontTv
  | studioWeb
  | studioMobile
  | system
  deriving Repr, DecidableEq

/-- Why an operation on a run was refused. -/
inductive RunRefusal where
  | stateConflict (currentVersion : ℕ) (state : RunState)
  /-- The publication's state, or nothing when none is projected, and the one asked for. -/
  | publicationTransitionForbidden (current : Option PublicationState) (target : PublicationState)
  | runTransitionForbidden (current target : RunState)
  | technicalCheckRequired
  deriving Repr, DecidableEq

/-- What core computes for a run. -/
class RunRules where
  isAfter : Instant → Instant → Bool
  plusSeconds : Instant → ℤ → Instant
  /-- The state left, the state asked for, and whether a technical check has passed. -/
  assertRunTransition : RunState → RunState → Bool → Except RunRefusal Unit
  /-- The scheduled end, the last loss, and whether a publisher is online. -/
  runAutoEndsAt : Instant → Option Instant → Bool → Option Instant
  holdScreenLiftsOnFeedReturn : IncidentKind → IncidentCause → IncidentTrigger → Bool
  publisherGraceSeconds : ℤ
  holdScreenAutoAfterSecondsDefault : ℤ

/-- What the code relies on core for. -/
class LawfulRunRules [RunRules] : Prop where
  isAfter_iff (a b : Instant) : RunRules.isAfter a b = true ↔ b < a
  moves (s target : RunState) (checked : Bool) :
    RunRules.assertRunTransition s target checked = .ok () → s ≠ target
  ended_stays (target : RunState) (checked : Bool) :
    RunRules.assertRunTransition .ended target checked ≠ .ok ()
  interrupted_resumes : RunRules.assertRunTransition .interrupted .onAir true = .ok ()
  onAir_checked (s : RunState) (checked : Bool) :
    RunRules.assertRunTransition s .onAir checked = .ok () → checked = true
  autoEnds_after (scheduledEndsAt : Instant) (lostAt : Option Instant) (online : Bool)
    (endsAt : Instant) : RunRules.runAutoEndsAt scheduledEndsAt lostAt online = some endsAt →
    scheduledEndsAt ≤ endsAt ∧ ∀ at' ∈ lostAt, at' ≤ endsAt

namespace Sample

/-- The moves of a run, none out of its end. -/
def runTransitions : RunState → List RunState
  | .idle => [.rehearsal, .ended]
  | .rehearsal => [.idle, .onAir, .ended]
  | .onAir => [.interrupted, .ended]
  | .interrupted => [.onAir, .ended]
  | .ended => []

scoped instance runRules : RunRules where
  isAfter a b := decide (b < a)
  plusSeconds a seconds := a + 1000 * seconds
  assertRunTransition s target checked :=
    if target ∉ runTransitions s then .error (.runTransitionForbidden s target)
    else if target = .onAir ∧ checked = false then .error .technicalCheckRequired
    else .ok ()
  runAutoEndsAt scheduledEndsAt lostAt online :=
    if online then none else some (max scheduledEndsAt (lostAt.getD scheduledEndsAt) + 900000)
  holdScreenLiftsOnFeedReturn kind cause trigger :=
    decide (kind = .holdScreen ∧ cause = .venueFeedLost ∧ trigger = .auto)
  publisherGraceSeconds := 5
  holdScreenAutoAfterSecondsDefault := 15

theorem assertRunTransition_ok_iff {s target : RunState} {checked : Bool} :
    RunRules.assertRunTransition s target checked = .ok () ↔
      target ∈ runTransitions s ∧ ¬ (target = .onAir ∧ checked = false) := by
  simp only [RunRules.assertRunTransition]
  split_ifs with hmoves hchecked
  · simp [hchecked]
  · exact iff_of_true rfl ⟨hmoves, hchecked⟩
  · simp [hmoves]

scoped instance lawfulRunRules : LawfulRunRules where
  isAfter_iff a b := by simp [RunRules.isAfter]
  moves s target checked h := by
    have hmoves := (assertRunTransition_ok_iff.mp h).1
    rintro rfl
    cases s <;> simp [runTransitions] at hmoves
  ended_stays target checked h := by simp [assertRunTransition_ok_iff, runTransitions] at h
  interrupted_resumes := rfl
  onAir_checked s checked h := by
    have hchecked := (assertRunTransition_ok_iff.mp h).2
    simpa using hchecked
  autoEnds_after scheduledEndsAt lostAt online endsAt h := by
    simp only [RunRules.runAutoEndsAt] at h
    split_ifs at h
    have hafter : max scheduledEndsAt (lostAt.getD scheduledEndsAt) ≤ endsAt := by
      rw [← Option.some.inj h]
      exact Int.le_add_of_nonneg_right (by decide)
    refine ⟨(le_max_left _ _).trans hafter, ?_⟩
    rintro at' hat
    rw [Option.mem_def.mp hat, Option.getD_some] at hafter
    exact (le_max_right _ _).trans hafter

end Sample

end Arthome.Core
