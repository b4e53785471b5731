import Arthome.Core.PreviewRules
import Arthome.Core.ReplayRules

/-!
# Core's rules for watching a date

The facts a verdict is given on, and what `@arthome/core` decides on them: whether the
viewer may watch, under which scope, on how many screens, and how long a lease
holds one. `LawfulWatchRules` is what the results rely on: the verdict refuses for the
screens only at the allowance, and never allows at it; a lease outlasts its issue.
-/

namespace Arthome.Core

inductive WatchScope where
  | none
  | preview
  | full
  deriving Repr, DecidableEq

inductive WatchDenialReason where
  | notPublished
  | outOfTerritory
  | seatExpired
  | previewExhausted
  | concurrentLimitReached
  | liveEnded
  | noReplay
  | replayExpired
  | dateCancelled
  | dateInterrupted
  deriving Repr, DecidableEq

inductive PlanOpening where
  | unspecified
  | browse
  | trailers
  | freeDates
  | replays
  | noAds
  | oneLiveMonth
  | allLives
  | multiScreen
  | archive
  deriving Repr, DecidableEq

inductive RightsScope where
  | worldwide
  | restricted
  deriving Repr, DecidableEq

inductive BlackoutReason where
  | coProduction
  | broadcaster
  | festival
  deriving Repr, DecidableEq

structure TerritoryRights where
  scope : RightsScope
  blackoutCountries : List String
  reason : Option BlackoutReason
  deriving Repr, DecidableEq

/-- What a verdict is given on. The seat's standing is unknown to this service. -/
structure WatchInput where
  holdsSeat : Bool
  seatExpired : Bool
  planOpenings : List PlanOpening
  concurrentStreamsOpen : ℤ
  concurrentStreamsAllowed : ℤ
  previewSecondsLeft : ℤ
  viewerCountry : String
  rights : TerritoryRights
  timing : DateTiming
  publicationState : PublicationState
  runState : Option RunState
  outcome : Option DateOutcome
  now : Instant
  deriving Repr, DecidableEq

structure WatchVerdict where
  allowed : Bool
  scope : WatchScope
  reason : Option WatchDenialReason
  previewSecondsLeft : ℤ
  deriving Repr, DecidableEq

/-- What core computes for watching a date. -/
class WatchRules extends PreviewRules where
  /-- The plan's openings, and the active seats on the date. -/
  concurrentStreamsAllowedFor : List PlanOpening → ℤ → ℤ
  decideWatch : WatchInput → WatchVerdict
  playbackLeaseExpiresAt : Instant → Instant

/-- What the code relies on core for. -/
class LawfulWatchRules [WatchRules] : Prop extends LawfulRunRules where
  /-- Refused for the screens, the allowance is reached. -/
  limit_reached (input : WatchInput) :
    (WatchRules.decideWatch input).reason = some .concurrentLimitReached →
      input.concurrentStreamsAllowed ≤ input.concurrentStreamsOpen
  /-- At the allowance, nothing is allowed. -/
  limit_refused (input : WatchInput) :
    input.concurrentStreamsAllowed ≤ input.concurrentStreamsOpen →
      (WatchRules.decideWatch input).allowed = false
  lease_outlasts (now : Instant) : now < WatchRules.playbackLeaseExpiresAt now

namespace Sample

def refusedFor (reason : WatchDenialReason) : WatchVerdict := ⟨false, .none, some reason, 0⟩

scoped instance watchRules : WatchRules where
  concurrentStreamsAllowedFor openings activeSeats :=
    max 1 activeSeats + if PlanOpening.multiScreen ∈ openings then 1 else 0
  decideWatch input :=
    if input.rights.scope = .restricted ∧ input.viewerCountry ∈ input.rights.blackoutCountries then
      refusedFor .outOfTerritory
    else if input.concurrentStreamsAllowed ≤ input.concurrentStreamsOpen then
      refusedFor .concurrentLimitReached
    else if input.holdsSeat ∨ PlanOpening.allLives ∈ input.planOpenings then ⟨true, .full, none, 0⟩
    else if 0 < input.previewSecondsLeft then ⟨true, .preview, none, input.previewSecondsLeft⟩
    else refusedFor .previewExhausted
  playbackLeaseExpiresAt now := now + 90000

scoped instance lawfulWatchRules : LawfulWatchRules where
  toLawfulRunRules := lawfulRunRules
  limit_reached input h := by
    simp only [WatchRules.decideWatch] at h
    split_ifs at h with _ hreached
    · simp [refusedFor] at h
    · exact hreached
    · simp [refusedFor] at h
  limit_refused input h := by
    simp only [WatchRules.decideWatch]
    split_ifs
    · rfl
    · rfl
  lease_outlasts now := lt_add_of_pos_right now (by decide)

end Sample

end Arthome.Core
