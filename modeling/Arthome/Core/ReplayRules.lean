import Arthome.Core.Vocabulary

/-!
# Core's rules for a date's replay

The enumerations of a replay and of the file behind it, and what `@arthome/core`
decides about them: whether a date has a replay mode, which outcomes take the
replay away, when its window closes.
-/

namespace Arthome.Core

inductive ReplayState where
  | pending
  | online
  | closed
  | withdrawn
  deriving Repr, DecidableEq

inductive ReplayPolicy where
  | none
  | included
  | unit
  | subscription
  deriving Repr, DecidableEq

inductive ReplayAssetState where
  | recording
  | processing
  | ready
  | failed
  | deleting
  | deleted
  deriving Repr, DecidableEq

/-- When a date is, and how long its replay stays. -/
structure DateTiming where
  startsAt : Instant
  runtimeMin : ℤ
  roomOpensBeforeMin : ℤ
  replayPolicy : ReplayPolicy
  replayWindowHours : ℤ
  deriving Repr, DecidableEq

/-- What core computes for a replay. -/
class ReplayRules where
  hasReplayPolicy : DateTiming → Bool
  outcomeWithdrawsReplay : Option DateOutcome → Bool
  /-- The run's real end, and the hours of the window. -/
  replayClosesAt : Instant → ℤ → Instant

namespace Sample

scoped instance replayRules : ReplayRules where
  hasReplayPolicy timing := decide (timing.replayPolicy ≠ .none)
  outcomeWithdrawsReplay outcome :=
    decide (outcome = some .cancelled ∨ outcome = some .interrupted)
  replayClosesAt endedAt windowHours := endedAt + windowHours * 3600000

end Sample

end Arthome.Core
