import Arthome.Library.Machine
import Arthome.Messaging.Failure
import Arthome.Streaming.ReplayAsset

/-!
# The provider's calls of an asset

Any number of replicas claim the call an asset owes, each in a short transaction, make
it outside any and settle its answer in another one. Between the three the asset may
have moved, so the answer is settled on the row as it is then. A start the asset does
not keep, answered in time or past its time-out, is deleted at the provider, and
recorded as an orphan once the deletion has failed for good.

A date's recorder keeps its asset, what was published of it, and every call that some
replica still has to make, wait for or settle, whatever the age of the row it was
claimed from. The ledger beside it is the provider's: the references it answered, the
deletions it answered, the orphans recorded.
-/

namespace Arthome.Streaming

open Arthome.Core Arthome.Messaging Library

def RECORDING_RETRY_DELAYS_MS : List ℕ := doublingDelays 5000 (5 * 60000) 3600000

def RECORDING_ATTEMPTS_MAX : ℕ := attemptsAllowedBy RECORDING_RETRY_DELAYS_MS

def RECORDING_CALL_TIMEOUT_MS : ℤ := 4000

def ORPHAN_DELETE_ATTEMPTS : ℕ := 3

/-- The instant a claim leases its asset until; the last attempt's lease is the last delay. -/
def leaseUntil (attempt : ℕ) (now : Instant) (random : ℚ) : Instant :=
  (nextAttemptAt attempt now RECORDING_RETRY_DELAYS_MS random).getD
    (now + ((RECORDING_RETRY_DELAYS_MS.getLast?.getD 0 : ℕ) : ℤ))

/-- What a replica still has to do for the date. `asked` is the row the call was claimed from. -/
inductive RecordingTask (ρ : Type) where
  /-- Claimed, its call not made yet. -/
  | claimed (asked : ReplayAsset ρ) (attempt : ℕ)
  /-- The provider was asked, its answer awaited. -/
  | called (asked : ReplayAsset ρ) (attempt : ℕ)
  /-- The provider answered, the outcome not written yet. -/
  | answered (asked : ReplayAsset ρ) (attempt : ℕ) (result : CallResult ρ)
  /-- Refused for good or out of attempts. -/
  | refused (asked : ReplayAsset ρ) (attempt : ℕ)
  /-- A start past its time-out, which the provider may still answer. -/
  | startingLate
  /-- A recording started that the asset does not keep, deleted at the provider. -/
  | orphan (ref : ρ) (attempt : ℕ)
  deriving Repr, DecidableEq

/-- How the transaction of an outcome ends for the replica that runs it. -/
inductive Commitment where
  | committed
  | rolledBack
  /-- Committed, and the acknowledgement lost: to the replica it failed. -/
  | unacknowledged
  deriving Repr, DecidableEq

structure Recorder (ρ : Type) where
  asset : Option (ReplayAsset ρ)
  events : List AssetEvent
  tasks : List (RecordingTask ρ)
  /-- The references the provider answered. -/
  answered : List ρ
  /-- The references the provider answered a deletion of. -/
  deleted : List ρ
  /-- The rows of the orphan table. -/
  orphans : List ρ
  deriving Repr, DecidableEq

/-- One transaction of a pass or of a call, or one answer of the provider. A task is named by its
place among the others. -/
inductive RecordingStep (ρ : Type) where
  | request (dateId channelId : Uuid) (startedAt : Instant) (facts : Option AssetDateFacts)
  | close (runEndedAt : Option Instant)
  | withdraw (outcome : Option DateOutcome) (now : Instant)
  | expire (now : Instant)
  | claim (now : Instant) (random : ℚ)
  | invoke (task : ℕ)
  | answer (task : ℕ) (result : CallResult ρ)
  /-- The call failed; `unknown` when the provider knows no such recording. -/
  | fail (task : ℕ) (unknown : Bool)
  | timeOut (task : ℕ)
  | answerLate (task : ℕ) (ref : ρ)
  | failLate (task : ℕ)
  | settle (task : ℕ) (facts : Option AssetDateFacts) (runEndedAt : Option Instant) (now : Instant)
      (commitment : Commitment)
  | giveUp (task : ℕ) (now : Instant)
  /-- The pass stopped on a transaction that failed: what it had claimed is not called. -/
  | abandon (task : ℕ)
  | orphanDeleted (task : ℕ)
  | orphanFailed (task : ℕ)
  deriving Repr, DecidableEq

namespace RecordingTask

variable {ρ : Type}

/-- The call made, or answered at once where there is no reference to make it for. -/
def invoked (asked : ReplayAsset ρ) (attempt : ℕ) : List (RecordingTask ρ) :=
  match asked.callDue, asked.recordingRef with
  | some .stop, none => [.answered asked attempt .stop]
  | some .status, none => [.refused asked attempt]
  | some .delete, none => [.answered asked attempt .delete]
  | some _, _ => [.called asked attempt]
  | none, _ => []

/-- A failed call is given up at once, or at its last attempt; else the claim scheduled the next. -/
def failed (asked : ReplayAsset ρ) (attempt : ℕ) (refused : Bool) : List (RecordingTask ρ) :=
  if refused || RECORDING_ATTEMPTS_MAX ≤ attempt then [.refused asked attempt] else []

/-- A start that ran past its time-out has still started a recording. -/
def timedOut (asked : ReplayAsset ρ) (attempt : ℕ) : List (RecordingTask ρ) :=
  (if asked.callDue = some .start then [.startingLate] else []) ++ failed asked attempt false

/-- What is left to do of an outcome not written: a recording started is nobody's. -/
def unwritten (result : CallResult ρ) : List (RecordingTask ρ) :=
  match result with
  | .start ref => [.orphan ref 1]
  | _ => []

end RecordingTask

namespace Recorder

variable {ρ : Type}

def initial : Recorder ρ := ⟨none, [], [], [], [], []⟩

/-- A task done, and what it leaves to do. -/
def replaced (s : Recorder ρ) (task : ℕ) (next : List (RecordingTask ρ)) : Recorder ρ :=
  { s with tasks := s.tasks.eraseIdx task ++ next }

/-- The row and the events a transaction writes. -/
def written (s : Recorder ρ) (asset : Option (ReplayAsset ρ)) (events : List AssetEvent) :
    Recorder ρ := { s with asset, events := s.events ++ events }

/-- The call the answer is for: what it asked for, of which the provider keeps the ledger. -/
def answerTo (s : Recorder ρ) (asked : ReplayAsset ρ) (result : CallResult ρ) : Recorder ρ :=
  match result with
  | .start ref => { s with answered := s.answered ++ [ref] }
  | .delete => { s with deleted := s.deleted ++ asked.recordingRef.toList }
  | _ => s

/-- The outcome of a call, as its transaction ended. -/
def settled [RunRules] [ReplayRules] (s : Recorder ρ) (task : ℕ) (asked : ReplayAsset ρ)
    (attempt : ℕ) (result : CallResult ρ) (facts : Option AssetDateFacts)
    (runEndedAt : Option Instant) (now : Instant) (commitment : Commitment) : Recorder ρ :=
  match ReplayAsset.settle s.asset result facts runEndedAt now with
  | .error .callRefused => s.replaced task [.refused asked attempt]
  | .error .notProjected => s.replaced task (RecordingTask.unwritten result)
  | .ok outcome =>
    match commitment with
    | .committed =>
      (s.written outcome.asset outcome.events).replaced task
        (outcome.orphan.toList.map fun ref => .orphan ref 1)
    | .rolledBack => s.replaced task (RecordingTask.unwritten result)
    | .unacknowledged =>
      (s.written outcome.asset outcome.events).replaced task (RecordingTask.unwritten result)

variable [RunRules] [ReplayRules] [DecidableEq ρ]

/-- `none` where the step has nothing to do. -/
def step (s : Recorder ρ) : RecordingStep ρ → Option (Recorder ρ)
  | .request dateId channelId startedAt facts =>
    if s.asset.isNone && shouldRecord facts then
      some (s.written (some (.requested dateId channelId startedAt)) [])
    else none
  | .close runEndedAt => do
    let asset ← s.asset
    let closed ← asset.close runEndedAt
    some (s.written (some closed) [])
  | .withdraw outcome now => do
    let asset ← s.asset
    let withdrawn ← asset.withdrawOne outcome now
    some (s.written (some withdrawn.1) withdrawn.2)
  | .expire now => do
    let asset ← s.asset
    let expired ← asset.expireOne now
    some (s.written (some expired.1) expired.2)
  | .claim now random => do
    let asset ← s.asset
    if asset.isDue now && asset.callDue.isSome then
      let attempt := asset.callAttempts + 1
      let leased := s.written (some (asset.claimed (leaseUntil attempt now random))) []
      some { leased with tasks := s.tasks ++ [.claimed asset attempt] }
    else none
  | .invoke task =>
    match s.tasks[task]? with
    | some (.claimed asked attempt) => some (s.replaced task (RecordingTask.invoked asked attempt))
    | _ => none
  | .answer task result =>
    match s.tasks[task]? with
    | some (.called asked attempt) =>
      if asked.callDue = some result.call then
        some ((s.answerTo asked result).replaced task [.answered asked attempt result])
      else none
    | _ => none
  | .fail task unknown =>
    match s.tasks[task]? with
    | some (.called asked attempt) =>
      some (s.replaced task
        (RecordingTask.failed asked attempt (unknown && asked.callDue = some .status)))
    | _ => none
  | .timeOut task =>
    match s.tasks[task]? with
    | some (.called asked attempt) => some (s.replaced task (RecordingTask.timedOut asked attempt))
    | _ => none
  | .answerLate task ref =>
    match s.tasks[task]? with
    | some .startingLate =>
      some ({ s with answered := s.answered ++ [ref] }.replaced task [.orphan ref 1])
    | _ => none
  | .failLate task =>
    match s.tasks[task]? with
    | some .startingLate => some (s.replaced task [])
    | _ => none
  | .settle task facts runEndedAt now commitment =>
    match s.tasks[task]? with
    | some (.answered asked attempt result) =>
      some (s.settled task asked attempt result facts runEndedAt now commitment)
    | _ => none
  | .giveUp task now =>
    match s.tasks[task]? with
    | some (.refused asked _) =>
      match s.asset.bind fun asset => asked.callDue.bind fun call => asset.giveUp call now with
      | some failed => some ((s.written (some failed) []).replaced task [])
      | none => some (s.replaced task [])
    | _ => none
  | .abandon task =>
    match s.tasks[task]? with
    | some (.claimed _ _) | some (.refused _ _) => some (s.replaced task [])
    | _ => none
  | .orphanDeleted task =>
    match s.tasks[task]? with
    | some (.orphan ref _) => some ({ s with deleted := s.deleted ++ [ref] }.replaced task [])
    | _ => none
  | .orphanFailed task =>
    match s.tasks[task]? with
    | some (.orphan ref attempt) =>
      if attempt < ORPHAN_DELETE_ATTEMPTS then some (s.replaced task [.orphan ref (attempt + 1)])
      else some ({ s with orphans := s.orphans.insert ref }.replaced task [])
    | _ => none

/-! ## What a step does to the row -/

section RowMoves

omit [RunRules] [ReplayRules] [DecidableEq ρ]

variable {s t : Recorder ρ} {a : RecordingStep ρ}

@[simp] theorem replaced_asset (s : Recorder ρ) (task : ℕ) (next : List (RecordingTask ρ)) :
    (s.replaced task next).asset = s.asset := rfl

@[simp] theorem replaced_events (s : Recorder ρ) (task : ℕ) (next : List (RecordingTask ρ)) :
    (s.replaced task next).events = s.events := rfl

@[simp] theorem replaced_tasks (s : Recorder ρ) (task : ℕ) (next : List (RecordingTask ρ)) :
    (s.replaced task next).tasks = s.tasks.eraseIdx task ++ next := rfl

@[simp] theorem answerTo_asset (s : Recorder ρ) (asked : ReplayAsset ρ) (result : CallResult ρ) :
    (s.answerTo asked result).asset = s.asset := by cases result <;> rfl

@[simp] theorem answerTo_events (s : Recorder ρ) (asked : ReplayAsset ρ) (result : CallResult ρ) :
    (s.answerTo asked result).events = s.events := by cases result <;> rfl

@[simp] theorem answerTo_tasks (s : Recorder ρ) (asked : ReplayAsset ρ) (result : CallResult ρ) :
    (s.answerTo asked result).tasks = s.tasks := by cases result <;> rfl

@[simp] theorem answerTo_orphans (s : Recorder ρ) (asked : ReplayAsset ρ) (result : CallResult ρ) :
    (s.answerTo asked result).orphans = s.orphans := by cases result <;> rfl

/-- The row and the events move as one transaction moves them. -/
def RowMoves (s t : Recorder ρ) : Prop :=
  ∃ events, t.events = s.events ++ events ∧ ReplayAsset.RowMove s.asset t.asset events

theorem RowMoves.same (hasset : t.asset = s.asset) (hevents : t.events = s.events) :
    s.RowMoves t := by
  refine ⟨[], ?_, ?_⟩
  · rw [hevents, List.append_nil]
  · rw [hasset]
    exact .same s.asset

theorem RowMoves.written {asset : Option (ReplayAsset ρ)} {events : List AssetEvent}
    (h : ReplayAsset.RowMove s.asset asset events) : s.RowMoves (s.written asset events) :=
  ⟨events, rfl, h⟩

theorem settled_rowMoves [RunRules] [ReplayRules] {task : ℕ} {asked : ReplayAsset ρ} {attempt : ℕ}
    {result : CallResult ρ} {facts : Option AssetDateFacts} {runEndedAt : Option Instant}
    {now : Instant} {commitment : Commitment} :
    s.RowMoves (s.settled task asked attempt result facts runEndedAt now commitment) := by
  unfold settled
  split
  · exact .same rfl rfl
  · exact .same rfl rfl
  · rename_i outcome houtcome
    have hmove := ReplayAsset.settle_rowMove houtcome
    cases commitment with
    | committed => exact ⟨_, rfl, hmove⟩
    | rolledBack => exact .same rfl rfl
    | unacknowledged => exact ⟨_, rfl, hmove⟩

/-- Every step moves the row as one transaction does, or leaves it. -/
theorem step_rowMoves [RunRules] [ReplayRules] [DecidableEq ρ] (h : s.step a = some t) :
    s.RowMoves t := by
  cases a with
  | request dateId channelId startedAt facts =>
      simp only [step] at h
      split_ifs at h with habsent
      obtain rfl := Option.some.inj h
      simp only [Bool.and_eq_true, Option.isNone_iff_eq_none] at habsent
      apply RowMoves.written
      rw [habsent.1]
      exact .requested dateId channelId startedAt
  | close runEndedAt =>
      simp only [step, Option.bind_eq_bind, Option.bind_eq_some_iff, Option.some.injEq] at h
      obtain ⟨asset, hasset, closed, hclosed, rfl⟩ := h
      apply RowMoves.written
      rw [hasset]
      exact .moved (ReplayAsset.close_move hclosed)
  | withdraw outcome now =>
      simp only [step, Option.bind_eq_bind, Option.bind_eq_some_iff, Option.some.injEq] at h
      obtain ⟨asset, hasset, withdrawn, hwithdrawn, rfl⟩ := h
      apply RowMoves.written
      rw [hasset]
      exact .moved (ReplayAsset.withdrawOne_move hwithdrawn)
  | expire now =>
      simp only [step, Option.bind_eq_bind, Option.bind_eq_some_iff, Option.some.injEq] at h
      obtain ⟨asset, hasset, expired, hexpired, rfl⟩ := h
      apply RowMoves.written
      rw [hasset]
      exact .moved (ReplayAsset.expireOne_move hexpired)
  | claim now random =>
      simp only [step, Option.bind_eq_bind, Option.bind_eq_some_iff] at h
      obtain ⟨asset, hasset, h⟩ := h
      split_ifs at h
      obtain rfl := Option.some.inj h
      refine ⟨[], rfl, ?_⟩
      rw [hasset]
      exact .moved (ReplayAsset.claimed_move _)
  | giveUp task now =>
      simp only [step] at h
      split at h
      · split at h
        · rename_i failed hfailed
          obtain rfl := Option.some.inj h
          simp only [Option.bind_eq_some_iff] at hfailed
          obtain ⟨asset, hasset, call, -, hfailed⟩ := hfailed
          refine ⟨[], rfl, ?_⟩
          rw [hasset]
          exact .moved (ReplayAsset.giveUp_move hfailed)
        · obtain rfl := Option.some.inj h
          exact .same rfl rfl
      · cases h
  | settle task facts runEndedAt now commitment =>
      simp only [step] at h
      split at h
      · obtain rfl := Option.some.inj h
        exact settled_rowMoves
      · cases h
  | answer task result =>
      simp only [step] at h
      split at h
      · split_ifs at h
        obtain rfl := Option.some.inj h
        exact .same (by simp) (by simp)
      · cases h
  | orphanFailed task =>
      simp only [step] at h
      split at h
      · split_ifs at h
        · obtain rfl := Option.some.inj h
          exact .same rfl rfl
        · obtain rfl := Option.some.inj h
          exact .same rfl rfl
      · cases h
  | invoke task | fail task unknown | timeOut task | answerLate task ref | failLate task
  | orphanDeleted task =>
      simp only [step] at h
      split at h
      · obtain rfl := Option.some.inj h
        exact .same rfl rfl
      · cases h
  | abandon task =>
      simp only [step] at h
      split at h
      · obtain rfl := Option.some.inj h
        exact .same rfl rfl
      · obtain rfl := Option.some.inj h
        exact .same rfl rfl
      · cases h

end RowMoves

end Recorder

end Arthome.Streaming
