import Arthome.Core.ReplayRules
import Arthome.Core.RunRules
import Arthome.Library.Checked

/-!
# The recording of a date

A date with a replay mode has one `ReplayAsset`, from the request of its recording
to the deletion of its file. The provider's call it owes is read from its state, and
each transaction decides on the row it locked: the passes move it with its run, its
date's outcome and its window, the outcome of a call settles what the call asked.
A reference is the provider's, and the code only compares it.
-/

namespace Arthome.Streaming

open Arthome.Core Library

/-- The provider calls an asset can owe. -/
inductive RecordingCall where
  | start
  | stop
  | status
  | delete
  deriving Repr, DecidableEq

structure RecordingStatus where
  ready : Bool
  /-- Absent until ready. -/
  durationSec : Option ℤ
  deriving Repr, DecidableEq

/-- What a call answered. -/
inductive CallResult (ρ : Type) where
  | start (ref : ρ)
  | stop
  | status (status : RecordingStatus)
  | delete
  deriving Repr, DecidableEq

def CallResult.call {ρ : Type} : CallResult ρ → RecordingCall
  | .start _ => .start
  | .stop => .stop
  | .status _ => .status
  | .delete => .delete

/-- The row of a date's asset. -/
structure ReplayAsset (ρ : Type) where
  dateId : Uuid
  channelId : Uuid
  state : ReplayAssetState
  recordingRef : Option ρ
  recordedFrom : Instant
  recordedUntil : Option Instant
  stoppedAt : Option Instant
  durationSec : Option ℤ
  availableFrom : Option Instant
  expiresAt : Option Instant
  announcedAt : Option Instant
  callAttempts : ℕ
  callNextAttemptAt : Option Instant
  callDeadAt : Option Instant
  failedCall : Option RecordingCall
  deletedAt : Option Instant
  deriving Repr, DecidableEq

/-- What is published of an asset. -/
inductive AssetEvent where
  | ready (dateId channelId : Uuid) (durationSec : ℤ) (availableFrom expiresAt occurredAt : Instant)
  | expired (dateId : Uuid) (occurredAt : Instant)
  deriving Repr, DecidableEq

/-- What the decisions read of the date. -/
structure AssetDateFacts where
  timing : Option DateTiming
  outcome : Option DateOutcome
  deriving Repr, DecidableEq

/-- What a recording ready opens: nothing any more, or a window that closes once. -/
inductive Readiness where
  | withdrawn
  | opens (availableFrom expiresAt : Instant)
  deriving Repr, DecidableEq

/-- Why a call's outcome is not written. -/
inductive SettlementRefusal where
  /-- The provider can never answer differently: given up at once. -/
  | callRefused
  /-- The date or its run is not projected: the readiness waits. -/
  | notProjected
  deriving Repr, DecidableEq

def READINESS_POLL_EVERY_MS : ℤ := 30000

def READINESS_GIVE_UP_AFTER_MS : ℤ := 6 * 3600000

/-- A run on air or interrupted is to be recorded: its date has a replay mode, and no outcome that
takes the replay away. -/
def shouldRecord [ReplayRules] (facts : Option AssetDateFacts) : Bool :=
  match facts with
  | none => false
  | some facts =>
    match facts.timing with
    | none => false
    | some timing =>
      ReplayRules.hasReplayPolicy timing && !ReplayRules.outcomeWithdrawsReplay facts.outcome

def readinessAt [RunRules] [ReplayRules] (now runEndedAt : Instant) (timing : DateTiming)
    (outcome : Option DateOutcome) : Readiness :=
  if ReplayRules.outcomeWithdrawsReplay outcome then .withdrawn
  else
    let expiresAt := ReplayRules.replayClosesAt runEndedAt timing.replayWindowHours
    if !RunRules.isAfter expiresAt now then .withdrawn else .opens now expiresAt

/-- A state a withdrawal can still reach. -/
def canBeWithdrawn (state : ReplayAssetState) : Bool :=
  state = .recording || state = .processing || state = .ready

namespace ReplayAsset

variable {ρ : Type}

/-- The row inserted for a live run. -/
def requested (dateId channelId : Uuid) (startedAt : Instant) : ReplayAsset ρ where
  dateId
  channelId
  state := .recording
  recordingRef := none
  recordedFrom := startedAt
  recordedUntil := none
  stoppedAt := none
  durationSec := none
  availableFrom := none
  expiresAt := none
  announcedAt := none
  callAttempts := 0
  callNextAttemptAt := none
  callDeadAt := none
  failedCall := none
  deletedAt := none

/-- The recording closes with its run's end. -/
def closesWith (asset : ReplayAsset ρ) (runEndedAt : Option Instant) : Bool :=
  asset.state = .recording && asset.recordingRef.isSome && runEndedAt.isSome

def isWithdrawn [ReplayRules] (asset : ReplayAsset ρ) (outcome : Option DateOutcome) : Bool :=
  canBeWithdrawn asset.state && ReplayRules.outcomeWithdrawsReplay outcome

def isExpired [RunRules] (asset : ReplayAsset ρ) (now : Instant) : Bool :=
  asset.state = .ready && asset.expiresAt.any fun expiresAt => !RunRules.isAfter expiresAt now

/-- The call an asset owes: a recording not started starts; a processing one is stopped, then
polled; a deleting one is stopped first when it never was, then deleted. -/
def callDue (asset : ReplayAsset ρ) : Option RecordingCall :=
  match asset.state with
  | .recording => if asset.recordingRef.isNone then some .start else none
  | .processing => if asset.stoppedAt.isNone then some .stop else some .status
  | .deleting =>
    if asset.recordingRef.isSome && asset.stoppedAt.isNone then some .stop else some .delete
  | _ => none

/-- Only an asset whose readiness was announced has an expiry to announce. -/
def owesExpiredEvent (asset : ReplayAsset ρ) : Bool :=
  asset.state = .ready && asset.announcedAt.isSome

/-- The next call due at once: its attempts anew, nothing scheduled. -/
def callDueNow (asset : ReplayAsset ρ) : ReplayAsset ρ :=
  { asset with callAttempts := 0, callNextAttemptAt := none }

/-- Deletion owed, and the expiry announced when the readiness was. -/
def toDeleting (asset : ReplayAsset ρ) (now : Instant) : ReplayAsset ρ × List AssetEvent :=
  ({ asset.callDueNow with state := .deleting, callDeadAt := none, failedCall := none },
    if asset.owesExpiredEvent then [.expired asset.dateId now] else [])

/-! ## The passes -/

/-- `none` where the pass leaves the row it locked. -/
def close (asset : ReplayAsset ρ) (runEndedAt : Option Instant) : Option (ReplayAsset ρ) :=
  if asset.closesWith runEndedAt then
    some { asset.callDueNow with state := .processing, recordedUntil := runEndedAt }
  else none

def withdrawOne [ReplayRules] (asset : ReplayAsset ρ) (outcome : Option DateOutcome)
    (now : Instant) : Option (ReplayAsset ρ × List AssetEvent) :=
  if asset.isWithdrawn outcome then some (asset.toDeleting now) else none

def expireOne [RunRules] (asset : ReplayAsset ρ) (now : Instant) :
    Option (ReplayAsset ρ × List AssetEvent) :=
  if asset.isExpired now then some (asset.toDeleting now) else none

/-! ## The calls -/

/-- The assets owing a call at `now`, as the claim's statement reads them. -/
def isDue (asset : ReplayAsset ρ) (now : Instant) : Bool :=
  asset.callDeadAt.isNone &&
    (asset.state = .recording || asset.state = .processing || asset.state = .deleting) &&
    (asset.state ≠ .recording || asset.recordingRef.isNone) &&
    asset.callNextAttemptAt.all fun next => next ≤ now

/-- The claim counts the attempt and moves the next one out. -/
def claimed (asset : ReplayAsset ρ) (next : Instant) : ReplayAsset ρ :=
  { asset with callAttempts := asset.callAttempts + 1, callNextAttemptAt := some next }

/-- A start's reference kept, or back when the asset moved on while the provider started. -/
def settleStart (asset : Option (ReplayAsset ρ)) (ref : ρ) : Option (ReplayAsset ρ) × Option ρ :=
  match asset with
  | none => (none, some ref)
  | some asset =>
    if asset.recordingRef.isNone && (asset.state = .recording || asset.state = .deleting) then
      (some { asset.callDueNow with recordingRef := some ref }, none)
    else (some asset, some ref)

/-- `runEndedAt` and `facts` are read in the settlement's own transaction. -/
def settleStatus [RunRules] [ReplayRules] (asset : ReplayAsset ρ) (status : RecordingStatus)
    (facts : Option AssetDateFacts) (runEndedAt : Option Instant) (now : Instant) :
    Except SettlementRefusal (ReplayAsset ρ × List AssetEvent) :=
  match status.ready, status.durationSec with
  | true, some durationSec =>
    match facts.bind fun facts => facts.timing, runEndedAt with
    | some timing, some endedAt =>
      match readinessAt now endedAt timing (facts.bind fun facts => facts.outcome) with
      | .withdrawn => .ok ({ asset.callDueNow with state := .deleting }, [])
      | .opens availableFrom expiresAt =>
        .ok ({ asset.callDueNow with
            state := .ready
            durationSec := some durationSec
            availableFrom := some availableFrom
            expiresAt := some expiresAt
            announcedAt := some now },
          [.ready asset.dateId asset.channelId durationSec availableFrom expiresAt now])
    | _, _ => .error .notProjected
  | _, _ =>
    let giveUpAt := asset.recordedUntil.getD now + READINESS_GIVE_UP_AFTER_MS
    if !RunRules.isAfter giveUpAt now then .error .callRefused
    else
      .ok ({ asset with
          callAttempts := 0
          callNextAttemptAt := some (now + READINESS_POLL_EVERY_MS) }, [])

/-- What a settlement leaves: the row, what it publishes, and a recording started that the asset does
not keep. -/
structure Settled (ρ : Type) where
  asset : Option (ReplayAsset ρ)
  events : List AssetEvent
  orphan : Option ρ
  deriving Repr, DecidableEq

/-- The row still owes the call, or the outcome is not for it any more. -/
def ifOwed (asset : Option (ReplayAsset ρ)) (call : RecordingCall)
    (write : ReplayAsset ρ → Except SettlementRefusal (ReplayAsset ρ × List AssetEvent)) :
    Except SettlementRefusal (Settled ρ) :=
  match asset with
  | none => .ok ⟨none, [], none⟩
  | some asset =>
    if asset.callDue ≠ some call then .ok ⟨some asset, [], none⟩
    else (write asset).map fun written => ⟨some written.1, written.2, none⟩

/-- The outcome of a call, decided again on the locked row. -/
def settle [RunRules] [ReplayRules] (asset : Option (ReplayAsset ρ)) (result : CallResult ρ)
    (facts : Option AssetDateFacts) (runEndedAt : Option Instant) (now : Instant) :
    Except SettlementRefusal (Settled ρ) :=
  match result with
  | .start ref =>
    let started := settleStart asset ref
    .ok ⟨started.1, [], started.2⟩
  | .stop =>
    ifOwed asset .stop fun asset => .ok ({ asset.callDueNow with stoppedAt := some now }, [])
  | .delete =>
    ifOwed asset .delete fun asset =>
      .ok ({ asset.callDueNow with
        state := .deleted, deletedAt := some now, recordingRef := none }, [])
  | .status status =>
    ifOwed asset .status fun asset => asset.settleStatus status facts runEndedAt now

/-- The call refused for good or out of attempts: `none` where the asset owes another one. -/
def giveUp (asset : ReplayAsset ρ) (call : RecordingCall) (now : Instant) :
    Option (ReplayAsset ρ) :=
  if asset.callDue = some call then
    some { asset with
      state := .failed
      callDeadAt := some now
      callNextAttemptAt := none
      failedCall := some call }
  else none

/-! ## What a transaction does to the row -/

/-- What one transaction does to the row it locked, and what it publishes. -/
inductive Move (before after : ReplayAsset ρ) : List AssetEvent → Prop
  | kept (hstate : after.state = before.state) (href : after.recordingRef = before.recordingRef)
      (hannounced : after.announcedAt = before.announcedAt) : Move before after []
  | started (ref : ρ) (hnone : before.recordingRef = none)
      (hfrom : before.state = .recording ∨ before.state = .deleting)
      (hstate : after.state = before.state) (href : after.recordingRef = some ref)
      (hannounced : after.announcedAt = before.announcedAt) : Move before after []
  | closed (hfrom : before.state = .recording) (hto : after.state = .processing)
      (href : after.recordingRef = before.recordingRef) : Move before after []
  | announced (hfrom : before.state = .processing) (hto : after.state = .ready)
      (href : after.recordingRef = before.recordingRef) (hannounced : after.announcedAt.isSome)
      (durationSec : ℤ) (availableFrom expiresAt now : Instant) :
      Move before after
        [.ready before.dateId before.channelId durationSec availableFrom expiresAt now]
  | deleting {events : List AssetEvent} (hfrom : canBeWithdrawn before.state = true)
      (hto : after.state = .deleting) (href : after.recordingRef = before.recordingRef)
      (hevents : events = [] ∧ before.owesExpiredEvent = false ∨
        ∃ now, events = [.expired before.dateId now] ∧ before.owesExpiredEvent = true) :
      Move before after events
  | deleted (hdue : before.callDue = some .delete) (hto : after.state = .deleted)
      (href : after.recordingRef = none) : Move before after []
  | failed (hdue : before.callDue.isSome) (hto : after.state = .failed)
      (href : after.recordingRef = before.recordingRef) : Move before after []

section Moves

variable [RunRules] [ReplayRules] {asset after : ReplayAsset ρ} {events : List AssetEvent}
  {now : Instant}

omit [RunRules] [ReplayRules] in
theorem callDue_eq_start (h : asset.callDue = some .start) :
    asset.state = .recording ∧ asset.recordingRef = none := by
  unfold callDue at h
  split at h
  · rename_i hstate
    split_ifs at h with href
    exact ⟨hstate, Option.isNone_iff_eq_none.mp href⟩
  · split_ifs at h <;> simp at h
  · split_ifs at h <;> simp at h
  · simp at h

omit [RunRules] [ReplayRules] in
theorem callDue_eq_status (h : asset.callDue = some .status) : asset.state = .processing := by
  unfold callDue at h
  split at h
  · split_ifs at h
    simp at h
  · assumption
  · split_ifs at h <;> simp at h
  · simp at h

omit [RunRules] [ReplayRules] in
theorem callDue_eq_delete (h : asset.callDue = some .delete) : asset.state = .deleting := by
  unfold callDue at h
  split at h
  · split_ifs at h
    simp at h
  · split_ifs at h <;> simp at h
  · assumption
  · simp at h

omit [RunRules] [ReplayRules] in
theorem close_move {runEndedAt : Option Instant} (h : asset.close runEndedAt = some after) :
    asset.Move after [] := by
  unfold close at h
  split_ifs at h with hcloses
  obtain rfl := Option.some.inj h
  simp only [closesWith, Bool.and_eq_true, decide_eq_true_eq] at hcloses
  exact .closed hcloses.1.1 rfl rfl

omit [RunRules] [ReplayRules] in
theorem toDeleting_move (hfrom : canBeWithdrawn asset.state = true) (now : Instant) :
    asset.Move (asset.toDeleting now).1 (asset.toDeleting now).2 := by
  unfold toDeleting
  refine .deleting hfrom rfl rfl ?_
  split_ifs with howes
  · exact .inr ⟨now, rfl, howes⟩
  · exact .inl ⟨rfl, Bool.not_eq_true _ ▸ howes⟩

omit [RunRules] in
theorem withdrawOne_move {outcome : Option DateOutcome}
    (h : asset.withdrawOne outcome now = some (after, events)) : asset.Move after events := by
  unfold withdrawOne at h
  split_ifs at h with hwithdrawn
  rw [Option.some.injEq, Prod.mk.injEq] at h
  obtain ⟨rfl, rfl⟩ := h
  simp only [isWithdrawn, Bool.and_eq_true] at hwithdrawn
  exact toDeleting_move hwithdrawn.1 now

omit [ReplayRules] in
theorem expireOne_move (h : asset.expireOne now = some (after, events)) :
    asset.Move after events := by
  unfold expireOne at h
  split_ifs at h with hexpired
  rw [Option.some.injEq, Prod.mk.injEq] at h
  obtain ⟨rfl, rfl⟩ := h
  simp only [isExpired, Bool.and_eq_true, decide_eq_true_eq] at hexpired
  apply toDeleting_move
  rw [hexpired.1]
  rfl

omit [RunRules] [ReplayRules] in
theorem claimed_move (next : Instant) : asset.Move (asset.claimed next) [] := .kept rfl rfl rfl

omit [RunRules] [ReplayRules] in
theorem giveUp_move {call : RecordingCall} (h : asset.giveUp call now = some after) :
    asset.Move after [] := by
  unfold giveUp at h
  split_ifs at h with hdue
  obtain rfl := Option.some.inj h
  exact .failed (by rw [hdue]; rfl) rfl rfl

theorem settleStatus_move {status : RecordingStatus} {facts : Option AssetDateFacts}
    {runEndedAt : Option Instant} (hdue : asset.callDue = some .status)
    (h : asset.settleStatus status facts runEndedAt now = .ok (after, events)) :
    asset.Move after events := by
  have hfrom := callDue_eq_status hdue
  unfold settleStatus at h
  split at h
  · split at h
    · split at h
      · rw [Except.ok.injEq, Prod.mk.injEq] at h
        obtain ⟨rfl, rfl⟩ := h
        refine .deleting ?_ rfl rfl (.inl ⟨rfl, ?_⟩)
        · rw [hfrom]
          rfl
        · simp [owesExpiredEvent, hfrom]
      · rw [Except.ok.injEq, Prod.mk.injEq] at h
        obtain ⟨rfl, rfl⟩ := h
        refine .announced hfrom ?_ ?_ ?_ _ _ _ now
        · rfl
        · rfl
        · rfl
    · cases h
  · simp only at h
    split_ifs at h
    rw [Except.ok.injEq, Prod.mk.injEq] at h
    obtain ⟨rfl, rfl⟩ := h
    exact .kept rfl rfl rfl

end Moves

/-- What a transaction does to the date's row, there or not yet. -/
inductive RowMove : Option (ReplayAsset ρ) → Option (ReplayAsset ρ) → List AssetEvent → Prop
  | same (row : Option (ReplayAsset ρ)) : RowMove row row []
  | requested (dateId channelId : Uuid) (startedAt : Instant) :
      RowMove none (some (.requested dateId channelId startedAt)) []
  | moved {before after : ReplayAsset ρ} {events : List AssetEvent}
      (hmove : before.Move after events) : RowMove (some before) (some after) events

section Settlement

variable [RunRules] [ReplayRules] {asset : Option (ReplayAsset ρ)} {outcome : Settled ρ}
  {facts : Option AssetDateFacts} {runEndedAt : Option Instant} {now : Instant}

omit [RunRules] [ReplayRules] in
/-- An outcome that is still owed is written, any other leaves the row. -/
theorem ifOwed_cases {call : RecordingCall}
    {write : ReplayAsset ρ → Except SettlementRefusal (ReplayAsset ρ × List AssetEvent)}
    (h : ifOwed asset call write = .ok outcome) :
    outcome = ⟨asset, [], none⟩ ∨ ∃ owing written, asset = some owing ∧
      owing.callDue = some call ∧ write owing = .ok written ∧
      outcome = ⟨some written.1, written.2, none⟩ := by
  unfold ifOwed at h
  split at h
  · exact .inl (Except.ok.inj h).symm
  · rename_i owing
    split_ifs at h with hdue
    · exact .inl (Except.ok.inj h).symm
    · rw [not_not] at hdue
      cases hwrite : write owing with
      | error e =>
          rw [hwrite] at h
          cases h
      | ok written =>
          rw [hwrite] at h
          exact .inr ⟨owing, written, rfl, hdue, hwrite, (Except.ok.inj h).symm⟩

omit [RunRules] [ReplayRules] in
theorem settleStart_rowMove (ref : ρ) : RowMove asset (settleStart asset ref).1 [] := by
  unfold settleStart
  cases asset with
  | none => exact .same none
  | some asset =>
      simp only
      split_ifs with hkept
      · simp only [Bool.and_eq_true, Bool.or_eq_true, decide_eq_true_eq,
          Option.isNone_iff_eq_none] at hkept
        exact .moved (.started ref hkept.1 hkept.2 rfl rfl rfl)
      · exact .same _

omit [RunRules] [ReplayRules] in
/-- A recording not started keeps the reference of its start. -/
theorem settleStart_kept {row : ReplayAsset ρ} (hstate : row.state = .recording)
    (href : row.recordingRef = none) (ref : ρ) :
    settleStart (some row) ref = (some { row.callDueNow with recordingRef := some ref }, none) := by
  simp [settleStart, hstate, href]

/-- Only a start's settlement leaves a recording to delete. -/
theorem settle_orphan_none {result : CallResult ρ}
    (h : settle asset result facts runEndedAt now = .ok outcome) (hcall : result.call ≠ .start) :
    outcome.orphan = none := by
  cases result with
  | start ref => exact absurd rfl hcall
  | stop | status | delete => obtain rfl | ⟨_, _, _, _, _, rfl⟩ := ifOwed_cases h <;> rfl

theorem settle_rowMove {result : CallResult ρ}
    (h : settle asset result facts runEndedAt now = .ok outcome) :
    RowMove asset outcome.asset outcome.events := by
  cases result with
  | start ref =>
      rw [← Except.ok.inj h]
      exact settleStart_rowMove ref
  | stop =>
      obtain rfl | ⟨owing, written, rfl, -, hwrite, rfl⟩ := ifOwed_cases h
      · exact .same _
      · rw [← Except.ok.inj hwrite]
        exact .moved (.kept rfl rfl rfl)
  | delete =>
      obtain rfl | ⟨owing, written, rfl, hdue, hwrite, rfl⟩ := ifOwed_cases h
      · exact .same _
      · rw [← Except.ok.inj hwrite]
        exact .moved (.deleted hdue rfl rfl)
  | status status =>
      obtain rfl | ⟨owing, written, rfl, hdue, hwrite, rfl⟩ := ifOwed_cases h
      · exact .same _
      · exact .moved (settleStatus_move hdue hwrite)

end Settlement

end ReplayAsset

end Arthome.Streaming
