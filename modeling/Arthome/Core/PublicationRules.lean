import Arthome.Core.ReplayRules
import Arthome.Core.RunRules
import Arthome.Core.WatchRules

/-!
# Core's rules for a date's publication

What a transition of a publication commands, a date's outcome declares and its replay
needs, and what `@arthome/core` decides about each. `LawfulPublicationRules` is what the
results rely on: a command is refused unless it names the version; publishing is the one
way out of what is not public, and nothing public goes back; a live date is left by its
run's end alone, and an ended one only puts its replay online; a replay goes
online from pending with its file ready; an outcome is declared of a public date, and a
final one is never replaced; a date that promised a replay has one unless its outcome
took it away.
-/

namespace Arthome.Core

inductive PublicationChecklistItem where
  | titleAndDiscipline
  | poster
  | description
  | atLeastOneActivePrice
  | capacity
  | technicalCheckPassed
  | chatModeSet
  deriving Repr, DecidableEq

/-- What an irreversible transition commits to. -/
inductive PublicationPromise where
  | pricesEngaged
  | replaySold
  deriving Repr, DecidableEq

structure PublicationTransitionCommand where
  toState : PublicationState
  expectedVersion : ℕ
  acknowledgedPromise : Option PublicationPromise
  deriving Repr, DecidableEq

structure PublicationTransition where
  fromState : PublicationState
  toState : PublicationState
  irreversiblePromiseCode : Option PublicationPromise
  deriving Repr, DecidableEq

structure PublicationReadiness where
  ready : Bool
  missing : List PublicationChecklistItem
  deriving Repr, DecidableEq

structure OutcomeDeclaration where
  outcome : DateOutcome
  rescheduledTo : Option Instant
  deriving Repr, DecidableEq

/-- What an outcome is declared of. -/
structure OutcomeSubject where
  outcome : Option DateOutcome
  postponements : ℕ
  publicationState : PublicationState
  timing : DateTiming
  deriving Repr, DecidableEq

/-- What core reads of a replay to put it online. -/
structure ReplaySubject where
  state : ReplayState
  assetReady : Bool
  closesAt : Instant
  now : Instant
  deriving Repr, DecidableEq

/-- Why a command or a fact about a date was refused; the last two are plain errors, which a
consumer retries. -/
inductive DateRefusal where
  | notFound
  | schemaInvalid (paths : List String)
  | stateConflict (currentVersion : ℕ) (state : PublicationState)
  | replayConflict (currentVersion : ℕ) (state : ReplayState)
  | faceConflict (currentVersion : ℕ)
  | publicationTransitionForbidden (current target : PublicationState)
  | publicationChecklistIncomplete (missing : List PublicationChecklistItem)
  | core (code : String)
  | runEndedBeforeStarted (dateId : Uuid)
  | replayFactBeforeRunEnded (dateId : Uuid)
  | error (message : String)
  deriving Repr, DecidableEq

/-- Whether a publication in the state is served to the public. -/
def PublicationState.isPublic : PublicationState → Bool
  | .draft | .reserve => false
  | _ => true

/-- What core computes for a publication. -/
class PublicationRules where
  /-- The state and version, the command, and whether the caller may decide. -/
  assertCommandedTransition : PublicationState → ℕ → PublicationTransitionCommand → Bool →
    Except DateRefusal PublicationTransition
  isEventDriven : PublicationState → PublicationState → Bool
  /-- From the items satisfied. -/
  publicationReadiness : List PublicationChecklistItem → PublicationReadiness
  assertOutcomeDeclarable : OutcomeSubject → OutcomeDeclaration → Instant → Except DateRefusal Unit
  assertReplayGoesOnline : Option ReplaySubject → Except DateRefusal Unit
  /-- The policy promised, the hours of its window, and the outcome. -/
  createsReplayOnLiveEnd : ReplayPolicy → ℤ → Option DateOutcome → Bool
  ROOM_OPENS_MINUTES_BEFORE : ℤ
  worldwideRights : TerritoryRights

/-- What the code relies on core for. -/
class LawfulPublicationRules [PublicationRules] [ReplayRules] : Prop where
  commanded {state version command canDecide transition} :
    PublicationRules.assertCommandedTransition state version command canDecide = .ok transition →
      command.expectedVersion = version
  publishes {state version command canDecide transition} :
    PublicationRules.assertCommandedTransition state version command canDecide = .ok transition →
      (transition.irreversiblePromiseCode = some .pricesEngaged ↔
        state.isPublic = false ∧ command.toState.isPublic = true)
  stays_public {state version command canDecide transition} :
    PublicationRules.assertCommandedTransition state version command canDecide = .ok transition →
      state.isPublic = true → command.toState.isPublic = true
  run_learned {state version command canDecide transition} :
    PublicationRules.assertCommandedTransition state version command canDecide = .ok transition →
      state ≠ .live ∧ state ≠ .replayOnline
  replay_after_end {state version command canDecide transition} :
    PublicationRules.assertCommandedTransition state version command canDecide = .ok transition →
      (command.toState = .replayOnline ↔ state = .ended)
  eventDriven_iff (source target : PublicationState) :
    PublicationRules.isEventDriven source target = true ↔
      (source = .technical ∧ target = .live) ∨ (source = .live ∧ target = .ended)
  goes_online {subject} : PublicationRules.assertReplayGoesOnline subject = .ok () →
    ∃ replay, subject = some replay ∧ replay.state = .pending ∧ replay.assetReady = true
  declarable {subject declaration now} :
    PublicationRules.assertOutcomeDeclarable subject declaration now = .ok () →
      subject.publicationState.isPublic = true ∧
        (subject.outcome = none ∨ subject.outcome = some .postponed)
  keeps_replay (outcome : Option DateOutcome) : outcome = none ∨ outcome = some .postponed →
    ReplayRules.outcomeWithdrawsReplay outcome = false
  creates_iff (policy : ReplayPolicy) (windowHours : ℤ) (outcome : Option DateOutcome) :
    PublicationRules.createsReplayOnLiveEnd policy windowHours outcome = true ↔
      PublicationRules.createsReplayOnLiveEnd policy windowHours none = true ∧
        ReplayRules.outcomeWithdrawsReplay outcome = false

namespace Sample

/-- The transitions a studio commands, and what each commits to. -/
def offered : PublicationState → PublicationState → Option (Option PublicationPromise)
  | .draft, .reserve => some none
  | .draft, .scheduled => some (some .pricesEngaged)
  | .reserve, .draft => some none
  | .reserve, .scheduled => some (some .pricesEngaged)
  | .scheduled, .technical => some none
  | .technical, .scheduled => some none
  | .ended, .replayOnline => some (some .replaySold)
  | _, _ => none

/-- Every item that blocks a publication. -/
def blockingItems : List PublicationChecklistItem :=
  [.titleAndDiscipline, .poster, .description, .atLeastOneActivePrice, .capacity,
    .technicalCheckPassed, .chatModeSet]

scoped instance publicationRules : PublicationRules where
  assertCommandedTransition state version command canDecide :=
    if command.expectedVersion ≠ version then .error (.stateConflict version state)
    else
      match offered state command.toState with
      | none => .error (.publicationTransitionForbidden state command.toState)
      | some promise =>
        if canDecide = false then .error (.core "publication.decision_refused")
        else if promise.isSome ∧ command.acknowledgedPromise ≠ promise then
          .error (.core "publication.promise_unacknowledged")
        else .ok ⟨state, command.toState, promise⟩
  isEventDriven source target :=
    decide ((source = .technical ∧ target = .live) ∨ (source = .live ∧ target = .ended))
  publicationReadiness satisfied :=
    let missing := blockingItems.filter fun item => item ∉ satisfied
    ⟨missing.isEmpty, missing⟩
  assertOutcomeDeclarable subject declaration now :=
    if subject.publicationState.isPublic = false then .error (.core "state.conflict")
    else if subject.outcome = some .cancelled ∨ subject.outcome = some .interrupted then
      .error (.core "state.conflict")
    else if declaration.outcome = .postponed ∧ 3 ≤ subject.postponements then
      .error (.core "date.postponement_limit_reached")
    else if declaration.outcome = .postponed ∧ subject.timing.startsAt ≤ now then
      .error (.core "state.conflict")
    else if declaration.outcome = .interrupted ∧ now < subject.timing.startsAt then
      .error (.core "date.not_started")
    else .ok ()
  assertReplayGoesOnline
    | none => .error (.core "date.replay_unavailable")
    | some replay =>
      if replay.state ≠ .pending ∨ replay.closesAt ≤ replay.now then
        .error (.core "date.replay_unavailable")
      else if replay.assetReady = false then .error (.core "date.replay_asset_not_ready")
      else .ok ()
  createsReplayOnLiveEnd policy windowHours outcome :=
    decide (policy ≠ .none ∧ 0 < windowHours) &&
      !ReplayRules.outcomeWithdrawsReplay outcome
  ROOM_OPENS_MINUTES_BEFORE := 30
  worldwideRights := ⟨.worldwide, [], none⟩

theorem assertCommandedTransition_ok {state : PublicationState} {version : ℕ}
    {command : PublicationTransitionCommand} {canDecide : Bool} {transition : PublicationTransition}
    (h : PublicationRules.assertCommandedTransition state version command canDecide =
      .ok transition) :
    command.expectedVersion = version ∧
      offered state command.toState = some transition.irreversiblePromiseCode := by
  cases hoffered : offered state command.toState with
  | none =>
      simp only [PublicationRules.assertCommandedTransition, hoffered] at h
      split_ifs at h
  | some promise =>
      simp only [PublicationRules.assertCommandedTransition, hoffered] at h
      split_ifs at h with hversion
      cases h
      exact ⟨not_not.mp hversion, rfl⟩

/-- What the table of transitions says of each. -/
theorem offered_some {source target : PublicationState} {promise : Option PublicationPromise}
    (h : offered source target = some promise) :
    (promise = some .pricesEngaged ↔ source.isPublic = false ∧ target.isPublic = true) ∧
      (source.isPublic = true → target.isPublic = true) ∧
      (source ≠ .live ∧ source ≠ .replayOnline) ∧
      (target = .replayOnline ↔ source = .ended) := by
  cases source <;> cases target <;> cases h <;> decide

scoped instance lawfulPublicationRules : LawfulPublicationRules where
  commanded h := (assertCommandedTransition_ok h).1
  publishes h := (offered_some (assertCommandedTransition_ok h).2).1
  stays_public h := (offered_some (assertCommandedTransition_ok h).2).2.1
  run_learned h := (offered_some (assertCommandedTransition_ok h).2).2.2.1
  replay_after_end h := (offered_some (assertCommandedTransition_ok h).2).2.2.2
  eventDriven_iff source target := by simp [PublicationRules.isEventDriven]
  goes_online {subject} h := by
    cases subject with
    | none => cases h
    | some replay =>
        simp only [PublicationRules.assertReplayGoesOnline] at h
        split_ifs at h with hunavailable hfile
        exact ⟨replay, rfl, not_not.mp (not_or.mp hunavailable).1, by simpa using hfile⟩
  declarable {subject declaration now} h := by
    simp only [PublicationRules.assertOutcomeDeclarable] at h
    split_ifs at h with hpublic hfinal
    refine ⟨by simpa using hpublic, ?_⟩
    cases houtcome : subject.outcome with
    | none => exact .inl rfl
    | some outcome => cases outcome <;> simp [houtcome] at hfinal ⊢
  keeps_replay outcome h := by
    rcases h with rfl | rfl <;> rfl
  creates_iff policy windowHours outcome := by
    simp [PublicationRules.createsReplayOnLiveEnd, ReplayRules.outcomeWithdrawsReplay]

end Sample

end Arthome.Core
