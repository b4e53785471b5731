import Arthome.Core.Vocabulary
import Arthome.Library.Machine
import Arthome.Library.Rows

/-!
# An idempotency key's record

A command runs inside its own transaction under the record of its key: the record is
inserted first, so that a second attempt with the key waits on it, and completed with
the envelope before the commit. An attempt that finds the key taken answers the record's
envelope to a request of the same fingerprint. Attempts are transactions of READ
COMMITTED statements, each able to fail anywhere.
-/

namespace Arthome.Edge

open Arthome.Core Arthome.Library

def idempotencyKeyLifetimeHours : ℤ := 24

/-- The account, absent for an anonymous visitor's request, and the key; records share no scope. -/
abbrev RecordScope := Option Uuid × String

structure IdempotentRequest where
  key : String
  accountId : Option Uuid
  fingerprint : String
  statusCode : ℕ
  deriving Repr, DecidableEq

def IdempotentRequest.scope (request : IdempotentRequest) : RecordScope :=
  (request.accountId, request.key)

inductive RecordState where
  | inFlight
  | completed
  deriving Repr, DecidableEq

structure StoredRecord (Envelope : Type) where
  fingerprint : String
  state : RecordState
  statusCode : Option ℕ
  responseBody : Option Envelope
  expiresAt : Instant
  deriving Repr, DecidableEq

/-- What an attempt is told instead of an answer. -/
inductive KeyRefusal where
  | inFlight (retryAfterMs : ℕ)
  | keyReused
  deriving Repr, DecidableEq

def retryAfterMs : ℕ := 1000

/-- Where an attempt's transaction stands. -/
inductive AttemptPhase (Effect Envelope : Type) where
  | notBegun
  | begun
  | claimed
  | ran (effect : Effect) (envelope : Envelope)
  | completed (effect : Effect) (envelope : Envelope)
  /-- The key was taken. -/
  | taken
  | replaying (envelope : Envelope)
  | answered (envelope : Envelope) (replayed : Bool)
  | refused (refusal : KeyRefusal)
  | aborted
  deriving Repr, DecidableEq

/-- An attempt's effect, once committed. -/
structure CommittedEffect (Effect Envelope : Type) where
  attempt : ℕ
  effect : Effect
  envelope : Envelope
  deriving Repr, DecidableEq

/-- The store with its open transactions, named by their attempts. -/
structure Attempts (Effect Envelope : Type) where
  rows : Rows ℕ RecordScope (Option (StoredRecord Envelope))
  effects : List (CommittedEffect Effect Envelope)
  phase : ℕ → AttemptPhase Effect Envelope

/-- One statement of an attempt, or its end. -/
inductive AttemptStep (Effect Envelope : Type) where
  | begin
  | claim (now : Instant)
  /-- The lock was not available in time. -/
  | claimTimedOut
  | run (effect : Effect) (envelope : Envelope)
  | complete
  | replay
  | commit
  /-- Committed, and the attempt is not told. -/
  | commitUnheard
  | abort
  deriving Repr, DecidableEq

inductive StoreAction (Effect Envelope : Type) where
  | attempt (id : ℕ) (step : AttemptStep Effect Envelope)
  /-- The retention job. -/
  | purge (now : Instant)
  deriving Repr, DecidableEq

namespace Attempts

variable {Effect Envelope : Type}

def initial : Attempts Effect Envelope := ⟨.ofCommitted fun _ => none, [], fun _ => .notBegun⟩

def enter (s : Attempts Effect Envelope) (id : ℕ) (phase : AttemptPhase Effect Envelope) :
    Attempts Effect Envelope := { s with phase := Function.update s.phase id phase }

/-- The transaction rolled back. -/
def rolledBack (s : Attempts Effect Envelope) (id : ℕ) (phase : AttemptPhase Effect Envelope) :
    Attempts Effect Envelope := { s.enter id phase with rows := s.rows.rollback id }

/-- The transaction committed, with its effect. -/
def committed (s : Attempts Effect Envelope) (id : ℕ) (phase : AttemptPhase Effect Envelope) :
    Attempts Effect Envelope :=
  { s.enter id phase with
    rows := s.rows.commit id
    effects :=
      match s.phase id with
      | .completed effect envelope => s.effects ++ [⟨id, effect, envelope⟩]
      | _ => s.effects }

/-- The insertion waits on another attempt's uncommitted record. -/
def claim (s : Attempts Effect Envelope) (request : IdempotentRequest) (id : ℕ) (now : Instant) :
    Option (Attempts Effect Envelope) :=
  if s.rows.Free id request.scope then
    match s.rows.view id request.scope with
    | some _ => some (s.enter id .taken)
    | none =>
      some
        { s.enter id .claimed with
          rows := s.rows.put id request.scope (some
            { fingerprint := request.fingerprint
              state := .inFlight
              statusCode := none
              responseBody := none
              expiresAt := now + idempotencyKeyLifetimeHours * 3600000 }) }
  else none

def complete (s : Attempts Effect Envelope) (request : IdempotentRequest) (id : ℕ)
    (effect : Effect) (envelope : Envelope) : Attempts Effect Envelope :=
  { s.enter id (.completed effect envelope) with
    rows := s.rows.put id request.scope ((s.rows.view id request.scope).map fun stored =>
      { stored with
        state := .completed
        statusCode := some request.statusCode
        responseBody := some envelope }) }

/-- What the record answers a request that found the key taken. -/
def replayOf (request : IdempotentRequest) (stored : Option (StoredRecord Envelope)) :
    Except KeyRefusal Envelope :=
  match stored with
  | none => .error (.inFlight retryAfterMs)
  | some stored =>
    match stored.state, stored.responseBody with
    | .completed, some envelope =>
      if stored.fingerprint ≠ request.fingerprint then .error .keyReused else .ok envelope
    | _, _ => .error (.inFlight retryAfterMs)

def replay (s : Attempts Effect Envelope) (request : IdempotentRequest) (id : ℕ) :
    Attempts Effect Envelope :=
  match replayOf request (s.rows.view id request.scope) with
  | .ok envelope => s.enter id (.replaying envelope)
  | .error refusal => s.rolledBack id (.refused refusal)

/-- The records past their expiry deleted. -/
def purge (s : Attempts Effect Envelope) (now : Instant) : Attempts Effect Envelope :=
  { s with
    rows :=
      { s.rows with
        committed := fun k => (s.rows.committed k).filter fun stored => now ≤ stored.expiresAt } }

/-- The attempt runs on: nothing has been answered, refused or aborted. -/
def Running : AttemptPhase Effect Envelope → Bool
  | .notBegun | .answered _ _ | .refused _ | .aborted => false
  | _ => true

variable (request : ℕ → IdempotentRequest)

/-- One statement of one attempt; a step that does not apply, or has to wait, is not made. -/
def attemptStep (s : Attempts Effect Envelope) (id : ℕ) (step : AttemptStep Effect Envelope) :
    Option (Attempts Effect Envelope) :=
  match step, s.phase id with
  | .begin, .notBegun => some (s.enter id .begun)
  | .claim now, .begun => s.claim (request id) id now
  | .claimTimedOut, .begun =>
    if s.rows.Free id (request id).scope then none
    else some (s.rolledBack id (.refused (.inFlight retryAfterMs)))
  | .run effect envelope, .claimed => some (s.enter id (.ran effect envelope))
  | .complete, .ran effect envelope => some (s.complete (request id) id effect envelope)
  | .replay, .taken => some (s.replay (request id) id)
  | .commit, .completed _ envelope => some (s.committed id (.answered envelope false))
  | .commit, .replaying envelope => some (s.committed id (.answered envelope true))
  | .commitUnheard, .completed _ _ => some (s.committed id .aborted)
  | .commitUnheard, .replaying _ => some (s.committed id .aborted)
  | .abort, phase => if Running phase then some (s.rolledBack id .aborted) else none
  | _, _ => none

def step (s : Attempts Effect Envelope) :
    StoreAction Effect Envelope → Option (Attempts Effect Envelope)
  | .attempt id step => s.attemptStep request id step
  | .purge now => some (s.purge now)

/-- The retention job leaves the record of the key. -/
def Keeps (k : RecordScope) (s : Attempts Effect Envelope) :
    StoreAction Effect Envelope → Prop
  | .attempt _ _ => True
  | .purge now => ∀ stored ∈ s.rows.committed k, now ≤ stored.expiresAt

instance (k : RecordScope) (s : Attempts Effect Envelope) :
    ∀ action, Decidable (Keeps k s action)
  | .attempt _ _ => inferInstanceAs (Decidable True)
  | .purge now =>
    inferInstanceAs (Decidable (∀ stored ∈ s.rows.committed k, now ≤ stored.expiresAt))

/-! ## What holds of one key -/

/-- The attempt's transaction has inserted the record and not ended. -/
def Holding : AttemptPhase Effect Envelope → Bool
  | .claimed | .ran _ _ | .completed _ _ => true
  | _ => false

/-- The record as the attempt's own statements have left it. -/
def OwnRecord (request : IdempotentRequest) (phase : AttemptPhase Effect Envelope)
    (stored : StoredRecord Envelope) : Prop :=
  stored.fingerprint = request.fingerprint ∧
    ∀ effect envelope, phase = .completed effect envelope → stored.state = .completed ∧
      stored.statusCode = some request.statusCode ∧ stored.responseBody = some envelope

/-- The record a committed effect leaves. -/
def RecordsEffect (request : ℕ → IdempotentRequest) (effect : CommittedEffect Effect Envelope)
    (stored : StoredRecord Envelope) : Prop :=
  stored.fingerprint = (request effect.attempt).fingerprint ∧ stored.state = .completed ∧
    stored.statusCode = some (request effect.attempt).statusCode ∧
    stored.responseBody = some effect.envelope

/-- The effects committed under a key. -/
def effectsOn (s : Attempts Effect Envelope) (k : RecordScope) :
    List (CommittedEffect Effect Envelope) :=
  s.effects.filter fun effect => (request effect.attempt).scope = k

/-- The envelope is the committed effect's, for a request of its fingerprint. -/
def AnsweredBy (s : Attempts Effect Envelope) (k : RecordScope) (id : ℕ) (envelope : Envelope) :
    Prop :=
  ∃ effect ∈ s.effectsOn request k, envelope = effect.envelope ∧
    (request effect.attempt).fingerprint = (request id).fingerprint

/-- One key's record, its effect, and what its attempts hold or answered. -/
structure KeyInv (k : RecordScope) (s : Attempts Effect Envelope) : Prop where
  owner : ∀ id, s.rows.owner k = some id → (request id).scope = k ∧ Holding (s.phase id) = true
  holding : ∀ id, (request id).scope = k → Holding (s.phase id) = true →
    s.rows.committed k = none ∧ ∃ stored, s.rows.held k = some (id, some stored) ∧
      OwnRecord (request id) (s.phase id) stored
  committed : s.effectsOn request k = [] ∧ s.rows.committed k = none ∨
    ∃ effect stored, s.effectsOn request k = [effect] ∧ s.rows.committed k = some stored ∧
      RecordsEffect request effect stored
  taken : ∀ id, (request id).scope = k → s.phase id = .taken → s.rows.committed k ≠ none
  answering : ∀ id envelope, (request id).scope = k →
    (s.phase id = .replaying envelope ∨ ∃ replayed, s.phase id = .answered envelope replayed) →
    s.AnsweredBy request k id envelope

/-- What a step of an attempt does, for each step it can make. -/
inductive AttemptMove (request : IdempotentRequest) (s : Attempts Effect Envelope) (id : ℕ) :
    AttemptStep Effect Envelope → Attempts Effect Envelope → Prop
  | begun : s.phase id = .notBegun → AttemptMove request s id .begin (s.enter id .begun)
  | found (now : Instant) (stored : StoredRecord Envelope) : s.phase id = .begun →
      s.rows.Free id request.scope → s.rows.view id request.scope = some stored →
      AttemptMove request s id (.claim now) (s.enter id .taken)
  | inserted (now : Instant) (stored : StoredRecord Envelope) : s.phase id = .begun →
      s.rows.Free id request.scope → s.rows.view id request.scope = none →
      stored.fingerprint = request.fingerprint →
      AttemptMove request s id (.claim now)
        { s.enter id .claimed with rows := s.rows.put id request.scope (some stored) }
  | timedOut : s.phase id = .begun → ¬ s.rows.Free id request.scope →
      AttemptMove request s id .claimTimedOut
        (s.rolledBack id (.refused (.inFlight retryAfterMs)))
  | ran (effect : Effect) (envelope : Envelope) : s.phase id = .claimed →
      AttemptMove request s id (.run effect envelope) (s.enter id (.ran effect envelope))
  | recorded (effect : Effect) (envelope : Envelope) : s.phase id = .ran effect envelope →
      AttemptMove request s id .complete (s.complete request id effect envelope)
  | replayed (envelope : Envelope) : s.phase id = .taken →
      replayOf request (s.rows.view id request.scope) = .ok envelope →
      AttemptMove request s id .replay (s.enter id (.replaying envelope))
  | replayRefused (refusal : KeyRefusal) : s.phase id = .taken →
      replayOf request (s.rows.view id request.scope) = .error refusal →
      AttemptMove request s id .replay (s.rolledBack id (.refused refusal))
  | effectCommitted (effect : Effect) (envelope : Envelope) (phase : AttemptPhase Effect Envelope)
      (step : AttemptStep Effect Envelope) : s.phase id = .completed effect envelope →
      phase = .answered envelope false ∨ phase = .aborted →
      AttemptMove request s id step (s.committed id phase)
  | replayCommitted (envelope : Envelope) (phase : AttemptPhase Effect Envelope)
      (step : AttemptStep Effect Envelope) : s.phase id = .replaying envelope →
      phase = .answered envelope true ∨ phase = .aborted →
      AttemptMove request s id step (s.committed id phase)
  | aborted : Running (s.phase id) = true →
      AttemptMove request s id .abort (s.rolledBack id .aborted)

section Steps

variable {request : ℕ → IdempotentRequest} {k : RecordScope} {s s' : Attempts Effect Envelope}
  {id : ℕ}

theorem keyInv_initial (k : RecordScope) :
    KeyInv request k (initial : Attempts Effect Envelope) where
  owner id h := by cases h
  holding id _ h := by cases h
  committed := .inl ⟨rfl, rfl⟩
  taken id _ h := by cases h
  answering id envelope _ h := by
    rcases h with h | ⟨replayed, h⟩
    · cases h
    · cases h

@[simp] theorem phase_enter_self (phase : AttemptPhase Effect Envelope) :
    (s.enter id phase).phase id = phase := by simp [enter]

@[simp] theorem phase_enter_of_ne {j : ℕ} (h : j ≠ id) (phase : AttemptPhase Effect Envelope) :
    (s.enter id phase).phase j = s.phase j := by simp [enter, h]

/-- A step of an attempt that leaves the key's record and effect alone keeps the key, if what the
attempt holds or answers is accounted for. -/
theorem KeyInv.moved (h : KeyInv request k s) (id : ℕ)
    (hphase : ∀ j, j ≠ id → s'.phase j = s.phase j) (hheld : s'.rows.held k = s.rows.held k)
    (hcommitted : s'.rows.committed k = s.rows.committed k)
    (heffects : s'.effectsOn request k = s.effectsOn request k)
    (hown : (request id).scope = k → Holding (s'.phase id) = Holding (s.phase id))
    (hrecord : (request id).scope = k → ∀ stored, OwnRecord (request id) (s.phase id) stored →
      OwnRecord (request id) (s'.phase id) stored)
    (htaken : (request id).scope = k → s'.phase id = .taken → s.rows.committed k ≠ none)
    (hanswer : ∀ envelope, (request id).scope = k →
      (s'.phase id = .replaying envelope ∨ ∃ replayed, s'.phase id = .answered envelope replayed) →
      s.AnsweredBy request k id envelope) : KeyInv request k s' := by
  have howner : s'.rows.owner k = s.rows.owner k := congrArg (Option.map Prod.fst) hheld
  have hanswered : ∀ j envelope, s.AnsweredBy request k j envelope →
      s'.AnsweredBy request k j envelope := by
    intro j envelope hby
    unfold AnsweredBy
    rw [heffects]
    exact hby
  constructor
  · intro j hj
    rw [howner] at hj
    obtain ⟨hscope, hholds⟩ := h.owner j hj
    refine ⟨hscope, ?_⟩
    by_cases hid : j = id
    · rw [hid] at hscope hholds ⊢
      rw [hown hscope]
      exact hholds
    · rw [hphase j hid]
      exact hholds
  · intro j hscope hholds
    rw [hcommitted, hheld]
    by_cases hid : j = id
    · rw [hid] at hscope hholds ⊢
      rw [hown hscope] at hholds
      obtain ⟨hnone, stored, hstored, hrecords⟩ := h.holding id hscope hholds
      exact ⟨hnone, stored, hstored, hrecord hscope stored hrecords⟩
    · rw [hphase j hid] at hholds ⊢
      exact h.holding j hscope hholds
  · rw [heffects, hcommitted]
    exact h.committed
  · intro j hscope hj
    rw [hcommitted]
    by_cases hid : j = id
    · rw [hid] at hscope hj
      exact htaken hscope hj
    · rw [hphase j hid] at hj
      exact h.taken j hscope hj
  · intro j envelope hscope hj
    apply hanswered
    by_cases hid : j = id
    · rw [hid] at hscope hj ⊢
      exact hanswer envelope hscope hj
    · rw [hphase j hid] at hj
      exact h.answering j envelope hscope hj

/-- An attempt that holds no record owns none. -/
theorem KeyInv.not_owner (h : KeyInv request k s) (hfree : Holding (s.phase id) = false) :
    s.rows.owner k ≠ some id := by
  intro howner
  rw [(h.owner id howner).2] at hfree
  cases hfree

/-- Only one attempt holds the record, and while it does no effect is committed. -/
theorem KeyInv.sole (h : KeyInv request k s) {j : ℕ} (hid : (request id).scope = k)
    (hholds : Holding (s.phase id) = true) (hj : (request j).scope = k)
    (hjholds : Holding (s.phase j) = true) : j = id := by
  obtain ⟨-, stored, hstored, -⟩ := h.holding id hid hholds
  obtain ⟨-, other, hother, -⟩ := h.holding j hj hjholds
  rw [hstored] at hother
  exact (congrArg Prod.fst (Option.some.inj hother)).symm

theorem KeyInv.none_committed (h : KeyInv request k s) (hnone : s.rows.committed k = none) :
    s.effectsOn request k = [] := by
  rcases h.committed with ⟨hempty, -⟩ | ⟨effect, stored, -, hsome, -⟩
  · exact hempty
  · rw [hnone] at hsome
    cases hsome

theorem KeyInv.not_answering (h : KeyInv request k s) (hnone : s.effectsOn request k = [])
    {envelope : Envelope} (hscope : (request id).scope = k) :
    ¬ (s.phase id = .replaying envelope ∨
      ∃ replayed, s.phase id = .answered envelope replayed) := by
  intro hanswering
  obtain ⟨effect, heffect, -⟩ := h.answering id envelope hscope hanswering
  rw [hnone] at heffect
  cases heffect

/-- The attempt found nothing committed under its key. -/
def FoundNothing : AttemptPhase Effect Envelope → Bool
  | .taken | .replaying _ | .answered _ _ => false
  | _ => true

/-- While nothing is committed under the key, one attempt at most holds it and none was answered. -/
theorem KeyInv.unanswered (h : KeyInv request k s) (hscope : (request id).scope = k)
    (hempty : s.effectsOn request k = []) (hnone : s.rows.committed k = none)
    (hphase : ∀ j, j ≠ id → s'.phase j = s.phase j) (hfound : FoundNothing (s'.phase id) = true)
    (heffects : s'.effects = s.effects) (hcommitted : s'.rows.committed k = s.rows.committed k)
    (howner : ∀ j, s'.rows.owner k = some j → j = id ∧ Holding (s'.phase id) = true)
    (hholding : Holding (s'.phase id) = true → ∃ stored,
      s'.rows.held k = some (id, some stored) ∧ OwnRecord (request id) (s'.phase id) stored)
    (hothers : ∀ j, j ≠ id → (request j).scope = k → Holding (s.phase j) = false) :
    KeyInv request k s' := by
  have hkept : s'.effectsOn request k = [] := by
    unfold effectsOn at hempty ⊢
    rw [heffects, hempty]
  have hstill : s'.rows.committed k = none := hcommitted.trans hnone
  refine ⟨?_, ?_, .inl ⟨hkept, hstill⟩, ?_, ?_⟩
  · intro j hj
    obtain ⟨rfl, hholds⟩ := howner j hj
    exact ⟨hscope, hholds⟩
  · intro j hj hholds
    by_cases hid : j = id
    · rw [hid] at hholds ⊢
      exact ⟨hstill, hholding hholds⟩
    · rw [hphase j hid, hothers j hid hj] at hholds
      cases hholds
  · intro j hj htaken
    by_cases hid : j = id
    · rw [hid] at htaken
      rw [htaken] at hfound
      cases hfound
    · rw [hphase j hid] at htaken
      exact absurd hnone (h.taken j hj htaken)
  · intro j envelope hj hanswering
    by_cases hid : j = id
    · rw [hid] at hanswering
      rcases hanswering with hanswering | ⟨replayed, hanswering⟩
      · rw [hanswering] at hfound
        cases hfound
      · rw [hanswering] at hfound
        cases hfound
    · rw [hphase j hid] at hanswering
      exact absurd hanswering (h.not_answering hempty hj)

/-- While one attempt holds the record, no other does. -/
theorem KeyInv.others (h : KeyInv request k s) (hscope : (request id).scope = k)
    (hholds : Holding (s.phase id) = true) {j : ℕ} (hid : j ≠ id) (hj : (request j).scope = k) :
    Holding (s.phase j) = false := by
  by_contra hjholds
  exact hid (h.sole hscope hholds hj (Bool.not_eq_false _ ▸ hjholds))

/-- The record inserted: the attempt holds it, and no other does. -/
theorem KeyInv.inserted (h : KeyInv request k s) (hscope : (request id).scope = k)
    (hbegun : s.phase id = .begun) (hfree : s.rows.Free id k) (hnone : s.rows.committed k = none)
    {stored : StoredRecord Envelope} (hstored : stored.fingerprint = (request id).fingerprint) :
    KeyInv request k { s.enter id .claimed with rows := s.rows.put id k (some stored) } := by
  have hunowned : s.rows.owner k = none := by
    rcases hfree with hfree | hfree
    · exact hfree
    · exact absurd hfree (h.not_owner (by rw [hbegun]; rfl))
  apply h.unanswered hscope (h.none_committed hnone) hnone
  · exact fun j hid => phase_enter_of_ne hid _
  · show FoundNothing ((s.enter id .claimed).phase id) = true
    rw [phase_enter_self]
    rfl
  · rfl
  · rfl
  · intro j hj
    have hsame : id = j := by simpa using hj
    refine ⟨hsame.symm, ?_⟩
    show Holding ((s.enter id .claimed).phase id) = true
    rw [phase_enter_self]
    rfl
  · intro _
    refine ⟨stored, Rows.held_put_self, hstored, ?_⟩
    intro effect envelope hphase
    simp at hphase
  · intro j _ hj
    by_contra hholds
    obtain ⟨-, other, hother, -⟩ := h.holding j hj (Bool.not_eq_false _ ▸ hholds)
    rw [Rows.owner_of_held hother] at hunowned
    cases hunowned

/-- The record completed by the attempt that holds it. -/
theorem KeyInv.recordCompleted (h : KeyInv request k s) (hscope : (request id).scope = k)
    {effect : Effect} {envelope : Envelope} (hran : s.phase id = .ran effect envelope) :
    KeyInv request k (s.complete (request id) id effect envelope) := by
  have hholds : Holding (s.phase id) = true := by
    rw [hran]
    rfl
  obtain ⟨hnone, stored, hstored, hfingerprint, -⟩ := h.holding id hscope hholds
  have hview : s.rows.view id k = some stored := Rows.view_of_held hstored
  unfold complete
  rw [hscope, hview]
  apply h.unanswered hscope (h.none_committed hnone) hnone
  · exact fun j hid => phase_enter_of_ne hid _
  · show FoundNothing ((s.enter id (.completed effect envelope)).phase id) = true
    rw [phase_enter_self]
    rfl
  · rfl
  · rfl
  · intro j hj
    have hsame : id = j := by simpa using hj
    refine ⟨hsame.symm, ?_⟩
    show Holding ((s.enter id (.completed effect envelope)).phase id) = true
    rw [phase_enter_self]
    rfl
  · intro _
    refine ⟨_, Rows.held_put_self, hfingerprint, ?_⟩
    intro effect' envelope' hphase
    simp only [phase_enter_self, AttemptPhase.completed.injEq] at hphase
    rw [hphase.2]
    exact ⟨rfl, rfl, rfl⟩
  · exact fun j hid hj => h.others hscope hholds hid hj

/-- The effect and its record committed together, whether the attempt is told or not. -/
theorem KeyInv.effectCommitted (h : KeyInv request k s) (hscope : (request id).scope = k)
    {effect : Effect} {envelope : Envelope} (hcompleted : s.phase id = .completed effect envelope)
    {phase : AttemptPhase Effect Envelope}
    (hphase : phase = .answered envelope false ∨ phase = .aborted) :
    KeyInv request k (s.committed id phase) := by
  have hholds : Holding (s.phase id) = true := by
    rw [hcompleted]
    rfl
  obtain ⟨hnone, stored, hstored, hfingerprint, hrecord⟩ := h.holding id hscope hholds
  obtain ⟨hstate, hstatus, hbody⟩ := hrecord effect envelope hcompleted
  have hempty := h.none_committed hnone
  have hview : s.rows.view id k = some stored := Rows.view_of_held hstored
  have howner : s.rows.owner k = some id := Rows.owner_of_held hstored
  have heffects : (s.committed id phase).effectsOn request k = [⟨id, effect, envelope⟩] := by
    have happended : (s.committed id phase).effects = s.effects ++ [⟨id, effect, envelope⟩] := by
      unfold Attempts.committed
      rw [hcompleted]
    unfold effectsOn at hempty ⊢
    rw [happended, List.filter_append, hempty]
    simp [hscope]
  have hnot : Holding phase = false := by
    rcases hphase with rfl | rfl
    · rfl
    · rfl
  constructor
  · intro j hj
    have hgone : (s.rows.commit id).owner k = none := by
      rw [Rows.owner_commit, if_pos howner]
    rw [show (s.committed id phase).rows.owner k = none from hgone] at hj
    cases hj
  · intro j hj hjholds
    by_cases hid : j = id
    · subst hid
      rw [show (s.committed j phase).phase j = phase from phase_enter_self phase, hnot] at hjholds
      cases hjholds
    · rw [show (s.committed id phase).phase j = s.phase j from phase_enter_of_ne hid phase]
        at hjholds
      exact absurd (h.sole hscope hholds hj hjholds) hid
  · exact .inr ⟨_, stored, heffects, hview, hfingerprint, hstate, hstatus, hbody⟩
  · intro j hj _
    rw [show (s.committed id phase).rows.committed k = some stored from hview]
    simp
  · intro j envelope' hj hanswering
    by_cases hid : j = id
    · subst hid
      rw [show (s.committed j phase).phase j = phase from phase_enter_self phase] at hanswering
      have hsame : envelope' = envelope := by
        rcases hphase with rfl | rfl
        · simpa [eq_comm] using hanswering
        · simp at hanswering
      refine ⟨⟨j, effect, envelope⟩, ?_, hsame, rfl⟩
      rw [heffects]
      exact List.mem_singleton_self _
    · rw [show (s.committed id phase).phase j = s.phase j from phase_enter_of_ne hid phase]
        at hanswering
      exact absurd hanswering (h.not_answering hempty hj)

/-- The attempt that held the record rolled back, and the key is free again. -/
theorem KeyInv.abandoned (h : KeyInv request k s) (hscope : (request id).scope = k)
    (hholds : Holding (s.phase id) = true) : KeyInv request k (s.rolledBack id .aborted) := by
  obtain ⟨hnone, stored, hstored, -⟩ := h.holding id hscope hholds
  have howner : s.rows.owner k = some id := Rows.owner_of_held hstored
  have hgone : (s.rolledBack id .aborted).rows.owner k = none := by
    show (s.rows.rollback id).owner k = none
    rw [Rows.owner_rollback, if_pos howner]
  have haborted : (s.rolledBack id .aborted).phase id = .aborted := phase_enter_self _
  apply h.unanswered hscope (h.none_committed hnone) hnone
  · exact fun j hid => phase_enter_of_ne hid _
  · rw [haborted]
    rfl
  · rfl
  · rfl
  · intro j hj
    rw [hgone] at hj
    cases hj
  · intro hstill
    rw [haborted] at hstill
    cases hstill
  · exact fun j hid hj => h.others hscope hholds hid hj

/-- A step of an attempt is one of these moves. -/
theorem attemptStep_move {step : AttemptStep Effect Envelope}
    (h : s.attemptStep request id step = some s') : AttemptMove (request id) s id step s' := by
  unfold attemptStep at h
  split at h
  next hphase =>
    cases h
    exact .begun hphase
  next now hphase =>
    unfold claim at h
    split_ifs at h with hfree
    cases hview : s.rows.view id (request id).scope with
    | some stored =>
        rw [hview] at h
        cases h
        exact .found now stored hphase hfree hview
    | none =>
        rw [hview] at h
        cases h
        exact .inserted now _ hphase hfree hview rfl
  next hphase =>
    split_ifs at h with hfree
    cases h
    exact .timedOut hphase hfree
  next effect envelope hphase =>
    cases h
    exact .ran effect envelope hphase
  next effect envelope hphase =>
    cases h
    exact .recorded effect envelope hphase
  next hphase =>
    cases h
    unfold replay
    cases hreplay : replayOf (request id) (s.rows.view id (request id).scope) with
    | ok envelope => exact .replayed envelope hphase hreplay
    | error refusal => exact .replayRefused refusal hphase hreplay
  next effect envelope hphase =>
    cases h
    exact .effectCommitted effect envelope _ _ hphase (.inl rfl)
  next envelope hphase =>
    cases h
    exact .replayCommitted envelope _ _ hphase (.inl rfl)
  next effect envelope hphase =>
    cases h
    exact .effectCommitted effect envelope _ _ hphase (.inr rfl)
  next envelope hphase =>
    cases h
    exact .replayCommitted envelope _ _ hphase (.inr rfl)
  next phase hphase =>
    split_ifs at h with hrunning
    cases h
    exact .aborted hrunning
  next => cases h

/-- An attempt with another key leaves this one alone. -/
theorem KeyInv.other (h : KeyInv request k s) (hscope : (request id).scope ≠ k)
    {step : AttemptStep Effect Envelope} (hmove : AttemptMove (request id) s id step s') :
    KeyInv request k s' := by
  have hunowned : s.rows.owner k ≠ some id := fun howner => hscope (h.owner id howner).1
  have hkept : ∀ t : Attempts Effect Envelope, (∀ j, j ≠ id → t.phase j = s.phase j) →
      t.rows.held k = s.rows.held k → t.rows.committed k = s.rows.committed k →
      t.effectsOn request k = s.effectsOn request k → KeyInv request k t := by
    intro t hphase hheld hcommitted heffects
    apply h.moved id hphase hheld hcommitted heffects
    · exact fun hs => absurd hs hscope
    · exact fun hs => absurd hs hscope
    · exact fun hs => absurd hs hscope
    · exact fun _ hs => absurd hs hscope
  have hothers : ∀ phase j, j ≠ id → (s.enter id phase).phase j = s.phase j :=
    fun phase j hj => phase_enter_of_ne hj phase
  cases hmove with
  | begun _ => exact hkept _ (hothers _) rfl rfl rfl
  | found now stored _ _ _ => exact hkept _ (hothers _) rfl rfl rfl
  | inserted now stored _ _ _ _ =>
      exact hkept _ (hothers .claimed) (Rows.held_put_of_ne hscope.symm) rfl rfl
  | timedOut _ _ => exact hkept _ (hothers _) (Rows.held_rollback_of_ne hunowned) rfl rfl
  | ran effect envelope _ => exact hkept _ (hothers _) rfl rfl rfl
  | recorded effect envelope _ =>
      exact hkept _ (hothers _) (Rows.held_put_of_ne hscope.symm) rfl rfl
  | replayed envelope _ _ => exact hkept _ (hothers _) rfl rfl rfl
  | replayRefused refusal _ _ =>
      exact hkept _ (hothers _) (Rows.held_rollback_of_ne hunowned) rfl rfl
  | effectCommitted effect envelope phase step hcompleted _ =>
      apply hkept (s.committed id phase) (hothers phase) (Rows.held_commit_of_ne hunowned)
        (Rows.committed_commit_of_ne hunowned)
      unfold effectsOn Attempts.committed
      rw [hcompleted]
      simp [hscope]
  | replayCommitted envelope phase step hreplaying _ =>
      apply hkept (s.committed id phase) (hothers phase) (Rows.held_commit_of_ne hunowned)
        (Rows.committed_commit_of_ne hunowned)
      unfold effectsOn Attempts.committed
      rw [hreplaying]
  | aborted _ => exact hkept _ (hothers _) (Rows.held_rollback_of_ne hunowned) rfl rfl

/-- A step after which the attempt holds no record, having held none before. -/
theorem KeyInv.idle (h : KeyInv request k s) (phase : AttemptPhase Effect Envelope)
    (hbefore : Holding (s.phase id) = false) (hafter : Holding phase = false)
    (hphase : ∀ j, s'.phase j = (s.enter id phase).phase j)
    (hheld : s'.rows.held k = s.rows.held k)
    (hcommitted : s'.rows.committed k = s.rows.committed k) (heffects : s'.effects = s.effects)
    (htaken : (request id).scope = k → phase = .taken → s.rows.committed k ≠ none)
    (hanswer : ∀ envelope, (request id).scope = k →
      (phase = .replaying envelope ∨ ∃ replayed, phase = .answered envelope replayed) →
      s.AnsweredBy request k id envelope) : KeyInv request k s' := by
  have hself : s'.phase id = phase := (hphase id).trans (phase_enter_self phase)
  apply h.moved id
  · intro j hj
    rw [hphase j, phase_enter_of_ne hj]
  · exact hheld
  · exact hcommitted
  · unfold effectsOn
    rw [heffects]
  · intro _
    rw [hself, hbefore, hafter]
  · rintro _ stored ⟨hfingerprint, -⟩
    refine ⟨hfingerprint, ?_⟩
    intro effect envelope hcompleted
    rw [hself] at hcompleted
    rw [hcompleted] at hafter
    cases hafter
  · rw [hself]
    exact htaken
  · rw [hself]
    exact hanswer

/-- The record an attempt reads is the one committed while it holds none. -/
theorem KeyInv.view_idle (h : KeyInv request k s) (hidle : Holding (s.phase id) = false) :
    s.rows.view id k = s.rows.committed k := Rows.view_of_owner_ne (h.not_owner hidle)

/-- The envelope replayed is the committed effect's, for a request of its fingerprint. -/
theorem KeyInv.replays (h : KeyInv request k s) (hscope : (request id).scope = k)
    (htaken : s.phase id = .taken) {envelope : Envelope}
    (hreplay : replayOf (request id) (s.rows.view id (request id).scope) = .ok envelope) :
    s.AnsweredBy request k id envelope := by
  have hidle : Holding (s.phase id) = false := by
    rw [htaken]
    rfl
  rw [hscope, h.view_idle hidle] at hreplay
  rcases h.committed with ⟨-, hnone⟩ | ⟨effect, stored, hone, hstored, hrecords⟩
  · exact absurd hnone (h.taken id hscope htaken)
  · obtain ⟨hfingerprint, hstate, -, hbody⟩ := hrecords
    rw [hstored] at hreplay
    simp only [replayOf, hstate, hbody] at hreplay
    split_ifs at hreplay with hsame
    refine ⟨effect, ?_, (Except.ok.inj hreplay).symm, ?_⟩
    · rw [hone]
      exact List.mem_singleton_self effect
    · rw [← hfingerprint]
      exact not_not.mp hsame

/-- An attempt that held no record ended, and nothing of the key has moved. -/
theorem KeyInv.ended (h : KeyInv request k s) (hidle : Holding (s.phase id) = false)
    {phase : AttemptPhase Effect Envelope}
    (hphase : phase = .aborted ∨ ∃ refusal, phase = .refused refusal) :
    KeyInv request k (s.rolledBack id phase) := by
  have hafter : Holding phase = false := by
    rcases hphase with rfl | ⟨refusal, rfl⟩
    · rfl
    · rfl
  apply h.idle phase hidle hafter
  · exact fun _ => rfl
  · exact Rows.held_rollback_of_ne (h.not_owner hidle)
  · rfl
  · rfl
  · rintro _ rfl
    rcases hphase with hphase | ⟨refusal, hphase⟩
    · cases hphase
    · cases hphase
  · intro envelope _ hanswering
    rcases hphase with rfl | ⟨refusal, rfl⟩
    · simp at hanswering
    · simp at hanswering

/-- A step of an attempt with the key. -/
theorem KeyInv.own (h : KeyInv request k s) (hscope : (request id).scope = k)
    {step : AttemptStep Effect Envelope} (hmove : AttemptMove (request id) s id step s') :
    KeyInv request k s' := by
  cases hmove with
  | begun hphase =>
      apply h.idle .begun (by rw [hphase]; rfl) rfl (fun _ => rfl) rfl rfl rfl
      · simp
      · simp
  | found now stored hphase hfree hview =>
      have hidle : Holding (s.phase id) = false := by
        rw [hphase]
        rfl
      rw [hscope, h.view_idle hidle] at hview
      apply h.idle .taken hidle rfl (fun _ => rfl) rfl rfl rfl
      · rw [hview]
        simp
      · simp
  | inserted now stored hphase hfree hview hfingerprint =>
      have hidle : Holding (s.phase id) = false := by
        rw [hphase]
        rfl
      rw [hscope, h.view_idle hidle] at hview
      rw [hscope] at hfree ⊢
      exact h.inserted hscope hphase hfree hview hfingerprint
  | timedOut hphase _ => exact h.ended (by rw [hphase]; rfl) (.inr ⟨_, rfl⟩)
  | ran effect envelope hphase =>
      apply h.moved id
      · exact fun j hj => phase_enter_of_ne hj _
      · rfl
      · rfl
      · rfl
      · intro _
        rw [phase_enter_self, hphase]
        rfl
      · rintro _ stored ⟨hfingerprint, -⟩
        refine ⟨hfingerprint, ?_⟩
        simp
      · simp
      · simp
  | recorded effect envelope hphase => exact h.recordCompleted hscope hphase
  | replayed envelope hphase hreplay =>
      apply h.idle (.replaying envelope) (by rw [hphase]; rfl) rfl (fun _ => rfl) rfl rfl rfl
      · simp
      · intro envelope' _ hanswering
        have hsame : envelope = envelope' := by simpa using hanswering
        rw [← hsame]
        exact h.replays hscope hphase hreplay
  | replayRefused refusal hphase _ => exact h.ended (by rw [hphase]; rfl) (.inr ⟨_, rfl⟩)
  | effectCommitted effect envelope phase step hphase hends =>
      exact h.effectCommitted hscope hphase hends
  | replayCommitted envelope phase step hphase hends =>
      have hidle : Holding (s.phase id) = false := by
        rw [hphase]
        rfl
      have hunowned := h.not_owner hidle
      have hafter : Holding phase = false := by
        rcases hends with rfl | rfl
        · rfl
        · rfl
      apply h.idle phase hidle hafter
      · exact fun _ => rfl
      · exact Rows.held_commit_of_ne hunowned
      · exact Rows.committed_commit_of_ne hunowned
      · unfold Attempts.committed
        rw [hphase]
      · rintro _ rfl
        simp at hends
      · intro envelope' _ hanswering
        rcases hends with rfl | rfl
        · have hsame : envelope = envelope' := by simpa using hanswering
          rw [← hsame]
          exact h.answering id envelope hscope (.inl hphase)
        · simp at hanswering
  | aborted hrunning =>
      cases hholds : Holding (s.phase id) with
      | true => exact h.abandoned hscope hholds
      | false => exact h.ended hholds (.inl rfl)

/-- The retention job that leaves the key's record leaves all there is of the key. -/
theorem KeyInv.purged (h : KeyInv request k s) {now : Instant}
    (hkeeps : ∀ stored ∈ s.rows.committed k, now ≤ stored.expiresAt) :
    KeyInv request k (s.purge now) := by
  apply h.moved 0
  · exact fun _ _ => rfl
  · rfl
  · show (s.rows.committed k).filter _ = s.rows.committed k
    cases hstored : s.rows.committed k with
    | none => rfl
    | some stored => exact Option.filter_some_pos (by simpa using hkeeps stored hstored)
  · rfl
  · exact fun _ => rfl
  · exact fun _ _ hown => hown
  · exact h.taken 0
  · exact h.answering 0

theorem step_keyInv (h : KeyInv request k s) {action : StoreAction Effect Envelope}
    (hkeeps : Keeps k s action) (hstep : s.step request action = some s') :
    KeyInv request k s' := by
  cases action with
  | attempt id step =>
      have hmove := attemptStep_move hstep
      by_cases hscope : (request id).scope = k
      · exact h.own hscope hmove
      · exact h.other hscope hmove
  | purge now =>
      cases hstep
      exact h.purged hkeeps

/-- What holds of the key in every state its attempts reach. -/
theorem run_keyInv (hrun : Reaches (Keeps k) (step request) initial s) : KeyInv request k s :=
  hrun.invariant (keyInv_initial k) fun _ _ _ h hkeeps hstep => step_keyInv h hkeeps hstep

/-- Once an effect is committed no attempt holds the key's record. -/
theorem KeyInv.none_holding (h : KeyInv request k s) {effect : CommittedEffect Effect Envelope}
    (heffect : effect ∈ s.effectsOn request k) (hscope : (request id).scope = k) :
    Holding (s.phase id) = false := by
  by_contra hholds
  obtain ⟨hnone, -⟩ := h.holding id hscope (Bool.not_eq_false _ ▸ hholds)
  rw [h.none_committed hnone] at heffect
  cases heffect

/-- A key none of whose attempts holds the record is free. -/
theorem KeyInv.free (h : KeyInv request k s)
    (hidle : ∀ j, (request j).scope = k → Holding (s.phase j) = false) (id : ℕ) :
    s.rows.Free id k := by
  cases howner : s.rows.owner k with
  | none => exact .inl howner
  | some j =>
      obtain ⟨hscope, hholds⟩ := h.owner j howner
      rw [hidle j hscope] at hholds
      cases hholds

theorem KeyInv.one_effect (h : KeyInv request k s) : (s.effectsOn request k).length ≤ 1 := by
  rcases h.committed with ⟨hempty, -⟩ | ⟨effect, stored, hone, -⟩
  · rw [hempty]
    exact Nat.zero_le 1
  · rw [hone]
    exact Nat.le_refl 1

/-- The key's record and its effect stand together. -/
theorem KeyInv.record_of_effect (h : KeyInv request k s)
    {effect : CommittedEffect Effect Envelope} (heffect : effect ∈ s.effectsOn request k) :
    ∃ stored, s.rows.committed k = some stored ∧ RecordsEffect request effect stored := by
  rcases h.committed with ⟨hempty, -⟩ | ⟨only, stored, hone, hstored, hrecords⟩
  · rw [hempty] at heffect
    cases heffect
  · rw [hone] at heffect
    rw [List.mem_singleton.mp heffect]
    exact ⟨stored, hstored, hrecords⟩

theorem KeyInv.effect_of_record (h : KeyInv request k s) {stored : StoredRecord Envelope}
    (hstored : s.rows.committed k = some stored) :
    ∃ effect ∈ s.effectsOn request k, RecordsEffect request effect stored := by
  rcases h.committed with ⟨-, hnone⟩ | ⟨effect, other, hone, hother, hrecords⟩
  · rw [hnone] at hstored
    cases hstored
  · rw [hother] at hstored
    cases hstored
    refine ⟨effect, ?_, hrecords⟩
    rw [hone]
    exact List.mem_singleton_self effect

/-- No attempt of another fingerprint replays the committed effect's envelope. -/
theorem KeyInv.fingerprint_of_answering (h : KeyInv request k s)
    {effect : CommittedEffect Effect Envelope} (heffect : effect ∈ s.effectsOn request k)
    (hscope : (request id).scope = k) {envelope : Envelope}
    (hanswering : s.phase id = .replaying envelope ∨
      ∃ replayed, s.phase id = .answered envelope replayed) :
    (request effect.attempt).fingerprint = (request id).fingerprint := by
  obtain ⟨other, hother, -, hsame⟩ := h.answering id envelope hscope hanswering
  have hlength := h.one_effect
  rcases h.committed with ⟨hempty, -⟩ | ⟨only, stored, hone, -⟩
  · rw [hempty] at heffect
    cases heffect
  · rw [hone, List.mem_singleton] at heffect hother
    rw [heffect, ← hother]
    exact hsame

/-- An attempt after the effect's commit moves neither the records nor the effects. -/
theorem KeyInv.unmoved (h : KeyInv request k s) {effect : CommittedEffect Effect Envelope}
    (heffect : effect ∈ s.effectsOn request k) (hscope : (request id).scope = k)
    (hother : (request id).fingerprint ≠ (request effect.attempt).fingerprint)
    {step : AttemptStep Effect Envelope} (hstep : s.attemptStep request id step = some s') :
    s'.rows.committed = s.rows.committed ∧ s'.effects = s.effects := by
  cases attemptStep_move hstep with
  | begun _ => exact ⟨rfl, rfl⟩
  | found now stored _ _ _ => exact ⟨rfl, rfl⟩
  | inserted now stored _ _ _ _ => exact ⟨rfl, rfl⟩
  | timedOut _ _ => exact ⟨rfl, rfl⟩
  | ran effect envelope _ => exact ⟨rfl, rfl⟩
  | recorded effect envelope _ => exact ⟨rfl, rfl⟩
  | replayed envelope _ _ => exact ⟨rfl, rfl⟩
  | replayRefused refusal _ _ => exact ⟨rfl, rfl⟩
  | effectCommitted effect' envelope phase step hphase _ =>
      have hidle := h.none_holding heffect hscope
      rw [hphase] at hidle
      cases hidle
  | replayCommitted envelope phase step hphase _ =>
      exact absurd (h.fingerprint_of_answering heffect hscope (.inl hphase)).symm hother
  | aborted _ => exact ⟨rfl, rfl⟩

end Steps

/-- An attempt whose transaction ended without an answer. -/
def Unanswered (phase : AttemptPhase Effect Envelope) : Prop :=
  phase = .aborted ∨ ∃ refusal, phase = .refused refusal

/-- An attempt with another fingerprint than the committed effect's is refused: the record is
there to be found, what it finds refuses it, and none of its steps changes what is committed. -/
structure RefusedAfter (request : ℕ → IdempotentRequest) (s : Attempts Effect Envelope)
    (id : ℕ) : Prop where
  found : s.phase id = .begun → ∀ now,
    s.attemptStep request id (.claim now) = some (s.enter id .taken)
  keyReused : s.phase id = .taken →
    s.attemptStep request id .replay = some (s.rolledBack id (.refused .keyReused))
  unanswered : ∀ envelope replayed, s.phase id ≠ .answered envelope replayed
  unchanged : ∀ step s', s.attemptStep request id step = some s' →
    s'.rows.committed = s.rows.committed ∧ s'.effects = s.effects

/-- What an idempotency key promises the attempts that present it. -/
structure OneAnswer (request : ℕ → IdempotentRequest) (k : RecordScope)
    (s : Attempts Effect Envelope) : Prop where
  oneEffect : (s.effectsOn request k).length ≤ 1
  recordOfEffect : ∀ effect ∈ s.effectsOn request k,
    ∃ stored, s.rows.committed k = some stored ∧ RecordsEffect request effect stored
  effectOfRecord : ∀ stored, s.rows.committed k = some stored →
    ∃ effect ∈ s.effectsOn request k, RecordsEffect request effect stored
  oneEnvelope : ∀ effect ∈ s.effectsOn request k, ∀ id envelope replayed,
    (request id).scope = k → s.phase id = .answered envelope replayed → envelope = effect.envelope
  otherFingerprint : ∀ effect ∈ s.effectsOn request k, ∀ id, (request id).scope = k →
    (request id).fingerprint ≠ (request effect.attempt).fingerprint → s.RefusedAfter request id
  letGo : ∀ id, (request id).scope = k → Unanswered (s.phase id) →
    s.rows.owner k ≠ some id
  leftFree : s.effectsOn request k = [] →
    (∀ id, (request id).scope = k → Holding (s.phase id) = false) →
    ∀ id, (request id).scope = k → s.phase id = .begun → ∀ now,
      ∃ s', s.attemptStep request id (.claim now) = some s' ∧ s'.phase id = .claimed

section Answers

variable {request : ℕ → IdempotentRequest} {k : RecordScope} {s : Attempts Effect Envelope}

theorem KeyInv.refusedAfter (h : KeyInv request k s) {effect : CommittedEffect Effect Envelope}
    (heffect : effect ∈ s.effectsOn request k) {id : ℕ} (hscope : (request id).scope = k)
    (hother : (request id).fingerprint ≠ (request effect.attempt).fingerprint) :
    s.RefusedAfter request id := by
  obtain ⟨stored, hstored, hfingerprint, hstate, -, hbody⟩ := h.record_of_effect heffect
  have hview : s.rows.view id (request id).scope = some stored := by
    rw [hscope, h.view_idle (h.none_holding heffect hscope)]
    exact hstored
  refine ⟨?_, ?_, ?_, fun _ _ => h.unmoved heffect hscope hother⟩
  · intro hbegun now
    have hfree : s.rows.Free id (request id).scope := by
      rw [hscope]
      exact h.free (fun _ hj => h.none_holding heffect hj) id
    simp only [attemptStep, hbegun, claim, if_pos hfree, hview]
  · intro htaken
    have hreused : replayOf (request id) (some stored) = .error .keyReused := by
      simp only [replayOf, hstate, hbody]
      exact if_pos fun hsame => hother (hsame.symm.trans hfingerprint)
    simp only [attemptStep, htaken, replay, hview, hreused]
  · intro envelope replayed hanswered
    exact hother (h.fingerprint_of_answering heffect hscope (.inr ⟨replayed, hanswered⟩)).symm

/-- Whatever the attempts do, in whatever order and wherever they fail, a key whose record is not
purged has one effect and one answer. -/
theorem one_effect_one_answer (request : ℕ → IdempotentRequest) (k : RecordScope)
    (s : Attempts Effect Envelope) (hrun : Reaches (Keeps k) (step request) initial s) :
    OneAnswer request k s := by
  have h := run_keyInv hrun
  refine ⟨h.one_effect, fun _ => h.record_of_effect, fun _ => h.effect_of_record, ?_, ?_, ?_, ?_⟩
  · intro effect heffect id envelope replayed hscope hanswered
    obtain ⟨other, hother, hsame, -⟩ := h.answering id envelope hscope (.inr ⟨replayed, hanswered⟩)
    rcases h.committed with ⟨hempty, -⟩ | ⟨only, stored, hone, -⟩
    · rw [hempty] at heffect
      cases heffect
    · rw [hone, List.mem_singleton] at heffect hother
      rw [hsame, hother, heffect]
  · exact fun effect heffect id hscope hother => h.refusedAfter heffect hscope hother
  · intro id hscope hended
    apply h.not_owner
    rcases hended with hended | ⟨refusal, hended⟩
    · rw [hended]
      rfl
    · rw [hended]
      rfl
  · intro hempty hidle id hscope hbegun now
    have hfree : s.rows.Free id (request id).scope := by
      rw [hscope]
      exact h.free hidle id
    have hnone : s.rows.view id (request id).scope = none := by
      rw [hscope, h.view_idle (hidle id hscope)]
      rcases h.committed with ⟨-, hnone⟩ | ⟨effect, stored, hone, -⟩
      · exact hnone
      · rw [hempty] at hone
        cases hone
    simp only [attemptStep, hbegun, claim, if_pos hfree, hnone]
    exact ⟨_, rfl, phase_enter_self _⟩

end Answers

section Sample

def sampleKey : RecordScope := (some 7, "checkout")

/-- Three attempts of one key, the last with another request. -/
def sampleRequest (id : ℕ) : IdempotentRequest :=
  ⟨"checkout", some 7, if id < 2 then "two seats" else "three seats", 201⟩

def sampleActions : List (StoreAction String String) :=
  [.attempt 0 .begin, .attempt 1 .begin, .attempt 2 .begin, .attempt 1 (.claim 0),
    .attempt 1 (.run "charged" "order 5"), .attempt 0 .claimTimedOut, .attempt 1 .complete,
    .attempt 1 .commit, .purge 3, .attempt 2 (.claim 5), .attempt 2 .replay]

theorem one_effect_one_answer_sample :
    ∃ s : Attempts String String, OneAnswer sampleRequest sampleKey s ∧
      s.effects = [⟨1, "charged", "order 5"⟩] ∧
      (List.range 3).map s.phase =
        [.refused (.inFlight 1000), .answered "order 5" false, .refused .keyReused] := by
  have hrun : (sampleActions.foldlM (fun s a =>
        if Keeps sampleKey s a then step sampleRequest s a else none) initial).map
      (fun s => (s.effects, (List.range 3).map s.phase)) =
      some ([⟨1, "charged", "order 5"⟩],
        [.refused (.inFlight 1000), .answered "order 5" false, .refused .keyReused]) := by
    decide +kernel
  obtain ⟨s, hs, hends⟩ := Option.map_eq_some_iff.mp hrun
  exact ⟨s, one_effect_one_answer sampleRequest sampleKey s (Reaches.of_guarded hs),
    congrArg Prod.fst hends, congrArg Prod.snd hends⟩

end Sample

end Attempts

end Arthome.Edge
