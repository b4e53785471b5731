import Arthome.Streaming.IngestListener
import Mathlib.Data.List.Induction

/-!
# The lifecycle of a run

What an operation may do to a run is said once, on the facts its rules are about:
its state, its open incident, its instants, its version, and the incidents its
events leave open. Every operation makes one such change or leaves the facts as
they are, and a refused one leaves the whole aggregate as it was. The lifecycle
follows: on air no incident is open, interrupted one is, an ended run has none
and ends no earlier than it began.
-/

namespace Arthome.Streaming

open Arthome.Core Library

/-- The incidents still open after an event. -/
def RunEvent.openAfter (raised : List IncidentSnapshot) : RunEvent → List IncidentSnapshot
  | .incidentRaised _ _ incident _ _ => raised ++ [incident]
  | .incidentResolved _ incidentId _ _ => raised.filter fun incident => incident.id ≠ incidentId
  | _ => raised

/-- The incidents a run's events raised and did not resolve. -/
def openIncidentsOf (events : List RunEvent) : List IncidentSnapshot :=
  events.foldl RunEvent.openAfter []

/-- What the rules of a run are about. -/
structure RunFacts where
  state : RunState
  openIncident : Option IncidentSnapshot
  technicalCheckPassedAt : Option Instant
  startedAt : Option Instant
  endedAt : Option Instant
  version : ℕ
  /-- The incidents its events leave open. -/
  raised : List IncidentSnapshot
  deriving DecidableEq

def Run.facts (run : Run) : RunFacts where
  state := run.current.state
  openIncident := run.openIncident
  technicalCheckPassedAt := run.current.technicalCheckPassedAt
  startedAt := run.current.startedAt
  endedAt := run.current.endedAt
  version := run.current.version
  raised := openIncidentsOf run.events

/-- One operation's use of a run; between two of them it may be stored and loaded again. -/
inductive RunOperation where
  | rehearse (expectedVersion : ℕ)
  | reset (expectedVersion : ℕ)
  | goOnAir (expectedVersion : ℕ) (publicationState : Option PublicationState) (actor : RunActor)
  | «end» (expectedVersion : ℕ) (actor : RunActor)
  | endByItself (scheduledEndsAt : Instant)
  | runTechnicalCheck (failures : List TechnicalCheckFailure) (protocol : IngestProtocol)
      (actor : RunActor)
  | raiseIncident (raised : RaisedIncident) (actor : RunActor)
  | resolveIncident (incidentId : Uuid) (actor : RunActor)
  | declarePublisherGone
  | raiseHoldScreenIfFeedLost (incidentId : Uuid)
  | raiseWorkerFailure (incidentId : Uuid)
  | publisherBack (wasAfterGracePeriod : Bool)
  | publisherOnline (monitorPaths : List MonitorPath) (protocol : IngestProtocol)
  | publisherOffline (onlineSince : Instant)
  | workerFailed (final : Bool) (incidentId : Uuid)
  | restored
  deriving Repr, DecidableEq

section Operations

variable [RunRules]

/-- The operation made on a run at an instant. -/
def RunOperation.perform (run : Run) (now : Instant) : RunOperation → Reply Run RunRefusal Bool
  | .rehearse expectedVersion => done (run.rehearse expectedVersion now)
  | .reset expectedVersion => done (run.reset expectedVersion now)
  | .goOnAir expectedVersion publicationState actor =>
    done (run.goOnAir expectedVersion publicationState actor now)
  | .end expectedVersion actor => done (run.end expectedVersion actor now)
  | .endByItself scheduledEndsAt => run.endByItself scheduledEndsAt now
  | .runTechnicalCheck failures protocol actor => run.runTechnicalCheck failures protocol actor now
  | .raiseIncident raised actor => done (run.raiseIncident raised actor now)
  | .resolveIncident incidentId actor => run.resolveIncident incidentId actor now
  | .declarePublisherGone => run.declarePublisherGone now
  | .raiseHoldScreenIfFeedLost incidentId => run.raiseHoldScreenIfFeedLost incidentId now
  | .raiseWorkerFailure incidentId => run.raiseWorkerFailure incidentId now
  | .publisherBack wasAfterGracePeriod => done (run.publisherBack wasAfterGracePeriod now)
  | .publisherOnline monitorPaths protocol => run.publisherOnline monitorPaths protocol now
  | .publisherOffline onlineSince => run.publisherOffline onlineSince now
  | .workerFailed final incidentId => run.workerFailed final incidentId now
  | .restored => .answer run.restored true

namespace RunFacts

def checked (f : RunFacts) : Bool := f.technicalCheckPassedAt.isSome

/-- The facts once an incident is resolved, the run going back on air if it was interrupted. -/
def resolved (f : RunFacts) (incident : IncidentSnapshot) : RunFacts :=
  { f with
    openIncident := none
    raised := f.raised.filter fun raised => raised.id ≠ incident.id }

/-- What one operation may do to a run. -/
inductive Change (f : RunFacts) (now : Instant) : RunFacts → Prop
  | none : Change f now f
  | moved (target : RunState) (hmay : RunRules.assertRunTransition f.state target f.checked = .ok ())
      (htarget : target = .idle ∨ target = .rehearsal) :
      Change f now { f with state := target, version := f.version + 1 }
  | wentOnAir (hmay : RunRules.assertRunTransition f.state .onAir f.checked = .ok ())
      (hnone : f.openIncident = .none) :
      Change f now { f with state := .onAir, startedAt := some now, version := f.version + 1 }
  | ended (endedAt : Instant) (g : RunFacts)
      (hmay : RunRules.assertRunTransition f.state .ended f.checked = .ok ())
      (hopen : f.openIncident = .none ∧ g = f ∨
        ∃ incident, f.openIncident = some incident ∧ g = f.resolved incident)
      (hafter : (∀ startedAt ∈ f.startedAt, startedAt ≤ now) →
        endedAt ≤ now ∧ ∀ startedAt ∈ f.startedAt, startedAt ≤ endedAt) :
      Change f now
        { g with state := .ended, endedAt := some endedAt, version := f.version + 1 }
  | passedCheck (hnone : f.technicalCheckPassedAt = .none) :
      Change f now { f with technicalCheckPassedAt := some now, version := f.version + 1 }
  | raised (incident : IncidentSnapshot) (hnone : f.openIncident = .none) (hlive : f.state ≠ .ended) :
      Change f now
        { f with
          openIncident := some incident
          raised := f.raised ++ [incident]
          state := if f.state = .onAir then .interrupted else f.state
          version := f.version + 1 }
  | resolved (incident : IncidentSnapshot) (hopen : f.openIncident = some incident)
      (hmay : f.state = .interrupted →
        RunRules.assertRunTransition f.state .onAir f.checked = .ok ()) :
      Change f now
        { f.resolved incident with
          state := if f.state = .interrupted then .onAir else f.state
          version := f.version + 1 }

end RunFacts

/-! ## Each operation makes one change -/

section Changes

omit [RunRules] in
@[simp] theorem openIncidentsOf_concat (events : List RunEvent) (event : RunEvent) :
    openIncidentsOf (events ++ [event]) = event.openAfter (openIncidentsOf events) := by
  simp [openIncidentsOf]

omit [RunRules] in
@[simp] theorem Run.facts_record (run : Run) (event : RunEvent) :
    (run.record event).facts = { run.facts with raised := event.openAfter run.facts.raised } := by
  simp [Run.facts, Run.record, Run.openIncident]

omit [RunRules] in
@[simp] theorem Run.facts_applyStateChanged (run : Run) (now : Instant) :
    (run.applyStateChanged now).facts = run.facts := by
  simp [Run.applyStateChanged, RunEvent.openAfter]

omit [RunRules] in
@[simp] theorem Run.facts_ite_applyStateChanged (p : Prop) [Decidable p] (run : Run) (now : Instant) :
    (if p then run.applyStateChanged now else run).facts = run.facts := by
  split_ifs
  · exact Run.facts_applyStateChanged run now
  · rfl

omit [RunRules] in
theorem Run.advancedFrom_ok {run : Run} {expectedVersion version : ℕ}
    (h : run.advancedFrom expectedVersion = .ok version) : version = run.current.version + 1 := by
  unfold Run.advancedFrom at h
  split_ifs at h
  exact (Except.ok.inj h).symm

omit [RunRules] in
/-- An open incident is unresolved. -/
theorem RunSnapshot.openIncident_eq_some {s : RunSnapshot} {incident : IncidentSnapshot}
    (h : s.openIncident = some incident) : s.incident = some incident ∧ incident.resolvedAt = none := by
  rw [RunSnapshot.openIncident, Option.filter_eq_some_iff] at h
  exact ⟨h.1, Option.isNone_iff_eq_none.mp h.2⟩

omit [RunRules] in
theorem RunSnapshot.openIncident_idem (s : RunSnapshot) :
    { s with incident := s.openIncident }.openIncident = s.openIncident := by
  simp [RunSnapshot.openIncident]

omit [RunRules] in
@[simp] theorem Run.facts_restored (run : Run) : run.restored.facts = run.facts := by
  simp [Run.facts, Run.restored, Run.openIncident, RunSnapshot.openIncident_idem]

variable {run : Run} {now : Instant}

/-- A check leaves the run as it was, or lets the operation go on. -/
theorem change_of_guard {α β : Type} {check : Except RunRefusal α}
    {rest : α → Reply Run RunRefusal β}
    (h : ∀ a, check = .ok a → RunFacts.Change run.facts now (rest a).state.facts) :
    RunFacts.Change run.facts now (Reply.guard run check rest).state.facts := by
  obtain ⟨e, -, hguard⟩ | ⟨a, ha, hguard⟩ := Reply.guard_cases run check rest
  · rw [hguard]
    exact .none
  · rw [hguard]
    exact h a ha

theorem Run.move_change {target : RunState} {version : ℕ}
    (htarget : target = .idle ∨ target = .rehearsal) (hversion : version = run.current.version + 1) :
    RunFacts.Change run.facts now (run.move target version now).state.facts := by
  unfold Run.move
  apply change_of_guard
  intro _ hmay
  subst hversion
  simp only [Reply.answer_state, Run.facts_applyStateChanged]
  exact .moved target hmay htarget

theorem Run.goOnAir_change (expectedVersion : ℕ) (publicationState : Option PublicationState)
    (actor : RunActor) :
    RunFacts.Change run.facts now
      (run.goOnAir expectedVersion publicationState actor now).state.facts := by
  unfold Run.goOnAir
  apply change_of_guard
  intro version hversion
  apply change_of_guard
  intro _ hmay
  split_ifs with hpublication hopen
  · exact .none
  · exact .none
  · simp only [Reply.answer_state, Run.facts_applyStateChanged, Run.facts_record,
      RunEvent.openAfter, Run.advancedFrom_ok hversion]
    exact .wentOnAir hmay (Option.not_isSome_iff_eq_none.mp hopen)

theorem Run.endAt_change {version : ℕ} {endedAt : Instant} {actor : RunActor}
    (hversion : version = run.current.version + 1)
    (hafter : (∀ startedAt ∈ run.current.startedAt, startedAt ≤ now) →
      endedAt ≤ now ∧ ∀ startedAt ∈ run.current.startedAt, startedAt ≤ endedAt) :
    RunFacts.Change run.facts now (run.endAt version endedAt actor now).state.facts := by
  unfold Run.endAt
  apply change_of_guard
  intro _ hmay
  subst hversion
  simp only [Reply.answer_state, Run.facts_applyStateChanged, Run.facts_record, RunEvent.openAfter]
  cases hopen : run.openIncident with
  | none => exact .ended endedAt run.facts hmay (.inl ⟨hopen, rfl⟩) hafter
  | some incident =>
      have hended := RunFacts.Change.ended (f := run.facts) endedAt (run.facts.resolved incident)
        hmay (.inr ⟨incident, hopen, rfl⟩) hafter
      simpa [Run.facts, RunFacts.resolved, Run.openIncident, RunSnapshot.openIncident, Run.record,
        RunEvent.openAfter, Option.filter_some] using hended

theorem Run.raise_change {raised : RaisedIncident} {trigger : IncidentTrigger}
    {raisedBy : Option Uuid} {actor : RunActor} (hlive : run.current.state ≠ .ended)
    (hnone : run.openIncident = none) :
    RunFacts.Change run.facts now (run.raise raised trigger raisedBy actor now).state.facts := by
  unfold Run.raise
  apply change_of_guard
  intro _ _
  have hraised : RunFacts.Change run.facts now _ := .raised
    { id := raised.id, kind := raised.kind, cause := raised.cause, trigger,
      message := raised.message, raisedAt := now, raisedBy, resolvedAt := none, resolvedBy := none }
    hnone hlive
  simp only [Reply.answer_state, Run.facts_ite_applyStateChanged, Run.facts_record,
    RunEvent.openAfter]
  by_cases honAir : run.current.state = .onAir
  · simpa [Run.facts, Run.openIncident, RunSnapshot.openIncident, Option.filter_some,
      honAir] using hraised
  · simpa [Run.facts, Run.openIncident, RunSnapshot.openIncident, Option.filter_some,
      honAir] using hraised

theorem Run.resolve_change {incident : IncidentSnapshot} {actor : RunActor} {cleared : Bool}
    (hopen : run.openIncident = some incident) :
    RunFacts.Change run.facts now (run.resolve incident actor cleared now).state.facts := by
  unfold Run.resolve
  apply change_of_guard
  intro _ hmay
  have hresumes : run.facts.state = .interrupted →
      RunRules.assertRunTransition run.facts.state .onAir run.facts.checked = .ok () := by
    intro hinterrupted
    rwa [if_pos (show run.current.state = .interrupted from hinterrupted)] at hmay
  have hresolved : RunFacts.Change run.facts now _ := .resolved incident hopen hresumes
  simp only [Reply.answer_state, Run.facts_ite_applyStateChanged, Run.facts_record,
    RunEvent.openAfter]
  by_cases hresumes : run.current.state = .interrupted
  · simpa [Run.facts, RunFacts.resolved, Run.openIncident, RunSnapshot.openIncident,
      Option.filter_some, hresumes] using hresolved
  · simpa [Run.facts, RunFacts.resolved, Run.openIncident, RunSnapshot.openIncident,
      Option.filter_some, hresumes] using hresolved

variable [LawfulRunRules]

/-- The end by itself, neither before the start nor after the instant it is decided at. -/
theorem lastFeedEnd_spec {s : RunSnapshot} {scheduledEndsAt endsAt : Instant}
    (hends : RunRules.runAutoEndsAt scheduledEndsAt s.publisherLostAt
      s.publisherOnlineSince.isSome = some endsAt) (hdue : ¬ RunRules.isAfter endsAt now = true)
    (hstarted : ∀ startedAt ∈ s.startedAt, startedAt ≤ now) :
    Run.lastFeedEnd s scheduledEndsAt ≤ now ∧
      ∀ startedAt ∈ s.startedAt, startedAt ≤ Run.lastFeedEnd s scheduledEndsAt := by
  obtain ⟨hscheduled, hlost⟩ := LawfulRunRules.autoEnds_after _ _ _ _ hends
  rw [LawfulRunRules.isAfter_iff, not_lt] at hdue
  have hfeed : s.publisherLostAt.getD scheduledEndsAt ≤ now := by
    cases hlostAt : s.publisherLostAt with
    | none => exact hscheduled.trans hdue
    | some lostAt => exact (hlost lostAt hlostAt).trans hdue
  unfold Run.lastFeedEnd
  cases hstart : s.startedAt with
  | none => exact ⟨hfeed, by simp⟩
  | some startedAt =>
      simp only [Option.mem_def, Option.some.injEq, forall_eq']
      split_ifs with hafter
      · exact ⟨hstarted startedAt hstart, le_rfl⟩
      · rw [LawfulRunRules.isAfter_iff, not_lt] at hafter
        exact ⟨hfeed, hafter⟩

theorem Run.endByItself_change (scheduledEndsAt : Instant) :
    RunFacts.Change run.facts now (run.endByItself scheduledEndsAt now).state.facts := by
  simp only [Run.endByItself]
  split_ifs with hlive
  · exact .none
  · split
    · exact .none
    · rename_i endsAt hends
      split_ifs with hdue
      · exact .none
      · exact Run.endAt_change rfl (lastFeedEnd_spec hends hdue)

omit [LawfulRunRules] in
theorem Run.publisherBack_change (wasAfterGracePeriod : Bool) :
    RunFacts.Change run.facts now (run.publisherBack wasAfterGracePeriod now).state.facts := by
  unfold Run.publisherBack
  cases hopen : run.openIncident with
  | none =>
      simp only
      split_ifs
      · rw [Reply.answer_state, Run.facts_applyStateChanged]
        exact .none
      · exact .none
  | some incident =>
      simp only
      split_ifs
      · exact Run.resolve_change hopen
      · rw [Reply.answer_state, Run.facts_applyStateChanged]
        exact .none
      · exact .none

omit [LawfulRunRules] in
theorem Run.publisherOnline_change (monitorPaths : List MonitorPath) (protocol : IngestProtocol) :
    RunFacts.Change run.facts now (run.publisherOnline monitorPaths protocol now).state.facts := by
  simp only [Run.publisherOnline]
  split_ifs with hreported haccepts
  · exact .none
  · have hback : RunFacts.Change
        (run.recordOnset protocol (monitorPathOf protocol monitorPaths) now).restored.facts now _ :=
      Run.publisherBack_change run.current.afterGracePeriod
    rw [Run.facts_restored] at hback
    split
    · exact .none
    · exact hback
  · exact .none

omit [LawfulRunRules] in
theorem Run.feedLostFor_onAir {s : RunSnapshot} {seconds : ℤ}
    (h : Run.feedLostFor s seconds now = true) : s.state = .onAir := by
  simp only [Run.feedLostFor, Bool.and_eq_true, decide_eq_true_eq] at h
  exact h.1.1

omit [LawfulRunRules] in
theorem Run.raiseWorkerFailure_change (incidentId : Uuid) :
    RunFacts.Change run.facts now (run.raiseWorkerFailure incidentId now).state.facts := by
  unfold Run.raiseWorkerFailure
  split_ifs with hrefused
  · exact .none
  · rw [not_or] at hrefused
    exact Run.raise_change hrefused.1 (Option.not_isSome_iff_eq_none.mp hrefused.2)

/-- Every operation makes one change, or none. -/
theorem RunOperation.perform_change (op : RunOperation) :
    RunFacts.Change run.facts now (op.perform run now).state.facts := by
  cases op with
  | rehearse expectedVersion =>
      apply change_of_guard
      exact fun version hversion => Run.move_change (.inr rfl) (Run.advancedFrom_ok hversion)
  | reset expectedVersion =>
      apply change_of_guard
      exact fun version hversion => Run.move_change (.inl rfl) (Run.advancedFrom_ok hversion)
  | goOnAir expectedVersion publicationState actor =>
      exact Run.goOnAir_change expectedVersion publicationState actor
  | «end» expectedVersion actor =>
      apply change_of_guard
      exact fun version hversion => Run.endAt_change (Run.advancedFrom_ok hversion)
        fun hstarted => ⟨le_rfl, hstarted⟩
  | endByItself scheduledEndsAt => exact Run.endByItself_change scheduledEndsAt
  | runTechnicalCheck failures protocol actor =>
      simp only [RunOperation.perform, Run.runTechnicalCheck]
      split_ifs with hended hfailures hpassed
      · exact .none
      · exact .none
      · simp only [Reply.answer_state, Run.facts_record, RunEvent.openAfter]
        exact .none
      · simp only [Reply.answer_state, Run.facts_record, RunEvent.openAfter]
        exact .passedCheck (Option.not_isSome_iff_eq_none.mp hpassed)
  | raiseIncident raised actor =>
      simp only [RunOperation.perform, done, Run.raiseIncident]
      split_ifs with hrefused
      · exact .none
      · rw [not_or] at hrefused
        exact Run.raise_change hrefused.1 (Option.not_isSome_iff_eq_none.mp hrefused.2)
  | resolveIncident incidentId actor =>
      simp only [RunOperation.perform, Run.resolveIncident]
      split
      · exact .none
      · rename_i incident hopen
        split_ifs
        · exact .none
        · exact Run.resolve_change hopen
  | declarePublisherGone =>
      simp only [RunOperation.perform, Run.declarePublisherGone]
      split_ifs
      · exact .none
      · rw [Reply.answer_state, Run.facts_applyStateChanged]
        exact .none
  | raiseHoldScreenIfFeedLost incidentId =>
      simp only [RunOperation.perform, Run.raiseHoldScreenIfFeedLost]
      split_ifs with hrefused
      · exact .none
      · rw [Bool.or_eq_true, not_or, Bool.not_eq_true', Bool.not_eq_false] at hrefused
        refine Run.raise_change ?_ (Option.not_isSome_iff_eq_none.mp hrefused.1)
        rw [Run.feedLostFor_onAir hrefused.2]
        decide
  | raiseWorkerFailure incidentId => exact Run.raiseWorkerFailure_change incidentId
  | publisherBack wasAfterGracePeriod => exact Run.publisherBack_change wasAfterGracePeriod
  | publisherOnline monitorPaths protocol => exact Run.publisherOnline_change monitorPaths protocol
  | publisherOffline onlineSince =>
      simp only [RunOperation.perform, Run.publisherOffline]
      split_ifs
      · exact .none
      · exact .none
  | workerFailed final incidentId =>
      have hraised : RunFacts.Change run.restored.facts now
          (run.restored.raiseWorkerFailure incidentId now).state.facts :=
        Run.raiseWorkerFailure_change incidentId
      rw [Run.facts_restored] at hraised
      simp only [RunOperation.perform, Run.workerFailed]
      split_ifs
      · exact .none
      · split
        · exact .none
        · exact .none
        · exact hraised
  | restored =>
      rw [RunOperation.perform, Reply.answer_state, Run.facts_restored]
      exact .none

end Changes

/-! ## A refused operation leaves everything -/

section Refusals

variable {run : Run} {now : Instant}

/-- Refused, or answered that nothing was done. -/
def Declined (reply : Reply Run RunRefusal Bool) : Prop :=
  reply.Refused ∨ reply.result = .ok false

omit [RunRules] in
theorem declined_done {reply : Reply Run RunRefusal Unit} (h : Declined (done reply)) :
    reply.Refused := by
  obtain ⟨state, _ | answered⟩ := reply
  · exact ⟨_, rfl⟩
  · simp [Declined, done, Reply.Refused, Except.map] at h

omit [RunRules] in
@[simp] theorem not_declined_answer_true : ¬ Declined (.answer run true) := by
  simp [Declined]

omit [RunRules] in
/-- A checked operation is refused by its check, or by what follows it. -/
theorem state_of_refused_guard {α β : Type} {check : Except RunRefusal α}
    {rest : α → Reply Run RunRefusal β} (h : (Reply.guard run check rest).Refused)
    (hrest : ∀ a, (rest a).Refused → (rest a).state = run) :
    (Reply.guard run check rest).state = run := by
  obtain ⟨e, -, hguard⟩ | ⟨a, -, hguard⟩ := Reply.guard_cases run check rest
  · rw [hguard, Reply.refuse_state]
  · rw [hguard] at h ⊢
    exact hrest a h

theorem Run.move_refused {target : RunState} {version : ℕ}
    (h : (run.move target version now).Refused) :
    (run.move target version now).state = run :=
  state_of_refused_guard h fun _ hanswer => (Reply.not_refused_answer _ _ hanswer).elim

theorem Run.endAt_refused {version : ℕ} {endedAt : Instant} {actor : RunActor}
    (h : (run.endAt version endedAt actor now).Refused) :
    (run.endAt version endedAt actor now).state = run :=
  state_of_refused_guard h fun _ hanswer => (Reply.not_refused_answer _ _ hanswer).elim

theorem Run.raise_refused {raised : RaisedIncident} {trigger : IncidentTrigger}
    {raisedBy : Option Uuid} {actor : RunActor}
    (h : (run.raise raised trigger raisedBy actor now).Refused) :
    (run.raise raised trigger raisedBy actor now).state = run :=
  state_of_refused_guard h fun _ hanswer => (Reply.not_refused_answer _ _ hanswer).elim

theorem Run.resolve_refused {incident : IncidentSnapshot} {actor : RunActor} {cleared : Bool}
    (h : (run.resolve incident actor cleared now).Refused) :
    (run.resolve incident actor cleared now).state = run :=
  state_of_refused_guard h fun _ hanswer => (Reply.not_refused_answer _ _ hanswer).elim

theorem Run.publisherBack_refused {wasAfterGracePeriod : Bool}
    (h : (run.publisherBack wasAfterGracePeriod now).Refused) :
    (run.publisherBack wasAfterGracePeriod now).state = run := by
  unfold Run.publisherBack at h ⊢
  split at h
  · split_ifs at h ⊢
    · exact Run.resolve_refused h
    · exact absurd h (Reply.not_refused_answer _ _)
    · rfl
  · split_ifs at h ⊢
    · exact absurd h (Reply.not_refused_answer _ _)
    · rfl

theorem Run.goOnAir_refused {expectedVersion : ℕ} {publicationState : Option PublicationState}
    {actor : RunActor} (h : (run.goOnAir expectedVersion publicationState actor now).Refused) :
    (run.goOnAir expectedVersion publicationState actor now).state = run := by
  refine state_of_refused_guard h fun version hversion => ?_
  refine state_of_refused_guard hversion fun _ hanswer => ?_
  split_ifs at hanswer ⊢
  · rfl
  · rfl
  · exact absurd hanswer (Reply.not_refused_answer _ _)

/-- A refused operation leaves the snapshot and the recorded events. -/
theorem RunOperation.perform_declined (op : RunOperation) (h : Declined (op.perform run now)) :
    (op.perform run now).state = run := by
  cases op with
  | rehearse expectedVersion =>
      exact state_of_refused_guard (declined_done h) fun _ => Run.move_refused
  | reset expectedVersion =>
      exact state_of_refused_guard (declined_done h) fun _ => Run.move_refused
  | goOnAir expectedVersion publicationState actor => exact Run.goOnAir_refused (declined_done h)
  | «end» expectedVersion actor =>
      exact state_of_refused_guard (declined_done h) fun _ => Run.endAt_refused
  | endByItself scheduledEndsAt =>
      simp only [RunOperation.perform, Run.endByItself] at h ⊢
      split_ifs at h ⊢
      · rfl
      · split at h
        · rfl
        · split_ifs at h ⊢
          · rfl
          · exact Run.endAt_refused (declined_done h)
  | runTechnicalCheck failures protocol actor =>
      simp only [RunOperation.perform, Run.runTechnicalCheck] at h ⊢
      split_ifs at h ⊢
      · rfl
      · rfl
      · exact absurd h not_declined_answer_true
      · exact absurd h not_declined_answer_true
  | raiseIncident raised actor =>
      simp only [RunOperation.perform, Run.raiseIncident] at h ⊢
      split_ifs at h ⊢
      · rfl
      · exact Run.raise_refused (declined_done h)
  | resolveIncident incidentId actor =>
      simp only [RunOperation.perform, Run.resolveIncident] at h ⊢
      split at h
      · rfl
      · split_ifs at h ⊢
        · rfl
        · exact Run.resolve_refused (declined_done h)
  | declarePublisherGone =>
      simp only [RunOperation.perform, Run.declarePublisherGone] at h ⊢
      split_ifs at h ⊢
      · rfl
      · exact absurd h not_declined_answer_true
  | raiseHoldScreenIfFeedLost incidentId =>
      simp only [RunOperation.perform, Run.raiseHoldScreenIfFeedLost] at h ⊢
      split_ifs at h ⊢
      · rfl
      · exact Run.raise_refused (declined_done h)
  | raiseWorkerFailure incidentId =>
      simp only [RunOperation.perform, Run.raiseWorkerFailure] at h ⊢
      split_ifs at h ⊢
      · rfl
      · exact Run.raise_refused (declined_done h)
  | publisherBack wasAfterGracePeriod => exact Run.publisherBack_refused (declined_done h)
  | publisherOnline monitorPaths protocol =>
      simp only [RunOperation.perform, Run.publisherOnline] at h ⊢
      split_ifs at h ⊢
      · rfl
      · split at h
        · rfl
        · exact absurd h not_declined_answer_true
      · rfl
  | publisherOffline onlineSince =>
      simp only [RunOperation.perform, Run.publisherOffline] at h ⊢
      split_ifs at h ⊢
      · exact absurd h not_declined_answer_true
      · rfl
  | workerFailed final incidentId =>
      simp only [RunOperation.perform, Run.workerFailed] at h ⊢
      split_ifs at h ⊢
      · rfl
      · split at h
        · rfl
        · rfl
        · exact absurd h not_declined_answer_true
  | restored => exact absurd h not_declined_answer_true

end Refusals

/-! ## The lifecycle -/

/-- A transition, an incident's opening or closing, or a first passed check. -/
def RunFacts.Recorded (f g : RunFacts) : Prop :=
  g.state ≠ f.state ∨ g.openIncident ≠ f.openIncident ∨
    g.technicalCheckPassedAt ≠ f.technicalCheckPassedAt

/-- What holds of a run driven up to the instant `clock`. -/
structure Lifecycle (f : RunFacts) (clock : Instant) : Prop where
  onAir : f.state = .onAir → f.openIncident = none
  interrupted : f.state = .interrupted → f.openIncident.isSome
  ended : f.state = .ended → f.openIncident = none ∧ ∃ endedAt, f.endedAt = some endedAt ∧
    endedAt ≤ clock ∧ ∀ startedAt ∈ f.startedAt, startedAt ≤ endedAt
  raised : f.raised = f.openIncident.toList
  started : ∀ startedAt ∈ f.startedAt, startedAt ≤ clock
  live : f.state = .onAir ∨ f.state = .interrupted → f.checked

section Lifecycle

variable {f g : RunFacts} {clock now : Instant}

omit [RunRules] in
theorem Lifecycle.mono (h : Lifecycle f clock) (hclock : clock ≤ now) : Lifecycle f now where
  onAir := h.onAir
  interrupted := h.interrupted
  ended hstate := by
    obtain ⟨hopen, endedAt, hended, hbefore, hafter⟩ := h.ended hstate
    exact ⟨hopen, endedAt, hended, hbefore.trans hclock, hafter⟩
  raised := h.raised
  started startedAt hstarted := (h.started startedAt hstarted).trans hclock
  live := h.live

variable [LawfulRunRules]

/-- Nothing but a run on air is interrupted, and nothing follows the end. -/
theorem RunFacts.Change.ended_stays (hc : f.Change now g) (hended : f.state = .ended)
    (hnone : f.openIncident = .none) : g.state = .ended := by
  cases hc with
  | none => exact hended
  | moved target hmay =>
      rw [hended] at hmay
      exact absurd hmay (LawfulRunRules.ended_stays _ _)
  | wentOnAir hmay =>
      rw [hended] at hmay
      exact absurd hmay (LawfulRunRules.ended_stays _ _)
  | ended => rfl
  | passedCheck => exact hended
  | raised incident _ hlive => exact absurd hended hlive
  | resolved incident hopen =>
      rw [hnone] at hopen
      cases hopen

/-- Every change keeps the lifecycle. -/
theorem Lifecycle.change (h : Lifecycle f now) (hc : f.Change now g) : Lifecycle g now := by
  cases hc with
  | none => exact h
  | moved target hmay htarget =>
      refine ⟨?_, ?_, ?_, h.raised, h.started, ?_⟩
      all_goals
        intro hstate
        rcases htarget with rfl | rfl <;> simp at hstate
  | wentOnAir hmay hnone =>
      refine ⟨fun _ => hnone, by simp, by simp, h.raised, ?_, ?_⟩
      · intro startedAt hstarted
        exact (Option.some.inj hstarted).symm.le
      · exact fun _ => LawfulRunRules.onAir_checked _ _ hmay
  | ended endedAt g hmay hopen hafter =>
      obtain ⟨hbefore, hstarted⟩ := hafter h.started
      obtain ⟨hnone, rfl⟩ | ⟨incident, hsome, rfl⟩ := hopen
      · exact ⟨by simp, by simp, fun _ => ⟨hnone, endedAt, rfl, hbefore, hstarted⟩, h.raised,
          h.started, by simp⟩
      · refine ⟨by simp, by simp, fun _ => ⟨rfl, endedAt, rfl, hbefore, hstarted⟩, ?_, h.started,
          by simp⟩
        simp [RunFacts.resolved, h.raised, hsome]
  | passedCheck => exact ⟨h.onAir, h.interrupted, h.ended, h.raised, h.started, fun _ => rfl⟩
  | raised incident hnone hlive =>
      have hopened : f.state ≠ .interrupted := by
        intro hinterrupted
        have hsome := h.interrupted hinterrupted
        rw [hnone] at hsome
        cases hsome
      refine ⟨?_, fun _ => rfl, ?_, ?_, h.started, ?_⟩
      · simp only
        split_ifs with honAir
        · simp
        · exact fun hstate => absurd hstate honAir
      · simp only
        split_ifs with honAir
        · simp
        · exact fun hstate => absurd hstate hlive
      · simp [h.raised, hnone]
      · simp only
        split_ifs with honAir
        · exact fun _ => h.live (.inl honAir)
        · exact h.live
  | resolved incident hopen hmay =>
      have honAir : f.state ≠ .onAir := by
        intro hstate
        rw [h.onAir hstate] at hopen
        cases hopen
      have hended : f.state ≠ .ended := by
        intro hstate
        rw [(h.ended hstate).1] at hopen
        cases hopen
      refine ⟨fun _ => rfl, ?_, ?_, ?_, h.started, ?_⟩
      · simp only
        split_ifs with hinterrupted
        · simp
        · exact fun hstate => absurd hstate hinterrupted
      · simp only
        split_ifs with hinterrupted
        · simp
        · exact fun hstate => absurd hstate hended
      · simp [RunFacts.resolved, h.raised, hopen]
      · simp only
        split_ifs with hinterrupted
        · exact fun _ => h.live (.inr hinterrupted)
        · exact h.live

/-- The version counts what is recorded, and nothing else. -/
theorem RunFacts.Change.version (hc : f.Change now g) :
    (f.Recorded g → g.version = f.version + 1) ∧ (¬ f.Recorded g → g.version = f.version) := by
  cases hc with
  | none => exact ⟨fun h => by simp [RunFacts.Recorded] at h, fun _ => rfl⟩
  | moved target hmay =>
      exact ⟨fun _ => rfl, fun h => absurd (.inl (LawfulRunRules.moves _ _ _ hmay).symm) h⟩
  | wentOnAir hmay =>
      exact ⟨fun _ => rfl, fun h => absurd (.inl (LawfulRunRules.moves _ _ _ hmay).symm) h⟩
  | ended endedAt g hmay =>
      exact ⟨fun _ => rfl, fun h => absurd (.inl (LawfulRunRules.moves _ _ _ hmay).symm) h⟩
  | passedCheck hnone =>
      refine ⟨fun _ => rfl, fun h => absurd (.inr (.inr ?_)) h⟩
      simp [hnone]
  | raised incident hnone =>
      refine ⟨fun _ => rfl, fun h => absurd (.inr (.inl ?_)) h⟩
      simp [hnone]
  | resolved incident hopen =>
      refine ⟨fun _ => rfl, fun h => absurd (.inr (.inl ?_)) h⟩
      simp [hopen, RunFacts.resolved]

end Lifecycle

/-! ## Presence -/

/-- The operations by which a feed's presence is told. -/
def RunOperation.isPresence : RunOperation → Bool
  | .declarePublisherGone | .publisherBack _ | .publisherOnline _ _ | .publisherOffline _ => true
  | _ => false

/-- The automatic hold screen of a lost feed was open and is lifted. -/
def RunFacts.Lifted (f g : RunFacts) : Prop :=
  (∃ incident, f.openIncident = some incident ∧
    RunRules.holdScreenLiftsOnFeedReturn incident.kind incident.cause incident.trigger = true) ∧
    g.openIncident = none

section Presence

variable {run : Run} {now : Instant}

theorem Run.resolve_openIncident {incident : IncidentSnapshot} {actor : RunActor} {cleared : Bool} :
    (run.resolve incident actor cleared now).state = run ∨
      (run.resolve incident actor cleared now).state.facts.openIncident = none := by
  unfold Run.resolve
  refine Reply.guard_rule (P := fun reply => reply.state = run ∨
    reply.state.facts.openIncident = none) run _ _ (fun _ => .inl rfl) fun _ _ => .inr ?_
  simp only [Reply.answer_state, Run.facts_ite_applyStateChanged, Run.facts_record]
  simp [Run.facts, Run.openIncident, RunSnapshot.openIncident, Option.filter_some]

theorem Run.publisherBack_presence (wasAfterGracePeriod : Bool) :
    (run.publisherBack wasAfterGracePeriod now).state.facts = run.facts ∨
      run.facts.Lifted (run.publisherBack wasAfterGracePeriod now).state.facts := by
  unfold Run.publisherBack
  cases hopen : run.openIncident with
  | none =>
      simp only
      split_ifs
      · exact .inl (Run.facts_applyStateChanged run now)
      · exact .inl rfl
  | some incident =>
      simp only
      split_ifs with hlifts
      · apply Run.resolve_openIncident.imp
        · exact congrArg Run.facts
        · exact fun hnone => ⟨⟨incident, hopen, hlifts⟩, hnone⟩
      · exact .inl (Run.facts_applyStateChanged run now)
      · exact .inl rfl

/-- A presence report moves no fact, unless it lifts the hold screen of the lost feed. -/
theorem RunOperation.perform_presence (op : RunOperation) (hop : op.isPresence = true) :
    (op.perform run now).state.facts = run.facts ∨
      run.facts.Lifted (op.perform run now).state.facts := by
  cases op with
  | declarePublisherGone =>
      simp only [RunOperation.perform, Run.declarePublisherGone]
      split_ifs
      · exact .inl rfl
      · exact .inl (Run.facts_applyStateChanged _ now)
  | publisherBack wasAfterGracePeriod => exact Run.publisherBack_presence wasAfterGracePeriod
  | publisherOnline monitorPaths protocol =>
      let restored := (run.recordOnset protocol (monitorPathOf protocol monitorPaths) now).restored
      have hback : (restored.publisherBack run.current.afterGracePeriod now).state.facts =
          restored.facts ∨ restored.facts.Lifted _ := Run.publisherBack_presence _
      rw [Run.facts_restored] at hback
      simp only [RunOperation.perform, Run.publisherOnline]
      split_ifs
      · exact .inl rfl
      · split
        · exact .inl rfl
        · exact hback
      · exact .inl rfl
  | publisherOffline onlineSince =>
      simp only [RunOperation.perform, Run.publisherOffline]
      split_ifs
      · exact .inl rfl
      · exact .inl rfl
  | _ => cases hop

end Presence

/-! ## Runs -/

/-- The operations made one after the other, each at its instant. -/
def runOf (run : Run) (steps : List (Instant × RunOperation)) : Run :=
  steps.foldl (fun run step => (step.2.perform run step.1).state) run

@[simp] theorem runOf_nil (run : Run) : runOf run [] = run := rfl

theorem runOf_append (run : Run) (before later : List (Instant × RunOperation)) :
    runOf run (before ++ later) = runOf (runOf run before) later := List.foldl_append

theorem runOf_concat (run : Run) (steps : List (Instant × RunOperation)) (now : Instant)
    (op : RunOperation) :
    runOf run (steps ++ [(now, op)]) = (op.perform (runOf run steps) now).state := by
  rw [runOf_append]
  rfl

omit [RunRules] in
/-- A run just prepared. -/
theorem lifecycle_prepare (toPrepare : RunToPrepare) (now : Instant) :
    Lifecycle (Run.prepare toPrepare now).facts now := by
  constructor <;> simp [Run.prepare, Run.facts, Run.openIncident, RunSnapshot.openIncident,
    openIncidentsOf, RunEvent.openAfter]

section Runs

variable [LawfulRunRules] {run : Run} {clock : Instant}

/-- A run driven under a clock keeps its lifecycle. -/
theorem lifecycle_runOf (hrun : Lifecycle run.facts clock) (steps : List (Instant × RunOperation))
    (hclock : (clock :: steps.map Prod.fst).Pairwise (· ≤ ·)) (now : Instant) (hnow : clock ≤ now)
    (hlast : ∀ step ∈ steps, step.1 ≤ now) : Lifecycle (runOf run steps).facts now := by
  induction steps using List.reverseRecOn generalizing now with
  | nil => exact hrun.mono hnow
  | append_singleton steps step ih =>
      obtain ⟨last, op⟩ := step
      rw [List.map_append, ← List.cons_append, List.pairwise_append] at hclock
      have hbefore : ∀ instant ∈ clock :: steps.map Prod.fst, instant ≤ last :=
        fun instant hinstant => hclock.2.2 instant hinstant last (by simp)
      have hkept := ih hclock.1 last (hbefore clock (by simp)) fun step hstep =>
        hbefore step.1 (List.mem_cons_of_mem _ (List.mem_map_of_mem hstep))
      rw [runOf_concat]
      exact (hkept.change (op.perform_change)).mono (hlast (last, op) (by simp))

/-- Once ended, a run stays ended. -/
theorem ended_runOf (hrun : Lifecycle run.facts clock) (hended : run.current.state = .ended)
    (steps : List (Instant × RunOperation))
    (hclock : (clock :: steps.map Prod.fst).Pairwise (· ≤ ·)) :
    (runOf run steps).current.state = .ended := by
  induction steps using List.reverseRecOn with
  | nil => exact hended
  | append_singleton steps step ih =>
      obtain ⟨last, op⟩ := step
      rw [List.map_append, ← List.cons_append, List.pairwise_append] at hclock
      have hbefore : ∀ instant ∈ clock :: steps.map Prod.fst, instant ≤ last :=
        fun instant hinstant => hclock.2.2 instant hinstant last (by simp)
      have hstate := ih hclock.1
      have hkept := lifecycle_runOf hrun steps hclock.1 last (hbefore clock (by simp))
        fun step hstep => hbefore step.1 (List.mem_cons_of_mem _ (List.mem_map_of_mem hstep))
      rw [runOf_concat]
      exact (op.perform_change).ended_stays hstate (hkept.ended hstate).1

/-- A run any operations lead to, each at an instant not before the last one's. -/
def Run.Reachable (run : Run) : Prop :=
  ∃ (toPrepare : RunToPrepare) (preparedAt : Instant) (steps : List (Instant × RunOperation)),
    (preparedAt :: steps.map Prod.fst).Pairwise (· ≤ ·) ∧
      run = runOf (Run.prepare toPrepare preparedAt) steps

theorem Run.Reachable.lifecycle (h : run.Reachable) : ∃ now, Lifecycle run.facts now := by
  obtain ⟨toPrepare, preparedAt, steps, hclock, rfl⟩ := h
  obtain ⟨now, hnow⟩ : ∃ now, ∀ instant ∈ preparedAt :: steps.map Prod.fst, instant ≤ now :=
    ⟨_, fun instant hinstant => List.le_max_of_mem hinstant⟩
  exact ⟨now, lifecycle_runOf (lifecycle_prepare toPrepare preparedAt) steps hclock now
    (hnow preparedAt (by simp))
    fun step hstep => hnow step.1 (List.mem_cons_of_mem _ (List.mem_map_of_mem hstep))⟩

/-- A run driven by any operations under one clock. On air it has no open incident, interrupted it
has one, its events leave at most one open, ended it has none and ends no earlier than it began.
Each operation advances the version exactly when it records something, presence alone never does, a
declined one leaves the run, and nothing follows the end. -/
theorem lifecycle_of_operations (toPrepare : RunToPrepare) (preparedAt : Instant)
    (steps : List (Instant × RunOperation))
    (hclock : (preparedAt :: steps.map Prod.fst).Pairwise (· ≤ ·)) :
    let final := (runOf (Run.prepare toPrepare preparedAt) steps).facts
    (final.state = .onAir → final.openIncident = none) ∧
    (final.state = .interrupted → final.openIncident.isSome) ∧
    (final.raised.length ≤ 1 ∧ final.raised = final.openIncident.toList) ∧
    (final.state = .ended → final.openIncident = none ∧
      ∃ endedAt, final.endedAt = some endedAt ∧
        ∀ startedAt ∈ final.startedAt, startedAt ≤ endedAt) ∧
    ∀ before later now op, steps = before ++ (now, op) :: later →
      let earlier := runOf (Run.prepare toPrepare preparedAt) before
      let reply := op.perform earlier now
      (earlier.facts.state = .ended → final.state = .ended) ∧
      (earlier.facts.Recorded reply.state.facts →
        reply.state.facts.version = earlier.facts.version + 1) ∧
      (¬ earlier.facts.Recorded reply.state.facts →
        reply.state.facts.version = earlier.facts.version) ∧
      (op.isPresence = true → ¬ earlier.facts.Lifted reply.state.facts →
        reply.state.facts = earlier.facts) ∧
      (Declined reply → reply.state = earlier) := by
  intro final
  have hreachable : (runOf (Run.prepare toPrepare preparedAt) steps).Reachable :=
    ⟨toPrepare, preparedAt, steps, hclock, rfl⟩
  obtain ⟨now, hkept⟩ := hreachable.lifecycle
  refine ⟨hkept.onAir, hkept.interrupted, ⟨?_, hkept.raised⟩, ?_, ?_⟩
  · rw [hkept.raised]
    cases final.openIncident <;> simp
  · intro hended
    obtain ⟨hnone, endedAt, hendedAt, -, hafter⟩ := hkept.ended hended
    exact ⟨hnone, endedAt, hendedAt, hafter⟩
  · intro before later now op hsteps earlier reply
    have hchange : earlier.facts.Change now reply.state.facts := op.perform_change
    refine ⟨?_, hchange.version.1, hchange.version.2, ?_, op.perform_declined⟩
    · intro hended
      subst hsteps
      rw [List.map_append, ← List.cons_append, List.pairwise_append, List.map_cons] at hclock
      have hbefore : ∀ instant ∈ preparedAt :: before.map Prod.fst, instant ≤ now :=
        fun instant hinstant => hclock.2.2 instant hinstant now (by simp)
      have hearlier := lifecycle_runOf (lifecycle_prepare toPrepare preparedAt) before hclock.1
        now (hbefore preparedAt (by simp)) fun step hstep => hbefore step.1 (List.mem_cons_of_mem _ (List.mem_map_of_mem hstep))
      have hfinal : final = (runOf earlier ((now, op) :: later)).facts :=
        congrArg Run.facts (runOf_append _ before _)
      rw [hfinal]
      refine ended_runOf hearlier hended _ ?_
      rw [List.map_cons, List.pairwise_cons]
      refine ⟨?_, hclock.2.1⟩
      intro instant hinstant
      obtain rfl | hlater := List.mem_cons.mp hinstant
      · exact le_rfl
      · exact (List.pairwise_cons.mp hclock.2.1).1 instant hlater
    · intro hop hlifted
      exact (op.perform_presence hop).resolve_right hlifted

end Runs

end Operations

section Sample

open Arthome.Core.Sample

/-- Checked, on air, interrupted by a lost feed, back, and ended by the artist. -/
def sampleShow : List (Instant × RunOperation) :=
  [(10, .runTechnicalCheck [] .srt ⟨some 7, .studioWeb⟩), (20, .rehearse 2),
    (25, .publisherOnline [.whep] .whip),
    (30, .goOnAir 3 (some .technical) ⟨some 7, .studioWeb⟩), (40, .publisherOffline 25),
    (20000, .raiseHoldScreenIfFeedLost 9), (30000, .publisherOnline [] .srt),
    (90000, .end 6 ⟨some 7, .studioWeb⟩)]

theorem lifecycle_of_operations_sample :
    (runOf (Run.prepare ⟨1, 2, 3, "path"⟩ 0) sampleShow).facts.openIncident = none := by
  have hkept := lifecycle_of_operations ⟨1, 2, 3, "path"⟩ 0 sampleShow (by decide)
  have hended : (runOf (Run.prepare ⟨1, 2, 3, "path"⟩ 0) sampleShow).facts.state = .ended := by
    decide
  exact (hkept.2.2.2.1 hended).1

end Sample

end Arthome.Streaming
