import Arthome.Library.Machine
import Arthome.Streaming.RunLifecycle

/-!
# The history of a run

A transaction on a run stamps all it states with one instant. A command of the run
desk reads it from the clock under the run's lock. A pass read its instant when it
began, a report carries the media server's, and the run may have moved since. The
history stays in time order as long as such an instant is not before the last one
published, in every transaction that has something to state; an online report that
lifts the hold screen of a feed back before the screen was raised is not such a one.
-/

namespace Arthome.Streaming

open Arthome.Core Library

def RunEvent.occurredAt : RunEvent → Instant
  | .runPrepared _ occurredAt => occurredAt
  | .technicalCheckPassed _ _ _ _ occurredAt => occurredAt
  | .runStarted _ _ _ _ _ occurredAt => occurredAt
  | .runEnded _ _ _ _ _ occurredAt => occurredAt
  | .runStateChanged _ _ _ _ occurredAt => occurredAt
  | .incidentRaised _ _ _ _ occurredAt => occurredAt
  | .incidentResolved _ _ _ occurredAt => occurredAt

/-- The events with a wire form; a run's preparation stays inside the service. -/
def RunEvent.isPublished : RunEvent → Bool
  | .runPrepared _ _ => false
  | _ => true

/-- A run's row with the events it recorded, the rows of its incidents, and the clock. -/
structure RunHistory where
  run : Run
  incidents : List IncidentSnapshot
  clock : Instant
  deriving Repr, DecidableEq

/-- One transaction on the run, or the clock's advance. -/
inductive RunStep where
  | tick (later : Instant)
  | command (op : RunOperation)
  /-- `now` is the instant the pass began at; `incidentId` is drawn by the transaction. -/
  | sweepPresence (incidentId : Uuid) (now : Instant)
  | endByItself (scheduledEndsAt now : Instant)
  | publisherOnline (monitorPaths : List MonitorPath) (protocol : IngestProtocol) (onset : Instant)
  | publisherOffline (onlineSince lostAt : Instant)
  | workerFailed (final : Bool) (incidentId : Uuid) (failedAt : Instant)
  deriving Repr, DecidableEq

/-- The commands of the run desk. -/
def RunOperation.isCommand : RunOperation → Bool
  | .rehearse _ | .reset _ | .goOnAir _ _ _ | .end _ _ | .runTechnicalCheck _ _ _
  | .raiseIncident _ _ | .resolveIncident _ _ => true
  | _ => false

/-- The sweep of one run locked: "publisher gone" past the grace, the hold screen at its delay. -/
def Run.sweepPresence [RunRules] (run : Run) (incidentId : Uuid) (now : Instant) :
    Reply Run RunRefusal Bool :=
  let gone := run.declarePublisherGone now
  match gone.result with
  | .error e => .refuse run e
  | .ok wasGone =>
    let veiled := gone.state.raiseHoldScreenIfFeedLost incidentId now
    match veiled.result with
    | .error e => .refuse run e
    | .ok wasVeiled => if wasGone || wasVeiled then .answer veiled.state true else .answer run false

namespace RunHistory

def prepared (toPrepare : RunToPrepare) (now : Instant) : RunHistory :=
  ⟨Run.prepare toPrepare now, [], now⟩

def published (history : RunHistory) : List RunEvent :=
  history.run.events.filter RunEvent.isPublished

def openIncident (history : RunHistory) : Option IncidentSnapshot :=
  history.incidents.find? fun incident => incident.resolvedAt.isNone

/-- The run as a transaction loads it, its unresolved incident with it. -/
def loaded (history : RunHistory) : Run :=
  { history.run with
    current := { history.run.current with incident := history.openIncident } }

/-- A new incident is inserted, or the loaded one resolved; a reused id inserts nothing. -/
def writeIncident (history : RunHistory) (incident : IncidentSnapshot) :
    Option (List IncidentSnapshot) :=
  if (history.openIncident.map fun loaded => loaded.id) = some incident.id then
    if incident.resolvedAt = none then some history.incidents
    else
      some (history.incidents.map fun row =>
        if row.id = incident.id ∧ row.resolvedAt = none then
          { row with resolvedAt := incident.resolvedAt, resolvedBy := incident.resolvedBy }
        else row)
  else if history.incidents.any fun row => row.id = incident.id ∨ row.resolvedAt = none then none
  else some (history.incidents ++ [incident])

def save (history : RunHistory) (run : Run) : Option RunHistory :=
  match run.current.incident with
  | none => some { history with run }
  | some incident =>
    (history.writeIncident incident).map fun incidents => { history with run, incidents }

/-- What a transaction leaves: all of it, or nothing when it was refused or had nothing to do. -/
def commit (history : RunHistory) (reply : Reply Run RunRefusal Bool) : RunHistory :=
  match reply.result with
  | .ok true => (history.save reply.state).getD history
  | _ => history

variable [RunRules]

def after (history : RunHistory) : RunStep → RunHistory
  | .tick later => { history with clock := later }
  | .command op => history.commit (op.perform history.loaded history.clock)
  | .sweepPresence incidentId now => history.commit (history.loaded.sweepPresence incidentId now)
  | .endByItself scheduledEndsAt now =>
    history.commit (history.loaded.endByItself scheduledEndsAt now)
  | .publisherOnline monitorPaths protocol onset =>
    history.commit (history.loaded.publisherOnline monitorPaths protocol onset)
  | .publisherOffline onlineSince lostAt =>
    history.commit (history.loaded.publisherOffline onlineSince lostAt)
  | .workerFailed final incidentId failedAt =>
    history.commit (history.loaded.workerFailed final incidentId failedAt)

omit [RunRules] in
/-- A step that can be made: the clock never goes back, a pass began and the media server saw what
it reports in the past. -/
def Admits (history : RunHistory) : RunStep → Prop
  | .tick later => history.clock ≤ later
  | .command op => op.isCommand = true
  | .sweepPresence _ now => now ≤ history.clock
  | .endByItself _ now => now ≤ history.clock
  | .publisherOnline _ _ onset => onset ≤ history.clock
  | .publisherOffline _ lostAt => lostAt ≤ history.clock
  | .workerFailed _ _ failedAt => failedAt ≤ history.clock

omit [RunRules] in
/-- An instant not before any event published. -/
def Follows (history : RunHistory) (instant : Instant) : Prop :=
  ∀ event ∈ history.published, event.occurredAt ≤ instant

/-- A sweep at an instant has something to state. -/
def SweepDue (run : Run) (now : Instant) : Prop :=
  run.current.afterGracePeriod = false ∧
      Run.feedLostFor run.current RunRules.publisherGraceSeconds now = true ∨
    run.openIncident = none ∧
      Run.feedLostFor run.current RunRules.holdScreenAutoAfterSecondsDefault now = true

/-- The run is due to end by itself. -/
def EndDue (run : Run) (scheduledEndsAt now : Instant) : Prop :=
  (run.current.state = .onAir ∨ run.current.state = .interrupted) ∧
    ∃ endsAt ∈ RunRules.runAutoEndsAt scheduledEndsAt run.current.publisherLostAt
      run.current.publisherOnlineSince.isSome, RunRules.isAfter endsAt now = false

/-- An onset is news that lifts a hold screen or ends a publisher's absence. -/
def OnsetHeard (run : Run) (onset : Instant) : Prop :=
  run.current.publisherOnlineSince ≠ some onset ∧ Run.AcceptsOnset run.current onset ∧
    (run.current.afterGracePeriod = true ∨ ∃ incident ∈ run.openIncident,
      RunRules.holdScreenLiftsOnFeedReturn incident.kind incident.cause incident.trigger = true)

/-- A pass or a report that has something to state does so at an instant not before the last event
published. -/
def TakenInOrder (history : RunHistory) : RunStep → Prop
  | .sweepPresence _ now => SweepDue history.loaded now → history.Follows now
  | .endByItself scheduledEndsAt now =>
    EndDue history.loaded scheduledEndsAt now → history.Follows now
  | .publisherOnline _ _ onset => OnsetHeard history.loaded onset → history.Follows onset
  | .workerFailed final _ failedAt =>
    final = true ∧ history.run.current.state ≠ .ended ∧ history.openIncident = none →
      history.Follows failedAt
  | _ => True

omit [RunRules] in
/-- The events published carry instants that never go back, and no incident is resolved before it
was raised. -/
def InOrder (history : RunHistory) : Prop :=
  (history.published.map RunEvent.occurredAt).Pairwise (· ≤ ·) ∧
    ∀ incident ∈ history.incidents, ∀ resolvedAt ∈ incident.resolvedAt,
      incident.raisedAt ≤ resolvedAt

end RunHistory

/-! ## What an operation tells -/

/-- What an operation does to the open incident it was made under. -/
inductive IncidentMove (before : Option IncidentSnapshot) (now : Instant) :
    Option IncidentSnapshot → Prop
  | kept : IncidentMove before now before
  | resolved (incident : IncidentSnapshot) (resolvedBy : Option Uuid)
      (hopen : before = some incident) :
      IncidentMove before now (some { incident with resolvedAt := some now, resolvedBy })
  | raised (incident : IncidentSnapshot) (hnone : before = none) (hat : incident.raisedAt = now)
      (hopen : incident.resolvedAt = none) : IncidentMove before now (some incident)

/-- The operation recorded events all at its instant, and moved the open incident at it. An incident
it raised is among them. -/
def Run.Tells (run : Run) (now : Instant) (told : Run) : Prop :=
  ∃ stated, told.events = run.events ++ stated ∧ (∀ event ∈ stated, event.occurredAt = now) ∧
    IncidentMove run.openIncident now told.current.incident ∧
    (told.current.incident ≠ run.openIncident → ∃ event ∈ stated, event.isPublished = true)

section Tells

variable {run told : Run} {now : Instant}

@[simp] theorem Run.record_events (event : RunEvent) :
    (run.record event).events = run.events ++ [event] := rfl

@[simp] theorem Run.record_current (event : RunEvent) : (run.record event).current = run.current :=
  rfl

/-- A state change recorded at the end. -/
theorem Run.applyStateChanged_events (run : Run) (now : Instant) :
    ∃ event, event.occurredAt = now ∧ event.isPublished = true ∧
      (run.applyStateChanged now).events = run.events ++ [event] :=
  ⟨_, rfl, rfl, rfl⟩

@[simp] theorem Run.applyStateChanged_current :
    (run.applyStateChanged now).current = run.current := rfl

/-- A run loaded holds its open incident alone. -/
def Run.Loaded (run : Run) : Prop := run.current.incident = run.openIncident

theorem Run.Tells.refl (hloaded : run.Loaded) : run.Tells now run :=
  ⟨[], by simp, by simp, hloaded ▸ .kept, fun h => absurd hloaded h⟩

/-- One more event, and nothing else. -/
theorem Run.Tells.record (h : run.Tells now told) {event : RunEvent} (hat : event.occurredAt = now) :
    run.Tells now (told.record event) := by
  obtain ⟨stated, hevents, hstated, hmove, hnews⟩ := h
  refine ⟨stated ++ [event], ?_, ?_, hmove, fun hmoved => ?_⟩
  · rw [Run.record_events, hevents, List.append_assoc]
  · intro other hother
    rw [List.mem_append, List.mem_singleton] at hother
    obtain hother | rfl := hother
    · exact hstated other hother
    · exact hat
  · obtain ⟨other, hother, hpublished⟩ := hnews hmoved
    exact ⟨other, List.mem_append_left _ hother, hpublished⟩

theorem Run.Tells.applyStateChanged (h : run.Tells now told) :
    run.Tells now (told.applyStateChanged now) := h.record rfl

theorem Run.Tells.ite_applyStateChanged (h : run.Tells now told) (p : Prop) [Decidable p] :
    run.Tells now (if p then told.applyStateChanged now else told) := by
  split_ifs
  · exact h.applyStateChanged
  · exact h

/-- The row's other fields say nothing. -/
theorem Run.Tells.of_row (h : run.Tells now told) {row : RunSnapshot}
    (hincident : row.incident = told.current.incident) :
    run.Tells now { told with current := row } := by
  obtain ⟨stated, hevents, hstated, hmove, hnews⟩ := h
  exact ⟨stated, hevents, hstated, hincident ▸ hmove, hincident ▸ hnews⟩

/-- An incident moved, and an event published of it. -/
theorem Run.Tells.of_move {row : RunSnapshot} {event : RunEvent} (hat : event.occurredAt = now)
    (hpublished : event.isPublished = true)
    (hmove : IncidentMove run.openIncident now row.incident) :
    run.Tells now (({ run with current := row } : Run).record event) := by
  refine ⟨[event], rfl, ?_, hmove, fun _ => ⟨event, by simp, hpublished⟩⟩
  intro other hother
  rw [List.mem_singleton.mp hother]
  exact hat

theorem Run.Tells.incidentMove (h : run.Tells now told) :
    IncidentMove run.openIncident now told.current.incident := by
  obtain ⟨-, -, -, hmove, -⟩ := h
  exact hmove

/-- A check leaves the run as it was, or lets the operation go on. -/
theorem tells_of_guard {α β : Type} {check : Except RunRefusal α} {rest : α → Reply Run RunRefusal β}
    (hloaded : run.Loaded) (h : ∀ a, check = .ok a → run.Tells now (rest a).state) :
    run.Tells now (Reply.guard run check rest).state := by
  apply Reply.guard_rule (P := fun reply => run.Tells now reply.state)
  · exact fun _ => .refl hloaded
  · exact h

/-- What a second operation of the transaction tells, the first having left the incident. -/
theorem Run.Tells.trans {first : Run} (h : run.Tells now first)
    (hincident : first.openIncident = run.openIncident) (hnext : first.Tells now told) :
    run.Tells now told := by
  obtain ⟨stated, hevents, hstated, -, -⟩ := h
  obtain ⟨later, hlaterEvents, hlater, hmove, hnews⟩ := hnext
  rw [hincident] at hmove hnews
  refine ⟨stated ++ later, ?_, ?_, hmove, fun hmoved => ?_⟩
  · rw [hlaterEvents, hevents, List.append_assoc]
  · intro event hevent
    obtain hevent | hevent := List.mem_append.mp hevent
    · exact hstated event hevent
    · exact hlater event hevent
  · obtain ⟨event, hevent, hpublished⟩ := hnews hmoved
    exact ⟨event, List.mem_append_right _ hevent, hpublished⟩

theorem Run.Loaded.restored (h : run.Loaded) : run.restored = run := by
  obtain ⟨current, events⟩ := run
  simp only [Run.Loaded] at h
  rw [Run.restored, ← h]

variable [RunRules]

theorem Run.move_tells (hloaded : run.Loaded) (target : RunState) (version : ℕ) :
    run.Tells now (run.move target version now).state := by
  unfold Run.move
  apply tells_of_guard hloaded
  intro _ _
  apply Run.Tells.applyStateChanged
  exact (Run.Tells.refl hloaded).of_row rfl

theorem Run.goOnAir_tells (hloaded : run.Loaded) (expectedVersion : ℕ)
    (publicationState : Option PublicationState) (actor : RunActor) :
    run.Tells now (run.goOnAir expectedVersion publicationState actor now).state := by
  unfold Run.goOnAir
  apply tells_of_guard hloaded
  intro version _
  apply tells_of_guard hloaded
  intro _ _
  split_ifs
  · exact .refl hloaded
  · exact .refl hloaded
  · apply Run.Tells.applyStateChanged
    apply Run.Tells.record ?_ rfl
    exact (Run.Tells.refl hloaded).of_row rfl

/-- The end, its open incident resolved first. -/
theorem Run.endAt_tells (hloaded : run.Loaded) (version : ℕ) (endedAt : Instant) (actor : RunActor) :
    run.Tells now (run.endAt version endedAt actor now).state := by
  unfold Run.endAt
  apply tells_of_guard hloaded
  intro _ _
  apply Run.Tells.applyStateChanged
  apply Run.Tells.record ?_ rfl
  cases hopen : run.openIncident with
  | none => exact (Run.Tells.refl hloaded).of_row rfl
  | some incident => exact .of_move rfl rfl (.resolved incident _ hopen)

theorem Run.raise_tells (hloaded : run.Loaded) (hnone : run.openIncident = none)
    (raised : RaisedIncident) (trigger : IncidentTrigger) (raisedBy : Option Uuid)
    (actor : RunActor) : run.Tells now (run.raise raised trigger raisedBy actor now).state := by
  unfold Run.raise
  apply tells_of_guard hloaded
  intro _ _
  apply Run.Tells.ite_applyStateChanged
  exact .of_move rfl rfl (.raised _ hnone rfl rfl)

theorem Run.resolve_tells (hloaded : run.Loaded) {incident : IncidentSnapshot}
    (hopen : run.openIncident = some incident) (actor : RunActor) (cleared : Bool) :
    run.Tells now (run.resolve incident actor cleared now).state := by
  unfold Run.resolve
  apply tells_of_guard hloaded
  intro _ _
  apply Run.Tells.ite_applyStateChanged
  exact .of_move rfl rfl (.resolved incident _ hopen)

/-- Every command of the run desk tells what it did at its own instant. -/
theorem RunOperation.perform_tells (hloaded : run.Loaded) (op : RunOperation)
    (hcommand : op.isCommand = true) : run.Tells now (op.perform run now).state := by
  cases op with
  | rehearse expectedVersion =>
      apply tells_of_guard hloaded
      exact fun version _ => Run.move_tells hloaded .rehearsal version
  | reset expectedVersion =>
      apply tells_of_guard hloaded
      exact fun version _ => Run.move_tells hloaded .idle version
  | goOnAir expectedVersion publicationState actor =>
      exact Run.goOnAir_tells hloaded expectedVersion publicationState actor
  | «end» expectedVersion actor =>
      apply tells_of_guard hloaded
      exact fun version _ => Run.endAt_tells hloaded version now actor
  | runTechnicalCheck failures protocol actor =>
      simp only [RunOperation.perform, Run.runTechnicalCheck]
      split_ifs
      · exact .refl hloaded
      · exact .refl hloaded
      · exact (Run.Tells.refl hloaded).record rfl
      · exact ((Run.Tells.refl hloaded).of_row rfl).record rfl
  | raiseIncident raised actor =>
      simp only [RunOperation.perform, done, Run.raiseIncident]
      split_ifs with hrefused
      · exact .refl hloaded
      · rw [not_or, Option.not_isSome_iff_eq_none] at hrefused
        exact Run.raise_tells hloaded hrefused.2 ..
  | resolveIncident incidentId actor =>
      simp only [RunOperation.perform, Run.resolveIncident]
      split
      · exact .refl hloaded
      · rename_i incident hopen
        split_ifs
        · exact .refl hloaded
        · exact Run.resolve_tells hloaded hopen actor false
  | _ => cases hcommand

/-- Presence only: the incident stays, and so does what is due of the hold screen. -/
theorem Run.declarePublisherGone_spec (hloaded : run.Loaded) (now : Instant) :
    (∃ gone, run.declarePublisherGone now = .answer gone true ∧ run.Tells now gone ∧
        gone.Loaded ∧ gone.openIncident = run.openIncident ∧
        run.current.afterGracePeriod = false ∧
        Run.feedLostFor run.current RunRules.publisherGraceSeconds now = true) ∨
      run.declarePublisherGone now = .answer run false := by
  unfold Run.declarePublisherGone
  split_ifs with hquiet
  · exact .inr rfl
  · rw [Bool.or_eq_true, not_or, Bool.not_eq_true, Bool.not_eq_true', Bool.not_eq_false] at hquiet
    refine .inl ⟨_, rfl, ?_, hloaded, rfl, hquiet.1, hquiet.2⟩
    apply Run.Tells.applyStateChanged
    exact (Run.Tells.refl hloaded).of_row rfl

theorem Run.raiseHoldScreenIfFeedLost_tells (hloaded : run.Loaded) (incidentId : Uuid) :
    run.Tells now (run.raiseHoldScreenIfFeedLost incidentId now).state := by
  unfold Run.raiseHoldScreenIfFeedLost
  split_ifs with hquiet
  · exact .refl hloaded
  · rw [Bool.or_eq_true, not_or, Option.not_isSome_iff_eq_none] at hquiet
    exact Run.raise_tells hloaded hquiet.1 ..

/-- A hold screen raised was due. -/
theorem Run.raiseHoldScreenIfFeedLost_due {incidentId : Uuid}
    (h : (run.raiseHoldScreenIfFeedLost incidentId now).result = .ok true) :
    run.openIncident = none ∧
      Run.feedLostFor run.current RunRules.holdScreenAutoAfterSecondsDefault now = true := by
  unfold Run.raiseHoldScreenIfFeedLost at h
  split_ifs at h with hquiet
  · simp at h
  · rw [Bool.or_eq_true, not_or, Option.not_isSome_iff_eq_none, Bool.not_eq_true',
      Bool.not_eq_false] at hquiet
    exact hquiet

/-- A sweep that did something was due. -/
theorem Run.sweepPresence_tells (hloaded : run.Loaded) {incidentId : Uuid}
    (hdone : (run.sweepPresence incidentId now).result = .ok true) :
    RunHistory.SweepDue run now ∧ run.Tells now (run.sweepPresence incidentId now).state := by
  unfold Run.sweepPresence at hdone ⊢
  obtain ⟨gone, hgone, htells, hgoneLoaded, hincident, hgrace, hlost⟩ | hquiet :=
    Run.declarePublisherGone_spec hloaded now
  · refine ⟨.inl ⟨hgrace, hlost⟩, ?_⟩
    rw [hgone] at hdone ⊢
    simp only [Reply.answer_result, Reply.answer_state, Bool.true_or, if_true] at hdone ⊢
    split at hdone
    · simp at hdone
    · exact htells.trans hincident (Run.raiseHoldScreenIfFeedLost_tells hgoneLoaded incidentId)
  · rw [hquiet] at hdone ⊢
    simp only [Reply.answer_result, Reply.answer_state, Bool.false_or] at hdone ⊢
    split at hdone
    · simp at hdone
    · rename_i wasVeiled hveiled
      split_ifs at hdone ⊢ with hwas
      · subst hwas
        exact ⟨.inr (Run.raiseHoldScreenIfFeedLost_due hveiled),
          Run.raiseHoldScreenIfFeedLost_tells hloaded incidentId⟩
      · simp at hdone

/-- An end by itself that was made was due. -/
theorem Run.endByItself_tells (hloaded : run.Loaded) {scheduledEndsAt : Instant}
    (hdone : (run.endByItself scheduledEndsAt now).result = .ok true) :
    RunHistory.EndDue run scheduledEndsAt now ∧
      run.Tells now (run.endByItself scheduledEndsAt now).state := by
  simp only [Run.endByItself] at hdone ⊢
  split_ifs at hdone ⊢ with hlive
  · simp at hdone
  · split at hdone
    · simp at hdone
    · rename_i endsAt hends
      split_ifs at hdone ⊢ with hdue
      · simp at hdone
      · refine ⟨⟨?_, endsAt, hends, by simpa using hdue⟩, Run.endAt_tells hloaded ..⟩
        rw [not_and_or, not_not, not_not] at hlive
        exact hlive

/-- A worker's failure that was raised. -/
theorem Run.workerFailed_tells (hloaded : run.Loaded) {final : Bool} {incidentId : Uuid}
    (hdone : (run.workerFailed final incidentId now).result = .ok true) :
    (final = true ∧ run.current.state ≠ .ended ∧ run.openIncident = none) ∧
      run.Tells now (run.workerFailed final incidentId now).state := by
  simp only [Run.workerFailed, hloaded.restored] at hdone ⊢
  split_ifs at hdone ⊢ with hfinal
  · simp at hdone
  · rw [Bool.not_eq_true', Bool.not_eq_false] at hfinal
    unfold Run.raiseWorkerFailure at hdone ⊢
    split_ifs at hdone ⊢ with hrefused
    · simp at hdone
    · rw [not_or, Option.not_isSome_iff_eq_none] at hrefused
      have htells : run.Tells now (done (run.raiseAutomatic incidentId .compatibilityWorkerFailed
        now)).state := Run.raise_tells hloaded hrefused.2 ..
      refine ⟨⟨hfinal, hrefused⟩, ?_⟩
      split at hdone
      · simp at hdone
      · simp at hdone
      · exact htells

/-- The feed is back: the hold screen lifts, or an absence ends, or nothing is told. -/
theorem Run.publisherBack_tells (hloaded : run.Loaded) (wasAfterGracePeriod : Bool)
    (now : Instant) :
    run.Tells now (run.publisherBack wasAfterGracePeriod now).state ∧
      ((wasAfterGracePeriod = true ∨ ∃ incident ∈ run.openIncident,
          RunRules.holdScreenLiftsOnFeedReturn incident.kind incident.cause incident.trigger =
            true) ∨
        (run.publisherBack wasAfterGracePeriod now).state = run) := by
  unfold Run.publisherBack
  cases hopen : run.openIncident with
  | none =>
      simp only
      split_ifs with hwas
      · exact ⟨(Run.Tells.refl hloaded).applyStateChanged, .inl (.inl hwas)⟩
      · exact ⟨.refl hloaded, .inr rfl⟩
  | some incident =>
      simp only
      split_ifs with hlifts hwas
      · exact ⟨Run.resolve_tells hloaded hopen ..,
          .inl (.inr ⟨incident, rfl, hlifts⟩)⟩
      · exact ⟨(Run.Tells.refl hloaded).applyStateChanged, .inl (.inl hwas)⟩
      · exact ⟨.refl hloaded, .inr rfl⟩

/-- An onset heard, or one recorded in silence. -/
theorem Run.publisherOnline_tells (hloaded : run.Loaded) {monitorPaths : List MonitorPath}
    {protocol : IngestProtocol}
    (hdone : (run.publisherOnline monitorPaths protocol now).result = .ok true) :
    let reply := run.publisherOnline monitorPaths protocol now
    run.Tells now reply.state ∧ (RunHistory.OnsetHeard run now ∨
      reply.state.events = run.events ∧ reply.state.current.incident = run.openIncident) := by
  simp only [Run.publisherOnline] at hdone ⊢
  split_ifs at hdone ⊢ with hreported haccepts
  · simp at hdone
  · set back := run.recordOnset protocol (monitorPathOf protocol monitorPaths) now with hback
    have hbackLoaded : back.Loaded := hloaded
    rw [hbackLoaded.restored] at hdone ⊢
    have hincident : back.openIncident = run.openIncident := rfl
    have hrecorded : run.Tells now back := (Run.Tells.refl hloaded).of_row rfl
    obtain ⟨htells, hheard | hquiet⟩ :=
      Run.publisherBack_tells hbackLoaded run.current.afterGracePeriod now
    · refine ⟨?_, .inl ⟨hreported, haccepts, hheard⟩⟩
      split at hdone
      · simp at hdone
      · exact hrecorded.trans hincident htells
    · rw [hquiet] at hdone ⊢
      split at hdone
      · simp at hdone
      · exact ⟨hrecorded, .inr ⟨rfl, hloaded⟩⟩
  · simp at hdone

omit [RunRules] in
/-- A loss moves presence alone. -/
theorem Run.publisherOffline_tells (hloaded : run.Loaded) (onlineSince lostAt : Instant) :
    let reply := run.publisherOffline onlineSince lostAt
    run.Tells now reply.state ∧ reply.state.events = run.events ∧
      reply.state.current.incident = run.openIncident := by
  simp only [Run.publisherOffline]
  split_ifs
  · exact ⟨(Run.Tells.refl hloaded).of_row rfl, rfl, hloaded⟩
  · exact ⟨.refl hloaded, rfl, hloaded⟩

end Tells

/-! ## The order of a history -/

namespace RunHistory

/-- What keeps a history in order: nothing was published after the clock, and the raising of each
incident was published. -/
structure Kept (history : RunHistory) : Prop where
  inOrder : history.InOrder
  clock : history.Follows history.clock
  raised : ∀ incident ∈ history.incidents,
    ∃ event ∈ history.published, event.occurredAt = incident.raisedAt

section Kept

variable {history : RunHistory} {reply : Reply Run RunRefusal Bool} {now : Instant}

theorem openIncident_eq_some {incident : IncidentSnapshot}
    (h : history.openIncident = some incident) :
    incident ∈ history.incidents ∧ incident.resolvedAt = none := by
  refine ⟨List.mem_of_find?_eq_some h, ?_⟩
  simpa using List.find?_some h

theorem loaded_openIncident (history : RunHistory) :
    history.loaded.openIncident = history.openIncident := by
  cases hopen : history.openIncident with
  | none => simp [loaded, Run.openIncident, RunSnapshot.openIncident, hopen]
  | some incident =>
      have hunresolved := (openIncident_eq_some hopen).2
      simp [loaded, Run.openIncident, RunSnapshot.openIncident, hopen, Option.filter_some,
        hunresolved]

theorem loaded_loaded (history : RunHistory) : history.loaded.Loaded :=
  (history.loaded_openIncident).symm

/-- The rows an incident moved are written in: each an old one, one resolved now, or the one raised
now. -/
theorem writeIncident_mem {incident : IncidentSnapshot} {incidents : List IncidentSnapshot}
    (hmove : IncidentMove history.openIncident now (some incident))
    (hwritten : history.writeIncident incident = some incidents) (row : IncidentSnapshot)
    (hrow : row ∈ incidents) :
    row ∈ history.incidents ∨
      some incident ≠ history.openIncident ∧
        ((∃ old ∈ history.incidents, row.raisedAt = old.raisedAt ∧ row.resolvedAt = some now) ∨
          row.raisedAt = now ∧ row.resolvedAt = none) := by
  unfold writeIncident at hwritten
  split_ifs at hwritten with hid hopen htaken
  · exact .inl (Option.some.inj hwritten ▸ hrow)
  · rw [← Option.some.inj hwritten] at hrow
    obtain ⟨old, hold, hmoved⟩ := List.mem_map.mp hrow
    split_ifs at hmoved with hsame
    · refine .inr ⟨?_, .inl ⟨old, hold, by rw [← hmoved], ?_⟩⟩
      · intro hkept
        exact hopen (openIncident_eq_some hkept.symm).2
      · rw [← hmoved]
        generalize hbefore : history.openIncident = before at hmove
        generalize hafter : some incident = after at hmove
        cases hmove with
        | kept => exact absurd (openIncident_eq_some (hbefore.trans hafter.symm)).2 hopen
        | resolved loaded resolvedBy hloaded => rw [Option.some.inj hafter]
        | raised loaded hnone =>
            rw [hbefore, hnone] at hid
            cases hid
    · exact .inl (hmoved ▸ hold)
  · rw [← Option.some.inj hwritten, List.mem_append, List.mem_singleton] at hrow
    obtain hrow | rfl := hrow
    · exact .inl hrow
    · right
      generalize hbefore : history.openIncident = before at hmove hid
      generalize hafter : some row = after at hmove
      cases hmove with
      | kept =>
          rw [← hafter] at hid
          exact absurd rfl hid
      | resolved loaded resolvedBy hloaded =>
          rw [hloaded, Option.some.inj hafter] at hid
          exact absurd rfl hid
      | raised loaded hnone hat hunresolved =>
          rw [Option.some.inj hafter, hnone]
          exact ⟨by simp, .inr ⟨hat, hunresolved⟩⟩

/-- What is published once a run is saved. -/
theorem published_of_events {run : Run} {stated : List RunEvent} (incidents : List IncidentSnapshot)
    (hevents : run.events = history.run.events ++ stated) :
    published { history with run, incidents } =
      history.published ++ stated.filter RunEvent.isPublished := by
  simp only [published, hevents, List.filter_append]

/-- Events published at one instant after all the others leave the order. -/
theorem Follows.pairwise (horder : (history.published.map RunEvent.occurredAt).Pairwise (· ≤ ·))
    (hfollows : history.Follows now) {stated : List RunEvent}
    (hstated : ∀ event ∈ stated, event.occurredAt = now) :
    ((history.published ++ stated.filter RunEvent.isPublished).map RunEvent.occurredAt).Pairwise
      (· ≤ ·) := by
  have hnow : ∀ instant ∈ (stated.filter RunEvent.isPublished).map RunEvent.occurredAt,
      instant = now := by
    intro instant hinstant
    obtain ⟨event, hevent, rfl⟩ := List.mem_map.mp hinstant
    exact hstated event (List.mem_filter.mp hevent).1
  rw [List.map_append, List.pairwise_append]
  refine ⟨horder, ?_, ?_⟩
  · apply List.Pairwise.imp_of_mem ?_ (List.pairwise_of_forall (R := fun _ _ => True) fun _ _ => trivial)
    intro instant later hinstant hlater _
    rw [hnow instant hinstant, hnow later hlater]
  · intro instant hinstant later hlater
    obtain ⟨event, hevent, rfl⟩ := List.mem_map.mp hinstant
    rw [hnow later hlater]
    exact hfollows event hevent

/-- The rows and events one transaction saves keep the order. -/
theorem Kept.saved (h : history.Kept) (hnow : now ≤ history.clock) {run : Run}
    {incidents : List IncidentSnapshot} (htells : history.loaded.Tells now run)
    (hfollows : history.Follows now ∨ run.events = history.run.events ∧
      run.current.incident = history.openIncident)
    (hrows : ∀ row ∈ incidents, row ∈ history.incidents ∨
      run.current.incident ≠ history.openIncident ∧
        ((∃ old ∈ history.incidents, row.raisedAt = old.raisedAt ∧ row.resolvedAt = some now) ∨
          row.raisedAt = now ∧ row.resolvedAt = none)) :
    Kept { history with run, incidents } := by
  obtain ⟨stated, hevents, hstated, -, hnews⟩ := htells
  rw [loaded_openIncident] at hnews
  have hpublished := published_of_events incidents hevents
  have hbefore : ∀ row ∈ history.incidents,
      ∃ event ∈ published { history with run, incidents }, event.occurredAt = row.raisedAt := by
    intro row hrow
    obtain ⟨event, hevent, hat⟩ := h.raised row hrow
    rw [hpublished]
    exact ⟨event, List.mem_append_left _ hevent, hat⟩
  refine ⟨⟨?_, ?_⟩, ?_, ?_⟩
  · rw [hpublished]
    obtain hfollows | ⟨hsilent, -⟩ := hfollows
    · exact hfollows.pairwise h.inOrder.1 hstated
    · have hnone : stated = [] := by
        rw [hevents] at hsilent
        exact List.append_right_eq_self.mp hsilent
      rw [hnone, List.filter_nil, List.append_nil]
      exact h.inOrder.1
  · intro row hrow resolvedAt hresolved
    obtain hrow | ⟨hmoved, ⟨old, hold, hraised, hnowResolved⟩ | ⟨-, hopen⟩⟩ := hrows row hrow
    · exact h.inOrder.2 row hrow resolvedAt hresolved
    · rw [Option.mem_def, hnowResolved, Option.some.injEq] at hresolved
      obtain hfollows | ⟨-, hkept⟩ := hfollows
      · obtain ⟨event, hevent, hat⟩ := h.raised old hold
        rw [hraised, ← hat, ← hresolved]
        exact hfollows event hevent
      · exact absurd hkept hmoved
    · rw [Option.mem_def, hopen] at hresolved
      cases hresolved
  · intro event hevent
    rw [hpublished, List.mem_append] at hevent
    obtain hevent | hevent := hevent
    · exact h.clock event hevent
    · rw [hstated event (List.mem_filter.mp hevent).1]
      exact hnow
  · intro row hrow
    obtain hrow | ⟨hmoved, ⟨old, hold, hraised, -⟩ | ⟨hraised, -⟩⟩ := hrows row hrow
    · exact hbefore row hrow
    · rw [hraised]
      exact hbefore old hold
    · obtain ⟨event, hevent, hpublishedEvent⟩ := hnews hmoved
      rw [hpublished, hraised]
      exact ⟨event, List.mem_append_right _ (List.mem_filter.mpr ⟨hevent, hpublishedEvent⟩),
        hstated event hevent⟩

/-- A transaction that tells at an instant after all that was published, or tells nothing. -/
theorem Kept.commit (h : history.Kept) (hnow : now ≤ history.clock)
    (hreply : reply.result = .ok true → history.loaded.Tells now reply.state ∧
      (history.Follows now ∨ reply.state.events = history.run.events ∧
        reply.state.current.incident = history.openIncident)) : (history.commit reply).Kept := by
  unfold RunHistory.commit
  split
  · rename_i hdone
    obtain ⟨htells, hfollows⟩ := hreply hdone
    cases hsaved : history.save reply.state with
    | none => exact h
    | some saved =>
        rw [Option.getD_some]
        unfold save at hsaved
        split at hsaved
        · rw [← Option.some.inj hsaved]
          exact h.saved hnow htells hfollows fun row hrow => .inl hrow
        · rename_i incident hincident
          obtain ⟨incidents, hwritten, rfl⟩ := Option.map_eq_some_iff.mp hsaved
          have hmove := htells.incidentMove
          rw [loaded_openIncident, hincident] at hmove
          apply h.saved hnow htells hfollows
          intro row hrow
          rw [hincident]
          exact writeIncident_mem hmove hwritten row hrow
  · exact h

variable [RunRules]

/-- Each step taken in order keeps the history in order. -/
theorem Kept.after (h : history.Kept) (step : RunStep) (hadmits : history.Admits step)
    (htaken : history.TakenInOrder step) : (history.after step).Kept := by
  have hloaded := history.loaded_loaded
  cases step with
  | tick later => exact ⟨h.inOrder, fun event hevent => (h.clock event hevent).trans hadmits, h.raised⟩
  | command op =>
      apply h.commit (le_refl history.clock)
      exact fun _ => ⟨RunOperation.perform_tells hloaded op hadmits, .inl h.clock⟩
  | sweepPresence incidentId now =>
      apply h.commit hadmits
      intro hdone
      obtain ⟨hdue, htells⟩ := Run.sweepPresence_tells hloaded hdone
      exact ⟨htells, .inl (htaken hdue)⟩
  | endByItself scheduledEndsAt now =>
      apply h.commit hadmits
      intro hdone
      obtain ⟨hdue, htells⟩ := Run.endByItself_tells hloaded hdone
      exact ⟨htells, .inl (htaken hdue)⟩
  | publisherOnline monitorPaths protocol onset =>
      apply h.commit hadmits
      intro hdone
      obtain ⟨htells, hheard | hquiet⟩ := Run.publisherOnline_tells hloaded hdone
      · exact ⟨htells, .inl (htaken hheard)⟩
      · rw [loaded_openIncident] at hquiet
        exact ⟨htells, .inr hquiet⟩
  | publisherOffline onlineSince lostAt =>
      apply h.commit hadmits
      obtain ⟨htells, hquiet⟩ := Run.publisherOffline_tells hloaded onlineSince lostAt
      rw [loaded_openIncident] at hquiet
      exact fun _ => ⟨htells, .inr hquiet⟩
  | workerFailed final incidentId failedAt =>
      apply h.commit hadmits
      intro hdone
      obtain ⟨hraised, htells⟩ := Run.workerFailed_tells hloaded hdone
      rw [loaded_openIncident] at hraised
      exact ⟨htells, .inl (htaken hraised)⟩

omit [RunRules] in
theorem kept_prepared (toPrepare : RunToPrepare) (now : Instant) :
    (prepared toPrepare now).Kept := by
  constructor <;> simp [prepared, Run.prepare, InOrder, Follows, published, RunEvent.isPublished]

/-- A run whose passes and reports have each something to state only at an instant not before the
last event published has a history in order, whatever the interleaving. -/
theorem inOrder_of_moves {toPrepare : RunToPrepare} {preparedAt : Instant}
    (h : Moves (fun before step => before.Admits step ∧ before.TakenInOrder step)
      (fun before step later => later = before.after step) (prepared toPrepare preparedAt) history) :
    history.InOrder := by
  have hkept : history.Kept := by
    apply h.invariant (kept_prepared toPrepare preparedAt)
    rintro before step _ hbefore ⟨hadmits, htaken⟩ rfl
    exact hbefore.after step hadmits htaken
  exact hkept.inOrder

end Kept

/-! ## The feed back before its hold screen -/

instance (history : RunHistory) : ∀ step, Decidable (history.Admits step)
  | .tick later => inferInstanceAs (Decidable (history.clock ≤ later))
  | .command op => inferInstanceAs (Decidable (op.isCommand = true))
  | .sweepPresence _ now => inferInstanceAs (Decidable (now ≤ history.clock))
  | .endByItself _ now => inferInstanceAs (Decidable (now ≤ history.clock))
  | .publisherOnline _ _ onset => inferInstanceAs (Decidable (onset ≤ history.clock))
  | .publisherOffline _ lostAt => inferInstanceAs (Decidable (lostAt ≤ history.clock))
  | .workerFailed _ _ failedAt => inferInstanceAs (Decidable (failedAt ≤ history.clock))

instance (history : RunHistory) (instant : Instant) : Decidable (history.Follows instant) :=
  inferInstanceAs (Decidable (∀ event ∈ history.published, event.occurredAt ≤ instant))

instance [RunRules] (run : Run) (now : Instant) : Decidable (SweepDue run now) :=
  inferInstanceAs (Decidable (_ ∨ _))

instance [RunRules] (run : Run) (scheduledEndsAt now : Instant) :
    Decidable (EndDue run scheduledEndsAt now) := inferInstanceAs (Decidable (_ ∧ _))

instance [RunRules] (run : Run) (onset : Instant) : Decidable (OnsetHeard run onset) :=
  inferInstanceAs (Decidable (_ ∧ _ ∧ (_ ∨ _)))

instance [RunRules] (history : RunHistory) : ∀ step, Decidable (history.TakenInOrder step)
  | .tick _ => inferInstanceAs (Decidable True)
  | .command _ => inferInstanceAs (Decidable True)
  | .sweepPresence _ now =>
    inferInstanceAs (Decidable (SweepDue history.loaded now → history.Follows now))
  | .endByItself scheduledEndsAt now =>
    inferInstanceAs (Decidable (EndDue history.loaded scheduledEndsAt now → history.Follows now))
  | .publisherOnline _ _ onset =>
    inferInstanceAs (Decidable (OnsetHeard history.loaded onset → history.Follows onset))
  | .publisherOffline _ _ => inferInstanceAs (Decidable True)
  | .workerFailed final _ failedAt =>
    inferInstanceAs (Decidable (final = true ∧ history.run.current.state ≠ .ended ∧
      history.openIncident = none → history.Follows failedAt))

section Sample

open Arthome.Core.Sample

def sampleToPrepare : RunToPrepare := ⟨1, 2, 3, "path"⟩

/-- On air, then its feed lost at 40 ms and the hold screen raised 20 s later. -/
def sampleVeiled : List RunStep :=
  [.tick 10, .command (.runTechnicalCheck [] .srt ⟨some 7, .studioWeb⟩), .tick 20,
    .command (.rehearse 2), .tick 25, .publisherOnline [.whep] .whip 25, .tick 30,
    .command (.goOnAir 3 (some .technical) ⟨some 7, .studioWeb⟩), .tick 40,
    .publisherOffline 25 40, .tick 20000, .sweepPresence 9 20000]

/-- The feed comes back, and is reported, at instants of its own. -/
def sampleReturn (onset reportedAt : Instant) : List RunStep :=
  sampleVeiled ++ [.tick reportedAt, .publisherOnline [] .srt onset]

/-- The feed the media server saw back at 19.5 s is reported at 20.1 s: the hold screen raised at
20 s is resolved before it was raised. -/
theorem not_inOrder_onset_before_hold_screen :
    ∃ history, Moves RunHistory.Admits (fun before step later => later = before.after step)
      (prepared sampleToPrepare 0) history ∧ ¬ history.InOrder := by
  have hmoves : Moves RunHistory.Admits (fun before step later => later = before.after step)
      (prepared sampleToPrepare 0)
      ((sampleReturn 19500 20100).foldl RunHistory.after (prepared sampleToPrepare 0)) :=
    .of_admitted (by decide)
  refine ⟨_, hmoves, fun horder => ?_⟩
  have hresolved := horder.2
    { id := 9, kind := .holdScreen, cause := .venueFeedLost, trigger := .auto, message := none,
      raisedAt := 20000, raisedBy := none, resolvedAt := some 19500, resolvedBy := none }
    (by decide) 19500 rfl
  revert hresolved
  decide

/-- The feed back at 21 s, reported at 21.2 s. -/
theorem inOrder_of_moves_sample :
    ((sampleReturn 21000 21200).foldl RunHistory.after (prepared sampleToPrepare 0)).InOrder :=
  inOrder_of_moves (.of_admitted (by decide))

end Sample

end RunHistory

end Arthome.Streaming
