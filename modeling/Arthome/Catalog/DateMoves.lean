import Arthome.Catalog.DateTransactions

/-!
# The moves of a date

A date's rows are its own, its publication's and its replay's. Every transaction that
writes them makes one of nine moves, each with the rows it finds, the rows it leaves and
the events it raises. What holds of a date's rows in every run is shown of the moves.
-/

namespace Arthome.Catalog.Dates

open Arthome.Core Library Messaging

/-- A date's rows. -/
structure DateRecord where
  date : PerformanceDateSnapshot
  publication : PublicationSnapshot
  replay : Option ReplaySnapshot
  deriving Repr, DecidableEq

namespace PublicationSnapshot

def movedTo (publication : PublicationSnapshot) (toState : PublicationState) :
    PublicationSnapshot :=
  { publication with state := toState, version := publication.version + 1 }

/-- The event of a move to the state. -/
def changeTo (publication : PublicationSnapshot) (toState : PublicationState) (irreversible : Bool)
    (now : Instant) : DateKeyedEvent :=
  .publicationStateChanged publication.dateId publication.channelId publication.state toState
    (publication.version + 1) irreversible now

end PublicationSnapshot

section Moves

variable [PublicationRules] [ReplayRules]

/-- The date's row under its outcome. -/
def PerformanceDateSnapshot.declared (date : PerformanceDateSnapshot) (outcome : DateOutcome)
    (message : OutcomeMessage) (now : Instant) : PerformanceDateSnapshot :=
  { date with
    outcome := some outcome
    rescheduledTo := none
    outcomeDeclaredAt := some now
    outcomeMessage := some message }

/-- The date's row moved to a later start, under the slug of its day. -/
def PerformanceDateSnapshot.movedOn (date : PerformanceDateSnapshot) (outcome : DateOutcome)
    (message : OutcomeMessage) (movedTo : Instant) (slug : String) (now : Instant) :
    PerformanceDateSnapshot :=
  { date with
    outcome := some outcome
    rescheduledTo := some movedTo
    outcomeDeclaredAt := some now
    outcomeMessage := some message
    startsAt := movedTo
    slug := some slug
    postponements := date.postponements + 1 }

/-- What a date keeps from its draft. -/
structure PerformanceDateSnapshot.Kept (date date' : PerformanceDateSnapshot) : Prop where
  id : date'.id = date.id
  showId : date'.showId = date.showId
  venueId : date'.venueId = date.venueId
  channelId : date'.channelId = date.channelId
  replayPolicy : date'.replayPolicy = date.replayPolicy
  replayWindowHours : date'.replayWindowHours = date.replayWindowHours
  rights : date'.rights = date.rights

/-- The replay an outcome takes away. -/
def DateRecord.withdrawnBy (record : DateRecord) (outcome : DateOutcome) (now : Instant) :
    Option Replay :=
  if ReplayRules.outcomeWithdrawsReplay (some outcome) then
    record.replay.bind fun replay => (Replay.restore replay).withdraw now
  else none

/-- What one transaction does to a date's rows, and the events it raises. -/
inductive DateMove (now : Instant) (record : DateRecord) :
    DateRecord → List DateKeyedEvent → Prop where
  | transitioned {toState : PublicationState} {irreversible : Bool}
      (hcommanded : toState ∈ COMMANDED_STATES)
      (hpublic : toState.isPublic = record.publication.state.isPublic)
      (hrun : record.publication.state ≠ .live ∧ record.publication.state ≠ .replayOnline)
      (hended : record.publication.state ≠ .ended) (hreplay : toState ≠ .replayOnline) :
      DateMove now record
        { record with publication := record.publication.movedTo toState }
        [record.publication.changeTo toState irreversible now]
  | published {toState : PublicationState} {irreversible : Bool} {slug : String} {runtimeMin : ℤ}
      (hcommanded : toState ∈ COMMANDED_STATES)
      (hprivate : record.publication.state.isPublic = false) (hpublic : toState.isPublic = true)
      (hreplay : toState ≠ .replayOnline) (hslug : record.date.slug = none) :
      DateMove now record
        { record with
          date := { record.date with slug := some slug, runtimeMin := runtimeMin }
          publication := { record.publication.movedTo toState with
            publishedAt := some (record.publication.publishedAt.getD now)
            pricesLockedAt := some (record.publication.pricesLockedAt.getD now) } }
        [record.publication.changeTo toState irreversible now,
          .dateScheduled (publicFactsOf
            { record.date with slug := some slug, runtimeMin := runtimeMin } slug) now,
          .publicationEngaged record.publication.dateId record.publication.channelId now]
  | wentOnline {replay : ReplaySnapshot} {irreversible : Bool}
      (hended : record.publication.state = .ended) (hreplay : record.replay = some replay)
      (hpending : replay.state = .pending) (hfile : replay.assetReadyAt.isSome = true) :
      DateMove now record
        { record with
          publication := { record.publication.movedTo .replayOnline with replayOnlineAt := some now }
          replay := some ((Replay.restore replay).moveTo .online
            (fun current => { current with onlineAt := some now }) now).current }
        (record.publication.changeTo .replayOnline irreversible now ::
          ((Replay.restore replay).moveTo .online
            (fun current => { current with onlineAt := some now }) now).events.map
            .replayStateChanged)
  | runStarted (htechnical : record.publication.state = .technical) :
      DateMove now record
        { record with publication := record.publication.movedTo .live }
        [record.publication.changeTo .live false now]
  | runEnded {endedAt : Instant} (hlive : record.publication.state = .live)
      (hnone : replayOpenedBy record.date endedAt now = none) :
      DateMove now record
        { record with publication := record.publication.movedTo .ended }
        [record.publication.changeTo .ended false now]
  | replayOpened {endedAt : Instant} {opened : Replay} (hlive : record.publication.state = .live)
      (hopened : replayOpenedBy record.date endedAt now = some opened)
      (hnone : record.replay = none) :
      DateMove now record
        { record with
          publication := record.publication.movedTo .ended
          replay := some opened.current }
        (record.publication.changeTo .ended false now :: opened.events.map .replayStateChanged)
  | declared {outcome : DateOutcome} {message : OutcomeMessage}
      (hpublic : record.publication.state.isPublic = true)
      (hstanding : record.date.outcome = none ∨ record.date.outcome = some .postponed)
      (hslug : record.date.slug.isSome = true) :
      DateMove now record
        { date := record.date.declared outcome message now
          publication := { record.publication with version := record.publication.version + 1 }
          replay := ((record.withdrawnBy outcome now).map Replay.current).or record.replay }
        (.dateOutcomeDeclared record.date.id record.date.channelId outcome message none now ::
          (((record.withdrawnBy outcome now).map Replay.events).getD []).map .replayStateChanged)
  | postponed {message : OutcomeMessage} {movedTo : Instant} {previousSlug slug : String}
      (hpublic : record.publication.state.isPublic = true)
      (hstanding : record.date.outcome = none ∨ record.date.outcome = some .postponed)
      (hslug : record.date.slug = some previousSlug) (hnamed : slug ≠ "") :
      DateMove now record
        { record with
          date := record.date.movedOn .postponed message movedTo slug now
          publication := { record.publication with version := record.publication.version + 1 } }
        [.dateOutcomeDeclared record.date.id record.date.channelId .postponed message
            (some movedTo) now,
          .dateRescheduled record.date.id record.date.showId record.date.startsAt movedTo
            previousSlug slug now]
  | assetLearned {replay : ReplaySnapshot} {fact : ReplayAssetFact} {moved : Replay}
      (hreplay : record.replay = some replay)
      (hmoved : learnAsset (Replay.restore replay) fact now = some moved) :
      DateMove now record
        { record with replay := some moved.current }
        (moved.events.map .replayStateChanged)

omit [PublicationRules] in
theorem withdrawnBy_eq_some {record : DateRecord} {outcome : DateOutcome} {now : Instant}
    {moved : Replay} (h : record.withdrawnBy outcome now = some moved) :
    ∃ replay, record.replay = some replay ∧ replay.state ∈ STILL_OPEN ∧
      moved = (Replay.restore replay).moveTo .withdrawn
        (fun current => { current with withdrawnAt := some now }) now := by
  unfold DateRecord.withdrawnBy at h
  split_ifs at h
  · obtain ⟨replay, hreplay, hmoved⟩ := Option.bind_eq_some_iff.mp h
    unfold Replay.withdraw at hmoved
    split_ifs at hmoved with hopen
    exact ⟨replay, hreplay, hopen, (Option.some.inj hmoved).symm⟩

namespace DateMove

variable {now : Instant} {record record' : DateRecord} {events : List DateKeyedEvent}

/-- No move changes what a date was drafted with, its start aside. -/
theorem kept (h : DateMove now record record' events) : record.date.Kept record'.date := by
  cases h <;> exact ⟨rfl, rfl, rfl, rfl, rfl, rfl, rfl⟩

theorem publication_key (h : DateMove now record record' events) :
    record'.publication.dateId = record.publication.dateId ∧
      record'.publication.channelId = record.publication.channelId := by
  cases h <;> exact ⟨rfl, rfl⟩

end DateMove

end Moves

/-! ## What the aggregates decide -/

section Decisions

variable [PublicationRules] [ReplayRules] [LawfulPublicationRules]

/-- A commanded transition other than publishing. -/
theorem transitioned_eq_ok {publication : PublicationSnapshot}
    {command : PublicationTransitionCommand} {satisfied : List PublicationChecklistItem}
    {now : Instant} {t : PublicationTransitioned}
    (h : Publication.transitioned publication command satisfied now = .ok t) :
    (publication.state ≠ .live ∧ publication.state ≠ .replayOnline) ∧
      (command.toState = .replayOnline ↔ publication.state = .ended) ∧
      ∃ irreversible, t.changed = publication.changeTo command.toState irreversible now ∧
        (t.engaged = none ∧ command.toState.isPublic = publication.state.isPublic ∧
            t.publication = { publication.movedTo command.toState with
              replayOnlineAt := if command.toState = .replayOnline then some now
                else publication.replayOnlineAt } ∨
          t.engaged = some (.publicationEngaged publication.dateId publication.channelId now) ∧
            publication.state.isPublic = false ∧ command.toState.isPublic = true ∧
            t.publication = { publication.movedTo command.toState with
              publishedAt := some (publication.publishedAt.getD now)
              pricesLockedAt := some (publication.pricesLockedAt.getD now) }) := by
  simp only [Publication.transitioned, bind_ok_iff] at h
  obtain ⟨transition, hcommand, h⟩ := h
  have hafter := LawfulPublicationRules.replay_after_end hcommand
  refine ⟨LawfulPublicationRules.run_learned hcommand, hafter, ?_⟩
  have hpublishes := LawfulPublicationRules.publishes hcommand
  by_cases hpublishing : transition.irreversiblePromiseCode = some .pricesEngaged
  · obtain ⟨hprivate, hpublic⟩ := hpublishes.mp hpublishing
    have honline : command.toState ≠ .replayOnline := fun honline => by
      rw [hafter.mp honline] at hprivate
      cases hprivate
    cases hready : (PublicationRules.publicationReadiness satisfied).ready with
    | false => 
      simp only [hpublishing, hready, decide_true, Bool.not_false, Bool.and_true, if_true] at h
      cases h
    | true =>
        simp only [hpublishing, hready, decide_true, Bool.not_true, Bool.and_false,
          Bool.false_eq_true, if_false, if_true, pure_ok_iff] at h
        subst h
        exact ⟨_, rfl, .inr ⟨rfl, hprivate, hpublic, by
          simp [honline, PublicationSnapshot.movedTo]⟩⟩
  · simp only [hpublishing, decide_false, Bool.false_and, Bool.false_eq_true, if_false,
      pure_ok_iff] at h
    subst h
    refine ⟨_, rfl, .inl ⟨rfl, ?_, rfl⟩⟩
    cases hstate : publication.state.isPublic with
    | true => exact LawfulPublicationRules.stays_public hcommand hstate
    | false =>
        cases htarget : command.toState.isPublic with
        | false => rfl
        | true => exact absurd (hpublishes.mpr ⟨hstate, htarget⟩) hpublishing

/-- A transition that leaves the replay alone. -/
theorem transitionPublication_moves {date moved : PerformanceDate}
    {command : PublicationTransitionCommand} {context : PublicationContext}
    (replay : Option ReplaySnapshot) (hevents : date.events = [])
    (hcommanded : command.toState ∈ COMMANDED_STATES) (hreplay : command.toState ≠ .replayOnline)
    (h : date.transitionPublication command context = .ok moved) :
    DateMove context.now ⟨date.current, date.publication, replay⟩
      ⟨moved.current, moved.publication, replay⟩ moved.events := by
  simp only [PerformanceDate.transitionPublication, bind_ok_iff] at h
  obtain ⟨t, ht, h⟩ := h
  obtain ⟨hrun, hafter, irreversible, hchanged, hkept | hengaged⟩ := transitioned_eq_ok ht
  · obtain ⟨hnone, hpublic, hpublication⟩ := hkept
    simp only [hnone, pure_ok_iff] at h
    subst h
    simp only [hevents, List.nil_append, hchanged, hpublication, if_neg hreplay]
    exact .transitioned hcommanded hpublic hrun (fun hended => hreplay (hafter.mpr hended)) hreplay
  · obtain ⟨hsome, hprivate, hpublic, hpublication⟩ := hengaged
    simp only [hsome, bind_ok_iff, pure_ok_iff] at h
    obtain ⟨⟨current, slug⟩, hmade, rfl⟩ := h
    cases hslug : date.current.slug with
    | some taken => simp [PerformanceDate.madePublic, hslug] at hmade
    | none =>
        cases hfree : context.freeSlug with
        | none => simp [PerformanceDate.madePublic, hslug, hfree] at hmade
        | some free =>
            simp only [PerformanceDate.madePublic, hslug, hfree, Except.ok.injEq,
              Prod.mk.injEq] at hmade
            obtain ⟨rfl, rfl⟩ := hmade
            simp only [hevents, List.nil_append, hchanged, hpublication]
            exact .published hcommanded hprivate hpublic hreplay hslug

/-- The transition that puts the replay online, as far as the publication goes. -/
theorem transitionPublication_online {date moved : PerformanceDate}
    {command : PublicationTransitionCommand} {context : PublicationContext}
    (hevents : date.events = []) (hreplay : command.toState = .replayOnline)
    (h : date.transitionPublication command context = .ok moved) :
    date.publication.state = .ended ∧ moved.current = date.current ∧
      moved.publication = { date.publication.movedTo .replayOnline with
        replayOnlineAt := some context.now } ∧
      ∃ irreversible, moved.events =
        [date.publication.changeTo .replayOnline irreversible context.now] := by
  simp only [PerformanceDate.transitionPublication, bind_ok_iff] at h
  obtain ⟨t, ht, h⟩ := h
  obtain ⟨-, hafter, irreversible, hchanged, hkept | hengaged⟩ := transitioned_eq_ok ht
  · obtain ⟨hnone, -, hpublication⟩ := hkept
    simp only [hnone, pure_ok_iff] at h
    subst h
    refine ⟨hafter.mp hreplay, rfl, ?_, irreversible, ?_⟩
    · rw [hpublication, hreplay]
      rfl
    · simp only [hevents, List.nil_append, hchanged, hreplay]
  · have hended := hafter.mp hreplay
    obtain ⟨-, hprivate, -⟩ := hengaged
    rw [hended] at hprivate
    cases hprivate

theorem goOnline_eq_ok {replay : ReplaySnapshot} {now : Instant} {moved : Replay}
    (h : (Replay.restore replay).goOnline now = .ok moved) :
    replay.state = .pending ∧ replay.assetReadyAt.isSome = true ∧
      moved = (Replay.restore replay).moveTo .online
        (fun current => { current with onlineAt := some now }) now := by
  simp only [Replay.goOnline, bind_ok_iff, pure_ok_iff] at h
  obtain ⟨_, hassert, rfl⟩ := h
  obtain ⟨subject, hsubject, hpending, hfile⟩ := LawfulPublicationRules.goes_online hassert
  cases hsubject
  exact ⟨hpending, hfile, rfl⟩

theorem learnPublicationState_eq_ok {date moved : PerformanceDate} {toState : PublicationState}
    {now : Instant} (hevents : date.events = [])
    (h : date.learnPublicationState toState now = .ok moved) :
    ((date.publication.state = .technical ∧ toState = .live) ∨
        (date.publication.state = .live ∧ toState = .ended)) ∧
      moved = ⟨date.current, date.publication.movedTo toState,
        [date.publication.changeTo toState false now]⟩ := by
  simp only [PerformanceDate.learnPublicationState, Publication.learned, bind_ok_iff, pure_ok_iff]
    at h
  obtain ⟨⟨publication, changed⟩, hlearned, rfl⟩ := h
  split_ifs at hlearned with hdriven
  cases hlearned
  refine ⟨(LawfulPublicationRules.eventDriven_iff _ _).mp (by simpa using hdriven), ?_⟩
  simp only [hevents, List.nil_append]
  rfl

/-- What a run's start moves. -/
theorem learnRunStarted_eq_ok {date moved : PerformanceDate} {now : Instant}
    (hevents : date.events = []) (h : date.learnRunStarted now = .ok (some moved)) :
    date.publication.state = .technical ∧
      moved = ⟨date.current, date.publication.movedTo .live,
        [date.publication.changeTo .live false now]⟩ := by
  unfold PerformanceDate.learnRunStarted at h
  split_ifs at h
  · cases h
  · obtain ⟨learned, hlearned, hmoved⟩ := map_ok_iff.mp h
    obtain ⟨hdriven, rfl⟩ := learnPublicationState_eq_ok hevents hlearned
    refine ⟨?_, (Option.some.inj hmoved).symm⟩
    rcases hdriven with ⟨htechnical, -⟩ | ⟨-, htarget⟩
    · exact htechnical
    · cases htarget

/-- What a run's end moves. -/
theorem learnRunEnded_eq_ok {date moved : PerformanceDate} {now : Instant}
    (hevents : date.events = []) (h : date.learnRunEnded now = .ok (some moved)) :
    date.publication.state = .live ∧
      moved = ⟨date.current, date.publication.movedTo .ended,
        [date.publication.changeTo .ended false now]⟩ := by
  unfold PerformanceDate.learnRunEnded at h
  split_ifs at h
  · cases h
  · obtain ⟨learned, hlearned, hmoved⟩ := map_ok_iff.mp h
    obtain ⟨hdriven, rfl⟩ := learnPublicationState_eq_ok hevents hlearned
    refine ⟨?_, (Option.some.inj hmoved).symm⟩
    rcases hdriven with ⟨-, htarget⟩ | ⟨hlive, -⟩
    · cases htarget
    · exact hlive

/-- What an outcome declares: a final one, or a postponement with the slug of its new day. -/
theorem declareOutcome_eq_ok {date moved : PerformanceDate} {expectedVersion : ℕ}
    {declaration : OutcomeDeclaration} {message : OutcomeMessage} {slugAtNewStart : Option String}
    {now : Instant} (hevents : date.events = [])
    (h : date.declareOutcome expectedVersion declaration message slugAtNewStart now = .ok moved) :
    date.publication.state.isPublic = true ∧
      (date.current.outcome = none ∨ date.current.outcome = some .postponed) ∧
      moved.publication = { date.publication with version := date.publication.version + 1 } ∧
      ∃ previousSlug, date.current.slug = some previousSlug ∧
        (declaration.rescheduledTo = none ∧
            moved.current = date.current.declared declaration.outcome message now ∧
            moved.events = [.dateOutcomeDeclared date.current.id date.current.channelId
              declaration.outcome message none now] ∨
          ∃ movedTo slug, declaration.rescheduledTo = some movedTo ∧ slugAtNewStart = some slug ∧
            moved.current = date.current.movedOn declaration.outcome message movedTo slug now ∧
            moved.events = [.dateOutcomeDeclared date.current.id date.current.channelId
                declaration.outcome message (some movedTo) now,
              .dateRescheduled date.current.id date.current.showId date.current.startsAt movedTo
                previousSlug slug now]) := by
  simp only [PerformanceDate.declareOutcome, bind_ok_iff] at h
  obtain ⟨publication, hadvanced, _, hdeclarable, h⟩ := h
  unfold Publication.advancedFrom at hadvanced
  split_ifs at hadvanced
  cases hadvanced
  obtain ⟨hpublic, hstanding⟩ := LawfulPublicationRules.declarable hdeclarable
  cases hcurrent : date.current.slug with
  | none =>
      simp only [hcurrent] at h
      cases h
  | some slug =>
      simp only [hcurrent, bind_ok_iff, Except.ok.injEq] at h
      obtain ⟨_, rfl, h⟩ := h
      refine ⟨hpublic, hstanding, ?_⟩
      cases hmoved : declaration.rescheduledTo with
      | none =>
          simp only [hmoved, pure_ok_iff] at h
          subst h
          refine ⟨rfl, slug, rfl, .inl ⟨rfl, ?_, ?_⟩⟩
          · simp only [PerformanceDateSnapshot.declared, hcurrent]
          · rw [hevents, List.nil_append]
      | some movedTo =>
          cases hnew : slugAtNewStart with
          | none => simp [hmoved, hnew] at h
          | some newSlug =>
              simp only [hmoved, hnew, pure_ok_iff] at h
              subst h
              refine ⟨rfl, slug, rfl, .inr ⟨movedTo, newSlug, rfl, rfl, rfl, ?_⟩⟩
              rw [hevents, List.nil_append]

end Decisions

end Arthome.Catalog.Dates
