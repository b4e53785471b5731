import Arthome.Core.TierRules
import Arthome.Library.Reply
import Arthome.Ticketing.SaleClosing

/-!
# A tier opened on a date

`openCapacityTier` as the aggregate runs it: checks first, the snapshot written, the
events recorded. It refuses as final a sale that is closed with any outcome recorded,
where a sale is final when an outcome closed it. A postponement closes nothing: a
postponed date whose sale only its time has closed is refused as final, and the same
sale without the postponement takes the tier.
-/

namespace Arthome.Ticketing

open Arthome.Core Library

/-- What the pane and `capacity_set` state of the provision. -/
structure TechnicalProvision where
  required : Bool
  threshold : ℤ
  provisionedCapacity : Option ℤ
  /-- Nothing while the date has no start to count back from. -/
  revisableUntil : Option Instant
  deriving Repr, DecidableEq

def technicalProvisionOf [TierRules] (capacityTotal : ℤ) (provisionedCapacity : Option ℤ)
    (startsAt : Option Instant) : TechnicalProvision where
  required := TierRules.requiresTechnicalProvision capacityTotal
  threshold := TierRules.technicalProvisionThreshold
  provisionedCapacity := provisionedCapacity
  revisableUntil := startsAt.map TierRules.provisionRevisableUntil

/-- The events a tier opened records. -/
inductive TierEvent where
  | capacityTierOpened (dateId channelId : Uuid) (tier : CapacityTier) (capacityTotal : ℤ)
      (provision : TechnicalProvision) (occurredAt : Instant)
  | priorityWindowOpened (dateId : Uuid) (poolSeats : ℤ) (priorityUntil occurredAt : Instant)
  deriving Repr, DecidableEq

/-- The aggregate, with the events it has recorded. -/
structure RecordedSales where
  current : DateSalesSnapshot
  events : List TierEvent
  deriving Repr, DecidableEq

/-- What the studio asks for. -/
structure TierCommand where
  expectedVersion : ℕ
  additionalCapacity : ℤ
  notifyWaitlist : Bool
  tierId : Uuid
  deriving Repr, DecidableEq

namespace RecordedSales

def record (sales : RecordedSales) (event : TierEvent) : RecordedSales :=
  { sales with events := sales.events ++ [event] }

variable [SalesRules] [TierRules]

/-- The snapshot widened by the tier, then its events; the end of the window it opened or extended. -/
def withTier (sales : RecordedSales) (command : TierCommand) (version : ℕ) (now : Instant) :
    Reply RecordedSales Refusal (Option Instant) :=
  let s := sales.current
  let widened := s.capacityTotal + command.additionalCapacity
  let tier : CapacityTier := ⟨command.tierId, command.additionalCapacity, now⟩
  let provision := technicalProvisionOf widened s.provisionedCapacity s.startsAt
  let widenedSales :=
    { s with capacityTotal := widened, capacityTiers := s.capacityTiers ++ [tier], version }
  let tierOpened := TierEvent.capacityTierOpened s.dateId s.channelId tier widened provision now
  if command.notifyWaitlist ∧ 0 < s.waitlistCount then
    let priorityUntil := SalesRules.priorityUntilOf now
    let opened :=
      { widenedSales with
        priorityPoolSeats := s.priorityPoolSeats + command.additionalCapacity
        priorityUntil := some priorityUntil }
    .answer (((RecordedSales.mk opened sales.events).record tierOpened).record
      (.priorityWindowOpened s.dateId command.additionalCapacity priorityUntil now))
      (some priorityUntil)
  else
    let opened :=
      { widenedSales with seatsAvailable := s.seatsAvailable + command.additionalCapacity }
    .answer ((RecordedSales.mk opened sales.events).record tierOpened) none

def openCapacityTier (sales : RecordedSales) (command : TierCommand) (now : Instant) :
    Reply RecordedSales Refusal (Option Instant) :=
  .guard sales (DateSales.advancedFrom sales.current command.expectedVersion) fun version =>
  match sales.current.salesClosedAt, sales.current.outcome with
  | some _, some outcome => .refuse sales (.outcomeFinal outcome)
  | _, _ =>
    let widened := sales.current.capacityTotal + command.additionalCapacity
    .guard sales (SalesRules.assertTierWidens sales.current.capacityTotal widened) fun _ =>
    .guard sales (SalesRules.assertTechnicalProvisionCovers widened
      sales.current.provisionedCapacity sales.current.startsAt) fun _ =>
    sales.withTier command version now

end RecordedSales

/-! ## The sale over a run -/

/-- The counters moved by statements of the repository, outside the aggregate. -/
structure SeatCounters where
  seatsAvailable : ℤ
  seatsSold : ℤ
  waitlistCount : ℤ
  priorityPoolSeats : ℤ
  priorityUntil : Option Instant
  deriving Repr, DecidableEq

/-- An operation of the aggregate, or a statement on the counters. -/
inductive SaleStep where
  | operation (now : Instant) (op : SaleOperation)
  | counted (counters : SeatCounters)
  deriving Repr, DecidableEq

section Runs

variable [SalesRules]

def SaleStep.after (sales : DateSalesSnapshot) : SaleStep → DateSalesSnapshot
  | .operation now op => SaleOperation.advance sales (now, op)
  | .counted counters =>
    { sales with
      seatsAvailable := counters.seatsAvailable
      seatsSold := counters.seatsSold
      waitlistCount := counters.waitlistCount
      priorityPoolSeats := counters.priorityPoolSeats
      priorityUntil := counters.priorityUntil }

/-- The sale any steps lead to, from its opening. -/
def saleAfter (dateId channelId : Uuid) (steps : List SaleStep) : DateSalesSnapshot :=
  steps.foldl SaleStep.after (DateSales.opened dateId channelId)

/-- The step applies a cancellation or an interruption. -/
def SaleStep.ClosesByOutcome (sales : DateSalesSnapshot) : SaleStep → Prop
  | .operation now (.recordOutcome outcome statedAt) =>
    outcome ∈ outcomesClosingSales ∧
      (SaleOperation.perform sales now (.recordOutcome outcome statedAt)).isSome
  | _ => False

/-- A cancellation or an interruption was applied, and the sale has been closed ever since. -/
def ClosedByOutcome (dateId channelId : Uuid) (steps : List SaleStep) : Prop :=
  ∃ before step later, steps = before ++ step :: later ∧
    step.ClosesByOutcome (saleAfter dateId channelId before) ∧
    ∀ part, part <+: later → (saleAfter dateId channelId (before ++ step :: part)).salesClosedAt.isSome

/-- The sale is closed, and no outcome closed it. -/
def ClosedByTimeAlone (dateId channelId : Uuid) (steps : List SaleStep) : Prop :=
  (saleAfter dateId channelId steps).salesClosedAt.isSome ∧
    ¬ ClosedByOutcome dateId channelId steps

end Runs

/-! ## The closing over a run -/

section Closing

variable [SalesRules] {dateId channelId : Uuid} {steps : List SaleStep} {step : SaleStep}
  {sales : DateSalesSnapshot}

theorem saleAfter_append (later : List SaleStep) :
    saleAfter dateId channelId (steps ++ later) =
      later.foldl SaleStep.after (saleAfter dateId channelId steps) := List.foldl_append

theorem saleAfter_concat :
    saleAfter dateId channelId (steps ++ [step]) =
      step.after (saleAfter dateId channelId steps) := saleAfter_append [step]

/-- An outcome once recorded may be replaced, never taken back. -/
theorem SaleStep.outcome_after (h : sales.outcome.isSome) : (step.after sales).outcome.isSome := by
  cases step with
  | counted counters => exact h
  | operation now op =>
      have hfacts : (SaleOperation.advance sales (now, op)).outcome = (sales.facts.after op).outcome :=
        congrArg SaleFacts.outcome (SaleOperation.facts_advance sales (now, op))
      show (SaleOperation.advance sales (now, op)).outcome.isSome
      rw [hfacts]
      by_cases hop : ∃ outcome statedAt, op = .recordOutcome outcome statedAt
      · obtain ⟨outcome, statedAt, rfl⟩ := hop
        simp only [SaleFacts.after]
        split_ifs
        · exact h
        · rfl
      · push Not at hop
        rw [SaleFacts.after_outcome _ hop]
        exact h

/-- A step that applies a closing outcome leaves the sale closed, with that outcome. -/
theorem SaleStep.ClosesByOutcome.closed (h : step.ClosesByOutcome sales) :
    (step.after sales).salesClosedAt.isSome ∧ (step.after sales).outcome.isSome := by
  cases step with
  | counted counters => exact h.elim
  | operation now op =>
      cases op with
      | recordOutcome outcome statedAt =>
          obtain ⟨hcloses, hdone⟩ := h
          obtain ⟨sales', hsales⟩ := Option.isSome_iff_exists.mp hdone
          have hfresh := SaleOperation.perform_outcome_isSome.mp hdone
          have hadvance : SaleStep.after sales (.operation now (.recordOutcome outcome statedAt)) =
              sales' := SaleOperation.advance_of_some hsales
          rw [hadvance, SaleOperation.perform_closedAt hsales]
          constructor
          · simp [DateSalesSnapshot.closedAtAfter, hcloses]
          · have hfacts : sales'.outcome = _ :=
              congrArg SaleFacts.outcome (SaleOperation.perform_facts hsales)
            rw [hfacts, SaleFacts.after, hfresh]
            rfl
      | _ => exact h.elim

/-- While an outcome that closes is the one recorded, no step reopens the sale. -/
theorem SaleStep.closed_after (hended : sales.EndedByOutcome) (hclosed : sales.salesClosedAt.isSome) :
    (step.after sales).salesClosedAt.isSome := by
  cases step with
  | counted counters => exact hclosed
  | operation now op =>
      show (SaleOperation.advance sales (now, op)).salesClosedAt.isSome
      cases hdone : SaleOperation.perform sales now op with
      | none =>
          rw [SaleOperation.advance_of_none hdone]
          exact hclosed
      | some sales' =>
          rw [SaleOperation.advance_of_some hdone, SaleOperation.perform_closedAt hdone]
          cases op with
          | recordSchedule startsAt statedAt =>
              have hnot : DateSales.closedByTime sales = false := by
                rw [Bool.eq_false_iff, ne_eq, closedByTime_iff]
                exact fun htime => htime.2 hended
              simp [DateSalesSnapshot.closedAtAfter, hnot, hclosed]
          | recordOutcome outcome statedAt =>
              simp only [DateSalesSnapshot.closedAtAfter]
              split_ifs
              · simp
              · exact hclosed
          | endSales =>
              obtain ⟨-, salesEndAt, hend, -⟩ := SaleOperation.perform_endSales hdone
              unfold DateSalesSnapshot.closedAtAfter
              rw [hend]
              rfl
          | _ => exact hclosed

/-- The outcome a step leaves is the one there was, unless the step applied another. -/
theorem SaleStep.endedByOutcome_before (h : (step.after sales).EndedByOutcome)
    (hnot : ¬ step.ClosesByOutcome sales) : sales.EndedByOutcome := by
  cases step with
  | counted counters => exact h
  | operation now op =>
      obtain ⟨declared, hcloses, hdeclared⟩ := h
      have hfacts : (SaleOperation.advance sales (now, op)).outcome = (sales.facts.after op).outcome :=
        congrArg SaleFacts.outcome (SaleOperation.facts_advance sales (now, op))
      have hafter : (sales.facts.after op).outcome = some declared := hfacts.symm.trans hdeclared
      refine ⟨declared, hcloses, ?_⟩
      by_cases hop : ∃ outcome statedAt, op = .recordOutcome outcome statedAt
      · obtain ⟨outcome, statedAt, rfl⟩ := hop
        simp only [SaleFacts.after] at hafter
        split_ifs at hafter with hstale
        · exact hafter
        · have hsame : outcome = declared := Option.some.inj hafter
          have hfresh : isStale statedAt sales.facts.outcomeStatedAt = false :=
            Bool.eq_false_iff.mpr hstale
          refine absurd ⟨?_, ?_⟩ hnot
          · rw [hsame]
            exact hcloses
          · exact SaleOperation.perform_outcome_isSome.mpr hfresh
      · push Not at hop
        rw [SaleFacts.after_outcome _ hop] at hafter
        exact hafter

theorem ClosedByOutcome.closed (h : ClosedByOutcome dateId channelId steps) :
    (saleAfter dateId channelId steps).salesClosedAt.isSome := by
  obtain ⟨before, step, later, rfl, -, hclosed⟩ := h
  exact hclosed later (List.prefix_refl later)

theorem ClosedByOutcome.outcome (h : ClosedByOutcome dateId channelId steps) :
    (saleAfter dateId channelId steps).outcome.isSome := by
  obtain ⟨before, step, later, rfl, hcloses, -⟩ := h
  rw [saleAfter_append, List.foldl_cons]
  have hfirst := hcloses.closed.2
  generalize step.after (saleAfter dateId channelId before) = sales at hfirst
  induction later generalizing sales with
  | nil => exact hfirst
  | cons next later ih => exact ih _ (SaleStep.outcome_after hfirst)

theorem ClosedByOutcome.concat (h : ClosedByOutcome dateId channelId steps)
    (hclosed : (saleAfter dateId channelId (steps ++ [step])).salesClosedAt.isSome) :
    ClosedByOutcome dateId channelId (steps ++ [step]) := by
  obtain ⟨before, closing, later, rfl, hcloses, hsince⟩ := h
  refine ⟨before, closing, later ++ [step], by simp, hcloses, ?_⟩
  intro part hpart
  rcases List.prefix_concat_iff.mp hpart with rfl | hearlier
  · simpa using hclosed
  · exact hsince part hearlier

/-- An outcome that closes, while it is the one recorded, has closed the sale. -/
theorem closedByOutcome_of_ended (h : (saleAfter dateId channelId steps).EndedByOutcome) :
    ClosedByOutcome dateId channelId steps := by
  induction steps using List.reverseRecOn with
  | nil => exact absurd h (not_endedByOutcome_opened dateId channelId)
  | append_singleton steps step ih =>
      rw [saleAfter_concat] at h
      by_cases hcloses : step.ClosesByOutcome (saleAfter dateId channelId steps)
      · refine ⟨steps, step, [], rfl, hcloses, ?_⟩
        intro part hpart
        rw [List.prefix_nil.mp hpart, saleAfter_concat]
        exact hcloses.closed.1
      · have hended := SaleStep.endedByOutcome_before h hcloses
        have hbefore := ih hended
        apply hbefore.concat
        rw [saleAfter_concat]
        exact SaleStep.closed_after hended hbefore.closed

/-- On a sale only its time has closed, an outcome recorded is a postponement. -/
theorem ClosedByTimeAlone.postponed (h : ClosedByTimeAlone dateId channelId steps)
    (houtcome : (saleAfter dateId channelId steps).outcome.isSome) :
    (saleAfter dateId channelId steps).outcome = some .postponed := by
  obtain ⟨outcome, hsome⟩ := Option.isSome_iff_exists.mp houtcome
  have hnot : outcome ∉ outcomesClosingSales := fun hcloses =>
    h.2 (closedByOutcome_of_ended ⟨outcome, hcloses, hsome⟩)
  cases outcome with
  | postponed => exact hsome
  | cancelled => exact absurd (by decide) hnot
  | interrupted => exact absurd (by decide) hnot

end Closing

section Finality

variable [SalesRules] [TierRules]

/-- A tier asked from the version read is refused as final. -/
def RecordedSales.RefusedAsFinal (sales : RecordedSales) (command : TierCommand) (now : Instant) :
    Prop :=
  ∃ outcome, (sales.openCapacityTier command now).result = .error (.outcomeFinal outcome)

/-- The tier is refused as final exactly when an outcome closed the sale. -/
def FinalExactly (dateId channelId : Uuid) (steps : List SaleStep) : Prop :=
  ∀ (command : TierCommand) (now : Instant) (events : List TierEvent),
    command.expectedVersion = (saleAfter dateId channelId steps).version →
    (RecordedSales.RefusedAsFinal ⟨saleAfter dateId channelId steps, events⟩ command now ↔
      ClosedByOutcome dateId channelId steps)

/-- A sale only its time has closed is answered alike, whatever outcome that closes nothing. -/
def AnsweredAlike (dateId channelId : Uuid) (steps : List SaleStep) : Prop :=
  ClosedByTimeAlone dateId channelId steps →
  ∀ (command : TierCommand) (now : Instant) (events : List TierEvent) (outcome : Option DateOutcome),
    (∀ declared ∈ outcome, declared ∉ outcomesClosingSales) →
    let sales := saleAfter dateId channelId steps
    (RecordedSales.openCapacityTier ⟨{ sales with outcome }, events⟩ command now).result =
      (RecordedSales.openCapacityTier ⟨{ sales with outcome := none }, events⟩ command now).result

/-- A refusal leaves the aggregate and its events as they were. -/
def RefusalLeaves (sales : DateSalesSnapshot) : Prop :=
  ∀ (command : TierCommand) (now : Instant) (events : List TierEvent),
    (RecordedSales.openCapacityTier ⟨sales, events⟩ command now).Refused →
    (RecordedSales.openCapacityTier ⟨sales, events⟩ command now).state = ⟨sales, events⟩

/-! ## What an attempt is answered -/

section Answers

variable {sales : RecordedSales} {command : TierCommand} {now : Instant}

/-- A tier that passes the checks is never refused. -/
theorem RecordedSales.withTier_not_refused (version : ℕ) :
    ¬ (sales.withTier command version now).Refused := by
  simp only [withTier]
  split_ifs
  · exact Reply.not_refused_answer _ _
  · exact Reply.not_refused_answer _ _

/-- Every refusal comes before the snapshot is written. -/
theorem RecordedSales.refused_leaves (h : (sales.openCapacityTier command now).Refused) :
    (sales.openCapacityTier command now).state = sales := by
  let Leaves (reply : Reply RecordedSales Refusal (Option Instant)) : Prop :=
    reply.Refused → reply.state = sales
  have hrefuse : ∀ e, Leaves (.refuse sales e) := fun _ _ => rfl
  suffices hleaves : Leaves (sales.openCapacityTier command now) from hleaves h
  unfold openCapacityTier
  apply Reply.guard_rule sales _ _ hrefuse
  intro version _
  split
  · exact hrefuse _
  · apply Reply.guard_rule sales _ _ hrefuse
    intro _ _
    apply Reply.guard_rule sales _ _ hrefuse
    intro _ _
    exact fun hrefused => absurd hrefused (withTier_not_refused version)

/-- The aggregate with its events moves as the aggregate of the other operations. -/
theorem RecordedSales.openCapacityTier_current :
    (sales.openCapacityTier command now).commit.map (fun opened => (opened.1.current, opened.2)) =
      DateSales.openCapacityTier sales.current command.expectedVersion command.additionalCapacity
        command.notifyWaitlist command.tierId now := by
  unfold openCapacityTier DateSales.openCapacityTier
  cases DateSales.advancedFrom sales.current command.expectedVersion with
  | error e => rfl
  | ok version =>
      rw [Reply.guard_ok]
      rcases hclosed : sales.current.salesClosedAt with _ | closedAt <;>
        rcases houtcome : sales.current.outcome with _ | outcome
      case some.some => rfl
      all_goals
        cases hwidens : SalesRules.assertTierWidens sales.current.capacityTotal
            (sales.current.capacityTotal + command.additionalCapacity) with
        | error e => simp [hwidens, Reply.commit, Except.map, bind, Except.bind]
        | ok _ =>
            cases hcovers : SalesRules.assertTechnicalProvisionCovers
                (sales.current.capacityTotal + command.additionalCapacity)
                sales.current.provisionedCapacity sales.current.startsAt with
            | error e =>
                simp [hwidens, hcovers, Reply.commit, Except.map, bind, Except.bind]
            | ok _ =>
                by_cases hnotify : command.notifyWaitlist ∧ 0 < sales.current.waitlistCount
                · simp [hwidens, hcovers, withTier, record, Reply.commit, Except.map, bind,
                    Except.bind, pure, Except.pure, hnotify, hclosed, houtcome]
                · simp [hwidens, hcovers, withTier, record, Reply.commit, Except.map, bind,
                    Except.bind, pure, Except.pure, hnotify, hclosed, houtcome]

variable [LawfulTierRules]

/-- From the version read, a tier is refused as final on a closed sale with an outcome recorded. -/
theorem RecordedSales.refusedAsFinal_iff (hread : command.expectedVersion = sales.current.version) :
    sales.RefusedAsFinal command now ↔
      sales.current.salesClosedAt.isSome ∧ sales.current.outcome.isSome := by
  have hversion : DateSales.advancedFrom sales.current command.expectedVersion =
      .ok (sales.current.version + 1) := by
    simp [DateSales.advancedFrom, hread, require, bind, Except.bind, pure, Except.pure]
  unfold RefusedAsFinal openCapacityTier
  rw [hversion, Reply.guard_ok]
  split
  · rename_i hclosed houtcome
    simp [hclosed, houtcome]
  · rename_i hopen
    apply iff_of_false
    · rintro ⟨outcome, hfinal⟩
      rcases Reply.guard_cases sales (SalesRules.assertTierWidens _ _) _ with
        ⟨e, hwidens, hguard⟩ | ⟨_, -, hguard⟩
      · rw [hguard, Reply.refuse_result] at hfinal
        rw [Except.error.inj hfinal] at hwidens
        exact LawfulTierRules.widens_refuses _ _ _ hwidens
      · rw [hguard] at hfinal
        rcases Reply.guard_cases sales (SalesRules.assertTechnicalProvisionCovers _ _ _) _ with
          ⟨e, hcovers, hguard⟩ | ⟨_, -, hguard⟩
        · rw [hguard, Reply.refuse_result] at hfinal
          rw [Except.error.inj hfinal] at hcovers
          exact LawfulTierRules.provision_refuses _ _ _ _ hcovers
        · rw [hguard] at hfinal
          exact withTier_not_refused _ ⟨_, hfinal⟩
    · rintro ⟨hclosed, houtcome⟩
      obtain ⟨closedAt, hclosed⟩ := Option.isSome_iff_exists.mp hclosed
      obtain ⟨outcome, houtcome⟩ := Option.isSome_iff_exists.mp houtcome
      exact hopen _ _ hclosed houtcome

end Answers

/-! ## The exact condition -/

section Exact

variable {dateId channelId : Uuid} {steps : List SaleStep}

variable [LawfulTierRules]

/-- The tier is refused as final where it should be, unless the sale was closed by its time alone
with a postponement recorded. -/
theorem finalExactly_iff :
    FinalExactly dateId channelId steps ↔
      ¬ (ClosedByTimeAlone dateId channelId steps ∧
        (saleAfter dateId channelId steps).outcome = some .postponed) := by
  constructor
  · rintro hfinal ⟨⟨hclosed, hnot⟩, hpostponed⟩
    let command : TierCommand := ⟨(saleAfter dateId channelId steps).version, 1, false, 0⟩
    apply hnot
    apply (hfinal command 0 [] rfl).mp
    apply (RecordedSales.refusedAsFinal_iff rfl).mpr
    exact ⟨hclosed, by rw [hpostponed]; rfl⟩
  · intro hnot command now events hread
    rw [RecordedSales.refusedAsFinal_iff hread]
    constructor
    · rintro ⟨hclosed, houtcome⟩
      by_contra htime
      have halone : ClosedByTimeAlone dateId channelId steps := ⟨hclosed, htime⟩
      exact hnot ⟨halone, halone.postponed houtcome⟩
    · exact fun h => ⟨h.closed, h.outcome⟩

/-- A sale only its time has closed is not answered alike with and without a postponement. -/
theorem answeredAlike_iff :
    AnsweredAlike dateId channelId steps ↔ ¬ ClosedByTimeAlone dateId channelId steps := by
  constructor
  · intro halike halone
    let sales := saleAfter dateId channelId steps
    let command : TierCommand := ⟨sales.version, 1, false, 0⟩
    have hpostponed : RecordedSales.RefusedAsFinal ⟨{ sales with outcome := some .postponed }, []⟩
        command 0 := (RecordedSales.refusedAsFinal_iff rfl).mpr ⟨halone.1, rfl⟩
    have hnone : ¬ RecordedSales.RefusedAsFinal ⟨{ sales with outcome := none }, []⟩ command 0 := by
      rw [RecordedSales.refusedAsFinal_iff rfl]
      simp
    have hsame := halike halone command 0 [] (some .postponed) (by simp [outcomesClosingSales])
    apply hnone
    unfold RecordedSales.RefusedAsFinal
    rw [← hsame]
    exact hpostponed
  · exact fun hnot halone => absurd halone hnot

/-- Over every run: a tier is refused as final exactly when an outcome closed the sale, a sale
closed by its time is answered alike whatever outcome closes nothing, and a refusal leaves the
aggregate with its events, exactly when its time alone has not closed the sale. The first part
fails only where a postponement is recorded, and the last part always holds. -/
theorem tier_refused_as_final (dateId channelId : Uuid) (steps : List SaleStep) :
    (FinalExactly dateId channelId steps ∧ AnsweredAlike dateId channelId steps ∧
        RefusalLeaves (saleAfter dateId channelId steps) ↔
      ¬ ClosedByTimeAlone dateId channelId steps) ∧
    (FinalExactly dateId channelId steps ↔
      ¬ (ClosedByTimeAlone dateId channelId steps ∧
        (saleAfter dateId channelId steps).outcome = some .postponed)) ∧
    RefusalLeaves (saleAfter dateId channelId steps) := by
  have hleaves : RefusalLeaves (saleAfter dateId channelId steps) :=
    fun command now events hrefused => RecordedSales.refused_leaves hrefused
  refine ⟨?_, finalExactly_iff, hleaves⟩
  rw [answeredAlike_iff, finalExactly_iff]
  constructor
  · exact fun h => h.2.1
  · exact fun hnot => ⟨fun h => hnot h.1, hnot, hleaves⟩

end Exact

end Finality

section Sample

open Arthome.Core.Sample

/-- A provision is due from ten thousand seats on, a week before the start. -/
scoped instance tierRules : TierRules where
  requiresTechnicalProvision capacity := decide (10000 ≤ capacity)
  technicalProvisionThreshold := 10000
  provisionRevisableUntil startsAt := startsAt - 604800

scoped instance lawfulTierRules : LawfulTierRules where
  widens_refuses capacity widened outcome := by
    simp only [SalesRules.assertTierWidens]
    split_ifs
    · simp
    · simp
  provision_refuses widened provisioned startsAt outcome := by
    simp [SalesRules.assertTechnicalProvisionCovers]

/-- Locked, scheduled, postponed, moved, and ended by its time at the new end. -/
def samplePostponed : List SaleStep :=
  [.operation 5 (.lockPrices 5), .operation 10 (.recordSchedule 1000 10),
    .operation 20 (.recordOutcome .postponed 20), .operation 30 (.recordSchedule 2000 30),
    .operation 4000 .endSales]

theorem tier_refused_as_final_sample :
    FinalExactly 1 2 (samplePostponed.take 4) ∧ AnsweredAlike 1 2 (samplePostponed.take 4) ∧
      RefusalLeaves (saleAfter 1 2 (samplePostponed.take 4)) := by
  have hopen : (saleAfter 1 2 (samplePostponed.take 4)).salesClosedAt.isSome = false := by decide
  apply (tier_refused_as_final 1 2 (samplePostponed.take 4)).1.mpr
  rintro ⟨hclosed, -⟩
  rw [hopen] at hclosed
  cases hclosed

/-- No outcome closed the sale; the tier is refused as final, and taken without the postponement. -/
theorem postponed_sale_refused_as_final :
    ¬ ClosedByOutcome 1 2 samplePostponed ∧ ¬ FinalExactly 1 2 samplePostponed ∧
      ¬ AnsweredAlike 1 2 samplePostponed := by
  let sales := saleAfter 1 2 samplePostponed
  have hnot : ¬ ClosedByOutcome 1 2 samplePostponed := by
    rintro ⟨before, step, later, hsteps, hcloses, -⟩
    have hmem : step ∈ samplePostponed := by
      rw [hsteps]
      simp
    simp only [samplePostponed, List.mem_cons, List.not_mem_nil, or_false] at hmem
    rcases hmem with rfl | rfl | rfl | rfl | rfl
    all_goals simp [SaleStep.ClosesByOutcome, outcomesClosingSales] at hcloses
  have hrefused : (RecordedSales.openCapacityTier ⟨sales, []⟩ ⟨6, 10, false, 7⟩ 5000).result =
      .error (.outcomeFinal .postponed) := by rfl
  have htaken : (RecordedSales.openCapacityTier ⟨{ sales with outcome := none }, []⟩
      ⟨6, 10, false, 7⟩ 5000).result = .ok none := by rfl
  refine ⟨hnot, ?_, ?_⟩
  · intro hfinal
    apply hnot
    apply (hfinal ⟨6, 10, false, 7⟩ 5000 [] (by decide)).mp
    exact ⟨.postponed, hrefused⟩
  · intro halike
    have hsame := halike ⟨by decide, hnot⟩ ⟨6, 10, false, 7⟩ 5000 [] (some .postponed)
      (by simp [outcomesClosingSales])
    have hboth : Except.error (Refusal.outcomeFinal .postponed) = Except.ok (none : Option Instant) :=
      hrefused.symm.trans (hsame.trans htaken)
    cases hboth

end Sample

end Arthome.Ticketing
