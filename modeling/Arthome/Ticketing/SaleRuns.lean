import Arthome.Core.Sample
import Arthome.Library.Machine
import Arthome.Ticketing.DateSales

/-!
# Runs of a date's sale

The operations of a `DateSales` in any order: the catalog's facts, the studio's
commands, a purchase's hold and the closing pass. What the facts have stated is
kept apart from what the pass stores, so that a run with its passes is compared
with the same run without them.
-/

namespace Arthome.Ticketing

open Arthome.Core Library

/-- What moves a date's sale. -/
inductive SaleOperation where
  | lockPrices (engagedAt : Instant)
  | recordSchedule (startsAt statedAt : Instant)
  | recordOutcome (outcome : DateOutcome) (statedAt : Instant)
  | endSales
  | holdSeats (quantity : ℕ)
  | setPrices (expectedVersion : ℕ) (tiers : List TierPrice)
  | openCapacityTier (expectedVersion : ℕ) (additionalCapacity : ℤ) (notifyWaitlist : Bool)
      (tierId : Uuid)
  | setTechnicalProvision (expectedVersion : ℕ) (provisionedCapacity : ℤ)
  deriving Repr, DecidableEq

namespace SaleOperation

/-- The sweeper's closing pass over the date. -/
def isPass : SaleOperation → Bool
  | .endSales => true
  | _ => false

variable [SalesRules]

/-- What the operation makes of the sale; nothing when it is refused or finds nothing to do. -/
def perform (sales : DateSalesSnapshot) (now : Instant) : SaleOperation → Option DateSalesSnapshot
  | .lockPrices engagedAt => DateSales.lockPrices sales engagedAt
  | .recordSchedule startsAt statedAt => DateSales.recordSchedule sales startsAt statedAt now
  | .recordOutcome outcome statedAt => DateSales.recordOutcome sales outcome statedAt
  | .endSales => DateSales.endSales sales now
  | .holdSeats quantity => (DateSales.holdSeats sales quantity now).toOption
  | .setPrices expectedVersion tiers =>
      (DateSales.setPrices sales expectedVersion tiers).toOption
  | .openCapacityTier expectedVersion additionalCapacity notifyWaitlist tierId =>
      (DateSales.openCapacityTier sales expectedVersion additionalCapacity notifyWaitlist tierId
        now).toOption.map Prod.fst
  | .setTechnicalProvision expectedVersion provisionedCapacity =>
      (DateSales.setTechnicalProvision sales expectedVersion provisionedCapacity now).toOption

end SaleOperation

/-- What the catalog's facts and the lock have stated of a sale. -/
structure SaleFacts where
  pricesLockedAt : Option Instant
  startsAt : Option Instant
  salesEndAt : Option Instant
  scheduleStatedAt : Option Instant
  outcome : Option DateOutcome
  outcomeStatedAt : Option Instant
  deriving Repr, DecidableEq

def DateSalesSnapshot.facts (sales : DateSalesSnapshot) : SaleFacts where
  pricesLockedAt := sales.pricesLockedAt
  startsAt := sales.startsAt
  salesEndAt := sales.salesEndAt
  scheduleStatedAt := sales.scheduleStatedAt
  outcome := sales.outcome
  outcomeStatedAt := sales.outcomeStatedAt

/-- What was stated, after the operation: only the lock and the facts state anything. -/
def SaleFacts.after [SalesRules] (facts : SaleFacts) : SaleOperation → SaleFacts
  | .lockPrices engagedAt =>
      if facts.pricesLockedAt.isSome then facts else { facts with pricesLockedAt := some engagedAt }
  | .recordSchedule startsAt statedAt =>
      if isStale statedAt facts.scheduleStatedAt then facts
      else { facts with
        startsAt := some startsAt
        salesEndAt := some (SalesRules.seatSalesEndAt startsAt)
        scheduleStatedAt := some statedAt }
  | .recordOutcome outcome statedAt =>
      if isStale statedAt facts.outcomeStatedAt then facts
      else { facts with outcome := some outcome, outcomeStatedAt := some statedAt }
  | _ => facts

/-- Only an outcome fact moves the outcome. -/
theorem SaleFacts.after_outcome [SalesRules] (facts : SaleFacts) {op : SaleOperation}
    (hop : ∀ outcome statedAt, op ≠ .recordOutcome outcome statedAt) :
    (facts.after op).outcome = facts.outcome := by
  cases op with
  | recordOutcome outcome statedAt => exact absurd rfl (hop outcome statedAt)
  | lockPrices engagedAt =>
      simp only [SaleFacts.after]
      split_ifs
      · rfl
      · rfl
  | recordSchedule startsAt statedAt =>
      simp only [SaleFacts.after]
      split_ifs
      · rfl
      · rfl
  | _ => rfl

/-- Only a schedule moves the start and the end of sales. -/
theorem SaleFacts.after_start [SalesRules] (facts : SaleFacts) {op : SaleOperation}
    (hop : ∀ startsAt statedAt, op ≠ .recordSchedule startsAt statedAt) :
    (facts.after op).startsAt = facts.startsAt ∧ (facts.after op).salesEndAt = facts.salesEndAt := by
  cases op with
  | recordSchedule startsAt statedAt => exact absurd rfl (hop startsAt statedAt)
  | lockPrices engagedAt =>
      simp only [SaleFacts.after]
      split_ifs
      · exact ⟨rfl, rfl⟩
      · exact ⟨rfl, rfl⟩
  | recordOutcome outcome statedAt =>
      simp only [SaleFacts.after]
      split_ifs
      · exact ⟨rfl, rfl⟩
      · exact ⟨rfl, rfl⟩
  | _ => exact ⟨rfl, rfl⟩

theorem SaleFacts.after_startsAt [SalesRules] (facts : SaleFacts) {op : SaleOperation}
    (hop : ∀ startsAt statedAt, op ≠ .recordSchedule startsAt statedAt) :
    (facts.after op).startsAt = facts.startsAt := (facts.after_start hop).1

theorem SaleFacts.after_salesEndAt [SalesRules] (facts : SaleFacts) {op : SaleOperation}
    (hop : ∀ startsAt statedAt, op ≠ .recordSchedule startsAt statedAt) :
    (facts.after op).salesEndAt = facts.salesEndAt := (facts.after_start hop).2

/-- When the sale is closed, after an operation that was performed. -/
def DateSalesSnapshot.closedAtAfter [SalesRules] (sales : DateSalesSnapshot) (now : Instant) :
    SaleOperation → Option Instant
  | .recordSchedule startsAt _ =>
      if DateSales.closedByTime sales && SalesRules.isBefore now (SalesRules.seatSalesEndAt startsAt)
      then none else sales.salesClosedAt
  | .recordOutcome outcome statedAt =>
      if outcome ∈ outcomesClosingSales then sales.salesClosedAt.or (some statedAt)
      else sales.salesClosedAt
  | .endSales => sales.salesEndAt
  | _ => sales.salesClosedAt

namespace SaleOperation

variable [SalesRules] {sales sales' : DateSalesSnapshot} {now : Instant} {op : SaleOperation}

/-- All an operation does to what was stated and to the closing. -/
theorem perform_spec (h : perform sales now op = some sales') :
    sales'.facts = sales.facts.after op ∧ sales'.salesClosedAt = sales.closedAtAfter now op := by
  cases op with
  | lockPrices engagedAt =>
      simp only [perform, DateSales.lockPrices] at h
      split_ifs at h with hlocked
      rw [← Option.some.inj h]
      exact ⟨(if_neg hlocked).symm, rfl⟩
  | recordSchedule startsAt statedAt =>
      simp only [perform, DateSales.recordSchedule] at h
      split_ifs at h with hstale hreopens
      · rw [← Option.some.inj h]
        exact ⟨(if_neg hstale).symm, by rw [DateSalesSnapshot.closedAtAfter, if_pos hreopens]⟩
      · rw [← Option.some.inj h]
        exact ⟨(if_neg hstale).symm, by rw [DateSalesSnapshot.closedAtAfter, if_neg hreopens]⟩
  | recordOutcome outcome statedAt =>
      simp only [perform, DateSales.recordOutcome] at h
      split_ifs at h with hstale hcloses
      · rw [← Option.some.inj h]
        exact ⟨(if_neg hstale).symm, by rw [DateSalesSnapshot.closedAtAfter, if_pos hcloses]⟩
      · rw [← Option.some.inj h]
        exact ⟨(if_neg hstale).symm, by rw [DateSalesSnapshot.closedAtAfter, if_neg hcloses]⟩
  | endSales =>
      simp only [perform, DateSales.endSales] at h
      cases hend : sales.salesEndAt with
      | none => simp only [hend, reduceCtorEq] at h
      | some salesEndAt =>
          simp only [hend] at h
          split_ifs at h with hopen
          rw [← Option.some.inj h]
          exact ⟨by simp [DateSalesSnapshot.facts, SaleFacts.after, hend], hend.symm⟩
  | holdSeats quantity =>
      obtain ⟨-, -, rfl⟩ := DateSales.holdSeats_ok (toOption_eq_some_iff.mp h)
      exact ⟨rfl, rfl⟩
  | setPrices expectedVersion tiers =>
      obtain ⟨-, rfl⟩ := DateSales.setPrices_ok (toOption_eq_some_iff.mp h)
      exact ⟨rfl, rfl⟩
  | openCapacityTier expectedVersion additionalCapacity notifyWaitlist tierId =>
      obtain ⟨⟨widened, priorityUntil⟩, hopened, rfl⟩ := Option.map_eq_some_iff.mp h
      obtain ⟨-, -, rfl⟩ := DateSales.openCapacityTier_ok (toOption_eq_some_iff.mp hopened)
      exact ⟨rfl, rfl⟩
  | setTechnicalProvision expectedVersion provisionedCapacity =>
      rw [DateSales.setTechnicalProvision_ok (toOption_eq_some_iff.mp h)]
      exact ⟨rfl, rfl⟩

/-- A fact that is applied is not stale. -/
theorem perform_schedule_fresh {startsAt statedAt : Instant}
    (h : perform sales now (.recordSchedule startsAt statedAt) = some sales') :
    isStale statedAt sales.scheduleStatedAt = false := by
  simp only [perform, DateSales.recordSchedule] at h
  split_ifs at h with hstale
  · exact Bool.eq_false_iff.mpr hstale
  · exact Bool.eq_false_iff.mpr hstale

theorem perform_outcome_isSome {outcome : DateOutcome} {statedAt : Instant} :
    (perform sales now (.recordOutcome outcome statedAt)).isSome ↔
      isStale statedAt sales.facts.outcomeStatedAt = false := by
  simp only [perform, DateSales.recordOutcome, DateSalesSnapshot.facts]
  split_ifs with hstale
  · simp [hstale]
  · simp [hstale]
  · simp [hstale]

/-- The pass closes a sale on sale, at its end, once the end has passed. -/
theorem perform_endSales (h : perform sales now .endSales = some sales') :
    DateSales.isOnSale sales = true ∧
      ∃ salesEndAt, sales.salesEndAt = some salesEndAt ∧
        SalesRules.isBefore now salesEndAt = false := by
  simp only [perform, DateSales.endSales] at h
  cases hend : sales.salesEndAt with
  | none => simp only [hend, reduceCtorEq] at h
  | some salesEndAt =>
      simp only [hend] at h
      split_ifs at h with hopen
      simp only [Bool.or_eq_true, Bool.not_eq_true', not_or, Bool.not_eq_false,
        Bool.not_eq_true] at hopen
      exact ⟨hopen.1, salesEndAt, rfl, hopen.2⟩

theorem perform_facts (h : perform sales now op = some sales') :
    sales'.facts = sales.facts.after op := (perform_spec h).1

theorem perform_closedAt (h : perform sales now op = some sales') :
    sales'.salesClosedAt = sales.closedAtAfter now op := (perform_spec h).2

/-- An operation stays on its date. -/
theorem perform_dateId (h : perform sales now op = some sales') : sales'.dateId = sales.dateId := by
  cases op with
  | lockPrices engagedAt =>
      simp only [perform, DateSales.lockPrices] at h
      split_ifs at h
      rw [← Option.some.inj h]
  | recordSchedule startsAt statedAt =>
      simp only [perform, DateSales.recordSchedule] at h
      split at h
      · cases h
      · rw [← Option.some.inj h]
  | recordOutcome outcome statedAt =>
      simp only [perform, DateSales.recordOutcome] at h
      split at h
      · cases h
      · rw [← Option.some.inj h]
  | endSales =>
      simp only [perform, DateSales.endSales] at h
      split at h
      · cases h
      · split_ifs at h
        rw [← Option.some.inj h]
  | holdSeats quantity =>
      obtain ⟨-, -, rfl⟩ := DateSales.holdSeats_ok (toOption_eq_some_iff.mp h)
      rfl
  | setPrices expectedVersion tiers =>
      obtain ⟨-, rfl⟩ := DateSales.setPrices_ok (toOption_eq_some_iff.mp h)
      rfl
  | openCapacityTier expectedVersion additionalCapacity notifyWaitlist tierId =>
      obtain ⟨⟨widened, priorityUntil⟩, hopened, rfl⟩ := Option.map_eq_some_iff.mp h
      obtain ⟨-, -, rfl⟩ := DateSales.openCapacityTier_ok (toOption_eq_some_iff.mp hopened)
      rfl
  | setTechnicalProvision expectedVersion provisionedCapacity =>
      rw [DateSales.setTechnicalProvision_ok (toOption_eq_some_iff.mp h)]

/-- An operation that is not performed states nothing. -/
theorem after_of_perform_none (h : perform sales now op = none) :
    sales.facts.after op = sales.facts := by
  cases op with
  | lockPrices engagedAt =>
      simp only [perform, DateSales.lockPrices] at h
      split_ifs at h with hlocked
      exact if_pos hlocked
  | recordSchedule startsAt statedAt =>
      simp only [perform, DateSales.recordSchedule] at h
      split_ifs at h with hstale
      exact if_pos hstale
  | recordOutcome outcome statedAt =>
      simp only [perform, DateSales.recordOutcome] at h
      split_ifs at h with hstale
      exact if_pos hstale
  | _ => rfl

/-- The sale after an operation, as it was when nothing was performed. -/
def advance (sales : DateSalesSnapshot) (step : Instant × SaleOperation) : DateSalesSnapshot :=
  (step.2.perform sales step.1).getD sales

theorem advance_of_none (h : perform sales now op = none) : advance sales (now, op) = sales := by
  unfold advance
  rw [h]
  rfl

theorem advance_of_some (h : perform sales now op = some sales') :
    advance sales (now, op) = sales' := by
  unfold advance
  rw [h]
  rfl

theorem facts_advance (sales : DateSalesSnapshot) (step : Instant × SaleOperation) :
    (advance sales step).facts = sales.facts.after step.2 := by
  obtain ⟨now, op⟩ := step
  cases h : op.perform sales now with
  | none => rw [advance_of_none h, after_of_perform_none h]
  | some sales' => rw [advance_of_some h, perform_facts h]

/-- The sale after a run of operations. -/
def run (sales : DateSalesSnapshot) (steps : List (Instant × SaleOperation)) : DateSalesSnapshot :=
  steps.foldl advance sales

@[simp] theorem run_nil (sales : DateSalesSnapshot) : run sales [] = sales := rfl

@[simp] theorem run_append (sales : DateSalesSnapshot)
    (steps steps' : List (Instant × SaleOperation)) :
    run sales (steps ++ steps') = run (run sales steps) steps' := List.foldl_append

@[simp] theorem run_cons (sales : DateSalesSnapshot) (step : Instant × SaleOperation)
    (steps : List (Instant × SaleOperation)) :
    run sales (step :: steps) = run (advance sales step) steps := rfl

/-- What a run states is a matter of its operations alone, not of when they ran. -/
theorem facts_run (sales : DateSalesSnapshot) (steps : List (Instant × SaleOperation)) :
    (run sales steps).facts = (steps.map Prod.snd).foldl SaleFacts.after sales.facts := by
  induction steps generalizing sales with
  | nil => rfl
  | cons step steps ih =>
      rw [run_cons, ih, facts_advance]
      rfl

end SaleOperation

/-! ## A closing outcome closes for good -/

section ClosedForGood

variable [SalesRules] {sales sales' : DateSalesSnapshot} {now : Instant} {op : SaleOperation}

/-- The operation is a schedule that would reopen the sale: it is not stale, the sale reads as
closed by time alone, and the new end is still ahead. -/
def SaleOperation.reopens (sales : DateSalesSnapshot) (now : Instant) : SaleOperation → Bool
  | .recordSchedule startsAt statedAt =>
      !isStale statedAt sales.scheduleStatedAt &&
        (DateSales.closedByTime sales &&
          SalesRules.isBefore now (SalesRules.seatSalesEndAt startsAt))
  | _ => false

/-- Closed, and some outcome declared: what a closing outcome leaves, whatever is declared next. -/
structure DateSalesSnapshot.ClosedOnOutcome (sales : DateSalesSnapshot) : Prop where
  closed : sales.salesClosedAt.isSome
  declared : sales.outcome.isSome

theorem closedOnOutcome_of_closing {outcome : DateOutcome} {statedAt : Instant}
    (hcloses : outcome ∈ outcomesClosingSales)
    (h : DateSales.recordOutcome sales outcome statedAt = some sales') :
    sales'.ClosedOnOutcome := by
  unfold DateSales.recordOutcome at h
  split_ifs at h
  rw [← Option.some.inj h]
  constructor
  · cases sales.salesClosedAt <;> rfl
  · rfl

/-- Every operation but a reopening schedule keeps a sale so closed as it is. -/
theorem DateSalesSnapshot.ClosedOnOutcome.perform (hclosed : sales.ClosedOnOutcome)
    (hstays : op.reopens sales now = false) (h : op.perform sales now = some sales') :
    sales'.ClosedOnOutcome := by
  obtain ⟨hat, hdeclared⟩ := hclosed
  have houtcome : sales'.outcome = (sales.facts.after op).outcome :=
    congrArg SaleFacts.outcome (SaleOperation.perform_facts h)
  have hkept (hop : ∀ outcome statedAt, op ≠ .recordOutcome outcome statedAt) :
      sales'.outcome.isSome := by
    rw [houtcome, SaleFacts.after_outcome _ hop]
    exact hdeclared
  have hclosing := SaleOperation.perform_closedAt h
  cases op with
  | recordSchedule startsAt statedAt =>
      have hfresh := SaleOperation.perform_schedule_fresh h
      refine ⟨?_, hkept (by simp)⟩
      rw [hclosing, DateSalesSnapshot.closedAtAfter, if_neg]
      · exact hat
      · simpa only [SaleOperation.reopens, hfresh, Bool.not_false, Bool.true_and,
          Bool.not_eq_true] using hstays
  | recordOutcome outcome statedAt =>
      simp only [SaleOperation.perform, DateSales.recordOutcome] at h
      split_ifs at h with hstale hcloses
      · rw [← Option.some.inj h]
        exact ⟨by cases sales.salesClosedAt <;> rfl, rfl⟩
      · rw [← Option.some.inj h]
        exact ⟨hat, rfl⟩
  | endSales =>
      obtain ⟨hopen, -⟩ := SaleOperation.perform_endSales h
      simp only [DateSales.isOnSale, Bool.and_eq_true, Option.isNone_iff_eq_none] at hopen
      rw [hopen.2] at hat
      cases hat
  | lockPrices engagedAt => exact ⟨by rw [hclosing]; exact hat, hkept (by simp)⟩
  | holdSeats quantity => exact ⟨by rw [hclosing]; exact hat, hkept (by simp)⟩
  | setPrices expectedVersion tiers => exact ⟨by rw [hclosing]; exact hat, hkept (by simp)⟩
  | openCapacityTier expectedVersion additionalCapacity notifyWaitlist tierId =>
      exact ⟨by rw [hclosing]; exact hat, hkept (by simp)⟩
  | setTechnicalProvision expectedVersion provisionedCapacity =>
      exact ⟨by rw [hclosing]; exact hat, hkept (by simp)⟩

omit [SalesRules] in
/-- A sale so closed sells nothing, holds nothing and widens nothing. -/
theorem DateSalesSnapshot.ClosedOnOutcome.isOnSale (hclosed : sales.ClosedOnOutcome) :
    DateSales.isOnSale sales = false := by
  obtain ⟨closedAt, hat⟩ := Option.isSome_iff_exists.mp hclosed.closed
  simp [DateSales.isOnSale, hat]

theorem DateSalesSnapshot.ClosedOnOutcome.holdSeats (hclosed : sales.ClosedOnOutcome) (quantity : ℕ)
    (now : Instant) (held : DateSalesSnapshot) :
    DateSales.holdSeats sales quantity now ≠ .ok held := by
  intro h
  obtain ⟨-, hopen, -⟩ := DateSales.holdSeats_ok h
  rw [hclosed.isOnSale] at hopen
  cases hopen

theorem DateSalesSnapshot.ClosedOnOutcome.openCapacityTier (hclosed : sales.ClosedOnOutcome) (expectedVersion : ℕ)
    (additionalCapacity : ℤ) (notifyWaitlist : Bool) (tierId : Uuid) (now : Instant)
    (opened : DateSalesSnapshot × Option Instant) :
    DateSales.openCapacityTier sales expectedVersion additionalCapacity notifyWaitlist tierId now ≠
      .ok opened := by
  intro h
  obtain ⟨hstands, -, -⟩ := DateSales.openCapacityTier_ok h
  obtain ⟨hat, hdeclared⟩ := hclosed
  rcases hstands with hnone | hnone
  · rw [hnone] at hat
    cases hat
  · rw [hnone] at hdeclared
    cases hdeclared

/-- Once a closing outcome is applied, and as long as no schedule reopens the sale, no state the
sale reaches sells, holds or opens a tier at any instant. -/
theorem closed_for_good {closed reached : DateSalesSnapshot} {outcome : DateOutcome}
    {statedAt : Instant} (hcloses : outcome ∈ outcomesClosingSales)
    (happlied : DateSales.recordOutcome sales outcome statedAt = some closed)
    (hrun : Reaches
      (fun sales (step : Instant × SaleOperation) => step.2.reopens sales step.1 = false)
      (fun sales step => step.2.perform sales step.1) closed reached) :
    (∀ now, DateSales.sellsSeatsAt reached now = false) ∧
      (∀ quantity now held, DateSales.holdSeats reached quantity now ≠ .ok held) ∧
      ∀ expectedVersion additionalCapacity notifyWaitlist tierId now opened,
        DateSales.openCapacityTier reached expectedVersion additionalCapacity notifyWaitlist tierId
          now ≠ .ok opened := by
  have hstill : reached.ClosedOnOutcome :=
    hrun.invariant (closedOnOutcome_of_closing hcloses happlied)
      fun sales step sales' hclosed hstays hstep => hclosed.perform hstays hstep
  refine ⟨fun now => ?_, hstill.holdSeats, hstill.openCapacityTier⟩
  rw [DateSales.sellsSeatsAt, hstill.isOnSale, Bool.false_and]

end ClosedForGood

section Sample

open Sample

/-- A date on sale: twenty seats, its start at ten thousand. -/
def sampleSales : DateSalesSnapshot :=
  { DateSales.opened 1 2 with
    capacityTotal := 20
    seatsAvailable := 20
    pricesLockedAt := some 100
    startsAt := some 10000
    salesEndAt := some 11800
    scheduleStatedAt := some 50 }

def cancelledSales : DateSalesSnapshot :=
  { sampleSales with
    outcome := some .cancelled
    outcomeStatedAt := some 200
    salesClosedAt := some 200
    version := 2 }

theorem closed_for_good_sample :
    DateSales.sellsSeatsAt
      (SaleOperation.run cancelledSales [(300, .recordSchedule 20000 250)]) 300 = false := by
  have hcancelled : DateSales.recordOutcome sampleSales .cancelled 200 = some cancelledSales := rfl
  have hrun : Reaches
      (fun sales (step : Instant × SaleOperation) => step.2.reopens sales step.1 = false)
      (fun sales step => step.2.perform sales step.1) cancelledSales
      (SaleOperation.run cancelledSales [(300, .recordSchedule 20000 250)]) :=
    Reaches.tail .refl (a := (300, .recordSchedule 20000 250)) (by decide) rfl
  exact (closed_for_good (by decide) hcancelled hrun).1 300

/-- A postponement declared after the cancellation, then its new schedule, reopen the sale. -/
theorem reopened_after_cancellation :
    ¬ ∀ (sales closed reached : DateSalesSnapshot) (outcome : DateOutcome) (statedAt : Instant),
      outcome ∈ outcomesClosingSales →
      DateSales.recordOutcome sales outcome statedAt = some closed →
      Reaches (fun _ _ => True)
        (fun sales (step : Instant × SaleOperation) => step.2.perform sales step.1)
        closed reached →
      ∀ now, DateSales.sellsSeatsAt reached now = false := by
  intro hall
  have hpostponed : SaleOperation.perform cancelledSales 300 (.recordOutcome .postponed 250) =
      some (SaleOperation.run cancelledSales [(300, .recordOutcome .postponed 250)]) := rfl
  have hscheduled : SaleOperation.perform
      (SaleOperation.run cancelledSales [(300, .recordOutcome .postponed 250)]) 400
        (.recordSchedule 20000 260) =
      some (SaleOperation.run cancelledSales
        [(300, .recordOutcome .postponed 250), (400, .recordSchedule 20000 260)]) := rfl
  have h := hall sampleSales cancelledSales _ .cancelled 200 (by decide) rfl
    (Reaches.tail (Reaches.tail .refl (a := (300, .recordOutcome .postponed 250)) trivial
      hpostponed) (a := (400, .recordSchedule 20000 260)) trivial hscheduled) 500
  revert h
  decide

end Sample

end Arthome.Ticketing
