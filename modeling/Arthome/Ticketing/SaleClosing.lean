import Mathlib.Data.List.Induction
import Arthome.Ticketing.SaleRuns

/-!
# The closing pass is a convenience

Whether a date sells is read off its row: locked, not closed, its end ahead. The
closing pass writes the end it found passed into the row. A run of facts, locks,
commands and passes under one clock sells exactly as the facts alone say, whenever
the passes ran and whether they ran.
-/

namespace Arthome.Ticketing

open Arthome.Core Library SaleOperation

/-- The outcome declared last closes. -/
def DateSalesSnapshot.EndedByOutcome (sales : DateSalesSnapshot) : Prop :=
  ∃ outcome ∈ outcomesClosingSales, sales.outcome = some outcome

/-- A sale is stored closed when its outcome closes, and otherwise only once its end has passed. -/
structure ClosedInTime (sales : DateSalesSnapshot) (clock : Instant) : Prop where
  ended : sales.EndedByOutcome → sales.salesClosedAt.isSome
  passed : sales.salesClosedAt.isSome → ¬ sales.EndedByOutcome →
    ∃ salesEndAt, sales.salesEndAt = some salesEndAt ∧ salesEndAt ≤ clock

theorem ClosedInTime.mono {sales : DateSalesSnapshot} {clock now : Instant}
    (h : ClosedInTime sales clock) (hclock : clock ≤ now) : ClosedInTime sales now where
  ended := h.ended
  passed hclosed hnot := by
    obtain ⟨salesEndAt, hend, hpassed⟩ := h.passed hclosed hnot
    exact ⟨salesEndAt, hend, hpassed.trans hclock⟩

/-- A move of neither the end, nor the outcome, nor the closing. -/
theorem ClosedInTime.of_same {sales sales' : DateSalesSnapshot} {clock : Instant}
    (h : ClosedInTime sales clock) (hclosed : sales'.salesClosedAt = sales.salesClosedAt)
    (hend : sales'.salesEndAt = sales.salesEndAt) (houtcome : sales'.outcome = sales.outcome) :
    ClosedInTime sales' clock := by
  obtain ⟨hended, hpassed⟩ := h
  unfold DateSalesSnapshot.EndedByOutcome at hended hpassed
  constructor
  · unfold DateSalesSnapshot.EndedByOutcome
    rw [houtcome, hclosed]
    exact hended
  · unfold DateSalesSnapshot.EndedByOutcome
    rw [houtcome, hclosed, hend]
    exact hpassed

theorem closedByTime_iff {sales : DateSalesSnapshot} :
    DateSales.closedByTime sales = true ↔ sales.salesClosedAt.isSome ∧ ¬ sales.EndedByOutcome := by
  unfold DateSales.closedByTime DateSalesSnapshot.EndedByOutcome
  cases sales.outcome <;> simp

theorem not_endedByOutcome_opened (dateId channelId : Uuid) :
    ¬ (DateSales.opened dateId channelId).EndedByOutcome := by
  rintro ⟨outcome, -, hdeclared⟩
  cases hdeclared

/-- A sale just opened is not closed. -/
theorem closedInTime_opened (dateId channelId : Uuid) (clock : Instant) :
    ClosedInTime (DateSales.opened dateId channelId) clock where
  ended := by
    rintro ⟨outcome, -, hdeclared⟩
    cases hdeclared
  passed hclosed := by cases hclosed

section

variable [SalesRules]

/-- A closing outcome was applied in the run. -/
def ClosingApplied (sales : DateSalesSnapshot) (steps : List (Instant × SaleOperation)) : Prop :=
  ∃ before later now outcome statedAt, steps = before ++ (now, .recordOutcome outcome statedAt) ::
    later ∧ outcome ∈ outcomesClosingSales ∧
    (perform (run sales before) now (.recordOutcome outcome statedAt)).isSome

/-- No outcome that does not close is applied after one that does. -/
def ClosingStands (sales : DateSalesSnapshot) (steps : List (Instant × SaleOperation)) : Prop :=
  ∀ before later now outcome statedAt, steps = before ++ (now, .recordOutcome outcome statedAt) ::
    later → outcome ∉ outcomesClosingSales → ClosingApplied sales before →
    perform (run sales before) now (.recordOutcome outcome statedAt) = none

/-- The run with its closing passes left out. -/
def withoutPasses (steps : List (Instant × SaleOperation)) : List (Instant × SaleOperation) :=
  steps.filter fun step => !step.2.isPass

/-! ## What the facts state -/

/-- A pass states nothing. -/
theorem facts_run_withoutPasses (sales : DateSalesSnapshot)
    (steps : List (Instant × SaleOperation)) :
    (run sales (withoutPasses steps)).facts = (run sales steps).facts := by
  rw [facts_run, facts_run]
  generalize sales.facts = facts
  induction steps generalizing facts with
  | nil => rfl
  | cons step steps ih =>
      obtain ⟨now, op⟩ := step
      unfold withoutPasses at ih ⊢
      cases op with
      | endSales => exact ih facts
      | _ => exact ih _

omit [SalesRules] in
/-- An operation left in the run without its passes, in the run itself. -/
theorem of_withoutPasses_eq {steps before later : List (Instant × SaleOperation)}
    {step : Instant × SaleOperation} (h : withoutPasses steps = before ++ step :: later) :
    ∃ before' later', steps = before' ++ step :: later' ∧ withoutPasses before' = before := by
  obtain ⟨first, rest, rfl, hfirst, hrest⟩ := List.filter_eq_append_iff.mp h
  obtain ⟨passes, later', rfl, hpasses, -, -⟩ := List.filter_eq_cons_iff.mp hrest
  refine ⟨first ++ passes, later', by simp, ?_⟩
  unfold withoutPasses
  rw [List.filter_append, hfirst, List.filter_eq_nil_iff.mpr hpasses, List.append_nil]

theorem closingApplied_of_withoutPasses {sales : DateSalesSnapshot}
    {steps : List (Instant × SaleOperation)} (h : ClosingApplied sales (withoutPasses steps)) :
    ClosingApplied sales steps := by
  obtain ⟨before, later, now, outcome, statedAt, hsteps, hcloses, hdone⟩ := h
  obtain ⟨before', later', rfl, rfl⟩ := of_withoutPasses_eq hsteps
  refine ⟨before', later', now, outcome, statedAt, rfl, hcloses, ?_⟩
  rw [perform_outcome_isSome, facts_run_withoutPasses] at hdone
  exact perform_outcome_isSome.mpr hdone

theorem ClosingStands.withoutPasses {sales : DateSalesSnapshot}
    {steps : List (Instant × SaleOperation)} (h : ClosingStands sales steps) :
    ClosingStands sales (withoutPasses steps) := by
  intro before later now outcome statedAt hsteps hnot happlied
  obtain ⟨before', later', rfl, rfl⟩ := of_withoutPasses_eq hsteps
  have hnone := h before' later' now outcome statedAt rfl hnot
    (closingApplied_of_withoutPasses happlied)
  by_contra hdone
  rw [← ne_eq, Option.ne_none_iff_isSome, perform_outcome_isSome, facts_run_withoutPasses] at hdone
  have hsome : (perform (run sales before') now (.recordOutcome outcome statedAt)).isSome :=
    perform_outcome_isSome.mpr hdone
  rw [hnone] at hsome
  cases hsome

/-! ## The outcome in force -/

omit [SalesRules] in
theorem append_cons_eq_concat {α : Type} {before later steps : List α} {a b : α}
    (h : steps ++ [a] = before ++ b :: later) :
    (later = [] ∧ before = steps ∧ b = a) ∨ ∃ later', later = later' ++ [a] ∧
      steps = before ++ b :: later' := by
  rcases List.eq_nil_or_concat' later with rfl | ⟨later', c, rfl⟩
  · obtain ⟨hbefore, hb⟩ := List.append_inj' h rfl
    exact .inl ⟨rfl, hbefore.symm, (List.singleton_inj.mp hb).symm⟩
  · rw [← List.cons_append, ← List.append_assoc] at h
    obtain ⟨hsteps, hc⟩ := List.append_inj' h rfl
    rw [List.singleton_inj.mp hc]
    exact .inr ⟨later', rfl, hsteps⟩

theorem closingApplied_concat {sales : DateSalesSnapshot} {steps : List (Instant × SaleOperation)}
    {now : Instant} {op : SaleOperation} :
    ClosingApplied sales (steps ++ [(now, op)]) ↔ ClosingApplied sales steps ∨
      ∃ outcome statedAt, op = .recordOutcome outcome statedAt ∧ outcome ∈ outcomesClosingSales ∧
        (perform (run sales steps) now op).isSome := by
  constructor
  · rintro ⟨before, later, now', outcome, statedAt, hsteps, hcloses, hdone⟩
    rcases append_cons_eq_concat hsteps with ⟨-, rfl, hstep⟩ | ⟨later', -, rfl⟩
    · obtain ⟨rfl, rfl⟩ := Prod.mk.inj hstep
      exact .inr ⟨outcome, statedAt, rfl, hcloses, hdone⟩
    · exact .inl ⟨before, later', now', outcome, statedAt, rfl, hcloses, hdone⟩
  · rintro (⟨before, later, now', outcome, statedAt, rfl, hcloses, hdone⟩ |
      ⟨outcome, statedAt, rfl, hcloses, hdone⟩)
    · exact ⟨before, later ++ [(now, op)], now', outcome, statedAt, by simp, hcloses, hdone⟩
    · exact ⟨steps, [], now, outcome, statedAt, rfl, hcloses, hdone⟩

theorem ClosingStands.of_append {sales : DateSalesSnapshot}
    {steps steps' : List (Instant × SaleOperation)} (h : ClosingStands sales (steps ++ steps')) :
    ClosingStands sales steps := by
  intro before later now outcome statedAt hsteps
  refine h before (later ++ steps') now outcome statedAt ?_
  rw [hsteps, List.append_assoc, List.cons_append]

/-- The outcome an operation leaves, as one fact can move it. -/
theorem endedByOutcome_advance {sales : DateSalesSnapshot} {now : Instant} {op : SaleOperation}
    (hstands : ∀ outcome statedAt, op = .recordOutcome outcome statedAt →
      outcome ∉ outcomesClosingSales → sales.EndedByOutcome → perform sales now op = none) :
    (advance sales (now, op)).EndedByOutcome ↔ sales.EndedByOutcome ∨
      ∃ outcome statedAt, op = .recordOutcome outcome statedAt ∧ outcome ∈ outcomesClosingSales ∧
        (perform sales now op).isSome := by
  have houtcome : (advance sales (now, op)).outcome = (sales.facts.after op).outcome :=
    congrArg SaleFacts.outcome (facts_advance sales (now, op))
  by_cases hop : ∃ outcome statedAt, op = .recordOutcome outcome statedAt
  · obtain ⟨outcome, statedAt, rfl⟩ := hop
    cases hdone : perform sales now (.recordOutcome outcome statedAt) with
    | none => simp [advance, hdone]
    | some sales' =>
        have hfresh : isStale statedAt sales.facts.outcomeStatedAt = false :=
          perform_outcome_isSome.mp (by rw [hdone]; rfl)
        have hsome : (advance sales (now, .recordOutcome outcome statedAt)).outcome =
            some outcome := by
          rw [houtcome, SaleFacts.after, hfresh]
          rfl
        unfold DateSalesSnapshot.EndedByOutcome at hstands ⊢
        rw [hsome]
        constructor
        · rintro ⟨outcome', hcloses, hsame⟩
          cases Option.some.inj hsame
          exact .inr ⟨outcome, statedAt, rfl, hcloses, rfl⟩
        · rintro (hended | ⟨outcome', statedAt', hsame, hcloses, -⟩)
          · by_contra hnot
            have hopen : outcome ∉ outcomesClosingSales := fun hcloses => hnot ⟨_, hcloses, rfl⟩
            have hnone := hstands outcome statedAt rfl hopen hended
            rw [hdone] at hnone
            cases hnone
          · obtain ⟨rfl, -⟩ := SaleOperation.recordOutcome.inj hsame
            exact ⟨outcome, hcloses, rfl⟩
  · push Not at hop
    have hsame : (advance sales (now, op)).outcome = sales.outcome := by
      rw [houtcome, SaleFacts.after_outcome _ hop]
      rfl
    unfold DateSalesSnapshot.EndedByOutcome
    rw [hsame]
    constructor
    · exact .inl
    · rintro (hended | ⟨outcome, statedAt, hsame, -⟩)
      · exact hended
      · exact absurd hsame (hop outcome statedAt)

/-- In a run no outcome of which supersedes a closing one, a closing one was applied exactly when
the outcome in force closes. -/
theorem closingApplied_iff {sales : DateSalesSnapshot} {steps : List (Instant × SaleOperation)}
    (hopen : ¬ sales.EndedByOutcome) (hstands : ClosingStands sales steps) :
    ClosingApplied sales steps ↔ (run sales steps).EndedByOutcome := by
  induction steps using List.reverseRecOn with
  | nil =>
      refine iff_of_false ?_ hopen
      rintro ⟨before, later, now, outcome, statedAt, hsteps, -⟩
      exact absurd hsteps (by simp)
  | append_singleton steps step ih =>
      obtain ⟨now, op⟩ := step
      have hbefore := ih hstands.of_append
      rw [run_append, run_cons, run_nil, closingApplied_concat, hbefore,
        endedByOutcome_advance]
      rintro outcome statedAt rfl hnot hended
      exact hstands steps [] now outcome statedAt rfl hnot (hbefore.mpr hended)

/-! ## The closing stored -/

variable [LawfulSalesClock] {sales sales' : DateSalesSnapshot} {clock now : Instant}

/-- A schedule reopens a sale closed by time exactly when its new end has not passed. -/
theorem ClosedInTime.recordSchedule {startsAt statedAt : Instant} (h : ClosedInTime sales now)
    (hdone : perform sales now (.recordSchedule startsAt statedAt) = some sales') :
    ClosedInTime sales' now := by
  have hfacts := perform_facts hdone
  have houtcome : sales'.outcome = sales.outcome := by
    rw [show sales'.outcome = sales'.facts.outcome from rfl, hfacts,
      SaleFacts.after_outcome _ (by simp)]
    rfl
  have hend : sales'.salesEndAt = some (SalesRules.seatSalesEndAt startsAt) := by
    rw [show sales'.salesEndAt = sales'.facts.salesEndAt from rfl, hfacts, SaleFacts.after,
      if_neg (by rw [show sales.facts.scheduleStatedAt = sales.scheduleStatedAt from rfl,
        perform_schedule_fresh hdone]; simp)]
  have hsame : sales'.EndedByOutcome ↔ sales.EndedByOutcome := by
    unfold DateSalesSnapshot.EndedByOutcome
    rw [houtcome]
  have hclosing := perform_closedAt hdone
  rw [DateSalesSnapshot.closedAtAfter] at hclosing
  split_ifs at hclosing with hreopens
  · rw [Bool.and_eq_true, closedByTime_iff] at hreopens
    constructor
    · intro hended
      exact absurd (hsame.mp hended) hreopens.1.2
    · intro hclosed
      rw [hclosing] at hclosed
      cases hclosed
  · rw [Bool.and_eq_true, closedByTime_iff, LawfulSalesClock.isBefore_iff] at hreopens
    constructor
    · intro hended
      rw [hclosing]
      exact h.ended (hsame.mp hended)
    · intro hclosed hnot
      rw [hclosing] at hclosed
      refine ⟨_, hend, ?_⟩
      by_contra hahead
      exact hreopens ⟨⟨hclosed, fun hended => hnot (hsame.mpr hended)⟩, not_le.mp hahead⟩

omit [LawfulSalesClock] in
/-- An outcome applied closes, or leaves a sale no closing outcome had closed. -/
theorem ClosedInTime.recordOutcome {outcome : DateOutcome} {statedAt : Instant}
    (h : ClosedInTime sales now)
    (hdone : perform sales now (.recordOutcome outcome statedAt) = some sales')
    (hstands : outcome ∉ outcomesClosingSales → ¬ sales.EndedByOutcome) :
    ClosedInTime sales' now := by
  have hfacts := perform_facts hdone
  have houtcome : sales'.outcome = some outcome := by
    rw [show sales'.outcome = sales'.facts.outcome from rfl, hfacts, SaleFacts.after,
      if_neg (by rw [perform_outcome_isSome.mp (by rw [hdone]; rfl)]; simp)]
  have hend : sales'.salesEndAt = sales.salesEndAt := by
    rw [show sales'.salesEndAt = sales'.facts.salesEndAt from rfl, hfacts,
      SaleFacts.after_salesEndAt _ (by simp)]
    rfl
  have hclosing := perform_closedAt hdone
  rw [DateSalesSnapshot.closedAtAfter] at hclosing
  split_ifs at hclosing with hcloses
  · constructor
    · intro _
      rw [hclosing]
      cases sales.salesClosedAt <;> rfl
    · intro _ hnot
      exact absurd ⟨outcome, hcloses, houtcome⟩ hnot
  · constructor
    · rintro ⟨outcome', hcloses', hdeclared⟩
      rw [houtcome] at hdeclared
      exact absurd (Option.some.inj hdeclared ▸ hcloses') hcloses
    · intro hclosed _
      rw [hclosing] at hclosed
      rw [hend]
      exact h.passed hclosed (hstands hcloses)

/-- The pass stores the end it found passed. -/
theorem ClosedInTime.endSales (hdone : perform sales now .endSales = some sales') :
    ClosedInTime sales' now := by
  obtain ⟨hopen, salesEndAt, hend, hpassed⟩ := perform_endSales hdone
  have hfacts := perform_facts hdone
  have hend' : sales'.salesEndAt = some salesEndAt := by
    rw [show sales'.salesEndAt = sales'.facts.salesEndAt from rfl, hfacts]
    exact hend
  have houtcome : sales'.outcome = sales.outcome := by
    rw [show sales'.outcome = sales'.facts.outcome from rfl, hfacts]
    rfl
  constructor
  · intro _
    rw [perform_closedAt hdone, DateSalesSnapshot.closedAtAfter, hend]
    rfl
  · intro _ _
    refine ⟨salesEndAt, hend', ?_⟩
    by_contra hahead
    rw [(LawfulSalesClock.isBefore_iff now salesEndAt).mpr (not_le.mp hahead)] at hpassed
    cases hpassed

/-- Whatever is performed, the closing stored is the one the facts and the clock account for. -/
theorem ClosedInTime.advance {op : SaleOperation} (h : ClosedInTime sales clock)
    (hclock : clock ≤ now)
    (hstands : ∀ outcome statedAt, op = .recordOutcome outcome statedAt →
      outcome ∉ outcomesClosingSales → sales.EndedByOutcome → perform sales now op = none) :
    ClosedInTime (advance sales (now, op)) now := by
  have hnow := h.mono hclock
  cases hdone : perform sales now op with
  | none => rwa [advance_of_none hdone]
  | some sales' =>
      rw [advance_of_some hdone]
      have hfacts := perform_facts hdone
      have hclosing := perform_closedAt hdone
      cases op with
      | recordSchedule startsAt statedAt => exact hnow.recordSchedule hdone
      | recordOutcome outcome statedAt =>
          refine hnow.recordOutcome hdone fun hnot hended => ?_
          rw [hstands outcome statedAt rfl hnot hended] at hdone
          cases hdone
      | endSales => exact .endSales hdone
      | lockPrices engagedAt =>
          have hend : sales'.salesEndAt = sales.salesEndAt :=
            (congrArg SaleFacts.salesEndAt hfacts).trans (SaleFacts.after_salesEndAt _ (by simp))
          have houtcome : sales'.outcome = sales.outcome :=
            (congrArg SaleFacts.outcome hfacts).trans (SaleFacts.after_outcome _ (by simp))
          exact hnow.of_same hclosing hend houtcome
      | _ =>
          have hend := congrArg SaleFacts.salesEndAt hfacts
          have houtcome := congrArg SaleFacts.outcome hfacts
          exact hnow.of_same hclosing hend houtcome

/-- A run under one clock keeps the closing stored what the facts and the clock account for. -/
theorem ClosedInTime.run {steps : List (Instant × SaleOperation)}
    (h : ∀ clock, ClosedInTime sales clock) (hopen : ¬ sales.EndedByOutcome)
    (hstands : ClosingStands sales steps) (hclock : (steps.map Prod.fst).Pairwise (· ≤ ·))
    (hnow : ∀ step ∈ steps, step.1 ≤ now) : ClosedInTime (run sales steps) now := by
  induction steps using List.reverseRecOn generalizing now with
  | nil => exact h now
  | append_singleton steps step ih =>
      obtain ⟨last, op⟩ := step
      rw [List.map_append, List.pairwise_append] at hclock
      have hlast : ∀ step ∈ steps, step.1 ≤ last := by
        intro step hstep
        exact hclock.2.2 step.1 (List.mem_map_of_mem hstep) last (by simp)
      have hbefore := ih hstands.of_append hclock.1 hlast
      rw [run_append, run_cons, run_nil]
      refine (hbefore.advance le_rfl ?_).mono (hnow (last, op) (by simp))
      rintro outcome statedAt rfl hnot hended
      have happlied := (closingApplied_iff hopen hstands.of_append).mpr hended
      exact hstands steps [] last outcome statedAt rfl hnot happlied

/-- What a sale closed in time sells at an instant not before the clock. -/
theorem sellsSeatsAt_iff (h : ClosedInTime sales now) :
    DateSales.sellsSeatsAt sales now = true ↔ sales.pricesLockedAt.isSome ∧
      ¬ sales.EndedByOutcome ∧ ∀ salesEndAt, sales.salesEndAt = some salesEndAt →
        now < salesEndAt := by
  have hahead : DateSales.hasEndedBy sales now = false ↔
      ∀ salesEndAt, sales.salesEndAt = some salesEndAt → now < salesEndAt := by
    unfold DateSales.hasEndedBy
    cases hend : sales.salesEndAt with
    | none => simp [LawfulSalesClock.never_ended]
    | some salesEndAt => simp [← Bool.not_eq_true, LawfulSalesClock.ended_iff]
  have hstored : DateSales.hasEndedBy sales now = false →
      (sales.salesClosedAt.isNone = true ↔ ¬ sales.EndedByOutcome) := by
    intro hselling
    constructor
    · intro hnone hended
      have hclosed := h.ended hended
      rw [Option.isNone_iff_eq_none.mp hnone] at hclosed
      cases hclosed
    · intro hnot
      by_contra hclosed
      rw [Option.isNone_iff_eq_none, ← ne_eq, Option.ne_none_iff_isSome] at hclosed
      obtain ⟨salesEndAt, hend, hpassed⟩ := h.passed hclosed hnot
      exact absurd (hahead.mp hselling salesEndAt hend) (not_lt.mpr hpassed)
  rw [← hahead, DateSales.sellsSeatsAt, DateSales.isOnSale, Bool.and_eq_true, Bool.and_eq_true,
    Bool.not_eq_true', and_assoc]
  exact and_congr_right fun _ => and_congr_left hstored

/-- A date driven under one clock sells at an instant not before its last operation exactly when
the facts alone say so: its prices locked, no closing outcome applied, the end of the schedule in
force absent or ahead. Neither the facts nor the answer depend on the closing passes. -/
theorem sellsSeatsAt_run (dateId channelId : Uuid) (steps : List (Instant × SaleOperation))
    (hclock : (steps.map Prod.fst).Pairwise (· ≤ ·))
    (hstands : ClosingStands (DateSales.opened dateId channelId) steps) (now : Instant)
    (hnow : ∀ step ∈ steps, step.1 ≤ now) :
    let driven := run (DateSales.opened dateId channelId) steps
    let stated := run (DateSales.opened dateId channelId) (withoutPasses steps)
    stated.facts = driven.facts ∧
      DateSales.sellsSeatsAt stated now = DateSales.sellsSeatsAt driven now ∧
      (DateSales.sellsSeatsAt driven now = true ↔ stated.pricesLockedAt.isSome ∧
        ¬ ClosingApplied (DateSales.opened dateId channelId) steps ∧
        ∀ salesEndAt, stated.salesEndAt = some salesEndAt → now < salesEndAt) := by
  intro driven stated
  have hopened := not_endedByOutcome_opened dateId channelId
  have hfacts : stated.facts = driven.facts := facts_run_withoutPasses _ steps
  have hlock : stated.pricesLockedAt = driven.pricesLockedAt :=
    congrArg SaleFacts.pricesLockedAt hfacts
  have hend : stated.salesEndAt = driven.salesEndAt := congrArg SaleFacts.salesEndAt hfacts
  have hended : stated.EndedByOutcome ↔ driven.EndedByOutcome := by
    unfold DateSalesSnapshot.EndedByOutcome
    rw [show stated.outcome = driven.outcome from congrArg SaleFacts.outcome hfacts]
  have hdriven : ClosedInTime driven now :=
    ClosedInTime.run (closedInTime_opened dateId channelId) hopened hstands hclock hnow
  have hstated : ClosedInTime stated now := by
    refine ClosedInTime.run (closedInTime_opened dateId channelId) hopened hstands.withoutPasses ?_ ?_
    · exact hclock.sublist (List.filter_sublist.map Prod.fst)
    · intro step hstep
      exact hnow step (List.mem_of_mem_filter hstep)
  refine ⟨hfacts, ?_, ?_⟩
  · rw [Bool.eq_iff_iff, sellsSeatsAt_iff hstated, sellsSeatsAt_iff hdriven, hlock, hend, hended]
  · rw [sellsSeatsAt_iff hdriven, hlock, hend, closingApplied_iff hopened hstands]

end

section Sample

open Sample

/-- Closed at its end by a pass, reopened by a later start, closed again by a cancellation. -/
def sampleRun : List (Instant × SaleOperation) :=
  [(10, .lockPrices 5), (20, .recordSchedule 10000 15), (11900, .endSales),
    (12000, .recordSchedule 20000 11000), (13000, .endSales), (14000, .recordOutcome .cancelled 60)]

theorem sellsSeatsAt_run_sample :
    DateSales.sellsSeatsAt (run (DateSales.opened 1 2) (withoutPasses sampleRun)) 14000 =
      DateSales.sellsSeatsAt (run (DateSales.opened 1 2) sampleRun) 14000 := by
  refine (sellsSeatsAt_run 1 2 sampleRun (by decide) ?_ 14000 (by decide)).2.1
  intro before later now outcome statedAt hsteps hnot
  have hmem : (now, SaleOperation.recordOutcome outcome statedAt) ∈ sampleRun := by
    rw [hsteps]
    simp
  simp only [sampleRun, List.mem_cons, Prod.mk.injEq, reduceCtorEq, and_false, false_or,
    List.not_mem_nil, or_false, SaleOperation.recordOutcome.injEq] at hmem
  rw [hmem.2.1] at hnot
  exact absurd (by decide) hnot

end Sample

end Arthome.Ticketing
