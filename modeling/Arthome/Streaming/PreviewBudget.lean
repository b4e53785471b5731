import Arthome.Streaming.PreviewCover

/-!
# What a preview may show

The runs of the service, the budgets' rows and the preview tokens issued, moved by
the acts on a run and by the openings and renewals of its viewers. What is settled
for an account is the time of its covers that was on air, and what is covered ahead
stays within what is left, whatever the run does in between. A run that ended by
itself is the exception: its end is recorded later than it took place, and what was
settled meanwhile is not given back.
-/

namespace Arthome.Streaming

open Arthome.Core Library

structure PreviewToken where
  accountId : Uuid
  dateId : Uuid
  issuedAt : Instant
  /-- How far the meter covers it. -/
  previewCover : Instant
  expiresAt : Instant
  deriving Repr, DecidableEq

/-- An act on a run, as its clock shows it. The end is the live's real end, which may precede the
act. -/
inductive RunAct where
  | wentOnAir
  | raised
  | resolved
  | ended (endedAt : Instant)
  deriving Repr, DecidableEq

/-- The clock of a run after an act. A run goes on air once and ends once. -/
def RunTimeline.act (timeline : RunTimeline) (now : Instant) : RunAct → RunTimeline
  | .wentOnAir =>
    if timeline.startedAt.isNone then { timeline with startedAt := some now } else timeline
  | .raised => { timeline with veils := timeline.veils ++ [⟨now, none⟩] }
  | .resolved =>
    { timeline with
      veils := timeline.veils.map fun veil =>
        if veil.resolvedAt.isNone then { veil with resolvedAt := some now } else veil }
  | .ended endedAt =>
    if timeline.endedAt.isNone ∧ endedAt ≤ now then { timeline with endedAt := some endedAt }
    else timeline

/-- The runs, the budgets' rows, and the preview tokens issued, the last one first. -/
structure Previews where
  timelines : Uuid → RunTimeline
  budgets : PreviewBudgets
  tokens : List PreviewToken

/-- An act on a date's run, or an opening or a renewal under a preview. -/
inductive PreviewStep where
  | run (dateId : Uuid) (act : RunAct)
  | issue (accountId dateId : Uuid)
  deriving Repr, DecidableEq

namespace Previews

/-- Before any run and any preview. -/
def opened : Previews := ⟨fun _ => ⟨none, none, []⟩, .empty, []⟩

def budgetOf (s : Previews) (accountId dateId : Uuid) : BudgetState :=
  (s.budgets.read accountId dateId).getD freshBudget

def act (s : Previews) (dateId : Uuid) (act : RunAct) (now : Instant) : Previews :=
  { s with timelines := Function.update s.timelines dateId ((s.timelines dateId).act now act) }

section Steps

variable [PreviewRules]

open PreviewRules

/-- The cover of a preview token, its row written. -/
def cover (s : Previews) (accountId dateId : Uuid) (now : Instant) : Previews × Option Instant :=
  let onAir := onAirIntervalsOf (s.timelines dateId) now
  let cover := coverAt (s.budgetOf accountId dateId) now onAir
  ({ s with budgets := s.budgets.write accountId dateId cover.budget }, cover.expiresAt)

/-- An opening or a renewal; nothing is issued when the meter covers nothing. -/
def issue (s : Previews) (accountId dateId : Uuid) (now : Instant) : Previews :=
  match s.cover accountId dateId now with
  | (s', none) => s'
  | (s', some previewCover) =>
    { s' with
      tokens := ⟨accountId, dateId, now, previewCover, tokenExpiresAt now previewCover⟩ :: s'.tokens }

def step (s : Previews) (now : Instant) : PreviewStep → Previews
  | .run dateId act => s.act dateId act now
  | .issue accountId dateId => s.issue accountId dateId now

def run (steps : List (Instant × PreviewStep)) : Previews :=
  steps.foldl (fun s step => s.step step.1 step.2) opened

@[simp] theorem run_nil : run [] = opened := rfl

theorem run_concat (steps : List (Instant × PreviewStep)) (now : Instant) (step : PreviewStep) :
    run (steps ++ [(now, step)]) = (run steps).step now step := by
  unfold run
  rw [List.foldl_concat]

end Steps

/-- The account's tokens on a date. -/
def tokensOf (s : Previews) (accountId dateId : Uuid) : List PreviewToken :=
  s.tokens.filter fun token => token.accountId = accountId ∧ token.dateId = dateId

/-- The time inside the windows of the account's tokens on a date. -/
noncomputable def shown (s : Previews) (accountId dateId : Uuid) : Finset ℤ :=
  covered ((s.tokensOf accountId dateId).map fun token => windowOf token.issuedAt token.expiresAt)

/-- The time the meter covered for them. -/
noncomputable def metered (s : Previews) (accountId dateId : Uuid) : Finset ℤ :=
  covered ((s.tokensOf accountId dateId).map fun token =>
    windowOf token.issuedAt token.previewCover)

/-- The time covered, on air and settled. -/
noncomputable def charged (s : Previews) (accountId dateId : Uuid) : Finset ℤ :=
  (s.metered accountId dateId).filter fun t =>
    (s.budgetOf accountId dateId).isSettled t = true ∧ (s.timelines dateId).onAirAt t = true

/-- What is settled beyond that. -/
noncomputable def overcharge (s : Previews) (accountId dateId : Uuid) : ℤ :=
  (s.budgetOf accountId dateId).settledMs - ((s.charged accountId dateId).card : ℤ)

/-- The end a step records, on a run not ended yet, is no earlier than the time on air settled for
the account. -/
def EndsUncharged (s : Previews) (accountId dateId : Uuid) (now : Instant) : PreviewStep → Prop
  | .run date (.ended endedAt) =>
    date = dateId → (s.timelines dateId).endedAt = none → endedAt ≤ now →
      ∀ t ∈ s.charged accountId dateId, t < endedAt
  | _ => True

/-- Every step of a run of the service records an end no earlier. -/
def AllUncharged [PreviewRules] (s : Previews) (accountId dateId : Uuid) :
    List (Instant × PreviewStep) → Prop
  | [] => True
  | (now, step) :: steps =>
    s.EndsUncharged accountId dateId now step ∧
      (s.step now step).AllUncharged accountId dateId steps

end Previews

/-! ## An act on a run -/

section Acts

variable {timeline : RunTimeline} {now : Instant}

/-- Whether an act leaves an instant on air. -/
def RunAct.spares (t : Instant) : RunAct → Bool
  | .ended endedAt => decide (t < endedAt)
  | _ => true

/-- An act shows on what comes after it only, but for a run's end. -/
theorem RunTimeline.onAirAt_act (act : RunAct) {t : Instant} (ht : t < now) :
    ((timeline.act now act).onAirAt t = true → timeline.onAirAt t = true) ∧
      (timeline.onAirAt t = true → act.spares t = true →
        (timeline.act now act).onAirAt t = true) := by
  cases act with
  | wentOnAir =>
      simp only [RunTimeline.act]
      split_ifs with hfirst
      · have hnever : ¬ now ≤ t := not_le.mpr ht
        rw [Option.isNone_iff_eq_none] at hfirst
        simp [RunTimeline.onAirAt, hfirst, hnever]
      · exact ⟨id, fun h _ => h⟩
  | raised =>
      have hnever : (⟨now, none⟩ : Veil).covers t = false := by
        simp [Veil.covers, ht]
      simp only [RunTimeline.act, RunTimeline.onAirAt, List.all_append, List.all_cons, List.all_nil,
        hnever, Bool.not_false, Bool.and_true]
      exact ⟨id, fun h _ => h⟩
  | resolved =>
      have hsame : ∀ veil : Veil,
          (if veil.resolvedAt.isNone then { veil with resolvedAt := some now } else veil).covers t =
            veil.covers t := by
        intro veil
        split_ifs with hopen
        · rw [Option.isNone_iff_eq_none] at hopen
          simp [Veil.covers, hopen, ht]
        · rfl
      simp only [RunTimeline.act, RunTimeline.onAirAt, List.all_map, Function.comp_def, hsame]
      exact ⟨id, fun h _ => h⟩
  | ended endedAt =>
      simp only [RunTimeline.act]
      split_ifs with hends
      · have hnone := Option.isNone_iff_eq_none.mp hends.1
        simp only [RunTimeline.onAirAt, hnone, Option.all_none, Option.all_some, Bool.and_true,
          Bool.and_eq_true, RunAct.spares]
        constructor
        · rintro ⟨⟨hbegun, -⟩, hclear⟩
          exact ⟨hbegun, hclear⟩
        · rintro ⟨hbegun, hclear⟩ hspared
          exact ⟨⟨hbegun, hspared⟩, hclear⟩
      · exact ⟨id, fun h _ => h⟩

end Acts

/-! ## The budget kept -/

/-- The budget in milliseconds. -/
def previewBudgetMs [PreviewRules] : ℤ := 1000 * PreviewRules.previewBudgetSeconds

section Metered

variable [PreviewRules]

/-- What an account's row says of the time metered for it and of the run's clock. -/
structure Metered (onAir : ℤ → Bool) (metered : Finset ℤ) (budget : BudgetState) : Prop where
  fresh : budget.settledUntil = none → budget.coveredUntil = none
  reach : ∀ t, budget.isSettled t = false → (t ∈ metered ↔ t ∈ budget.ahead)
  served : ((metered.filter fun t => budget.isSettled t = true ∧ onAir t = true).card : ℤ) ≤
    budget.settledMs
  within : budget.settledMs + (budget.ahead.card : ℤ) ≤ previewBudgetMs

/-- The time on air that was metered is within the budget. -/
theorem Metered.card_le {onAir : ℤ → Bool} {metered : Finset ℤ} {budget : BudgetState}
    (h : Metered onAir metered budget) :
    ((metered.filter fun t => onAir t = true).card : ℤ) ≤ previewBudgetMs := by
  have hsplit : metered.filter (fun t => onAir t = true) ⊆
      metered.filter (fun t => budget.isSettled t = true ∧ onAir t = true) ∪ budget.ahead := by
    intro t ht
    obtain ⟨hmetered, honAir⟩ := Finset.mem_filter.mp ht
    rw [Finset.mem_union, Finset.mem_filter]
    cases hsettled : budget.isSettled t with
    | true => exact .inl ⟨hmetered, rfl, honAir⟩
    | false => exact .inr ((h.reach t hsettled).mp hmetered)
  have hcard := (Finset.card_le_card hsplit).trans (Finset.card_union_le _ _)
  have hserved := h.served
  have hwithin := h.within
  omega

variable [LawfulPreviewRules]

omit [PreviewRules] [LawfulPreviewRules] in
theorem secondsStarted_le (ms : ℤ) : ms ≤ 1000 * secondsStarted ms := by
  unfold secondsStarted
  omega

/-- What a settle charges and what stays ahead of it are no more than what was ahead. -/
theorem settledMsAt_le (budget : BudgetState) (timeline : RunTimeline) (now : ℤ) :
    settledMsAt budget now (onAirIntervalsOf timeline now) +
      ((budget.ahead.filter fun t => now ≤ t).card : ℤ) ≤
      budget.settledMs + (budget.ahead.card : ℤ) := by
  have hdisjoint : Disjoint (budget.ahead.filter fun t => t < now ∧ timeline.onAirAt t = true)
      (budget.ahead.filter fun t => now ≤ t) := by
    rw [Finset.disjoint_left]
    intro t hpast hfuture
    exact not_le.mpr (Finset.mem_filter.mp hpast).2.1 (Finset.mem_filter.mp hfuture).2
  have hcard := Finset.card_le_card (Finset.union_subset
    (Finset.filter_subset (fun t => t < now ∧ timeline.onAirAt t = true) budget.ahead)
    (Finset.filter_subset (fun t => now ≤ t) budget.ahead))
  rw [Finset.card_union_of_disjoint hdisjoint] at hcard
  rw [settledMsAt_eq]
  omega

/-- A cover issues nothing, or a token within what is left. -/
theorem coverAt_cases (budget : BudgetState) (now : Instant) (onAir : List Window) :
    let cover := coverAt budget now onAir
    cover.expiresAt = none ∧ cover.budget.coveredUntil = budget.coveredUntil ∨
      ∃ expiresAt, cover.expiresAt = some expiresAt ∧
        settledMsAt budget now onAir < previewBudgetMs ∧
        settledMsAt budget now onAir + (expiresAt - now) ≤ previewBudgetMs ∧
        cover.budget.coveredUntil =
          some (max (budget.coveredUntil.elim expiresAt fun covered => max covered expiresAt)
            now) := by
  simp only [coverAt]
  split_ifs with hleft
  · exact .inl ⟨rfl, rfl⟩
  · have hstarted := secondsStarted_le (settledMsAt budget now onAir)
    have hexpires : ∀ left : ℤ, 0 < left →
        @LE.le ℤ _ (PreviewRules.previewTokenExpiresAt now left) (now + 1000 * left) :=
      LawfulPreviewRules.previewTokenExpiresAt_le now
    have hcover := hexpires _ (not_le.mp hleft)
    have hpositive := not_le.mp hleft
    unfold secondsLeftOf at hpositive hcover ⊢
    rw [LawfulPreviewRules.previewSecondsLeft_eq] at hpositive hcover ⊢
    refine .inr ⟨_, rfl, ?_, ?_, ?_⟩
    · unfold previewBudgetMs
      omega
    · unfold previewBudgetMs
      omega
    · rw [LawfulPreviewRules.latest_eq]
      cases budget.coveredUntil with
      | none => rfl
      | some covered =>
          simp only [LawfulRunRules.isAfter_iff, Option.elim_some]
          split_ifs with hafter
          · rw [max_eq_left hafter.le]
          · rw [max_eq_right (not_lt.mp hafter)]

/-- What a cover leaves ahead, with what it settles, is within the budget. -/
theorem coverAt_within {budget : BudgetState} {timeline : RunTimeline} {now : ℤ}
    (hfresh : budget.settledUntil = none → budget.coveredUntil = none)
    (hclock : ∀ settledUntil, budget.settledUntil = some settledUntil → settledUntil ≤ now)
    (hwithin : budget.settledMs + (budget.ahead.card : ℤ) ≤ previewBudgetMs) :
    let cover := coverAt budget now (onAirIntervalsOf timeline now)
    cover.budget.settledMs + (cover.budget.ahead.card : ℤ) ≤ previewBudgetMs := by
  intro cover
  obtain ⟨hsettled, huntil⟩ := coverAt_settled budget now (onAirIntervalsOf timeline now)
  have hkept := settledMsAt_le budget timeline now
  -- What was covered ahead and is not past yet stays within.
  have hold : ∀ covered, budget.coveredUntil = some covered →
      settledMsAt budget now (onAirIntervalsOf timeline now) + max 0 (covered - now) ≤
        previewBudgetMs := by
    intro covered hcovered
    cases hsettledUntil : budget.settledUntil with
    | none => rw [hfresh hsettledUntil] at hcovered; cases hcovered
    | some settledUntil =>
        have hafter := hclock settledUntil hsettledUntil
        have hahead : budget.ahead.filter (fun t => now ≤ t) = Finset.Ico now covered := by
          unfold BudgetState.ahead
          rw [hsettledUntil, hcovered]
          ext t
          simp only [Finset.mem_filter, Finset.mem_Ico]
          constructor
          · rintro ⟨⟨-, hend⟩, hnow⟩
            exact ⟨hnow, hend⟩
          · rintro ⟨hnow, hend⟩
            exact ⟨⟨hafter.trans hnow, hend⟩, hnow⟩
        rw [hahead, Int.card_Ico] at hkept
        omega
  have hahead : (cover.budget.ahead.card : ℤ) =
      cover.budget.coveredUntil.elim 0 fun covered => max 0 (covered - now) := by
    unfold BudgetState.ahead
    rw [huntil]
    cases cover.budget.coveredUntil with
    | none => rfl
    | some covered =>
        simp only [Int.card_Ico, Option.elim_some]
        omega
  rw [hahead, hsettled]
  rcases coverAt_cases budget now (onAirIntervalsOf timeline now) with
    ⟨-, hcovered⟩ | ⟨expiresAt, -, hleft, hexpires, hcovered⟩
  · rw [hcovered]
    cases hcu : budget.coveredUntil with
    | none =>
        simp only [Option.elim_none]
        omega
    | some covered => exact hold covered hcu
  · rw [hcovered]
    cases hcu : budget.coveredUntil with
    | none =>
        simp only [Option.elim_some, Option.elim_none]
        omega
    | some covered =>
        have hbefore := hold covered hcu
        simp only [Option.elim_some]
        omega

/-- The time metered once a cover issued what it did. -/
noncomputable def meteredAfter (metered : Finset ℤ) (now : ℤ) (expiresAt : Option Instant) : Finset ℤ :=
  expiresAt.elim metered fun expiresAt => (windowOf now expiresAt).units ∪ metered

omit [PreviewRules] [LawfulPreviewRules] in
theorem mem_meteredAfter_of_lt {metered : Finset ℤ} {now t : ℤ} {expiresAt : Option Instant}
    (ht : t < now) : t ∈ meteredAfter metered now expiresAt ↔ t ∈ metered := by
  unfold meteredAfter
  cases expiresAt with
  | none => rfl
  | some expiresAt =>
      have hnever : ¬ now ≤ t := not_le.mpr ht
      simp [windowOf, hnever]

omit [PreviewRules] [LawfulPreviewRules] in
theorem lt_of_isSettled {budget : BudgetState} {now t : ℤ}
    (hclock : ∀ settledUntil, budget.settledUntil = some settledUntil → settledUntil ≤ now)
    (h : budget.isSettled t = true) : t < now := by
  obtain ⟨settledUntil, hsettled, hlt⟩ := Option.any_eq_true _ _ |>.mp h
  exact (of_decide_eq_true hlt).trans_le (hclock settledUntil hsettled)

omit [PreviewRules] [LawfulPreviewRules] in
theorem isSettled_of_mem_ahead {budget : BudgetState} {t : ℤ} (h : t ∈ budget.ahead) :
    budget.isSettled t = false := by
  unfold BudgetState.ahead at h
  unfold BudgetState.isSettled
  cases hsettled : budget.settledUntil with
  | none => rfl
  | some settledUntil =>
      cases hcovered : budget.coveredUntil with
      | none =>
          rw [hsettled, hcovered] at h
          cases h
      | some coveredUntil =>
          rw [hsettled, hcovered] at h
          rw [Option.any_some, decide_eq_false_iff_not, not_lt]
          exact (Finset.mem_Ico.mp h).1

omit [PreviewRules] [LawfulPreviewRules] in
/-- A cover charges the time metered and on air that was not settled, and nothing else. -/
theorem card_charged_cover {metered : Finset ℤ} {budget : BudgetState} {timeline : RunTimeline}
    {now : ℤ} (expiresAt : Option Instant)
    (hreach : ∀ t, budget.isSettled t = false → (t ∈ metered ↔ t ∈ budget.ahead))
    (hclock : ∀ settledUntil, budget.settledUntil = some settledUntil → settledUntil ≤ now) :
    (((meteredAfter metered now expiresAt).filter fun t =>
        t < now ∧ timeline.onAirAt t = true).card : ℤ) =
      ((metered.filter fun t => budget.isSettled t = true ∧ timeline.onAirAt t = true).card : ℤ) +
        ((budget.ahead.filter fun t => t < now ∧ timeline.onAirAt t = true).card : ℤ) := by
  have hsplit : (meteredAfter metered now expiresAt).filter
      (fun t => t < now ∧ timeline.onAirAt t = true) =
      metered.filter (fun t => budget.isSettled t = true ∧ timeline.onAirAt t = true) ∪
        budget.ahead.filter (fun t => t < now ∧ timeline.onAirAt t = true) := by
    ext t
    simp only [Finset.mem_filter, Finset.mem_union]
    constructor
    · rintro ⟨hmetered, hpast, honAir⟩
      rw [mem_meteredAfter_of_lt hpast] at hmetered
      cases hsettled : budget.isSettled t with
      | true => exact .inl ⟨hmetered, rfl, honAir⟩
      | false => exact .inr ⟨(hreach t hsettled).mp hmetered, hpast, honAir⟩
    · rintro (⟨hmetered, hsettled, honAir⟩ | ⟨hahead, hpast, honAir⟩)
      · have hpast := lt_of_isSettled hclock hsettled
        exact ⟨(mem_meteredAfter_of_lt hpast).mpr hmetered, hpast, honAir⟩
      · have hmetered := (hreach t (isSettled_of_mem_ahead hahead)).mpr hahead
        exact ⟨(mem_meteredAfter_of_lt hpast).mpr hmetered, hpast, honAir⟩
  have hdisjoint : Disjoint
      (metered.filter fun t => budget.isSettled t = true ∧ timeline.onAirAt t = true)
      (budget.ahead.filter fun t => t < now ∧ timeline.onAirAt t = true) := by
    rw [Finset.disjoint_left]
    intro t hcharged hahead
    have hsettled := (Finset.mem_filter.mp hcharged).2.1
    rw [isSettled_of_mem_ahead (Finset.mem_filter.mp hahead).1] at hsettled
    cases hsettled
  rw [hsplit, Finset.card_union_of_disjoint hdisjoint, Nat.cast_add]

/-- What the row says of the time metered once a cover is made: where it reaches. -/
theorem mem_meteredAfter_iff {metered : Finset ℤ} {budget : BudgetState} {timeline : RunTimeline}
    {now t : ℤ} (h : Metered timeline.onAirAt metered budget)
    (hclock : ∀ settledUntil, budget.settledUntil = some settledUntil → settledUntil ≤ now)
    (ht : now ≤ t) :
    let cover := coverAt budget now (onAirIntervalsOf timeline now)
    t ∈ meteredAfter metered now cover.expiresAt ↔ t ∈ cover.budget.ahead := by
  intro cover
  obtain ⟨-, huntil⟩ := coverAt_settled budget now (onAirIntervalsOf timeline now)
  have hunsettled : budget.isSettled t = false :=
    Bool.eq_false_iff.mpr fun hsettled => not_lt.mpr ht (lt_of_isSettled hclock hsettled)
  have hbefore : t ∈ metered ↔ ∃ covered, budget.coveredUntil = some covered ∧ t < covered := by
    rw [h.reach t hunsettled]
    unfold BudgetState.ahead
    cases hsettled : budget.settledUntil with
    | none => simp [h.fresh hsettled]
    | some settledUntil =>
        have hafter := (hclock settledUntil hsettled).trans ht
        cases budget.coveredUntil with
        | none => simp
        | some covered => simp [hafter]
  have hahead : t ∈ cover.budget.ahead ↔
      ∃ covered, cover.budget.coveredUntil = some covered ∧ t < covered := by
    unfold BudgetState.ahead
    rw [huntil]
    cases cover.budget.coveredUntil with
    | none => simp
    | some covered => simp [ht]
  rw [hahead]
  rcases coverAt_cases budget now (onAirIntervalsOf timeline now) with
    ⟨hnone, hcovered⟩ | ⟨expiresAt, hissued, -, -, hcovered⟩
  · rw [hnone, hcovered]
    exact hbefore
  · have hnot : ¬ t < now := not_lt.mpr ht
    rw [hissued, hcovered]
    unfold meteredAfter
    rw [Option.elim_some, Finset.mem_union, hbefore, Span.mem_units]
    cases budget.coveredUntil with
    | none => simp [windowOf, ht, hnot]
    | some covered => simp [windowOf, ht, hnot, or_comm]

/-- A cover keeps the row's account of the run, and what it charges is what was on air. -/
theorem Metered.cover {metered : Finset ℤ} {budget : BudgetState} {timeline : RunTimeline}
    {now : ℤ} (h : Metered timeline.onAirAt metered budget)
    (hclock : ∀ settledUntil, budget.settledUntil = some settledUntil → settledUntil ≤ now) :
    let cover := coverAt budget now (onAirIntervalsOf timeline now)
    let metered' := meteredAfter metered now cover.expiresAt
    Metered timeline.onAirAt metered' cover.budget ∧
      cover.budget.settledMs - ((metered'.filter fun t =>
          cover.budget.isSettled t = true ∧ timeline.onAirAt t = true).card : ℤ) =
        budget.settledMs - ((metered.filter fun t =>
          budget.isSettled t = true ∧ timeline.onAirAt t = true).card : ℤ) := by
  intro cover metered'
  obtain ⟨hsettled, huntil⟩ := coverAt_settled budget now (onAirIntervalsOf timeline now)
  have hiff : ∀ t, cover.budget.isSettled t = true ↔ t < now := by
    intro t
    unfold BudgetState.isSettled
    rw [huntil, Option.any_some, decide_eq_true_iff]
  have hbalance : cover.budget.settledMs - ((metered'.filter fun t =>
      cover.budget.isSettled t = true ∧ timeline.onAirAt t = true).card : ℤ) =
        budget.settledMs - ((metered.filter fun t =>
          budget.isSettled t = true ∧ timeline.onAirAt t = true).card : ℤ) := by
    have hcard : ((metered'.filter fun t => t < now ∧ timeline.onAirAt t = true).card : ℤ) = _ :=
      card_charged_cover cover.expiresAt h.reach hclock
    have hsame : metered'.filter (fun t =>
        cover.budget.isSettled t = true ∧ timeline.onAirAt t = true) =
        metered'.filter fun t => t < now ∧ timeline.onAirAt t = true :=
      Finset.filter_congr fun t _ => and_congr_left' (hiff t)
    rw [hsame, hsettled, settledMsAt_eq]
    omega
  refine ⟨⟨?_, ?_, ?_, coverAt_within h.fresh hclock h.within⟩, hbalance⟩
  · intro hnone
    rw [huntil] at hnone
    cases hnone
  · intro t hunsettled
    apply mem_meteredAfter_iff h hclock
    rw [← not_lt, ← hiff, hunsettled]
    decide
  · have hserved := h.served
    omega

end Metered

/-! ## The previews step by step -/

namespace Previews

variable [PreviewRules] {s : Previews} {accountId dateId : Uuid} {now clock : ℤ}

/-- What the meter answers to an opening. -/
def coverOf (s : Previews) (accountId dateId : Uuid) (now : Instant) : Cover :=
  coverAt (s.budgetOf accountId dateId) now (onAirIntervalsOf (s.timelines dateId) now)

/-- An opening writes the account's row, and keeps the token its cover allows. -/
theorem issue_eq (s : Previews) (accountId dateId : Uuid) (now : Instant) :
    s.issue accountId dateId now =
      { timelines := s.timelines
        budgets := s.budgets.write accountId dateId (s.coverOf accountId dateId now).budget
        tokens := (s.coverOf accountId dateId now).expiresAt.elim s.tokens fun previewCover =>
          ⟨accountId, dateId, now, previewCover, tokenExpiresAt now previewCover⟩ :: s.tokens } := by
  unfold issue cover coverOf
  dsimp only
  cases coverAt (s.budgetOf accountId dateId) now (onAirIntervalsOf (s.timelines dateId) now) with
  | mk budget expiresAt =>
      cases expiresAt with
      | none => rfl
      | some expiresAt => rfl

theorem budgetOf_issue (account date : Uuid) :
    (s.issue account date now).budgetOf accountId dateId =
      if account = accountId ∧ date = dateId then (s.coverOf accountId dateId now).budget
      else s.budgetOf accountId dateId := by
  rw [issue_eq]
  unfold budgetOf PreviewBudgets.read PreviewBudgets.write
  split_ifs with hsame
  · obtain ⟨rfl, rfl⟩ := hsame
    have hself := s.budgets.find?_upsert_self
      ⟨account, date, (s.coverOf account date now).budget⟩
    exact congrArg (fun row : Option PreviewBudgetRow =>
      (row.map fun row => row.budget).getD freshBudget) hself
  · have hkey : PreviewBudgetRow.key ⟨account, date, (s.coverOf account date now).budget⟩ ≠
        (accountId, dateId) := fun hkey => hsame (Prod.mk.inj hkey)
    rw [s.budgets.find?_upsert_of_ne hkey]

theorem metered_issue (account date : Uuid) :
    (s.issue account date now).metered accountId dateId =
      if account = accountId ∧ date = dateId then
        meteredAfter (s.metered accountId dateId) now (s.coverOf accountId dateId now).expiresAt
      else s.metered accountId dateId := by
  rw [issue_eq]
  unfold metered tokensOf meteredAfter
  split_ifs with hsame
  · obtain ⟨rfl, rfl⟩ := hsame
    cases (s.coverOf account date now).expiresAt with
    | none => rfl
    | some previewCover => simp
  · cases (s.coverOf account date now).expiresAt with
    | none => rfl
    | some previewCover => simp [hsame]

/-- What is kept of an account's budget on a date, up to an instant. -/
structure Kept (s : Previews) (accountId dateId : Uuid) (clock : ℤ) : Prop where
  metered : Metered (s.timelines dateId).onAirAt (s.metered accountId dateId)
    (s.budgetOf accountId dateId)
  clock : ∀ settledUntil, (s.budgetOf accountId dateId).settledUntil = some settledUntil →
    settledUntil ≤ clock

variable [LawfulPreviewRules]

/-- An opening or a renewal keeps every account's budget, and charges what was on air. -/
theorem Kept.issue (h : s.Kept accountId dateId clock) (hclock : clock ≤ now) (account date : Uuid) :
    (s.issue account date now).Kept accountId dateId now ∧
      (s.issue account date now).overcharge accountId dateId = s.overcharge accountId dateId := by
  have hbefore : ∀ settledUntil, (s.budgetOf accountId dateId).settledUntil = some settledUntil →
      settledUntil ≤ now := fun settledUntil hsettled => (h.clock settledUntil hsettled).trans hclock
  have htimelines : (s.issue account date now).timelines = s.timelines := by rw [issue_eq]
  have hbudget : (s.issue account date now).budgetOf accountId dateId = _ :=
    budgetOf_issue account date
  have hmetered : (s.issue account date now).metered accountId dateId = _ :=
    metered_issue account date
  unfold overcharge charged
  by_cases hsame : account = accountId ∧ date = dateId
  · rw [if_pos hsame] at hbudget hmetered
    obtain ⟨hkept, hbalance⟩ := h.metered.cover hbefore
    rw [htimelines, hbudget, hmetered]
    refine ⟨⟨?_, ?_⟩, hbalance⟩
    · rw [htimelines, hbudget, hmetered]
      exact hkept
    · intro settledUntil hsettled
      have huntil := (coverAt_settled (s.budgetOf accountId dateId) now
        (onAirIntervalsOf (s.timelines dateId) now)).2
      rw [hbudget] at hsettled
      exact (Option.some.inj (hsettled.symm.trans huntil)).le
  · rw [if_neg hsame] at hbudget hmetered
    rw [htimelines, hbudget, hmetered]
    refine ⟨⟨?_, ?_⟩, rfl⟩
    · rw [htimelines, hbudget, hmetered]
      exact h.metered
    · rw [hbudget]
      exact hbefore

omit [PreviewRules] [LawfulPreviewRules] in
/-- Of what was charged an act leaves all on air, unless it records an end earlier than that. -/
theorem charged_act {date : Uuid} (act : RunAct)
    (hclock : ∀ settledUntil, (s.budgetOf accountId date).settledUntil = some settledUntil →
      settledUntil ≤ now) :
    (s.act date act now).charged accountId date ⊆ s.charged accountId date ∧
      ((s.act date act now).charged accountId date = s.charged accountId date ↔
        s.EndsUncharged accountId date now (.run date act)) := by
  have htimeline : (s.act date act now).timelines date = (s.timelines date).act now act :=
    Function.update_self _ _ _
  have hmem : ∀ t, t ∈ (s.act date act now).charged accountId date ↔
      t ∈ s.metered accountId date ∧ (s.budgetOf accountId date).isSettled t = true ∧
        ((s.timelines date).act now act).onAirAt t = true := by
    intro t
    unfold charged
    rw [Finset.mem_filter, htimeline]
    rfl
  have hpast : ∀ t ∈ s.charged accountId date, t < now :=
    fun t ht => lt_of_isSettled hclock (Finset.mem_filter.mp ht).2.1
  have hfewer : (s.act date act now).charged accountId date ⊆ s.charged accountId date := by
    intro t ht
    obtain ⟨hmetered, hsettled, honAir⟩ := (hmem t).mp ht
    exact Finset.mem_filter.mpr ⟨hmetered, hsettled,
      (RunTimeline.onAirAt_act act (lt_of_isSettled hclock hsettled)).1 honAir⟩
  -- An act that spares what was charged leaves it on air.
  have hspared : (∀ t ∈ s.charged accountId date, act.spares t = true) →
      (s.act date act now).charged accountId date = s.charged accountId date := by
    intro hspares
    refine Finset.Subset.antisymm hfewer ?_
    intro t ht
    obtain ⟨hmetered, hsettled, honAir⟩ := Finset.mem_filter.mp ht
    exact (hmem t).mpr ⟨hmetered, hsettled,
      (RunTimeline.onAirAt_act act (hpast t ht)).2 honAir (hspares t ht)⟩
  refine ⟨hfewer, ?_⟩
  cases act with
  | ended endedAt =>
      constructor
      · intro hsame _ hnone hended t ht
        rw [← hsame] at ht
        have honAir := ((hmem t).mp ht).2.2
        simp only [RunTimeline.act, hnone, Option.isNone_none, hended, and_self, if_true,
          RunTimeline.onAirAt, Option.all_some, Bool.and_eq_true, decide_eq_true_eq] at honAir
        exact honAir.1.2
      · intro hends
        by_cases heffect : (s.timelines date).endedAt = none ∧ endedAt ≤ now
        · exact hspared fun t ht => decide_eq_true (hends rfl heffect.1 heffect.2 t ht)
        · have hsame : (s.timelines date).act now (.ended endedAt) = s.timelines date := by
            simp only [RunTimeline.act, Option.isNone_iff_eq_none, if_neg heffect]
          ext t
          rw [hmem, hsame]
          unfold charged
          rw [Finset.mem_filter]
  | wentOnAir => exact iff_of_true (hspared fun _ _ => rfl) trivial
  | raised => exact iff_of_true (hspared fun _ _ => rfl) trivial
  | resolved => exact iff_of_true (hspared fun _ _ => rfl) trivial

omit [LawfulPreviewRules] in
/-- An act on a run keeps every account's budget; only an end recorded late charges for it. -/
theorem Kept.act (h : s.Kept accountId dateId clock) (hclock : clock ≤ now) (date : Uuid)
    (act : RunAct) :
    (s.act date act now).Kept accountId dateId now ∧
      s.overcharge accountId dateId ≤ (s.act date act now).overcharge accountId dateId ∧
      ((s.act date act now).overcharge accountId dateId = s.overcharge accountId dateId ↔
        s.EndsUncharged accountId dateId now (.run date act)) := by
  have hbefore : ∀ settledUntil, (s.budgetOf accountId dateId).settledUntil = some settledUntil →
      settledUntil ≤ now := fun settledUntil hsettled => (h.clock settledUntil hsettled).trans hclock
  have hsettled : ((s.act date act now).budgetOf accountId dateId).settledMs =
      (s.budgetOf accountId dateId).settledMs := rfl
  unfold overcharge
  rw [hsettled]
  by_cases hsame : date = dateId
  · subst hsame
    obtain ⟨hfewer, hiff⟩ := charged_act act hbefore
    have hcard := Finset.card_le_card hfewer
    refine ⟨⟨⟨h.metered.fresh, h.metered.reach, ?_, h.metered.within⟩, hbefore⟩, ?_, ?_⟩
    · have htimeline : (s.act date act now).timelines date = (s.timelines date).act now act :=
        Function.update_self _ _ _
      have hserved := h.metered.served
      unfold charged at hcard
      exact (Nat.cast_le.mpr hcard).trans hserved
    · omega
    · rw [← hiff]
      constructor
      · intro heq
        exact Finset.eq_of_subset_of_card_le hfewer (by omega)
      · intro heq
        rw [heq]
  · have htimeline : (s.act date act now).timelines dateId = s.timelines dateId :=
      Function.update_of_ne (Ne.symm hsame) _ _
    have hcharged : (s.act date act now).charged accountId dateId = s.charged accountId dateId := by
      unfold charged
      rw [htimeline]
      rfl
    rw [hcharged]
    refine ⟨⟨?_, hbefore⟩, le_rfl, iff_of_true rfl ?_⟩
    · rw [htimeline]
      exact h.metered
    · cases act with
      | ended endedAt => exact fun heq => absurd heq hsame
      | _ => trivial

/-- A step keeps every account's budget; only an end recorded late charges for it. -/
theorem Kept.step (h : s.Kept accountId dateId clock) (hclock : clock ≤ now) (step : PreviewStep) :
    (s.step now step).Kept accountId dateId now ∧
      s.overcharge accountId dateId ≤ (s.step now step).overcharge accountId dateId ∧
      ((s.step now step).overcharge accountId dateId = s.overcharge accountId dateId ↔
        s.EndsUncharged accountId dateId now step) := by
  cases step with
  | run date act => exact h.act hclock date act
  | issue account date =>
      obtain ⟨hkept, hcharge⟩ := h.issue hclock account date
      exact ⟨hkept, hcharge.ge, iff_of_true hcharge trivial⟩

/-- Over any steps under one clock a budget is kept; what is charged beyond the time on air grows
exactly when an end is recorded late. -/
theorem Kept.foldl (h : s.Kept accountId dateId clock) (steps : List (Instant × PreviewStep))
    (hclock : (clock :: steps.map Prod.fst).Pairwise (· ≤ ·)) :
    let s' := steps.foldl (fun s step => s.step step.1 step.2) s
    (∃ now, s'.Kept accountId dateId now) ∧
      s.overcharge accountId dateId ≤ s'.overcharge accountId dateId ∧
      (s'.overcharge accountId dateId = s.overcharge accountId dateId ↔
        s.AllUncharged accountId dateId steps) := by
  induction steps generalizing s clock with
  | nil => exact ⟨⟨clock, h⟩, le_rfl, iff_of_true rfl trivial⟩
  | cons step steps ih =>
      obtain ⟨now, step⟩ := step
      obtain ⟨hfirst, hrest⟩ := List.pairwise_cons.mp hclock
      have hnow : clock ≤ now := hfirst now (by simp)
      obtain ⟨hkept, hmore, hiff⟩ := h.step hnow step
      obtain ⟨hlast, hmore', hiff'⟩ := ih hkept hrest
      refine ⟨hlast, hmore.trans hmore', ?_⟩
      rw [AllUncharged, ← hiff, ← hiff', List.foldl_cons]
      dsimp only at hmore' ⊢
      constructor
      · intro heq
        exact ⟨by omega, by omega⟩
      · rintro ⟨hsame, hlater⟩
        omega

/-- A token never outlives what the meter covers. -/
theorem tokens_step (h : ∀ token ∈ s.tokens, token.expiresAt ≤ token.previewCover) (now : Instant)
    (step : PreviewStep) :
    ∀ token ∈ (s.step now step).tokens, token.expiresAt ≤ token.previewCover := by
  cases step with
  | run date act => exact h
  | issue account date =>
      intro token htoken
      simp only [step, issue_eq] at htoken
      cases hcover : (s.coverOf account date now).expiresAt with
      | none =>
          rw [hcover] at htoken
          exact h token htoken
      | some previewCover =>
          rw [hcover, Option.elim_some] at htoken
          rcases List.mem_cons.mp htoken with rfl | hearlier
          · simp only [tokenExpiresAt, LawfulPreviewRules.earliest_eq]
            exact min_le_right _ _
          · exact h token hearlier

theorem tokens_run (steps : List (Instant × PreviewStep)) :
    ∀ token ∈ (run steps).tokens, token.expiresAt ≤ token.previewCover := by
  induction steps using List.reverseRecOn with
  | nil => simp [opened]
  | append_singleton steps step ih =>
      rw [run_concat]
      exact tokens_step ih step.1 step.2

omit [PreviewRules] [LawfulPreviewRules] in
theorem shown_subset (h : ∀ token ∈ s.tokens, token.expiresAt ≤ token.previewCover) :
    s.shown accountId dateId ⊆ s.metered accountId dateId := by
  intro t ht
  obtain ⟨window, hwindow, hstart, hend⟩ := mem_covered.mp ht
  obtain ⟨token, htoken, rfl⟩ := List.mem_map.mp hwindow
  have hlast := h token (List.mem_filter.mp htoken).1
  exact mem_covered.mpr
    ⟨_, List.mem_map.mpr ⟨token, htoken, rfl⟩, hstart, hend.trans_le hlast⟩

theorem kept_opened (accountId dateId : Uuid) (clock : ℤ) :
    opened.Kept accountId dateId clock ∧ opened.overcharge accountId dateId = 0 := by
  have hnothing := LawfulPreviewRules.previewBudget_nonneg
  refine ⟨⟨⟨fun _ => rfl, ?_, ?_, ?_⟩, ?_⟩, rfl⟩
  · intro t _
    rfl
  · exact le_rfl
  · unfold previewBudgetMs
    change (0 : ℤ) + 0 ≤ _
    omega
  · intro settledUntil hsettled
    cases hsettled

/-- Nothing is issued once the budget is used up. -/
theorem issue_of_used_up (hused : previewBudgetMs ≤ settledMsAt (s.budgetOf accountId dateId) now
      (onAirIntervalsOf (s.timelines dateId) now)) :
    (s.issue accountId dateId now).tokens = s.tokens := by
  rw [issue_eq]
  rcases coverAt_cases (s.budgetOf accountId dateId) now
    (onAirIntervalsOf (s.timelines dateId) now) with ⟨hnone, -⟩ | ⟨_, -, hleft, -⟩
  · unfold coverOf
    rw [hnone]
    rfl
  · exact absurd hused (not_le.mpr hleft)

end Previews

section Samples

open Sample

/-- A preview under a veil of a minute. -/
def veiledPreview : List (Instant × PreviewStep) :=
  [(0, .run 1 .wentOnAir), (0, .issue 7 1), (30000, .run 1 .raised), (45000, .issue 7 1),
    (90000, .run 1 .resolved), (100000, .issue 7 1)]

/-- The feed is lost while a preview is watched; the run ends by itself a quarter of an hour later,
its end the loss. -/
def previewOfLostFeed : List (Instant × PreviewStep) :=
  [(0, .run 1 .wentOnAir), (0, .issue 7 1), (110000, .issue 7 1), (115000, .run 1 .raised),
    (1000000, .run 1 .resolved), (1000000, .run 1 (.ended 100000))]

end Samples

end Arthome.Streaming
