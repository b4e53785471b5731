import Arthome.Streaming.PreviewBudget

/-!
# Covers of one stored budget

The openings and the renewals of one account on one date settle one row, one after the
other under its lock, each at the instant its request read. As long as none reads an
instant the row is settled past, every on-air instant the tokens served is settled once.
-/

namespace Arthome.Streaming

open Arthome.Core Library

section Covers

variable [PreviewRules]

/-- The stored budget after covers made one after the other. -/
def budgetAfter (timeline : RunTimeline) (nows : List Instant) : BudgetState :=
  nows.foldl (fun budget now => (coverAt budget now (onAirIntervalsOf timeline now)).budget)
    freshBudget

/-- What the tokens of covers made one after the other reach over. -/
def issuedBy (timeline : RunTimeline) : BudgetState → List Instant → List Window
  | _, [] => []
  | budget, now :: nows =>
    let cover := coverAt budget now (onAirIntervalsOf timeline now)
    (cover.expiresAt.elim [] fun expiresAt => [windowOf now expiresAt]) ++
      issuedBy timeline cover.budget nows

/-- The instants the tokens of these covers reach over. -/
noncomputable def servable (timeline : RunTimeline) (nows : List Instant) : Finset ℤ :=
  covered (issuedBy timeline freshBudget nows)

/-- The time on air between two instants. -/
noncomputable def onAirBetween (timeline : RunTimeline) (first last : Instant) : Finset ℤ :=
  (Finset.Ico first last).filter fun t => timeline.onAirAt t = true

theorem budgetAfter_concat (timeline : RunTimeline) (nows : List Instant) (now : Instant) :
    budgetAfter timeline (nows ++ [now]) =
      (coverAt (budgetAfter timeline nows) now (onAirIntervalsOf timeline now)).budget := by
  unfold budgetAfter
  rw [List.foldl_concat]

theorem issuedBy_concat (timeline : RunTimeline) (budget : BudgetState) (nows : List Instant)
    (now : Instant) :
    issuedBy timeline budget (nows ++ [now]) =
      issuedBy timeline budget nows ++
        ((coverAt (nows.foldl (fun budget now =>
            (coverAt budget now (onAirIntervalsOf timeline now)).budget) budget) now
          (onAirIntervalsOf timeline now)).expiresAt.elim [] fun expiresAt =>
            [windowOf now expiresAt]) := by
  induction nows generalizing budget with
  | nil => simp [issuedBy]
  | cons earlier nows ih =>
      simp only [List.cons_append, issuedBy, List.foldl_cons]
      rw [ih, List.append_assoc]

theorem servable_concat (timeline : RunTimeline) (nows : List Instant) (now : Instant) :
    servable timeline (nows ++ [now]) =
      meteredAfter (servable timeline nows) now
        (coverAt (budgetAfter timeline nows) now (onAirIntervalsOf timeline now)).expiresAt := by
  unfold servable meteredAfter
  rw [issuedBy_concat, covered_append, Finset.union_comm]
  show covered (Option.elim (coverAt (budgetAfter timeline nows) now _).expiresAt _ _) ∪ _ = _
  cases (coverAt (budgetAfter timeline nows) now (onAirIntervalsOf timeline now)).expiresAt with
  | none => simp
  | some expiresAt => simp

/-- The row is settled up to the last cover. -/
theorem budgetAfter_settledUntil (timeline : RunTimeline) (nows : List Instant) :
    (budgetAfter timeline nows).settledUntil = nows.getLast? := by
  induction nows using List.reverseRecOn with
  | nil => rfl
  | append_singleton nows now ih =>
      rw [budgetAfter_concat, (coverAt_settled _ _ _).2, List.getLast?_concat]

variable [LawfulPreviewRules]

theorem metered_nothing (timeline : RunTimeline) : Metered timeline.onAirAt ∅ freshBudget := by
  refine ⟨fun _ => rfl, fun t _ => ?_, ?_, ?_⟩
  · simp [freshBudget, BudgetState.ahead]
  · rw [Finset.filter_empty]
    exact le_rfl
  · have hbudget := LawfulPreviewRules.previewBudget_nonneg
    simp only [freshBudget, BudgetState.ahead, Finset.card_empty, previewBudgetMs]
    omega

/-- Covers in order keep the row's account of the run, and it charges what was served on air. -/
theorem metered_budgetAfter (timeline : RunTimeline) {nows : List Instant}
    (hordered : nows.Pairwise fun earlier later => earlier ≤ later) :
    Metered timeline.onAirAt (servable timeline nows) (budgetAfter timeline nows) ∧
      (budgetAfter timeline nows).settledMs = (((servable timeline nows).filter fun t =>
        (budgetAfter timeline nows).isSettled t = true ∧ timeline.onAirAt t = true).card : ℤ) := by
  induction nows using List.reverseRecOn with
  | nil =>
      refine ⟨metered_nothing timeline, ?_⟩
      show (0 : ℤ) = (((∅ : Finset ℤ).filter _).card : ℤ)
      rw [Finset.filter_empty]
      rfl
  | append_singleton nows now ih =>
      obtain ⟨hbefore, -, hlast⟩ := List.pairwise_append.mp hordered
      obtain ⟨hmetered, hcharged⟩ := ih hbefore
      have hclock : ∀ settledUntil, (budgetAfter timeline nows).settledUntil = some settledUntil →
          settledUntil ≤ now := by
        intro settledUntil hsettled
        rw [budgetAfter_settledUntil] at hsettled
        exact hlast settledUntil (List.mem_of_getLast? hsettled) now (by simp)
      obtain ⟨hkept, hbalance⟩ := hmetered.cover hclock
      rw [budgetAfter_concat, servable_concat]
      refine ⟨hkept, ?_⟩
      omega

omit [LawfulPreviewRules] in
/-- A token reaches nothing before the cover that issued it. -/
theorem le_of_mem_issuedBy {timeline : RunTimeline} {budget : BudgetState} {nows : List Instant}
    {t : ℤ} (h : t ∈ covered (issuedBy timeline budget nows)) : ∃ now ∈ nows, now ≤ t := by
  induction nows generalizing budget with
  | nil => simp [issuedBy] at h
  | cons now nows ih =>
      simp only [issuedBy] at h
      rw [covered_append, Finset.mem_union] at h
      rcases h with h | h
      · refine ⟨now, by simp, ?_⟩
        cases hissued : (coverAt budget now (onAirIntervalsOf timeline now)).expiresAt with
        | none =>
            rw [hissued] at h
            cases h
        | some expiresAt =>
            rw [hissued] at h
            obtain ⟨window, hwindow, hstart, -⟩ := mem_covered.mp h
            rw [List.mem_singleton.mp hwindow] at hstart
            exact hstart
      · obtain ⟨later, hlater, hle⟩ := ih h
        exact ⟨later, List.mem_cons_of_mem _ hlater, hle⟩

/-- Whatever the covers, each at an instant no earlier than the row is settled up to, what is
settled is the time on air from the first cover to the last that a token reached, counted once. -/
theorem covers_settle_once (timeline : RunTimeline) {nows : List Instant} {first now : Instant}
    (hfirst : (nows ++ [now]).head? = some first)
    (hordered : (nows ++ [now]).Pairwise fun earlier later => earlier ≤ later) :
    (budgetAfter timeline (nows ++ [now])).settledMs =
        (((onAirBetween timeline first now).filter fun t =>
          t ∈ servable timeline (nows ++ [now])).card : ℤ) ∧
      (budgetAfter timeline (nows ++ [now])).settledUntil = some now ∧
      ∀ settledUntil, (budgetAfter timeline nows).settledUntil = some settledUntil →
        settledUntil ≤ now := by
  have huntil : (budgetAfter timeline (nows ++ [now])).settledUntil = some now := by
    rw [budgetAfter_settledUntil, List.getLast?_concat]
  refine ⟨?_, huntil, ?_⟩
  · rw [(metered_budgetAfter timeline hordered).2]
    congr 2
    ext t
    unfold onAirBetween BudgetState.isSettled
    rw [huntil]
    simp only [Finset.mem_filter, Finset.mem_Ico, Option.any_some, decide_eq_true_eq]
    constructor
    · rintro ⟨hserved, hpast, honAir⟩
      obtain ⟨asked, hasked, hle⟩ := le_of_mem_issuedBy hserved
      have hbegun : first ≤ asked := by
        obtain ⟨rest, hrest⟩ := List.head?_eq_some_iff.mp hfirst
        rw [hrest] at hasked hordered
        rcases List.mem_cons.mp hasked with rfl | hlater
        · exact le_rfl
        · exact (List.pairwise_cons.mp hordered).1 asked hlater
      exact ⟨⟨⟨hbegun.trans hle, hpast⟩, honAir⟩, hserved⟩
    · rintro ⟨⟨⟨-, hpast⟩, honAir⟩, hserved⟩
      exact ⟨hserved, hpast, honAir⟩
  · intro settledUntil hsettled
    rw [budgetAfter_settledUntil] at hsettled
    exact (List.pairwise_append.mp hordered).2.2 settledUntil (List.mem_of_getLast? hsettled) now
      (by simp)

end Covers

section Sample

open Sample

/-- A run on air from its start, never veiled. -/
def plainRun : RunTimeline := ⟨some 0, none, []⟩

theorem onAirIntervalsOf_plainRun (now : Instant) :
    onAirIntervalsOf plainRun now = if 0 < now then [windowOf 0 now] else [] := by
  unfold onAirIntervalsOf plainRun
  simp only [List.mergeSort_nil, List.foldl_nil, Option.getD_none, LawfulRunRules.isAfter_iff,
    List.nil_append]

/-- Two renewals, the last one after its token lapsed. -/
theorem covers_settle_once_sample :
    (budgetAfter plainRun [0, 60000, 400000]).settledMs =
      (((onAirBetween plainRun 0 400000).filter fun t =>
        t ∈ servable plainRun [0, 60000, 400000]).card : ℤ) :=
  (covers_settle_once plainRun
    (rfl : (([0, 60000] : List Instant) ++ [400000]).head? = some (0 : Instant)) (by decide)).1

/-- The time between a lapsed token and the next cover is on air and not settled; and a cover at an
instant read before the one settled last takes the row back, so that the next one settles the
time between them again. -/
theorem covers_leave_gaps :
    (budgetAfter plainRun [0, 400000]).settledMs ≠ ((onAirBetween plainRun 0 400000).card : ℤ) ∧
      (budgetAfter plainRun [0, 60000, 50000, 60000]).settledMs ≠
        ((onAirBetween plainRun 0 60000).card : ℤ) := by
  have honAir : ∀ last : ℤ, ((onAirBetween plainRun 0 last).card : ℤ) = max 0 last := by
    intro last
    have hall : onAirBetween plainRun 0 last = Finset.Ico 0 last := by
      apply Finset.filter_true_of_mem
      intro t ht
      simp [RunTimeline.onAirAt, plainRun, (Finset.mem_Ico.mp ht).1]
    rw [hall, Int.card_Ico]
    omega
  rw [honAir, honAir]
  simp only [budgetAfter, List.foldl_cons, List.foldl_nil, onAirIntervalsOf_plainRun]
  decide +kernel

end Sample

end Arthome.Streaming
