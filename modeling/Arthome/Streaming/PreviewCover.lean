import Arthome.Core.PreviewRules
import Arthome.Library.Table

/-!
# The cover of a preview

One budget is kept for an account on a date. A cover settles the time the edge
could serve since the last one against the spans the run was on air, then issues
a token that reaches no further than what is left; what it reaches is covered
until it is settled in its turn. The spans are read from the run's clock: its
start, its end, and the veils of its incidents.
-/

namespace Arthome.Streaming

open Arthome.Core Library

structure Veil where
  raisedAt : Instant
  resolvedAt : Option Instant
  deriving Repr, DecidableEq

/-- A run's clock: when it went on air, when it ended, and the incident veils raised on it. -/
structure RunTimeline where
  startedAt : Option Instant
  endedAt : Option Instant
  veils : List Veil
  deriving Repr, DecidableEq

/-- One account's budget on one date: what is settled, and how far the edge may serve. -/
structure BudgetState where
  settledMs : ℤ
  coveredUntil : Option Instant
  settledUntil : Option Instant
  deriving Repr, DecidableEq

def freshBudget : BudgetState := ⟨0, none, none⟩

structure Cover where
  budget : BudgetState
  /-- How far the token just issued reaches; absent when nothing is left to cover. -/
  expiresAt : Option Instant
  deriving Repr, DecidableEq

/-- A started second counts whole. -/
def secondsStarted (ms : ℤ) : ℤ := (ms + 999) / 1000

section Functions

variable [PreviewRules]

open PreviewRules

/-- What one veil leaves of the spans: `cursor` is where the next one may start. -/
def cutVeil (startedAt runEnd : Instant) (cut : Instant × List Window) (veil : Veil) :
    Instant × List Window :=
  let (cursor, intervals) := cut
  let veilStart := latest veil.raisedAt startedAt
  let veilEnd := earliest (veil.resolvedAt.getD runEnd) runEnd
  if !RunRules.isAfter veilEnd veilStart then (cursor, intervals)
  else
    (latest cursor veilEnd,
      if RunRules.isAfter veilStart cursor then intervals ++ [windowOf cursor veilStart]
      else intervals)

/-- The spans of a run where the preview budget is spent: from its start to its end, or now, less
the veils, which end when they are resolved, or now. -/
def onAirIntervalsOf (timeline : RunTimeline) (now : Instant) : List Window :=
  match timeline.startedAt with
  | none => []
  | some startedAt =>
    let runEnd := timeline.endedAt.getD now
    let ordered := timeline.veils.mergeSort fun left right => left.raisedAt ≤ right.raisedAt
    let (cursor, intervals) := ordered.foldl (cutVeil startedAt runEnd) (startedAt, [])
    if RunRules.isAfter runEnd cursor then intervals ++ [windowOf cursor runEnd] else intervals

/-- The part of the past the edge could serve and nobody has been charged for yet. -/
def unsettledWindow (budget : BudgetState) (now : Instant) : Option Window :=
  match budget.settledUntil, budget.coveredUntil with
  | some settledUntil, some coveredUntil =>
    let «end» := earliest now coveredUntil
    if isBefore settledUntil «end» then some (windowOf settledUntil «end») else none
  | _, _ => none

def settledMsAt (budget : BudgetState) (now : Instant) (onAir : List Window) : ℤ :=
  budget.settledMs + (unsettledWindow budget now).elim 0 fun window => previewMsSpent window onAir

/-- A token never reaches past the milliseconds left. -/
def secondsLeftOf (settledMs : ℤ) : ℤ := previewSecondsLeft (secondsStarted settledMs)

/-- What a cover would leave before issuing, read without writing. -/
def secondsLeftAt (budget : BudgetState) (now : Instant) (onAir : List Window) : ℤ :=
  secondsLeftOf (settledMsAt budget now onAir)

/-- Settles the past against the on-air spans, then covers a new token. -/
def coverAt (budget : BudgetState) (now : Instant) (onAir : List Window) : Cover :=
  let settledMs := settledMsAt budget now onAir
  let left := secondsLeftOf settledMs
  if left ≤ 0 then ⟨⟨settledMs, budget.coveredUntil, some now⟩, none⟩
  else
    let expiresAt := previewTokenExpiresAt now left
    let coveredUntil :=
      match budget.coveredUntil with
      | some covered => if RunRules.isAfter covered expiresAt then covered else expiresAt
      | none => expiresAt
    ⟨⟨settledMs, some (latest coveredUntil now), some now⟩, some expiresAt⟩

/-- A preview's token never outlives a token's life, nor what the meter covers. -/
def tokenExpiresAt (now previewCover : Instant) : Instant :=
  earliest (playbackTokenExpiresAt now) previewCover

end Functions

/-! ## The spans on air -/

/-- Whether an instant is under a veil. -/
def Veil.covers (veil : Veil) (t : Instant) : Bool :=
  decide (veil.raisedAt ≤ t) && veil.resolvedAt.all fun resolvedAt => decide (t < resolvedAt)

/-- Whether an instant is on air: begun, not ended, and under no veil. -/
def RunTimeline.onAirAt (timeline : RunTimeline) (t : Instant) : Bool :=
  timeline.startedAt.any (fun startedAt => decide (startedAt ≤ t)) &&
    timeline.endedAt.all (fun endedAt => decide (t < endedAt)) &&
    timeline.veils.all fun veil => !veil.covers t

/-- Whether an instant is on air by now: begun, before the end or now, and under no veil. -/
def RunTimeline.onAirBy (timeline : RunTimeline) (now t : Instant) : Bool :=
  timeline.startedAt.any (fun startedAt => decide (startedAt ≤ t)) &&
    decide (t < timeline.endedAt.getD now) && timeline.veils.all fun veil => !veil.covers t

theorem RunTimeline.onAirBy_iff (timeline : RunTimeline) {now t : ℤ} :
    timeline.onAirBy now t = true ↔
      (∃ startedAt, timeline.startedAt = some startedAt ∧ startedAt ≤ t) ∧
        t < timeline.endedAt.getD now ∧
        ∀ veil ∈ timeline.veils, ¬ (veil.raisedAt ≤ t ∧
          ∀ resolvedAt, veil.resolvedAt = some resolvedAt → t < resolvedAt) := by
  simp only [RunTimeline.onAirBy, Veil.covers, Bool.and_eq_true, Option.any_eq_true,
    decide_eq_true_eq, List.all_eq_true, Bool.not_eq_true', Bool.eq_false_iff, ne_eq,
    Option.all_eq_true, and_assoc, not_and_or]

/-- Where a veil starts and ends on a run. -/
def Veil.startOn (veil : Veil) (startedAt : ℤ) : ℤ := max veil.raisedAt startedAt

def Veil.endOn (veil : Veil) (runEnd : ℤ) : ℤ :=
  min (veil.resolvedAt.getD runEnd) runEnd

section Spans

variable [PreviewRules] {startedAt runEnd : ℤ}

/-- What the spans are once some veils, in order, are cut out of the run up to the cursor. -/
structure CutOut (startedAt runEnd : ℤ) (veils : List Veil) (cursor : ℤ)
    (intervals : List Window) : Prop where
  apart : Apart intervals
  before : ∀ window ∈ intervals, window.endsAt ≤ cursor
  within : ∀ window ∈ intervals, window.endsAt ≤ runEnd
  ends : ∀ window ∈ intervals, ∃ veil ∈ veils, window.endsAt ≤ veil.startOn startedAt
  begun : startedAt ≤ cursor
  behind : ∀ veil ∈ veils, veil.startOn startedAt < veil.endOn runEnd → veil.endOn runEnd ≤ cursor
  mem : ∀ t, t ∈ covered intervals ↔ startedAt ≤ t ∧ t < cursor ∧
    ∀ veil ∈ veils, ¬ (veil.startOn startedAt ≤ t ∧ t < veil.endOn runEnd)

omit [PreviewRules] in
theorem apart_concat {intervals : List Window} {window : Window} (h : Apart intervals)
    (hbefore : ∀ earlier ∈ intervals, earlier.endsAt ≤ window.startsAt) :
    Apart (intervals ++ [window]) := by
  unfold Apart
  rw [List.pairwise_append]
  refine ⟨h, List.pairwise_singleton _ _, ?_⟩
  intro earlier hearlier last hlast
  rw [List.mem_singleton.mp hlast]
  exact hbefore earlier hearlier

variable [LawfulPreviewRules]

theorem cutVeil_eq (cursor : ℤ) (intervals : List Window) (veil : Veil) :
    cutVeil startedAt runEnd (cursor, intervals) veil =
      if veil.endOn runEnd ≤ veil.startOn startedAt then (cursor, intervals)
      else (max cursor (veil.endOn runEnd),
        if cursor < veil.startOn startedAt then
          intervals ++ [windowOf cursor (veil.startOn startedAt)]
        else intervals) := by
  simp only [cutVeil, LawfulPreviewRules.earliest_eq, LawfulPreviewRules.latest_eq,
    Bool.not_eq_true', Bool.eq_false_iff, ne_eq, LawfulRunRules.isAfter_iff, not_lt]
  rfl

/-- One more veil is cut out, none of those before it starting later. -/
theorem CutOut.cut {veils : List Veil} {cut : ℤ × List Window} {veil : Veil}
    (h : CutOut startedAt runEnd veils cut.1 cut.2)
    (hordered : ∀ earlier ∈ veils, earlier.raisedAt ≤ veil.raisedAt) :
    CutOut startedAt runEnd (veils ++ [veil]) (cutVeil startedAt runEnd cut veil).1
      (cutVeil startedAt runEnd cut veil).2 := by
  obtain ⟨cursor, intervals⟩ := cut
  have hstarts : ∀ earlier ∈ veils, earlier.startOn startedAt ≤ veil.startOn startedAt :=
    fun earlier hearlier => max_le_max_right _ (hordered earlier hearlier)
  have hends : ∀ window ∈ intervals, ∃ earlier ∈ veils ++ [veil],
      window.endsAt ≤ earlier.startOn startedAt := by
    intro window hwindow
    obtain ⟨earlier, hearlier, hle⟩ := h.ends window hwindow
    exact ⟨earlier, List.mem_append_left _ hearlier, hle⟩
  have hbehind : ∀ cut ∈ veils ++ [veil], cut.startOn startedAt < cut.endOn runEnd →
      cut.endOn runEnd ≤ max cursor (veil.endOn runEnd) := by
    intro cut hcut hlasts
    rcases List.mem_append.mp hcut with hearlier | hlast
    · exact (h.behind cut hearlier hlasts).trans (le_max_left _ _)
    · rw [List.mem_singleton.mp hlast]
      exact le_max_right _ _
  -- Past the cursor no veil cut out is still up.
  have hpast : ∀ t, cursor ≤ t → ∀ earlier ∈ veils,
      ¬ (earlier.startOn startedAt ≤ t ∧ t < earlier.endOn runEnd) := by
    rintro t hcursor earlier hearlier ⟨hstart, hend⟩
    have hlasts := h.behind earlier hearlier (hstart.trans_lt hend)
    dsimp only at hlasts
    omega
  rw [cutVeil_eq]
  split_ifs with hnothing hgap
  · refine ⟨h.apart, h.before, h.within, hends, h.begun, ?_, ?_⟩
    · intro cut hcut hlasts
      rcases List.mem_append.mp hcut with hearlier | hlast
      · exact h.behind cut hearlier hlasts
      · rw [List.mem_singleton.mp hlast] at hlasts
        exact absurd hnothing (not_le.mpr hlasts)
    · intro t
      have hmem := h.mem t
      dsimp only at hmem ⊢
      rw [hmem, List.forall_mem_append, List.forall_mem_singleton]
      have hveil : ¬ (veil.startOn startedAt ≤ t ∧ t < veil.endOn runEnd) := by omega
      simp [hveil]
  · refine ⟨apart_concat h.apart h.before, ?_, ?_, ?_, ?_, ?_, ?_⟩
    · dsimp only
      intro window hwindow
      rcases List.mem_append.mp hwindow with hearlier | hlast
      · exact (h.before window hearlier).trans (le_max_left _ _)
      · rw [List.mem_singleton.mp hlast]
        simp only [windowOf]
        omega
    · intro window hwindow
      rcases List.mem_append.mp hwindow with hearlier | hlast
      · exact h.within window hearlier
      · rw [List.mem_singleton.mp hlast]
        exact (not_le.mp hnothing).le.trans (min_le_right _ _)
    · intro window hwindow
      rcases List.mem_append.mp hwindow with hearlier | hlast
      · exact hends window hearlier
      · rw [List.mem_singleton.mp hlast]
        exact ⟨veil, by simp, le_rfl⟩
    · exact h.begun.trans (le_max_left _ _)
    · exact hbehind
    · intro t
      have hmem := h.mem t
      dsimp only at hmem ⊢
      rw [covered_append, Finset.mem_union, hmem, List.forall_mem_append,
        List.forall_mem_singleton, covered_cons, covered_nil, Finset.union_empty, Span.mem_units]
      have hbegun := h.begun
      dsimp only [windowOf] at hbegun ⊢
      constructor
      · rintro (⟨hstarted, hcursor, hclear⟩ | ⟨hcursor, hbefore⟩)
        · exact ⟨hstarted, by omega, hclear, by omega⟩
        · exact ⟨by omega, by omega, hpast t hcursor, by omega⟩
      · rintro ⟨hstarted, hbefore, hclear, hunveiled⟩
        by_cases hcursor : t < cursor
        · exact .inl ⟨hstarted, hcursor, hclear⟩
        · exact .inr ⟨by omega, by omega⟩
  · refine ⟨h.apart, ?_, h.within, hends, h.begun.trans (le_max_left _ _), ?_, ?_⟩
    · intro window hwindow
      exact (h.before window hwindow).trans (le_max_left _ _)
    · exact hbehind
    · intro t
      have hmem := h.mem t
      dsimp only at hmem ⊢
      rw [List.forall_mem_append, List.forall_mem_singleton]
      constructor
      · intro ht
        obtain ⟨hstarted, hcursor, hclear⟩ := hmem.mp ht
        obtain ⟨window, hwindow, -, hlast⟩ := mem_covered.mp ht
        obtain ⟨earlier, hearlier, hle⟩ := h.ends window hwindow
        have hstart := hstarts earlier hearlier
        exact ⟨hstarted, by omega, hclear, by omega⟩
      · rintro ⟨hstarted, hbefore, hclear, hunveiled⟩
        exact hmem.mpr ⟨hstarted, by omega, hclear⟩

theorem cutOut_foldl {veils : List Veil}
    (hordered : veils.Pairwise fun left right => left.raisedAt ≤ right.raisedAt) :
    CutOut startedAt runEnd veils (veils.foldl (cutVeil startedAt runEnd) (startedAt, [])).1
      (veils.foldl (cutVeil startedAt runEnd) (startedAt, [])).2 := by
  induction veils using List.reverseRecOn with
  | nil =>
      refine ⟨List.Pairwise.nil, by simp, by simp, by simp, le_rfl, by simp, ?_⟩
      intro t
      simp only [List.foldl_nil, covered_nil, Finset.notMem_empty, false_iff]
      omega
  | append_singleton veils veil ih =>
      obtain ⟨hbefore, -, hlast⟩ := List.pairwise_append.mp hordered
      rw [List.foldl_concat]
      exact (ih hbefore).cut fun earlier hearlier => hlast earlier hearlier veil (by simp)

omit [PreviewRules] [LawfulPreviewRules] in
theorem Veil.covers_iff {veil : Veil} {t : ℤ} (hstarted : startedAt ≤ t) (hend : t < runEnd) :
    veil.covers t = true ↔ veil.startOn startedAt ≤ t ∧ t < veil.endOn runEnd := by
  unfold Veil.covers Veil.startOn Veil.endOn
  cases hresolved : veil.resolvedAt with
  | none => simp [hstarted, hend]
  | some resolvedAt => simp [hstarted, hend]

omit [PreviewRules] [LawfulPreviewRules] in
theorem pairwise_mergeSort_veils (veils : List Veil) :
    (veils.mergeSort fun left right => left.raisedAt ≤ right.raisedAt).Pairwise
      fun left right => left.raisedAt ≤ right.raisedAt := by
  have hsorted : (veils.mergeSort fun left right => left.raisedAt ≤ right.raisedAt).Pairwise
      fun left right => decide (left.raisedAt ≤ right.raisedAt) = true := by
    apply List.pairwise_mergeSort
    · intro a b c hab hbc
      simp only [decide_eq_true_eq] at hab hbc ⊢
      exact le_trans hab hbc
    · intro a b
      simp only [Bool.or_eq_true, decide_eq_true_eq]
      exact le_total _ _
  simpa using hsorted

/-- The cuts made, the run's last stretch on air closes the spans. -/
theorem CutOut.close {veils : List Veil} {cursor : ℤ} {intervals : List Window}
    (h : CutOut startedAt runEnd veils cursor intervals) :
    let spans := if RunRules.isAfter runEnd cursor then intervals ++ [windowOf cursor runEnd]
      else intervals
    Apart spans ∧ ∀ t, t ∈ covered spans ↔ startedAt ≤ t ∧ t < runEnd ∧
      ∀ veil ∈ veils, ¬ (veil.startOn startedAt ≤ t ∧ t < veil.endOn runEnd) := by
  have hbegun := h.begun
  have hwithin : ∀ t ∈ covered intervals, t < runEnd := by
    intro t ht
    obtain ⟨window, hwindow, -, hend⟩ := mem_covered.mp ht
    exact hend.trans_le (h.within window hwindow)
  simp only [LawfulRunRules.isAfter_iff]
  split_ifs with hlast
  · refine ⟨apart_concat h.apart h.before, ?_⟩
    intro t
    rw [covered_append, Finset.mem_union, covered_cons, covered_nil, Finset.union_empty,
      Span.mem_units]
    dsimp only [windowOf]
    constructor
    · rintro (hbefore | ⟨hcursor, hend⟩)
      · obtain ⟨hstarted, -, hclear⟩ := (h.mem t).mp hbefore
        exact ⟨hstarted, hwithin t hbefore, hclear⟩
      · refine ⟨hbegun.trans hcursor, hend, ?_⟩
        rintro veil hveil ⟨hstart, hup⟩
        have hlasts := h.behind veil hveil (hstart.trans_lt hup)
        omega
    · rintro ⟨hstarted, hend, hclear⟩
      by_cases hcursor : t < cursor
      · exact .inl ((h.mem t).mpr ⟨hstarted, hcursor, hclear⟩)
      · exact .inr ⟨not_lt.mp hcursor, hend⟩
  · refine ⟨h.apart, ?_⟩
    intro t
    constructor
    · intro ht
      obtain ⟨hstarted, -, hclear⟩ := (h.mem t).mp ht
      exact ⟨hstarted, hwithin t ht, hclear⟩
    · rintro ⟨hstarted, hend, hclear⟩
      exact (h.mem t).mpr ⟨hstarted, hend.trans_le (not_lt.mp hlast), hclear⟩

/-- A cut leaves no empty span. -/
theorem cutVeil_lasts {cut : ℤ × List Window} {veil : Veil}
    (h : ∀ window ∈ cut.2, window.startsAt < window.endsAt) :
    ∀ window ∈ (cutVeil startedAt runEnd cut veil).2, window.startsAt < window.endsAt := by
  obtain ⟨cursor, intervals⟩ := cut
  rw [cutVeil_eq]
  split_ifs with hnothing hgap
  · exact h
  · dsimp only
    rw [List.forall_mem_append, List.forall_mem_singleton]
    exact ⟨h, hgap⟩
  · exact h

theorem foldl_cutVeil_lasts (veils : List Veil) :
    ∀ window ∈ (veils.foldl (cutVeil startedAt runEnd) (startedAt, [])).2,
      window.startsAt < window.endsAt := by
  induction veils using List.reverseRecOn with
  | nil => simp
  | append_singleton veils veil ih =>
      rw [List.foldl_concat]
      exact cutVeil_lasts ih

/-- Every span of a run lasts. -/
theorem onAirIntervalsOf_lasts (timeline : RunTimeline) (now : Instant) :
    ∀ window ∈ onAirIntervalsOf timeline now, window.startsAt < window.endsAt := by
  unfold onAirIntervalsOf
  cases timeline.startedAt with
  | none => simp
  | some startedAt =>
      have hlasts := @foldl_cutVeil_lasts _ startedAt (timeline.endedAt.getD now) _
        (timeline.veils.mergeSort fun left right => left.raisedAt ≤ right.raisedAt)
      simp only [LawfulRunRules.isAfter_iff]
      split_ifs with hlast
      · rw [List.forall_mem_append, List.forall_mem_singleton]
        exact ⟨hlasts, hlast⟩
      · exact hlasts

/-- The spans of a run are in order, do not meet, and hold its instants under no veil. -/
theorem onAirIntervalsOf_apart (timeline : RunTimeline) (now : Instant) :
    Apart (onAirIntervalsOf timeline now) ∧
      ∀ t, t ∈ covered (onAirIntervalsOf timeline now) ↔ timeline.onAirBy now t = true := by
  unfold onAirIntervalsOf RunTimeline.onAirBy
  cases timeline.startedAt with
  | none => exact ⟨List.Pairwise.nil, by simp⟩
  | some startedAt =>
      have hcut : CutOut startedAt (timeline.endedAt.getD now) _ _ _ :=
        cutOut_foldl (pairwise_mergeSort_veils timeline.veils)
      obtain ⟨hapart, hmem⟩ := hcut.close
      refine ⟨hapart, ?_⟩
      intro t
      simp only [hmem t, List.mem_mergeSort, Bool.and_eq_true, Option.any_some, decide_eq_true_eq,
        List.all_eq_true, Bool.not_eq_true', and_assoc]
      constructor
      · rintro ⟨hstarted, hbefore, hclear⟩
        refine ⟨hstarted, hbefore, fun veil hveil => Bool.eq_false_iff.mpr fun hcovers => ?_⟩
        exact hclear veil hveil ((veil.covers_iff hstarted hbefore).mp hcovers)
      · rintro ⟨hstarted, hbefore, hclear⟩
        refine ⟨hstarted, hbefore, fun veil hveil hup => ?_⟩
        exact Bool.eq_false_iff.mp (hclear veil hveil) ((veil.covers_iff hstarted hbefore).mpr hup)

omit [PreviewRules] [LawfulPreviewRules] in
/-- The past instants of a run are on air or not whenever they are asked for. -/
theorem onAirBy_of_lt (timeline : RunTimeline) {now t : ℤ} (ht : t < now) :
    timeline.onAirBy now t = timeline.onAirAt t := by
  unfold RunTimeline.onAirBy RunTimeline.onAirAt
  cases timeline.endedAt with
  | none => simp [ht]
  | some endedAt => rfl

theorem onAirIntervalsOf_spec (timeline : RunTimeline) (now : Instant) :
    Apart (onAirIntervalsOf timeline now) ∧
      ∀ t < now, t ∈ covered (onAirIntervalsOf timeline now) ↔ timeline.onAirAt t = true := by
  obtain ⟨hapart, hmem⟩ := onAirIntervalsOf_apart timeline now
  refine ⟨hapart, ?_⟩
  intro t ht
  rw [hmem t, onAirBy_of_lt timeline ht]

/-- The spans of a run are apart, in order and none of them empty, and together they are the
instants from its start to its end, or now, under no veil. -/
theorem onAirIntervalsOf_exact (timeline : RunTimeline) (now : Instant) :
    ((onAirIntervalsOf timeline now).Pairwise fun earlier later =>
      earlier.endsAt ≤ later.startsAt ∧ Disjoint earlier.units later.units) ∧
      (∀ window ∈ onAirIntervalsOf timeline now, window.startsAt < window.endsAt) ∧
      ∀ t, (∃ window ∈ onAirIntervalsOf timeline now, t ∈ window.units) ↔
        (∃ startedAt, timeline.startedAt = some startedAt ∧ startedAt ≤ t) ∧
          t < timeline.endedAt.getD now ∧
          ∀ veil ∈ timeline.veils, ¬ (veil.raisedAt ≤ t ∧
            ∀ resolvedAt, veil.resolvedAt = some resolvedAt → t < resolvedAt) := by
  obtain ⟨hapart, hmem⟩ := onAirIntervalsOf_apart timeline now
  refine ⟨?_, onAirIntervalsOf_lasts timeline now, ?_⟩
  · refine hapart.imp ?_
    intro earlier later hbefore
    refine ⟨hbefore, Finset.disjoint_left.mpr ?_⟩
    intro t hearlier hlater
    rw [Span.mem_units] at hearlier hlater
    omega
  · intro t
    have hunits : (∃ window ∈ onAirIntervalsOf timeline now, t ∈ window.units) ↔
        timeline.onAirBy now t = true := by
      rw [← hmem t, mem_covered]
      simp only [Span.mem_units]
    rw [hunits, timeline.onAirBy_iff]

end Spans

section Sample

open Sample

/-- A run whose two veils overlap, the later one listed first. -/
def veiledRun : RunTimeline := ⟨some 0, some 100, [⟨40, some 60⟩, ⟨10, some 50⟩]⟩

/-- Between the veils' two ends nothing is on air; before the first and after the last it is. -/
theorem onAirIntervalsOf_exact_sample :
    (∃ window ∈ onAirIntervalsOf veiledRun 80, 9 ∈ window.units) ∧
      (¬ ∃ window ∈ onAirIntervalsOf veiledRun 80, 55 ∈ window.units) ∧
      ∃ window ∈ onAirIntervalsOf veiledRun 80, 60 ∈ window.units := by
  obtain ⟨-, -, hmem⟩ := onAirIntervalsOf_exact veiledRun 80
  rw [hmem, hmem, hmem]
  refine ⟨⟨⟨0, rfl, by decide⟩, by decide, by decide⟩, ?_, ⟨0, rfl, by decide⟩, by decide,
    by decide⟩
  rintro ⟨-, -, hclear⟩
  exact hclear ⟨40, some 60⟩ (by decide) (by decide)

end Sample

/-! ## What a cover leaves -/

/-- What is covered and not settled yet. -/
noncomputable def BudgetState.ahead (budget : BudgetState) : Finset ℤ :=
  match budget.settledUntil, budget.coveredUntil with
  | some settledUntil, some coveredUntil => Finset.Ico settledUntil coveredUntil
  | _, _ => ∅

/-- Whether an instant is settled. -/
def BudgetState.isSettled (budget : BudgetState) (t : ℤ) : Bool :=
  budget.settledUntil.any fun settledUntil => decide (t < settledUntil)

section Covers

variable [PreviewRules] [LawfulPreviewRules]

/-- A settle charges the time covered ahead that was on air up to now. -/
theorem settledMsAt_eq (budget : BudgetState) (timeline : RunTimeline) (now : ℤ) :
    settledMsAt budget now (onAirIntervalsOf timeline now) = budget.settledMs +
      ((budget.ahead.filter fun t => t < now ∧ timeline.onAirAt t = true).card : ℤ) := by
  obtain ⟨hapart, hmem⟩ := onAirIntervalsOf_spec timeline now
  unfold settledMsAt unsettledWindow BudgetState.ahead
  cases hsettled : budget.settledUntil with
  | none => simp
  | some settledUntil =>
      cases hcovered : budget.coveredUntil with
      | none => simp
      | some coveredUntil =>
          simp only [LawfulPreviewRules.earliest_eq, LawfulPreviewRules.isBefore_iff]
          have hunits : (Finset.Ico settledUntil coveredUntil).filter
              (fun t => t < now ∧ timeline.onAirAt t = true) =
              (windowOf settledUntil (min now coveredUntil)).units ∩
                covered (onAirIntervalsOf timeline now) := by
            ext t
            simp only [Finset.mem_filter, Finset.mem_Ico, Finset.mem_inter, Span.mem_units, windowOf]
            constructor
            · rintro ⟨⟨hstart, hend⟩, hpast, honAir⟩
              exact ⟨⟨hstart, lt_min hpast hend⟩, (hmem t hpast).mpr honAir⟩
            · rintro ⟨⟨hstart, hend⟩, hspan⟩
              obtain ⟨hpast, hend⟩ := lt_min_iff.mp hend
              exact ⟨⟨hstart, hend⟩, hpast, (hmem t hpast).mp hspan⟩
          rw [hunits, ← sum_overlap _ hapart]
          split_ifs with hopen
          · rw [Option.elim_some, LawfulPreviewRules.previewMsSpent_eq _ _ hapart]
          · have hnothing : (windowOf settledUntil (min now coveredUntil)).units = ∅ :=
              Finset.Ico_eq_empty hopen
            rw [sum_overlap _ hapart, hnothing, Finset.empty_inter]
            rfl

omit [LawfulPreviewRules] in
theorem coverAt_settled (budget : BudgetState) (now : Instant) (onAir : List Window) :
    (coverAt budget now onAir).budget.settledMs = settledMsAt budget now onAir ∧
      (coverAt budget now onAir).budget.settledUntil = some now := by
  simp only [coverAt]
  split_ifs
  · exact ⟨rfl, rfl⟩
  · exact ⟨rfl, rfl⟩

end Covers

/-! ## The budgets' rows -/

structure PreviewBudgetRow where
  accountId : Uuid
  dateId : Uuid
  budget : BudgetState
  deriving Repr, DecidableEq

def PreviewBudgetRow.key (row : PreviewBudgetRow) : Uuid × Uuid := (row.accountId, row.dateId)

abbrev PreviewBudgets := Table PreviewBudgetRow.key

namespace PreviewBudgets

/-- The row as it stands, or nothing before the first cover. -/
def read (budgets : PreviewBudgets) (accountId dateId : Uuid) : Option BudgetState :=
  (budgets.find? (accountId, dateId)).map fun row => row.budget

/-- The row, opened when there is none, then written. -/
def write (budgets : PreviewBudgets) (accountId dateId : Uuid) (budget : BudgetState) :
    PreviewBudgets :=
  budgets.upsert ⟨accountId, dateId, budget⟩

end PreviewBudgets

end Arthome.Streaming
