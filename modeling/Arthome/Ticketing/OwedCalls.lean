import Arthome.Messaging.Failure
import Mathlib.Data.List.Chain
import Mathlib.Tactic.Linarith

/-!
# Refund calls within the provider's memory of their key

A provider keeps a refund's key for a time, and a call made again past it could give the
money back twice. The delays between the attempts double up to a cap and stop a cap short of
that time, so that the last attempt lands within it however far the jitter stretches them.
-/

namespace Arthome.Ticketing

open Arthome.Messaging

/-- `REFUND_RETRY_DELAYS_MS`, for any first delay, any cap and any bound. The time spent is whole, so
it is below the bound exactly when it is below the bound's ceiling. -/
def refundRetryDelays (firstMs capMs : ℕ) (withinMs : ℚ) : List ℕ :=
  doublingDelays firstMs capMs ⌈withinMs / (1 + JITTER_RATIO) - capMs⌉₊

/-- Past the whole schedule with the jitter, and an hour more. -/
def staleAfterMs (HOUR_MS : ℕ) (delaysMs : List ℕ) : ℕ :=
  ⌈(delaysMs.sum : ℚ) * (1 + JITTER_RATIO)⌉₊ + HOUR_MS

/-- The waits of a call made until its last attempt failed, each with its own jitter. -/
def waitsOf (delaysMs : List ℕ) (random : ℕ → ℚ) : List ℕ :=
  (List.range delaysMs.length).filterMap fun n => retryDelayAfter (n + 1) delaysMs (random n)

section Delays

variable {capMs totalMs delay elapsed : ℕ}

theorem le_cap_of_mem_doublingDelaysFrom {wait : ℕ} (hdelay : delay ≤ capMs)
    (hwait : wait ∈ doublingDelaysFrom capMs totalMs delay elapsed) : wait ≤ capMs := by
  induction delay, elapsed using doublingDelaysFrom.induct capMs totalMs with
  | case1 delay elapsed hmore ih =>
      rw [doublingDelaysFrom, if_pos hmore, List.mem_cons] at hwait
      obtain rfl | hlater := hwait
      · exact hdelay
      · exact ih (min_le_right _ _) hlater
  | case2 delay elapsed hdone =>
      rw [doublingDelaysFrom, if_neg hdone] at hwait
      cases hwait

/-- Each delay is at most twice the one before it. -/
theorem isChain_doublingDelaysFrom :
    (doublingDelaysFrom capMs totalMs delay elapsed).IsChain
      (fun previous next => next ≤ 2 * previous) := by
  induction delay, elapsed using doublingDelaysFrom.induct capMs totalMs with
  | case1 delay elapsed hmore ih =>
      rw [doublingDelaysFrom, if_pos hmore, List.isChain_cons]
      refine ⟨?_, ih⟩
      intro next hnext
      rw [doublingDelaysFrom] at hnext
      split_ifs at hnext
      · rw [List.head?_cons, Option.mem_some_iff] at hnext
        omega
      · cases hnext
  | case2 delay elapsed hdone =>
      rw [doublingDelaysFrom, if_neg hdone]
      exact .nil

/-- The schedule stops once the total is spent, and goes past it by less than a cap. -/
theorem sum_doublingDelaysFrom (hpositive : 0 < delay) (hdelay : delay ≤ capMs) :
    totalMs ≤ elapsed + (doublingDelaysFrom capMs totalMs delay elapsed).sum ∧
      (elapsed < totalMs →
        elapsed + (doublingDelaysFrom capMs totalMs delay elapsed).sum < totalMs + capMs) ∧
      (totalMs ≤ elapsed → doublingDelaysFrom capMs totalMs delay elapsed = []) := by
  induction delay, elapsed using doublingDelaysFrom.induct capMs totalMs with
  | case1 delay elapsed hmore ih =>
      obtain ⟨hreaches, hwithin, hdone⟩ := ih (by omega) (min_le_right _ _)
      rw [doublingDelaysFrom, if_pos hmore, List.sum_cons]
      refine ⟨by omega, fun _ => ?_, fun hspent => absurd hmore.1 (not_lt.mpr hspent)⟩
      by_cases hagain : elapsed + delay < totalMs
      · have hsum := hwithin hagain
        omega
      · rw [hdone (not_lt.mp hagain), List.sum_nil]
        omega
  | case2 delay elapsed hdone =>
      have hspent : totalMs ≤ elapsed := not_lt.mp fun hmore => hdone ⟨hmore, hpositive⟩
      rw [doublingDelaysFrom, if_neg hdone]
      exact ⟨hspent, fun hmore => absurd hmore (not_lt.mpr hspent), fun _ => rfl⟩

end Delays

section Waits

/-- A wait is its delay and at most the jitter's share of it more. -/
theorem retryDelayAfter_le {delaysMs : List ℕ} {n : ℕ} {random : ℚ} (hn : n < delaysMs.length)
    (hrandom : random ≤ 1) :
    ∃ wait, retryDelayAfter (n + 1) delaysMs random = some wait ∧
      (wait : ℚ) ≤ (delaysMs[n] : ℚ) * (1 + JITTER_RATIO) := by
  refine ⟨delaysMs[n] + ⌊(delaysMs[n] : ℚ) * JITTER_RATIO * random⌋₊, ?_, ?_⟩
  · simp [retryDelayAfter, hn]
  · have hshare : (delaysMs[n] : ℚ) * JITTER_RATIO * random ≤ (delaysMs[n] : ℚ) * JITTER_RATIO := by
      have hnonneg : (0 : ℚ) ≤ (delaysMs[n] : ℚ) * JITTER_RATIO := by
        unfold JITTER_RATIO
        positivity
      exact mul_le_of_le_one_right hnonneg hrandom
    have hfloor : ((⌊(delaysMs[n] : ℚ) * JITTER_RATIO * random⌋₊ : ℕ) : ℚ) ≤
        (delaysMs[n] : ℚ) * JITTER_RATIO := by
      by_cases hnegative : (delaysMs[n] : ℚ) * JITTER_RATIO * random < 0
      · rw [Nat.floor_of_nonpos hnegative.le]
        unfold JITTER_RATIO
        positivity
      · exact (Nat.floor_le (not_lt.mp hnegative)).trans hshare
    push_cast
    linarith

/-- However the jitter lengthens each wait, together they stay within its share of the schedule. -/
theorem sum_waitsOf_le (delaysMs : List ℕ) {random : ℕ → ℚ} (hrandom : ∀ n, random n ≤ 1) :
    ((waitsOf delaysMs random).sum : ℚ) ≤ (delaysMs.sum : ℚ) * (1 + JITTER_RATIO) := by
  suffices h : ∀ n ≤ delaysMs.length,
      ((((List.range n).filterMap fun n =>
        retryDelayAfter (n + 1) delaysMs (random n)).sum : ℕ) : ℚ) ≤
        ((delaysMs.take n).sum : ℚ) * (1 + JITTER_RATIO) by
    have hall := h delaysMs.length le_rfl
    rwa [List.take_length] at hall
  intro n
  induction n with
  | zero => simp
  | succ n ih =>
      intro hn
      have hbefore := ih (by omega)
      obtain ⟨wait, hwait, hle⟩ := retryDelayAfter_le hn (hrandom n)
      rw [List.range_succ, List.filterMap_append, List.sum_append,
        List.take_succ_eq_append_getElem hn, List.sum_append]
      simp only [List.filterMap_cons, hwait, List.filterMap_nil, List.sum_cons, List.sum_nil,
        add_zero, Nat.cast_add]
      linarith

end Waits

/-- For every first delay, cap and bound: the schedule of a refund's call stops, having spent the
time it is given; each delay is within the cap and at most twice the one before; whatever the
jitters the waits together stay below the bound; and no run of attempts outlasts `staleAfterMs`. -/
theorem refund_attempts_within {firstMs capMs : ℕ} {withinMs : ℚ} (hfirst : 0 < firstMs)
    (hcap : firstMs ≤ capMs) (hwithin : (capMs : ℚ) < withinMs) :
    withinMs / (1 + JITTER_RATIO) - capMs ≤ ((refundRetryDelays firstMs capMs withinMs).sum : ℚ) ∧
      (∀ delay ∈ refundRetryDelays firstMs capMs withinMs, delay ≤ capMs) ∧
      (refundRetryDelays firstMs capMs withinMs).IsChain (fun previous next => next ≤ 2 * previous) ∧
      (∀ random : ℕ → ℚ, (∀ n, 0 ≤ random n ∧ random n ≤ 1) →
        ((waitsOf (refundRetryDelays firstMs capMs withinMs) random).sum : ℚ) < withinMs) ∧
      ∀ (HOUR_MS : ℕ) (delaysMs : List ℕ) (random : ℕ → ℚ), (∀ n, 0 ≤ random n ∧ random n ≤ 1) →
        (waitsOf delaysMs random).sum ≤ staleAfterMs HOUR_MS delaysMs := by
  obtain ⟨hreaches, hover, hnothing⟩ := @sum_doublingDelaysFrom capMs
    ⌈withinMs / (1 + JITTER_RATIO) - capMs⌉₊ firstMs 0 hfirst hcap
  rw [zero_add] at hreaches hover
  refine ⟨Nat.ceil_le.mp hreaches, fun delay => le_cap_of_mem_doublingDelaysFrom hcap,
    isChain_doublingDelaysFrom, ?_, ?_⟩
  · intro random hrandom
    refine (sum_waitsOf_le _ fun n => (hrandom n).2).trans_lt ?_
    by_cases hspent : 0 < ⌈withinMs / (1 + JITTER_RATIO) - capMs⌉₊
    · have hsum : ((refundRetryDelays firstMs capMs withinMs).sum : ℚ) <
          withinMs / (1 + JITTER_RATIO) := by
        have hlast := hover hspent
        have hceil := Nat.ceil_lt_add_one (Nat.ceil_pos.mp hspent).le
        have hbelow : ((refundRetryDelays firstMs capMs withinMs).sum : ℚ) + 1 ≤
            (⌈withinMs / (1 + JITTER_RATIO) - capMs⌉₊ : ℚ) + capMs := by
          exact_mod_cast hlast
        linarith
      have hpositive : (0 : ℚ) < 1 + JITTER_RATIO := by
        unfold JITTER_RATIO
        positivity
      exact (lt_div_iff₀ hpositive).mp hsum
    · have hnone : refundRetryDelays firstMs capMs withinMs = [] := hnothing (not_lt.mp hspent)
      have hpositive : (0 : ℚ) ≤ capMs := Nat.cast_nonneg _
      rw [hnone]
      simp only [List.sum_nil, Nat.cast_zero, zero_mul]
      linarith
  · intro HOUR_MS delaysMs random hrandom
    have hsum := (sum_waitsOf_le delaysMs fun n => (hrandom n).2).trans (Nat.le_ceil _)
    have hceil : (waitsOf delaysMs random).sum ≤ ⌈(delaysMs.sum : ℚ) * (1 + JITTER_RATIO)⌉₊ := by
      exact_mod_cast hsum
    exact hceil.trans (Nat.le_add_right _ _)

/-- The schedule refunds are given: five seconds, up to an hour, within twenty-three hours. -/
theorem refund_attempts_within_sample :
    (∀ delay ∈ refundRetryDelays 5000 3600000 82800000, delay ≤ 3600000) ∧
      ((waitsOf (refundRetryDelays 5000 3600000 82800000) fun _ => 1).sum : ℚ) < 82800000 := by
  obtain ⟨-, hcap, -, hwithin, -⟩ := @refund_attempts_within 5000 3600000 82800000 (by decide)
    (by decide) (by norm_num)
  exact ⟨hcap, hwithin _ fun _ => ⟨zero_le_one, le_rfl⟩⟩

end Arthome.Ticketing
