import Arthome.Library.Rows
import Mathlib.Data.List.Basic

/-!
# Journalled rows

Transactions that write rows also say what they do to them; what a transaction says joins
the history when it commits and is forgotten when it rolls back. A fact about a row and
what was said of it, kept by every write, holds of the row committed with its history
and of the row its owner sees with what the owner has said since.
-/

namespace Arthome.Library

variable {τ κ ρ α : Type} [DecidableEq τ]

structure Journalled (F : κ → ρ → List α → Prop) (about : κ → α → Bool) (rows : Rows τ κ ρ)
    (pending : τ → List α) (history : List α) : Prop where
  committed : ∀ k, F k (rows.committed k) (history.filter (about k))
  owned : ∀ k t, rows.owner k = some t →
    F k (rows.view t k) (history.filter (about k) ++ (pending t).filter (about k))
  silent : ∀ k t, rows.owner k ≠ some t → (pending t).filter (about k) = []

namespace Journalled

variable {F : κ → ρ → List α → Prop} {about : κ → α → Bool} {rows : Rows τ κ ρ}
  {pending : τ → List α} {history : List α} {t : τ} {k : κ} {row : ρ} {acts : List α}

/-- The fact holds of a row as any transaction sees it. -/
theorem viewed (h : Journalled F about rows pending history) (t : τ) (k : κ) :
    F k (rows.view t k) (history.filter (about k) ++ (pending t).filter (about k)) := by
  by_cases howner : rows.owner k = some t
  · exact h.owned k t howner
  · rw [h.silent k t howner, List.append_nil, Rows.view_of_owner_ne howner]
    exact h.committed k

/-- A row written, with what is said of it. -/
theorem put [DecidableEq κ] (h : Journalled F about rows pending history) (hfree : rows.Free t k)
    (hacts : ∀ act ∈ acts, ∀ j, j ≠ k → about j act = false)
    (hrow : F k row (history.filter (about k) ++ (pending t).filter (about k) ++
      acts.filter (about k))) :
    Journalled F about (rows.put t k row) (Function.update pending t (pending t ++ acts))
      history := by
  have hother : ∀ j, j ≠ k → acts.filter (about j) = [] := by
    intro j hj
    rw [List.filter_eq_nil_iff]
    intro act hact
    rw [hacts act hact j hj]
    exact Bool.false_ne_true
  refine ⟨h.committed, ?_, ?_⟩
  · intro j u howner
    by_cases hj : j = k
    · rw [hj] at howner ⊢
      rw [Rows.owner_put_self] at howner
      cases howner
      rw [Rows.view_put_self, Function.update_self, List.filter_append, ← List.append_assoc]
      exact hrow
    · rw [Rows.owner_put_of_ne hj] at howner
      rw [Rows.view_put_of_ne hj]
      by_cases hu : u = t
      · rw [hu] at howner ⊢
        rw [Function.update_self, List.filter_append, hother j hj, List.append_nil]
        exact h.owned j t howner
      · rw [Function.update_of_ne hu]
        exact h.owned j u howner
  · intro j u howner
    by_cases hu : u = t
    · rw [hu] at howner ⊢
      have hj : j ≠ k := by
        intro hj
        rw [hj] at howner
        exact howner Rows.owner_put_self
      rw [Rows.owner_put_of_ne hj] at howner
      rw [Function.update_self, List.filter_append, hother j hj, List.append_nil]
      exact h.silent j t howner
    · rw [Function.update_of_ne hu]
      apply h.silent
      by_cases hj : j = k
      · rw [hj]
        exact hfree.not_owner hu
      · rw [Rows.owner_put_of_ne hj] at howner
        exact howner

/-- What is said of other tables' rows. -/
theorem say (h : Journalled F about rows pending history)
    (hacts : ∀ act ∈ acts, ∀ j, about j act = false) :
    Journalled F about rows (Function.update pending t (pending t ++ acts)) history := by
  have hsame : ∀ j u, (Function.update pending t (pending t ++ acts) u).filter (about j) =
      (pending u).filter (about j) := by
    intro j u
    by_cases hu : u = t
    · have hnone : acts.filter (about j) = [] := by
        rw [List.filter_eq_nil_iff]
        intro act hact
        rw [hacts act hact j]
        exact Bool.false_ne_true
      rw [hu, Function.update_self, List.filter_append, hnone, List.append_nil]
    · rw [Function.update_of_ne hu]
  refine ⟨h.committed, ?_, ?_⟩
  · intro j u howner
    rw [hsame]
    exact h.owned j u howner
  · intro j u howner
    rw [hsame]
    exact h.silent j u howner

theorem commit (h : Journalled F about rows pending history) :
    Journalled F about (rows.commit t) (Function.update pending t []) (history ++ pending t) := by
  refine ⟨?_, ?_, ?_⟩
  · intro k
    rw [Rows.committed_commit, List.filter_append]
    exact h.viewed t k
  · intro k u howner
    have hu : u ≠ t := by
      rintro rfl
      exact Rows.owner_commit_ne howner
    rw [Rows.StepOf.commit.owner_iff hu] at howner
    have hsilent : (pending t).filter (about k) = [] := by
      apply h.silent
      rw [howner]
      exact fun hsame => hu (Option.some.inj hsame)
    rw [Rows.StepOf.commit.view_of_owner hu howner, Function.update_of_ne hu, List.filter_append,
      hsilent, List.append_nil]
    exact h.owned k u howner
  · intro k u howner
    by_cases hu : u = t
    · rw [hu, Function.update_self]
      rfl
    · rw [Function.update_of_ne hu]
      exact h.silent k u (mt (Rows.StepOf.commit.owner_iff hu).mpr howner)

theorem rollback (h : Journalled F about rows pending history) :
    Journalled F about (rows.rollback t) (Function.update pending t []) history := by
  refine ⟨h.committed, ?_, ?_⟩
  · intro k u howner
    have hu : u ≠ t := by
      rintro rfl
      exact Rows.owner_rollback_ne howner
    rw [Rows.StepOf.rollback.owner_iff hu] at howner
    rw [Rows.StepOf.rollback.view_of_owner hu howner, Function.update_of_ne hu]
    exact h.owned k u howner
  · intro k u howner
    by_cases hu : u = t
    · rw [hu, Function.update_self]
      rfl
    · rw [Function.update_of_ne hu]
      exact h.silent k u (mt (Rows.StepOf.rollback.owner_iff hu).mpr howner)

/-- Where nothing was written there is nothing to say. -/
theorem ofCommitted {committed : κ → ρ} (h : ∀ k, F k (committed k) []) :
    Journalled F about (Rows.ofCommitted committed) (fun _ : τ => []) [] :=
  ⟨h, fun _ _ howner => (nomatch howner), fun _ _ _ => rfl⟩

end Journalled

end Arthome.Library
