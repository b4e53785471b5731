import Mathlib.Logic.Function.Basic
import Mathlib.Tactic.SplitIfs

/-!
# Rows under open transactions

Rows under keys, as transactions that commit each statement's sight see them. A row an
open transaction wrote or locked is its own until it ends, and no other transaction
writes or locks it meanwhile; every other transaction still reads the row committed
last. A commit puts the rows a transaction owns in the place of the committed ones, a
rollback forgets them.
-/

namespace Arthome.Library

structure Rows (τ κ ρ : Type) where
  committed : κ → ρ
  /-- The transaction that owns the row, with the row it will commit. -/
  held : κ → Option (τ × ρ)

namespace Rows

variable {τ κ ρ : Type}

/-- The rows committed, none of them owned. -/
def ofCommitted (committed : κ → ρ) : Rows τ κ ρ := ⟨committed, fun _ => none⟩

def owner (rows : Rows τ κ ρ) (k : κ) : Option τ := (rows.held k).map Prod.fst

variable [DecidableEq τ]

/-- No other transaction owns the row. -/
def Free (rows : Rows τ κ ρ) (t : τ) (k : κ) : Prop := rows.owner k = none ∨ rows.owner k = some t

instance (rows : Rows τ κ ρ) (t : τ) (k : κ) : Decidable (rows.Free t k) :=
  inferInstanceAs (Decidable (_ ∨ _))

/-- The row as a statement of the transaction reads it: its own, or the one committed last. -/
def view (rows : Rows τ κ ρ) (t : τ) (k : κ) : ρ :=
  match rows.held k with
  | some (u, row) => if u = t then row else rows.committed k
  | none => rows.committed k

/-- The transaction ended with its rows committed. -/
def commit (rows : Rows τ κ ρ) (t : τ) : Rows τ κ ρ where
  committed := rows.view t
  held k := if rows.owner k = some t then none else rows.held k

/-- The transaction ended with its rows forgotten. -/
def rollback (rows : Rows τ κ ρ) (t : τ) : Rows τ κ ρ where
  committed := rows.committed
  held k := if rows.owner k = some t then none else rows.held k

variable [DecidableEq κ]

/-- The row written by the transaction. -/
def put (rows : Rows τ κ ρ) (t : τ) (k : κ) (row : ρ) : Rows τ κ ρ :=
  { rows with held := Function.update rows.held k (some (t, row)) }

/-- The row locked as it is. -/
def lock (rows : Rows τ κ ρ) (t : τ) (k : κ) : Rows τ κ ρ := rows.put t k (rows.view t k)

section Views

variable {rows : Rows τ κ ρ} {t u : τ} {k j : κ} {row : ρ}

omit [DecidableEq κ] in
theorem view_of_held (h : rows.held k = some (t, row)) : rows.view t k = row := by
  simp [view, h]

omit [DecidableEq κ] in
/-- What a transaction does not own it reads as committed. -/
theorem view_of_owner_ne (h : rows.owner k ≠ some t) : rows.view t k = rows.committed k := by
  unfold view owner at *
  cases hheld : rows.held k with
  | none => rfl
  | some pair =>
      have hne : pair.1 ≠ t := by
        rintro rfl
        exact h (by rw [hheld]; rfl)
      exact if_neg hne

omit [DecidableEq τ] [DecidableEq κ] in
theorem owner_of_held (h : rows.held k = some (t, row)) : rows.owner k = some t := by
  simp [owner, h]

omit [DecidableEq τ] in
@[simp] theorem held_put_self : (rows.put t k row).held k = some (t, row) := by simp [put]

omit [DecidableEq τ] in
@[simp] theorem held_put_of_ne (h : j ≠ k) : (rows.put t k row).held j = rows.held j := by
  simp [put, h]

omit [DecidableEq τ] in
@[simp] theorem committed_put : (rows.put t k row).committed = rows.committed := rfl

omit [DecidableEq τ] in
@[simp] theorem owner_put_self : (rows.put t k row).owner k = some t := by simp [owner]

omit [DecidableEq τ] in
@[simp] theorem owner_put_of_ne (h : j ≠ k) : (rows.put t k row).owner j = rows.owner j := by
  simp [owner, h]

@[simp] theorem view_put_self : (rows.put t k row).view t k = row := view_of_held held_put_self

@[simp] theorem view_put_of_ne (h : j ≠ k) : (rows.put t k row).view u j = rows.view u j := by
  simp [view, h]

/-- A row another transaction writes is read as it was committed. -/
theorem view_put_other (h : u ≠ t) : (rows.put t k row).view u k = rows.committed k := by
  simp [view, h.symm]

end Views

omit [DecidableEq κ]

section Ends

variable {rows : Rows τ κ ρ} {t u : τ} {k : κ}

@[simp] theorem committed_commit : (rows.commit t).committed k = rows.view t k := rfl

@[simp] theorem committed_rollback : (rows.rollback t).committed = rows.committed := rfl

theorem owner_commit :
    (rows.commit t).owner k = if rows.owner k = some t then none else rows.owner k := by
  show (if rows.owner k = some t then none else rows.held k).map Prod.fst = _
  split_ifs
  · rfl
  · rfl

theorem owner_rollback :
    (rows.rollback t).owner k = if rows.owner k = some t then none else rows.owner k := by
  show (if rows.owner k = some t then none else rows.held k).map Prod.fst = _
  split_ifs
  · rfl
  · rfl

theorem held_commit_of_ne (h : rows.owner k ≠ some t) : (rows.commit t).held k = rows.held k :=
  if_neg h

theorem held_rollback_of_ne (h : rows.owner k ≠ some t) :
    (rows.rollback t).held k = rows.held k := if_neg h

theorem committed_commit_of_ne (h : rows.owner k ≠ some t) :
    (rows.commit t).committed k = rows.committed k := view_of_owner_ne h

/-- A transaction that ended owns nothing. -/
theorem owner_commit_ne : (rows.commit t).owner k ≠ some t := by
  rw [owner_commit]
  split_ifs with h
  · simp
  · exact h

theorem owner_rollback_ne : (rows.rollback t).owner k ≠ some t := by
  rw [owner_rollback]
  split_ifs with h
  · simp
  · exact h

end Ends

/-- The row stands, committed or as its owner will commit it. -/
def Stands (rows : Rows τ κ ρ) (k : κ) (row : ρ) : Prop :=
  rows.committed k = row ∨ ∃ t, rows.held k = some (t, row)

section Stands

variable {rows : Rows τ κ ρ} {t u : τ} {k j : κ} {row row' : ρ}

theorem stands_view : rows.Stands k (rows.view t k) := by
  by_cases howner : rows.owner k = some t
  · obtain ⟨⟨u, held⟩, hheld, hu⟩ := Option.map_eq_some_iff.mp howner
    have hsame : u = t := hu
    rw [hsame] at hheld
    rw [view_of_held hheld]
    exact .inr ⟨t, hheld⟩
  · rw [view_of_owner_ne howner]
    exact .inl rfl

omit [DecidableEq τ] in
theorem Stands.of_put [DecidableEq κ] (h : (rows.put t k row).Stands j row') :
    rows.Stands j row' ∨ j = k ∧ row' = row := by
  rcases h with h | ⟨u, h⟩
  · exact .inl (.inl h)
  · by_cases hj : j = k
    · rw [hj, held_put_self] at h
      cases h
      exact .inr ⟨hj, rfl⟩
    · rw [held_put_of_ne hj] at h
      exact .inl (.inr ⟨u, h⟩)

theorem held_commit (h : (rows.commit t).held k = some (u, row)) :
    u ≠ t ∧ rows.held k = some (u, row) := by
  by_cases howner : rows.owner k = some t
  · have hnone : (rows.commit t).held k = none := if_pos howner
    rw [hnone] at h
    cases h
  · rw [held_commit_of_ne howner] at h
    refine ⟨?_, h⟩
    rintro rfl
    exact howner (owner_of_held h)

theorem held_rollback (h : (rows.rollback t).held k = some (u, row)) :
    u ≠ t ∧ rows.held k = some (u, row) := by
  by_cases howner : rows.owner k = some t
  · have hnone : (rows.rollback t).held k = none := if_pos howner
    rw [hnone] at h
    cases h
  · rw [held_rollback_of_ne howner] at h
    refine ⟨?_, h⟩
    rintro rfl
    exact howner (owner_of_held h)

theorem Stands.of_commit (h : (rows.commit t).Stands k row) : rows.Stands k row := by
  rcases h with h | ⟨u, h⟩
  · rw [← h]
    exact stands_view
  · exact .inr ⟨u, (held_commit h).2⟩

theorem Stands.of_rollback (h : (rows.rollback t).Stands k row) : rows.Stands k row := by
  rcases h with h | ⟨u, h⟩
  · exact .inl h
  · exact .inr ⟨u, (held_rollback h).2⟩

omit [DecidableEq τ] in
theorem stands_ofCommitted {committed : κ → ρ} :
    (ofCommitted committed : Rows τ κ ρ).Stands k row ↔ committed k = row :=
  ⟨fun h => h.elim (fun h => h) fun ⟨_, h⟩ => (nomatch h), .inl⟩

end Stands

/-! ## What one transaction's step leaves of the others -/

/-- Only rows free for the transaction changed, and it or nobody owns them afterwards. -/
def StepOf (t : τ) (rows rows' : Rows τ κ ρ) : Prop :=
  ∀ k, (rows'.held k = rows.held k ∧ rows'.committed k = rows.committed k) ∨
    (rows.Free t k ∧ rows'.Free t k)

section StepOf

variable {rows rows' : Rows τ κ ρ} {t u : τ} {k : κ} {row : ρ}

omit [DecidableEq τ] in
theorem StepOf.refl : StepOf t rows rows := fun _ => .inl ⟨rfl, rfl⟩

omit [DecidableEq τ] in
theorem StepOf.put [DecidableEq κ] (h : rows.Free t k) : StepOf t rows (rows.put t k row) := by
  intro j
  by_cases hj : j = k
  · rw [hj]
    exact .inr ⟨h, .inr owner_put_self⟩
  · exact .inl ⟨held_put_of_ne hj, rfl⟩

theorem StepOf.commit : StepOf t rows (rows.commit t) := by
  intro k
  by_cases h : rows.owner k = some t
  · refine .inr ⟨.inr h, .inl ?_⟩
    rw [owner_commit, if_pos h]
  · exact .inl ⟨held_commit_of_ne h, committed_commit_of_ne h⟩

theorem StepOf.rollback : StepOf t rows (rows.rollback t) := by
  intro k
  by_cases h : rows.owner k = some t
  · refine .inr ⟨.inr h, .inl ?_⟩
    rw [owner_rollback, if_pos h]
  · exact .inl ⟨held_rollback_of_ne h, rfl⟩

omit [DecidableEq τ] in
theorem Free.not_owner (h : rows.Free t k) (hu : u ≠ t) : rows.owner k ≠ some u := by
  intro howner
  rcases h with h | h
  · rw [h] at howner
    cases howner
  · rw [h] at howner
    exact hu (Option.some.inj howner).symm

omit [DecidableEq τ] in
/-- A row another transaction owns is left as it is. -/
theorem StepOf.kept (h : StepOf t rows rows') (hu : u ≠ t) (howner : rows.owner k = some u) :
    rows'.held k = rows.held k ∧ rows'.committed k = rows.committed k := by
  rcases h k with h | ⟨hfree, -⟩
  · exact h
  · exact absurd howner (hfree.not_owner hu)

omit [DecidableEq τ] in
theorem StepOf.owner_iff (h : StepOf t rows rows') (hu : u ≠ t) :
    rows'.owner k = some u ↔ rows.owner k = some u := by
  rcases h k with ⟨hheld, -⟩ | ⟨hbefore, hafter⟩
  · unfold owner
    rw [hheld]
  · exact iff_of_false (hafter.not_owner hu) (hbefore.not_owner hu)

theorem StepOf.view_of_owner (h : StepOf t rows rows') (hu : u ≠ t)
    (howner : rows.owner k = some u) : rows'.view u k = rows.view u k := by
  obtain ⟨hheld, hcommitted⟩ := h.kept hu howner
  unfold view
  rw [hheld, hcommitted]

end StepOf

end Rows

end Arthome.Library
