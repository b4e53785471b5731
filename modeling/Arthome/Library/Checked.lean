import Arthome.Library.Reply

/-!
# Computations that check as they go

A transaction is a sequence of checks, reads and writes, the first refusal of
which rolls all of it back: a computation in `Except`. The rules say what an
accepted one has passed.
-/

namespace Arthome.Library

variable {ε α β : Type}

/-- Goes on when `p` holds, and refuses with `e` otherwise. -/
def require (p : Prop) [Decidable p] (e : ε) : Except ε Unit := if p then .ok () else .error e

/-- The value there is, or the refusal. -/
def orRefuse (a : Option α) (e : ε) : Except ε α :=
  match a with
  | none => .error e
  | some a => .ok a

@[simp] theorem require_ok_iff {p : Prop} [Decidable p] {e : ε} {u : Unit} :
    require p e = .ok u ↔ p := by
  by_cases h : p <;> simp [require, h]

@[simp] theorem orRefuse_ok_iff {a : Option α} {e : ε} {b : α} :
    orRefuse a e = .ok b ↔ a = some b := by
  cases a <;> simp [orRefuse]

theorem bind_ok_iff {x : Except ε α} {f : α → Except ε β} {b : β} :
    (x >>= f) = .ok b ↔ ∃ a, x = .ok a ∧ f a = .ok b := by
  cases x <;> simp [bind, Except.bind]

theorem map_ok_iff {x : Except ε α} {f : α → β} {b : β} :
    x.map f = .ok b ↔ ∃ a, x = .ok a ∧ f a = b := by
  cases x <;> simp [Except.map]

theorem bind_error_iff {x : Except ε α} {f : α → Except ε β} {e : ε} :
    (x >>= f) = .error e ↔ x = .error e ∨ ∃ a, x = .ok a ∧ f a = .error e := by
  cases x <;> simp [bind, Except.bind]

@[simp] theorem orRefuse_error_iff {a : Option α} {e e' : ε} :
    orRefuse a e = .error e' ↔ a = none ∧ e = e' := by
  cases a <;> simp [orRefuse]

@[simp] theorem pure_error_iff {a : α} {e : ε} : (pure a : Except ε α) = .error e ↔ False := by
  simp [pure, Except.pure]

@[simp] theorem pure_ok_iff {a b : α} : (pure a : Except ε α) = .ok b ↔ a = b := by
  simp [pure, Except.pure]

@[simp] theorem throw_ok_iff {e : ε} {b : α} : (throw e : Except ε α) = .ok b ↔ False := by
  simp [throw, throwThe, MonadExceptOf.throw]

theorem toOption_eq_some_iff {x : Except ε α} {a : α} : x.toOption = some a ↔ x = .ok a := by
  cases x <;> simp [Except.toOption]

/-- A call on an object within a transaction: its refusal rolls the transaction back. -/
def Reply.commit {σ : Type} (r : Reply σ ε α) : Except ε (σ × α) :=
  r.result.map fun a => (r.state, a)

@[simp] theorem Reply.commit_ok_iff {σ : Type} {r : Reply σ ε α} {p : σ × α} :
    r.commit = .ok p ↔ r.state = p.1 ∧ r.result = .ok p.2 := by
  obtain ⟨s, a⟩ := p
  obtain ⟨t, _ | b⟩ := r <;> simp [Reply.commit, Except.map]

end Arthome.Library
