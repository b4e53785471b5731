import Mathlib.Tactic.Basic

/-!
# Calls that may be refused

An object with a mutable state answers a call or refuses it, and a refusal says
nothing by itself about what the object did before it refused. `Reply` keeps
both: the state the call leaves and what it answered. `Except` would forget the
state of a refused call, and with it the question whether anything had moved.
-/

namespace Arthome.Library

/-- The state a call leaves, and what it answered or refused with. -/
structure Reply (σ ε α : Type) where
  state : σ
  result : Except ε α
  deriving Repr

namespace Reply

variable {σ ε α β : Type}

/-- The call answers `a` and leaves `s`. -/
def answer (s : σ) (a : α) : Reply σ ε α := ⟨s, .ok a⟩

/-- The call refuses with `e` and leaves `s`. -/
def refuse (s : σ) (e : ε) : Reply σ ε α := ⟨s, .error e⟩

/-- A check that may refuse before the rest of the call runs, in state `s`. -/
def guard (s : σ) (check : Except ε α) (rest : α → Reply σ ε β) : Reply σ ε β :=
  match check with
  | .error e => refuse s e
  | .ok a => rest a

/-- The call with its answer forgotten. -/
def void (r : Reply σ ε α) : Reply σ ε Unit := ⟨r.state, r.result.map fun _ => ()⟩

/-- The call was refused. -/
def Refused (r : Reply σ ε α) : Prop := ∃ e, r.result = .error e

@[simp] theorem answer_state (s : σ) (a : α) : (answer s a : Reply σ ε α).state = s := rfl

@[simp] theorem answer_result (s : σ) (a : α) : (answer s a : Reply σ ε α).result = .ok a := rfl

@[simp] theorem refuse_state (s : σ) (e : ε) : (refuse s e : Reply σ ε α).state = s := rfl

@[simp] theorem refuse_result (s : σ) (e : ε) :
    (refuse s e : Reply σ ε α).result = .error e := rfl

@[simp] theorem guard_ok (s : σ) (a : α) (rest : α → Reply σ ε β) :
    guard s (.ok a) rest = rest a := rfl

@[simp] theorem guard_error (s : σ) (e : ε) (rest : α → Reply σ ε β) :
    guard s (.error e : Except ε α) rest = refuse s e := rfl

@[simp] theorem void_state (r : Reply σ ε α) : r.void.state = r.state := rfl

@[simp] theorem not_refused_answer (s : σ) (a : α) :
    ¬ (answer s a : Reply σ ε α).Refused := by simp [Refused]

@[simp] theorem refused_void (r : Reply σ ε α) : r.void.Refused ↔ r.Refused := by
  obtain ⟨s, _ | a⟩ := r <;> simp [Refused, void, Except.map]

/-- A check that passes or leaves the call in the state it was made in. -/
theorem guard_cases (s : σ) (check : Except ε α) (rest : α → Reply σ ε β) :
    (∃ e, check = .error e ∧ guard s check rest = refuse s e) ∨
      ∃ a, check = .ok a ∧ guard s check rest = rest a := by
  cases check with
  | error e => exact .inl ⟨e, rfl, rfl⟩
  | ok a => exact .inr ⟨a, rfl, rfl⟩

/-- What a checked call leaves, from what each way out of the check leaves. -/
theorem guard_rule {P : Reply σ ε β → Prop} (s : σ) (check : Except ε α)
    (rest : α → Reply σ ε β) (herror : ∀ e, P (refuse s e))
    (hok : ∀ a, check = .ok a → P (rest a)) : P (guard s check rest) := by
  obtain ⟨e, -, h⟩ | ⟨a, ha, h⟩ := guard_cases s check rest
  · rw [h]
    exact herror e
  · rw [h]
    exact hok a ha

end Reply

/-- A list of checks passes when each of them does. -/
theorem forM_ok_iff {ε α : Type} (check : α → Except ε Unit) (xs : List α) :
    xs.forM check = .ok () ↔ ∀ x ∈ xs, check x = .ok () := by
  induction xs with
  | nil => simp [List.forM_eq_forM, pure, Except.pure]
  | cons x xs ih =>
      simp only [List.forM_eq_forM] at ih
      rw [List.forM_eq_forM, List.forM_cons, List.forall_mem_cons, ← ih]
      cases h : check x with
      | error e => simp [bind, Except.bind]
      | ok u => simp [bind, Except.bind]

end Arthome.Library
