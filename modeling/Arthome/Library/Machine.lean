import Mathlib.Logic.Relation
import Mathlib.Tactic.SplitIfs

/-!
# Runs of a guarded machine

A machine moves from state to state under labels; a guard says which labels a
state admits. What it reaches is the reflexive transitive closure of the admitted
moves. A partial step function is such a machine, its labels the actions. The
rules turn what one move preserves into what a whole run preserves.
-/

namespace Arthome.Library

variable {σ α : Type}

/-- Any number of moves, each admitted in the state it is made in. -/
def Moves (guard : σ → α → Prop) (move : σ → α → σ → Prop) : σ → σ → Prop :=
  Relation.ReflTransGen fun s s' => ∃ a, guard s a ∧ move s a s'

/-- Any number of admitted actions of a step function, one after the other. -/
def Reaches (guard : σ → α → Prop) (step : σ → α → Option σ) : σ → σ → Prop :=
  Moves guard fun s a s' => step s a = some s'

section Moves

variable {guard guard' : σ → α → Prop} {move : σ → α → σ → Prop} {s t u : σ} {a : α}

theorem Moves.refl : Moves guard move s s := Relation.ReflTransGen.refl

theorem Moves.trans (h₁ : Moves guard move s t) (h₂ : Moves guard move t u) :
    Moves guard move s u := Relation.ReflTransGen.trans h₁ h₂

theorem Moves.tail (h : Moves guard move s t) (hg : guard t a) (hm : move t a u) :
    Moves guard move s u := Relation.ReflTransGen.tail h ⟨a, hg, hm⟩

theorem Moves.single (hg : guard s a) (hm : move s a t) : Moves guard move s t :=
  Moves.refl.tail hg hm

/-- A property of the first state that each move preserves holds of every state reached. -/
theorem Moves.invariant {P : σ → Prop} (h : Moves guard move s t) (hs : P s)
    (hmove : ∀ v a w, P v → guard v a → move v a w → P w) : P t := by
  induction h with
  | refl => exact hs
  | tail _ hvw ih =>
      obtain ⟨a, hg, ha⟩ := hvw
      exact hmove _ a _ ih hg ha

/-- A reflexive and transitive relation each move respects relates the ends of every run. -/
theorem Moves.relates {R : σ → σ → Prop} (h : Moves guard move s t)
    (hrefl : ∀ v, R v v) (htrans : ∀ {u v w}, R u v → R v w → R u w)
    (hmove : ∀ v a w, guard v a → move v a w → R v w) : R s t := by
  induction h with
  | refl => exact hrefl _
  | tail _ hvw ih =>
      obtain ⟨a, hg, ha⟩ := hvw
      exact htrans ih (hmove _ a _ hg ha)

/-- A narrower guard reaches no further. -/
theorem Moves.mono (h : Moves guard move s t) (hg : ∀ v a, guard v a → guard' v a) :
    Moves guard' move s t := by
  refine h.relates (fun _ => .refl) Moves.trans ?_
  exact fun v a w ha hm => .single (hg v a ha) hm

/-- The actions of a list, each admitted in the state the ones before it lead to. -/
def Admitted (guard : σ → α → Prop) (apply : σ → α → σ) : σ → List α → Prop
  | _, [] => True
  | s, a :: actions => guard s a ∧ Admitted guard apply (apply s a) actions

instance decidableAdmitted (apply : σ → α → σ) [∀ s a, Decidable (guard s a)] :
    ∀ (s : σ) (actions : List α), Decidable (Admitted guard apply s actions)
  | _, [] => inferInstanceAs (Decidable True)
  | s, a :: actions =>
    have := decidableAdmitted apply (apply s a) actions
    inferInstanceAs (Decidable (guard s a ∧ Admitted guard apply (apply s a) actions))

/-- Where the actions of an admitted list lead is reached. -/
theorem Moves.of_admitted {apply : σ → α → σ} {actions : List α}
    (h : Admitted guard apply s actions) :
    Moves guard (fun s a s' => s' = apply s a) s (actions.foldl apply s) := by
  induction actions generalizing s with
  | nil => exact .refl
  | cons a actions ih =>
      obtain ⟨hg, hrest⟩ := h
      exact (Moves.single hg rfl).trans (ih hrest)

end Moves

section Reaches

variable {guard guard' : σ → α → Prop} {step : σ → α → Option σ} {s t u : σ}

theorem Reaches.refl : Reaches guard step s s := Moves.refl

theorem Reaches.trans (h₁ : Reaches guard step s t) (h₂ : Reaches guard step t u) :
    Reaches guard step s u := Moves.trans h₁ h₂

theorem Reaches.tail {a : α} (h : Reaches guard step s t) (hg : guard t a)
    (ht : step t a = some u) : Reaches guard step s u := Moves.tail h hg ht

theorem Reaches.invariant {P : σ → Prop} (h : Reaches guard step s t) (hs : P s)
    (hstep : ∀ v a w, P v → guard v a → step v a = some w → P w) : P t :=
  Moves.invariant h hs hstep

theorem Reaches.relates {R : σ → σ → Prop} (h : Reaches guard step s t)
    (hrefl : ∀ v, R v v) (htrans : ∀ {u v w}, R u v → R v w → R u w)
    (hstep : ∀ v a w, guard v a → step v a = some w → R v w) : R s t :=
  Moves.relates h hrefl htrans hstep

/-- The actions of a list that runs to its end, each admitted wherever it is made. -/
theorem Reaches.of_foldlM {actions : List α} (hg : ∀ v a, guard v a)
    (h : actions.foldlM step s = some t) : Reaches guard step s t := by
  induction actions generalizing s with
  | nil => exact Option.some.inj h ▸ .refl
  | cons a actions ih =>
      rw [List.foldlM_cons] at h
      obtain ⟨v, hv, hrest⟩ := Option.bind_eq_some_iff.mp h
      exact (Reaches.refl.tail (hg s a) hv).trans (ih hrest)

/-- The actions of a list that runs to its end, each made only where it is admitted. -/
theorem Reaches.of_guarded [∀ s a, Decidable (guard s a)] {actions : List α}
    (h : actions.foldlM (fun s a => if guard s a then step s a else none) s = some t) :
    Reaches guard step s t := by
  induction actions generalizing s with
  | nil => exact Option.some.inj h ▸ .refl
  | cons a actions ih =>
      rw [List.foldlM_cons] at h
      obtain ⟨v, hv, hrest⟩ := Option.bind_eq_some_iff.mp h
      split_ifs at hv with hg
      exact (Reaches.refl.tail hg hv).trans (ih hrest)

theorem Reaches.mono (h : Reaches guard step s t) (hg : ∀ v a, guard v a → guard' v a) :
    Reaches guard' step s t := Moves.mono h hg

end Reaches

end Arthome.Library
