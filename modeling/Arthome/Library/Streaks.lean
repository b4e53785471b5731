import Mathlib.Data.List.Basic
import Mathlib.Data.List.Induction

/-!
# The last streak of a list

Entries are either seen, at an instant, or not. The last streak of a list is its longest end
of seen entries; it starts at the instant its first entry was seen at. The start is kept by a
register that an entry not seen clears and a seen one fills when it is empty.
-/

namespace Arthome.Library

variable {α τ : Type} {seen : α → Option τ}

/-- The register after one more entry. -/
def streakAfter (seen : α → Option τ) (since : Option τ) (a : α) : Option τ :=
  (seen a).map fun t => since.getD t

/-- The instant the last streak starts at, nothing when the last entry is not seen. -/
def streakStart (seen : α → Option τ) (entries : List α) : Option τ :=
  entries.foldl (streakAfter seen) none

@[simp] theorem streakStart_nil : streakStart seen [] = none := rfl

theorem streakStart_concat (entries : List α) (a : α) :
    streakStart seen (entries ++ [a]) = streakAfter seen (streakStart seen entries) a := by
  unfold streakStart
  rw [List.foldl_append, List.foldl_cons, List.foldl_nil]

/-- What a streak started at `t` is: seen entries to the end, the first at `t`, none before it. -/
def IsLastStreak (seen : α → Option τ) (entries : List α) (t : τ) : Prop :=
  ∃ before first rest, entries = before ++ first :: rest ∧ seen first = some t ∧
    (∀ a ∈ rest, seen a ≠ none) ∧ ∀ a ∈ before.getLast?, seen a = none

/-- One more entry carries the streak on, or starts one where there was none. -/
theorem isLastStreak_concat {entries : List α} {a : α} {t : τ} :
    IsLastStreak seen (entries ++ [a]) t ↔ (IsLastStreak seen entries t ∧ seen a ≠ none) ∨
      ((∀ b ∈ entries.getLast?, seen b = none) ∧ seen a = some t) := by
  constructor
  · rintro ⟨before, first, rest, hentries, hfirst, hrest, hbefore⟩
    induction rest using List.reverseRecOn with
    | nil =>
        obtain ⟨hsame, hlast⟩ := List.append_inj' hentries rfl
        rw [List.singleton_inj.mp hlast, hsame]
        exact .inr ⟨hbefore, hfirst⟩
    | append_singleton rest last _ =>
        rw [← List.cons_append, ← List.append_assoc] at hentries
        obtain ⟨hsame, hlast⟩ := List.append_inj' hentries rfl
        rw [List.forall_mem_append] at hrest
        refine .inl ⟨⟨before, first, rest, hsame, hfirst, hrest.1, hbefore⟩, ?_⟩
        rw [List.singleton_inj.mp hlast]
        exact hrest.2 last (List.mem_singleton_self last)
  · rintro (⟨⟨before, first, rest, rfl, hfirst, hrest, hbefore⟩, ha⟩ | ⟨hlast, ha⟩)
    · refine ⟨before, first, rest ++ [a], by simp, hfirst, ?_, hbefore⟩
      rw [List.forall_mem_append, List.forall_mem_singleton]
      exact ⟨hrest, ha⟩
    · exact ⟨entries, a, [], rfl, ha, by simp, hlast⟩

/-- The register is empty exactly when the last entry is not seen. -/
theorem streakStart_eq_none_iff {entries : List α} :
    streakStart seen entries = none ↔ ∀ a ∈ entries.getLast?, seen a = none := by
  induction entries using List.reverseRecOn with
  | nil => simp
  | append_singleton entries a _ =>
      rw [streakStart_concat, List.getLast?_concat]
      simp [streakAfter]

/-- The register holds the instant the last streak starts at. -/
theorem streakStart_eq_some_iff {entries : List α} {t : τ} :
    streakStart seen entries = some t ↔ IsLastStreak seen entries t := by
  induction entries using List.reverseRecOn generalizing t with
  | nil =>
      refine ⟨fun h => (nomatch h), ?_⟩
      rintro ⟨before, first, rest, hentries, -⟩
      simp at hentries
  | append_singleton entries a ih =>
      rw [streakStart_concat, isLastStreak_concat, ← ih, ← streakStart_eq_none_iff]
      unfold streakAfter
      cases seen a with
      | none => simp
      | some instant =>
          cases streakStart seen entries with
          | none => simp
          | some since => simp

end Arthome.Library
