import Mathlib.Data.List.Chain
import Mathlib.Tactic.Linarith

/-!
# Passes over what is due

A pass takes the first items of an order, up to a batch. What it passes over comes
no earlier than anything it takes, and only when the batch is full. A source that
states itself at most once a gap, unless a mark it carries has changed, keeps any
two statements a gap apart, unless the mark changed between them.
-/

namespace Arthome.Library

section Batches

variable {α : Type} {le : α → α → Bool} {a : α}

/-- An item is taken, or the batch is full of items that come no later. -/
theorem mem_take_mergeSort_or_full (htrans : ∀ a b c, le a b → le b c → le a c)
    (htotal : ∀ a b, le a b || le b a) {items : List α} (h : a ∈ items) (n : ℕ) :
    a ∈ (items.mergeSort le).take n ∨
      ((items.mergeSort le).take n).length = n ∧ ∀ b ∈ (items.mergeSort le).take n, le b a := by
  have hsorted := List.pairwise_mergeSort htrans htotal items
  have hmem : a ∈ items.mergeSort le := List.mem_mergeSort.mpr h
  rw [← List.take_append_drop n (items.mergeSort le)] at hsorted hmem
  rcases List.mem_append.mp hmem with htaken | hleft
  · exact .inl htaken
  · refine .inr ⟨?_, fun b hb => (List.pairwise_append.mp hsorted).2.2 b hb a hleft⟩
    have hlong : n < (items.mergeSort le).length := by
      by_contra hshort
      rw [List.drop_eq_nil_of_le (not_lt.mp hshort)] at hleft
      cases hleft
    exact List.length_take_of_le hlong.le

end Batches

section Gaps

variable {α β : Type} (time : α → ℤ) (mark : α → β) (gap : ℤ)

/-- A statement after another: a gap later, or with another mark. -/
def Spaced (later earlier : α) : Prop :=
  time earlier + gap ≤ time later ∨ mark later ≠ mark earlier

/-- Any two statements, the latest first, are a gap apart unless the mark changed between them. -/
theorem gap_or_changed (hgap : 0 ≤ gap) {later earlier : α} {between older : List α}
    (h : (later :: (between ++ earlier :: older)).IsChain (Spaced time mark gap)) :
    time earlier + gap ≤ time later ∨ ∃ a ∈ later :: between, mark a ≠ mark earlier := by
  induction between generalizing later with
  | nil =>
      rw [List.nil_append, List.isChain_cons_cons] at h
      rcases h.1 with happart | hchanged
      · exact .inl happart
      · exact .inr ⟨later, by simp, hchanged⟩
  | cons next between ih =>
      rw [List.cons_append, List.isChain_cons_cons] at h
      rcases ih h.2 with hrest | ⟨a, ha, hchanged⟩
      · rcases h.1 with happart | hchanged
        · left
          linarith
        · right
          by_cases hnext : mark next = mark earlier
          · exact ⟨later, by simp, hnext ▸ hchanged⟩
          · exact ⟨next, by simp, hnext⟩
      · exact .inr ⟨a, List.mem_cons_of_mem later ha, hchanged⟩

end Gaps

end Arthome.Library
