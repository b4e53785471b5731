import Mathlib

/-!
# Keeping the highest

The members of a finite set of a linear order ask in turn whether they may stay. One
with at least `a` members above it leaves, any other stays. Once each has asked,
whatever the order and however often, the `a` highest are left, or all of them when
there are fewer.
-/

namespace Arthome.Library

variable {α : Type} [LinearOrder α] {a : ℕ} {s : Finset α} {x y : α}

/-- The members above `x`. -/
def above (s : Finset α) (x : α) : ℕ := (s.filter fun y => x < y).card

/-- The `a` highest members. -/
def top (a : ℕ) (s : Finset α) : Finset α := s.filter fun x => above s x < a

/-- `x` asks to stay. -/
def ask (a : ℕ) (s : Finset α) (x : α) : Finset α := if above s x < a then s else s.erase x

theorem top_subset : top a s ⊆ s := Finset.filter_subset _ _

theorem mem_top : x ∈ top a s ↔ x ∈ s ∧ above s x < a := Finset.mem_filter

theorem ask_subset : ask a s x ⊆ s := by
  unfold ask
  split_ifs
  · exact Finset.Subset.refl s
  · exact Finset.erase_subset x s

/-- The members above `x`, `y` among them or not. -/
theorem above_eq_above_erase (hy : y ∈ s) :
    above s x = above (s.erase y) x + if x < y then 1 else 0 := by
  unfold above
  rw [Finset.filter_erase]
  split_ifs with hlt
  · have hmem : y ∈ s.filter fun z => x < z := Finset.mem_filter.mpr ⟨hy, hlt⟩
    exact (Finset.card_erase_add_one hmem).symm
  · have hnot : y ∉ s.filter fun z => x < z := fun h => hlt (Finset.mem_filter.mp h).2
    rw [Finset.erase_eq_of_notMem hnot, Nat.add_zero]

/-- Fewer members are above a higher one. -/
theorem above_lt_above (hy : y ∈ s) (hlt : x < y) : above s y < above s x := by
  apply Finset.card_lt_card
  rw [Finset.ssubset_iff_of_subset]
  · exact ⟨y, Finset.mem_filter.mpr ⟨hy, hlt⟩, fun h => lt_irrefl y (Finset.mem_filter.mp h).2⟩
  · intro z hz
    obtain ⟨hmem, hyz⟩ := Finset.mem_filter.mp hz
    exact Finset.mem_filter.mpr ⟨hmem, hlt.trans hyz⟩

/-- One that leaves takes no place among the highest. -/
theorem top_ask (hx : x ∈ s) : top a (ask a s x) = top a s := by
  unfold ask
  split_ifs with hstays
  · rfl
  · ext y
    rw [mem_top, mem_top, Finset.mem_erase]
    have habove := above_eq_above_erase (x := y) hx
    by_cases hlt : y < x
    · have hmore := above_lt_above hx hlt
      rw [if_pos hlt] at habove
      constructor
      · rintro ⟨_, hfew⟩
        omega
      · rintro ⟨_, hfew⟩
        omega
    · rw [if_neg hlt] at habove
      constructor
      · rintro ⟨⟨_, hmem⟩, hfew⟩
        exact ⟨hmem, by omega⟩
      · rintro ⟨hmem, hfew⟩
        refine ⟨⟨?_, hmem⟩, by omega⟩
        rintro rfl
        exact hstays hfew

theorem ask_of_notMem (hx : x ∉ s) : ask a s x = s := by
  unfold ask
  rw [Finset.erase_eq_of_notMem hx, ite_self]

theorem top_foldl_ask (xs : List α) (s : Finset α) : top a (xs.foldl (ask a) s) = top a s := by
  induction xs generalizing s with
  | nil => rfl
  | cons x xs ih =>
      rw [List.foldl_cons, ih]
      by_cases hx : x ∈ s
      · exact top_ask hx
      · rw [ask_of_notMem hx]

theorem foldl_ask_subset (xs : List α) (s : Finset α) : xs.foldl (ask a) s ⊆ s := by
  induction xs generalizing s with
  | nil => exact Finset.Subset.refl s
  | cons x xs ih => exact (ih (ask a s x)).trans ask_subset

/-- One that asked and is left is among the highest. -/
theorem mem_top_of_mem_foldl_ask {xs : List α} {s : Finset α} (hasked : x ∈ xs)
    (hleft : x ∈ xs.foldl (ask a) s) : x ∈ top a s := by
  induction xs generalizing s with
  | nil => cases hasked
  | cons y xs ih =>
      rcases List.mem_cons.mp hasked with rfl | hlater
      · have hstayed : x ∈ ask a s x := foldl_ask_subset xs _ hleft
        unfold ask at hstayed
        split_ifs at hstayed with hfew
        · exact mem_top.mpr ⟨hstayed, hfew⟩
        · exact absurd rfl (Finset.mem_erase.mp hstayed).1
      · have htop := ih hlater hleft
        by_cases hy : y ∈ s
        · rwa [top_ask hy] at htop
        · rwa [ask_of_notMem hy] at htop

/-- Once each that is left has asked, the highest are left, whatever the order. -/
theorem foldl_ask_eq_top {xs : List α} {s : Finset α}
    (hasked : ∀ x ∈ xs.foldl (ask a) s, x ∈ xs) : xs.foldl (ask a) s = top a s := by
  apply Finset.Subset.antisymm
  · intro x hleft
    exact mem_top_of_mem_foldl_ask (hasked x hleft) hleft
  · rw [← top_foldl_ask xs s]
    exact top_subset

/-- The highest number `a`, or all the members when there are fewer. -/
theorem card_top (a : ℕ) (s : Finset α) : (top a s).card = min a s.card := by
  induction s using Finset.induction_on_min with
  | empty => simp [top]
  | insert m s hmin ih =>
      have hm : m ∉ s := fun h => lt_irrefl m (hmin m h)
      have hlowest : above (insert m s) m = s.card := by
        unfold above
        rw [Finset.filter_insert, if_neg (lt_irrefl m), Finset.filter_true_of_mem hmin]
      have hrest : ∀ x ∈ s, above (insert m s) x = above s x := by
        intro x hx
        unfold above
        rw [Finset.filter_insert, if_neg (not_lt.mpr (hmin x hx).le)]
      have htop : top a (insert m s) = if s.card < a then insert m (top a s) else top a s := by
        unfold top
        rw [Finset.filter_insert, hlowest]
        have hsame : s.filter (fun x => above (insert m s) x < a) =
            s.filter (fun x => above s x < a) := by
          apply Finset.filter_congr
          intro x hx
          rw [hrest x hx]
        rw [hsame]
      rw [htop, Finset.card_insert_of_notMem hm]
      split_ifs with hfew
      · rw [Finset.card_insert_of_notMem (fun h => hm (top_subset h)), ih]
        omega
      · rw [ih]
        omega

end Arthome.Library
