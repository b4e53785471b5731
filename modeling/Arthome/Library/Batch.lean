import Mathlib.Data.List.Nodup

/-!
# A batch of writes, each to its own place

A loop over items writes, for each, at the place the item names and nowhere else.
When no two items name one place, what the loop leaves at a place is what the one
item that names it writes there, whatever the others do and in whatever order.
-/

namespace Arthome.Library

variable {σ κ ι α : Type} {view : σ → κ → α} {place : ι → κ} {write : σ → ι → σ}
  {items : List ι}

/-- A place no item names is left as it was. -/
theorem view_foldl_of_not_mem
    (hother : ∀ s i k, k ≠ place i → view (write s i) k = view s k) {k : κ}
    (hk : k ∉ items.map place) (s : σ) : view (items.foldl write s) k = view s k := by
  induction items generalizing s with
  | nil => rfl
  | cons i items ih =>
      rw [List.map_cons, List.mem_cons, not_or] at hk
      rw [List.foldl_cons, ih hk.2, hother s i k hk.1]

/-- A place one item names is left as that item writes it. -/
theorem view_foldl_of_mem {f : ι → α → α}
    (hself : ∀ s i, view (write s i) (place i) = f i (view s (place i)))
    (hother : ∀ s i k, k ≠ place i → view (write s i) k = view s k)
    (hplaces : (items.map place).Nodup) {i : ι} (hi : i ∈ items) (s : σ) :
    view (items.foldl write s) (place i) = f i (view s (place i)) := by
  induction items generalizing s with
  | nil => cases hi
  | cons j items ih =>
      rw [List.map_cons, List.nodup_cons] at hplaces
      rw [List.foldl_cons]
      rcases List.mem_cons.mp hi with rfl | hlater
      · rw [view_foldl_of_not_mem hother hplaces.1, hself]
      · have hne : place i ≠ place j := by
          intro hsame
          exact hplaces.1 (hsame ▸ List.mem_map_of_mem hlater)
        rw [ih hplaces.2 hlater, hother s j _ hne]

end Arthome.Library
