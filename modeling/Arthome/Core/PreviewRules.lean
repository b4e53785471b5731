import Arthome.Core.RunRules
import Arthome.Library.Spans

/-!
# Core's rules for a preview

What `@arthome/core` computes for a preview: the time a window spends on air, the
seconds left of the budget, and how far a token reaches. `LawfulPreviewRules` is
what the results rely on: the spent time of spans in order that do not meet is
the sum of their overlaps with the window, what is left is the budget less what
is spent, and a token never reaches past what is left. Any lifetime of a token
is allowed for.
-/

namespace Arthome.Core

open Library

/-- A stretch of time. -/
abbrev Window := Span

def windowOf (startsAt endsAt : Instant) : Window := ⟨startsAt, endsAt⟩

/-- What core computes for a preview. -/
class PreviewRules extends RunRules where
  isBefore : Instant → Instant → Bool
  earliest : Instant → Instant → Instant
  latest : Instant → Instant → Instant
  /-- The milliseconds of a window inside spans in order that do not meet. -/
  previewMsSpent : Window → List Window → ℤ
  previewBudgetSeconds : ℤ
  /-- The seconds left, of those spent. -/
  previewSecondsLeft : ℤ → ℤ
  /-- The instant a preview token lasts to, of the seconds left. -/
  previewTokenExpiresAt : Instant → ℤ → Instant
  playbackTokenExpiresAt : Instant → Instant

/-- What the code relies on core for. -/
class LawfulPreviewRules [PreviewRules] : Prop extends LawfulRunRules where
  isBefore_iff (a b : Instant) : PreviewRules.isBefore a b = true ↔ a < b
  earliest_eq (a b : Instant) : PreviewRules.earliest a b = min a b
  latest_eq (a b : Instant) : PreviewRules.latest a b = max a b
  previewMsSpent_eq (window : Window) (spans : List Window) (h : Apart spans) :
    PreviewRules.previewMsSpent window spans = (spans.map window.overlap).sum
  previewBudget_nonneg : 0 ≤ PreviewRules.previewBudgetSeconds
  previewSecondsLeft_eq (spent : ℤ) :
    PreviewRules.previewSecondsLeft spent = max 0 (PreviewRules.previewBudgetSeconds - spent)
  previewTokenExpiresAt_le (now : Instant) (left : ℤ) (h : 0 < left) :
    PreviewRules.previewTokenExpiresAt now left ≤ now + 1000 * left

namespace Sample

scoped instance previewRules : PreviewRules where
  isBefore a b := decide (a < b)
  earliest a b := min a b
  latest a b := max a b
  previewMsSpent window spans := (spans.map window.overlap).sum
  previewBudgetSeconds := 300
  previewSecondsLeft spent := max 0 (300 - spent)
  previewTokenExpiresAt now left := now + 1000 * min 120 left
  playbackTokenExpiresAt now := now + 120000

scoped instance lawfulPreviewRules : LawfulPreviewRules where
  toLawfulRunRules := lawfulRunRules
  isBefore_iff a b := by simp [PreviewRules.isBefore]
  earliest_eq _ _ := rfl
  latest_eq _ _ := rfl
  previewMsSpent_eq _ _ _ := rfl
  previewBudget_nonneg := by decide
  previewSecondsLeft_eq _ := rfl
  previewTokenExpiresAt_le now left _ := by
    have hleft : 1000 * min 120 left ≤ 1000 * left :=
      Int.mul_le_mul_of_nonneg_left (min_le_right _ _) (by decide)
    exact Int.add_le_add_left hleft now

end Sample

end Arthome.Core
