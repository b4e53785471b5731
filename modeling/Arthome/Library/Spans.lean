import Mathlib

/-!
# Spans of time

Time is counted in whole units: a span holds the units from its start up to its
end, and an amount of time is a number of units. Spans that are in order and do
not meet cover as much of another span as their overlaps with it add up to, so a
sum of overlaps and a number of units covered are two readings of one quantity.
-/

namespace Arthome.Library

/-- Closed at its start, open at its end. -/
structure Span where
  startsAt : ℤ
  endsAt : ℤ
  deriving Repr, DecidableEq

namespace Span

/-- The units of time of a span. -/
noncomputable def units (s : Span) : Finset ℤ := Finset.Ico s.startsAt s.endsAt

/-- How long two spans overlap. -/
def overlap (s t : Span) : ℤ := max 0 (min s.endsAt t.endsAt - max s.startsAt t.startsAt)

@[simp] theorem mem_units {s : Span} {t : ℤ} : t ∈ s.units ↔ s.startsAt ≤ t ∧ t < s.endsAt :=
  Finset.mem_Ico

theorem overlap_eq_card (s t : Span) : s.overlap t = ((s.units ∩ t.units).card : ℤ) := by
  unfold overlap units
  rw [Finset.Ico_inter_Ico, Int.card_Ico]
  omega

end Span

/-- In order, each ending before the next one starts. -/
def Apart (spans : List Span) : Prop := spans.Pairwise fun s t => s.endsAt ≤ t.startsAt

/-- The units of time the spans hold. -/
noncomputable def covered (spans : List Span) : Finset ℤ := spans.foldr (fun s units => s.units ∪ units) ∅

@[simp] theorem covered_nil : covered [] = ∅ := rfl

@[simp] theorem covered_cons (s : Span) (spans : List Span) :
    covered (s :: spans) = s.units ∪ covered spans := rfl

@[simp] theorem mem_covered {spans : List Span} {t : ℤ} :
    t ∈ covered spans ↔ ∃ s ∈ spans, s.startsAt ≤ t ∧ t < s.endsAt := by
  induction spans with
  | nil => simp
  | cons s spans ih => simp [ih]

theorem covered_append (spans later : List Span) :
    covered (spans ++ later) = covered spans ∪ covered later := by
  induction spans with
  | nil => simp
  | cons s spans ih => rw [List.cons_append, covered_cons, covered_cons, ih, Finset.union_assoc]

/-- The overlaps of a span with spans apart add up to what these cover of it. -/
theorem sum_overlap (s : Span) {spans : List Span} (h : Apart spans) :
    (spans.map s.overlap).sum = ((s.units ∩ covered spans).card : ℤ) := by
  induction spans with
  | nil => simp
  | cons t spans ih =>
      obtain ⟨hfirst, hrest⟩ := List.pairwise_cons.mp h
      have hdisjoint : Disjoint (s.units ∩ t.units) (s.units ∩ covered spans) := by
        rw [Finset.disjoint_left]
        intro unit hunit hlater
        rw [Finset.mem_inter, Span.mem_units, Span.mem_units] at hunit
        rw [Finset.mem_inter, mem_covered] at hlater
        obtain ⟨-, later, hmem, hstarts, -⟩ := hlater
        have hbefore := hfirst later hmem
        omega
      rw [List.map_cons, List.sum_cons, ih hrest, s.overlap_eq_card, covered_cons,
        Finset.inter_union_distrib_left, Finset.card_union_of_disjoint hdisjoint]
      exact (Nat.cast_add _ _).symm

end Arthome.Library
