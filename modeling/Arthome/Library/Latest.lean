import Mathlib

/-!
# The latest statement wins

A register of a state keeps what was stated last: a statement carries the stamp it
was made at, and one older than the stamp kept is passed over. Statements arrive in
any order and more than once. What the register holds in the end depends on which
statements arrived, never on how they did.
-/

namespace Arthome.Library

variable {σ τ α : Type}

/-- A part of a state, written whole by a stamped statement. -/
structure Register (σ τ α : Type) where
  stamp : σ → Option τ
  write : σ → τ → α → σ
  stamp_write (s : σ) (t : τ) (a : α) : stamp (write s t a) = some t
  write_write (s : σ) (t u : τ) (a b : α) : write (write s t a) u b = write s u b

namespace Register

variable [LinearOrder τ] (r : Register σ τ α) {s : σ} {fact fact' : τ × α}
  {facts facts' : List (τ × α)}

/-- The statement is older than what the register keeps. -/
def isOlder (s : σ) (fact : τ × α) : Bool := (r.stamp s).any fun kept => decide (fact.1 < kept)

/-- An older statement never overwrites a newer one. -/
def deliver (s : σ) (fact : τ × α) : σ :=
  if r.isOlder s fact then s else r.write s fact.1 fact.2

theorem isOlder_iff : r.isOlder s fact = true ↔ ∃ kept, r.stamp s = some kept ∧ fact.1 < kept := by
  unfold isOlder
  cases r.stamp s <;> simp

/-- A delivered statement leaves a stamp no older than its own. -/
theorem exists_stamp_deliver : ∃ kept, r.stamp (r.deliver s fact) = some kept ∧ fact.1 ≤ kept := by
  unfold deliver
  split_ifs with holder
  · obtain ⟨kept, hkept, hlt⟩ := (r.isOlder_iff).mp holder
    exact ⟨kept, hkept, hlt.le⟩
  · exact ⟨fact.1, r.stamp_write s fact.1 fact.2, le_rfl⟩

/-- Once a statement is delivered, an older one is passed over. -/
theorem deliver_deliver_of_older (h : fact'.1 < fact.1) :
    r.deliver (r.deliver s fact) fact' = r.deliver s fact := by
  have hkept : ∃ kept, r.stamp (r.deliver s fact) = some kept ∧ fact.1 ≤ kept :=
    r.exists_stamp_deliver
  obtain ⟨kept, hkept, hle⟩ := hkept
  rw [deliver, if_pos]
  exact r.isOlder_iff.mpr ⟨kept, hkept, h.trans_le hle⟩

/-- A statement no older than the one before it makes up for it. -/
theorem deliver_deliver_of_newer (h : fact.1 ≤ fact'.1) :
    r.deliver (r.deliver s fact) fact' = r.deliver s fact' := by
  by_cases holder : r.isOlder s fact = true
  · rw [show r.deliver s fact = s from if_pos holder]
  · have hfirst : r.deliver s fact = r.write s fact.1 fact.2 := if_neg holder
    have hsecond : r.isOlder s fact' = false := by
      rw [← Bool.not_eq_true, isOlder_iff]
      rintro ⟨kept, hkept, hlt⟩
      exact holder (r.isOlder_iff.mpr ⟨kept, hkept, h.trans_lt hlt⟩)
    have hafter : r.isOlder (r.write s fact.1 fact.2) fact' = false := by
      rw [← Bool.not_eq_true, isOlder_iff]
      rintro ⟨kept, hkept, hlt⟩
      rw [r.stamp_write] at hkept
      exact absurd (Option.some.inj hkept ▸ h) (not_le.mpr hlt)
    rw [hfirst]
    unfold deliver
    rw [hsecond, hafter]
    exact r.write_write s fact.1 fact'.1 fact.2 fact'.2

/-- The statement every other one is older than. -/
def IsLatest (facts : List (τ × α)) (fact : τ × α) : Prop :=
  fact ∈ facts ∧ ∀ other ∈ facts, other.1 < fact.1 ∨ other = fact

theorem foldl_deliver_of_older (h : ∀ other ∈ facts, other.1 < fact.1) :
    facts.foldl r.deliver (r.deliver s fact) = r.deliver s fact := by
  induction facts with
  | nil => rfl
  | cons other facts ih =>
      rw [List.foldl_cons, r.deliver_deliver_of_older (h other List.mem_cons_self)]
      exact ih fun other' hother' => h other' (List.mem_cons_of_mem other hother')

/-- However the statements arrive, the latest alone decides. -/
theorem foldl_deliver_of_isLatest (h : IsLatest facts fact) :
    facts.foldl r.deliver s = r.deliver s fact := by
  induction facts generalizing s with
  | nil => exact absurd h.1 List.not_mem_nil
  | cons other facts ih =>
      obtain ⟨hmem, hlatest⟩ := h
      rw [List.foldl_cons]
      by_cases hlater : fact ∈ facts
      · rw [ih ⟨hlater, fun other' hother' => hlatest other' (List.mem_cons_of_mem other hother')⟩]
        rcases hlatest other List.mem_cons_self with hlt | rfl
        · exact r.deliver_deliver_of_newer hlt.le
        · exact r.deliver_deliver_of_newer le_rfl
      · obtain rfl : fact = other := (List.mem_cons.mp hmem).resolve_right hlater
        apply r.foldl_deliver_of_older
        intro other' hother'
        rcases hlatest other' (List.mem_cons_of_mem fact hother') with hlt | rfl
        · exact hlt
        · exact absurd hother' hlater

/-- Statements under distinct stamps have a latest, unless there are none. -/
theorem exists_isLatest (hne : facts ≠ [])
    (hstamps : ∀ fact ∈ facts, ∀ fact' ∈ facts, fact.1 = fact'.1 → fact = fact') :
    ∃ fact, IsLatest facts fact := by
  induction facts with
  | nil => exact absurd rfl hne
  | cons other facts ih =>
      by_cases hrest : facts = []
      · exact ⟨other, List.mem_cons_self, by simp [hrest]⟩
      · obtain ⟨latest, hmem, hlatest⟩ := ih hrest fun fact hfact fact' hfact' =>
          hstamps fact (List.mem_cons_of_mem other hfact) fact' (List.mem_cons_of_mem other hfact')
        rcases lt_trichotomy other.1 latest.1 with hlt | heq | hgt
        · refine ⟨latest, List.mem_cons_of_mem other hmem, ?_⟩
          rw [List.forall_mem_cons]
          exact ⟨.inl hlt, hlatest⟩
        · have hsame := hstamps other List.mem_cons_self latest (List.mem_cons_of_mem other hmem) heq
          refine ⟨latest, List.mem_cons_of_mem other hmem, ?_⟩
          rw [List.forall_mem_cons]
          exact ⟨.inr hsame, hlatest⟩
        · refine ⟨other, List.mem_cons_self, ?_⟩
          rw [List.forall_mem_cons]
          refine ⟨.inr rfl, fun fact hfact => .inl ?_⟩
          rcases hlatest fact hfact with hlt | rfl
          · exact hlt.trans hgt
          · exact hgt

/-- Statements under distinct stamps converge: any order, any number of times. -/
theorem foldl_deliver_congr
    (hstamps : ∀ fact ∈ facts, ∀ fact' ∈ facts, fact.1 = fact'.1 → fact = fact')
    (hsame : ∀ fact, fact ∈ facts ↔ fact ∈ facts') :
    facts.foldl r.deliver s = facts'.foldl r.deliver s := by
  by_cases hne : facts = []
  · have hnone : facts' = [] := by
      rw [List.eq_nil_iff_forall_not_mem]
      intro fact hfact
      rw [← hsame, hne] at hfact
      exact List.not_mem_nil hfact
    rw [hne, hnone]
  · obtain ⟨latest, hmem, hlatest⟩ := exists_isLatest hne hstamps
    have hlatest' : IsLatest facts' latest :=
      ⟨(hsame latest).mp hmem, fun other hother => hlatest other ((hsame other).mpr hother)⟩
    rw [r.foldl_deliver_of_isLatest ⟨hmem, hlatest⟩, r.foldl_deliver_of_isLatest hlatest']

/-- The columns a statement writes, under its stamp. -/
def ofColumns {γ : Type} (columns : α → γ) : Register (Option τ × γ) τ α where
  stamp kept := kept.1
  write _ t a := (some t, columns a)
  stamp_write _ _ _ := rfl
  write_write _ _ _ _ _ := rfl

/-- A part that some of the facts state, and the others leave alone, receives their statements. -/
theorem foldl_part {ρ φ : Type} {part : ρ → σ} {states : φ → Option (τ × α)}
    {after : ρ → φ → ρ}
    (hstated : ∀ row fact stated, states fact = some stated →
      part (after row fact) = r.deliver (part row) stated)
    (halone : ∀ row fact, states fact = none → part (after row fact) = part row)
    (row : ρ) (facts : List φ) :
    part (facts.foldl after row) = (facts.filterMap states).foldl r.deliver (part row) := by
  induction facts generalizing row with
  | nil => rfl
  | cons fact facts ih =>
      rw [List.foldl_cons, ih]
      cases hstates : states fact with
      | none => rw [halone row fact hstates, List.filterMap_cons_none hstates]
      | some stated =>
          rw [hstated row fact stated hstates, List.filterMap_cons_some hstates, List.foldl_cons]

end Register

end Arthome.Library
