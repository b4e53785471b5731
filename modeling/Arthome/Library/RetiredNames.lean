import Mathlib.Data.Int.Order.Basic
import Mathlib.Logic.Function.Basic
import Mathlib.Tactic.SplitIfs

/-!
# Names that lead on after they are left

Each page holds one name at most. A page that takes another name leaves the one it held,
which is retired: it still leads to the page, and is reserved for it, until it expires. A
page takes a name only if no other holds it and none has it reserved. Then no two pages
hold one name, and a name left leads where it led for its whole period.
-/

namespace Arthome.Library

@[ext]
structure Names (π ν : Type) where
  held : π → Option ν
  /-- The page a name left, and when the name expires. -/
  retired : ν → Option (π × ℤ)

namespace Names

variable {π ν : Type}

/-- The page a retired name still leads to. -/
def reserved (names : Names π ν) (n : ν) (now : ℤ) : Option π :=
  ((names.retired n).filter fun leaving => now < leaving.2).map Prod.fst

/-- The page may take the name. -/
structure Free (names : Names π ν) (p : π) (n : ν) (now : ℤ) : Prop where
  unheld : ∀ q, names.held q = some n → q = p
  unreserved : ∀ q, names.reserved n now = some q → q = p

def Distinct (names : Names π ν) : Prop :=
  ∀ p q n, names.held p = some n → names.held q = some n → p = q

/-- A name a page held until an instant: while the period lasts, the page holds it, or no page does
and it leads to the page. -/
def LeadsOn (names : Names π ν) (period : ℤ) (p : π) (n : ν) (left clock : ℤ) : Prop :=
  clock < left + period → names.held p = some n ∨
    (∀ q, names.held q ≠ some n) ∧ ∃ expiry, left + period ≤ expiry ∧
      names.retired n = some (p, expiry)

variable [DecidableEq π] [DecidableEq ν]

/-- The page takes the name, and leaves the one it held. -/
def take (names : Names π ν) (period : ℤ) (p : π) (n : ν) (now : ℤ) : Names π ν where
  held := Function.update names.held p (some n)
  retired :=
    match names.held p with
    | some m => if m = n then names.retired else
      Function.update names.retired m (some (p, now + period))
    | none => names.retired

/-- Time passes, and one page at most takes a name free for it. -/
def Advances (period : ℤ) (names names' : Names π ν) (clock clock' : ℤ) : Prop :=
  clock ≤ clock' ∧ (names' = names ∨
    ∃ p n, names.Free p n clock' ∧ names' = names.take period p n clock')

section Rules

variable {names names' : Names π ν} {period : ℤ} {p q : π} {n m : ν} {now left clock clock' : ℤ}

omit [DecidableEq π] [DecidableEq ν] in
theorem reserved_of_retired {expiry : ℤ} (h : names.retired n = some (p, expiry))
    (hnow : now < expiry) : names.reserved n now = some p := by
  unfold reserved
  rw [h, Option.filter_some_pos (by simpa using hnow)]
  rfl

@[simp] theorem held_take_self : (names.take period p n now).held p = some n := by simp [take]

@[simp] theorem held_take_of_ne (h : q ≠ p) :
    (names.take period p n now).held q = names.held q := by simp [take, h]

theorem retired_take_left (h : names.held p = some m) (hne : m ≠ n) :
    (names.take period p n now).retired m = some (p, now + period) := by
  simp [take, h, hne]

/-- Only the name the page left is retired anew. -/
theorem retired_take_of_not_left (h : names.held p ≠ some m ∨ m = n) :
    (names.take period p n now).retired m = names.retired m := by
  unfold take
  cases hheld : names.held p with
  | none => rfl
  | some k =>
      dsimp only
      split_ifs with hk
      · rfl
      · apply Function.update_of_ne
        rintro rfl
        rcases h with h | h
        · exact h hheld
        · exact hk h

/-- A page that takes the name it holds changes nothing. -/
theorem take_of_held (h : names.held p = some n) : names.take period p n now = names := by
  apply Names.ext
  · funext q
    by_cases hqp : q = p
    · rw [hqp, held_take_self, h]
    · exact held_take_of_ne hqp
  · funext m
    apply retired_take_of_not_left
    by_cases hmn : m = n
    · exact .inr hmn
    · left
      rw [h]
      simpa [eq_comm] using hmn

theorem Distinct.take (h : names.Distinct) (hfree : ∀ q, names.held q = some n → q = p) :
    (names.take period p n now).Distinct := by
  intro q r k hq hr
  by_cases hqp : q = p
  · by_cases hrp : r = p
    · rw [hqp, hrp]
    · rw [hqp, held_take_self] at hq
      rw [held_take_of_ne hrp, ← hq] at hr
      exact absurd (hfree r hr) hrp
  · rw [held_take_of_ne hqp] at hq
    by_cases hrp : r = p
    · rw [hrp, held_take_self] at hr
      rw [← hr] at hq
      exact absurd (hfree q hq) hqp
    · rw [held_take_of_ne hrp] at hr
      exact h q r k hq hr

/-- The name a page leaves leads on to it. -/
theorem leadsOn_take_left (h : names.Distinct) (hheld : names.held p = some m) (hne : m ≠ n) :
    (names.take period p n now).LeadsOn period p m now clock := by
  intro _
  refine .inr ⟨?_, now + period, le_refl _, retired_take_left hheld hne⟩
  intro q hq
  by_cases hqp : q = p
  · rw [hqp, held_take_self] at hq
    exact hne (Option.some.inj hq).symm
  · rw [held_take_of_ne hqp] at hq
    exact hqp (h q p m hq hheld)

/-- What leads on leads on after any page takes a name free for it. -/
theorem LeadsOn.take (h : names.LeadsOn period q m left clock) (hdistinct : names.Distinct)
    (hfree : names.Free p n now) (hclock : clock ≤ now) (hleft : left ≤ now) :
    (names.take period p n now).LeadsOn period q m left now := by
  intro hperiod
  rcases h (lt_of_le_of_lt hclock hperiod) with hheld | ⟨hunheld, expiry, hexpiry, hretired⟩
  · by_cases hqp : q = p
    · subst hqp
      by_cases hmn : m = n
      · rw [hmn]
        exact .inl held_take_self
      · have hleads : (names.take period q n now).LeadsOn period q m now left :=
          leadsOn_take_left hdistinct hheld hmn
        rcases hleads (by omega) with hstill | ⟨hnone, expiry, hexpiry, hretired⟩
        · exact .inl hstill
        · exact .inr ⟨hnone, expiry, by omega, hretired⟩
    · left
      rw [held_take_of_ne hqp]
      exact hheld
  · have hkept : (names.take period p n now).retired m = some (q, expiry) := by
      rw [retired_take_of_not_left (.inl (hunheld p))]
      exact hretired
    by_cases hmn : m = n
    · subst hmn
      have hqp : q = p := hfree.unreserved q (reserved_of_retired hretired (by omega))
      rw [hqp]
      exact .inl held_take_self
    · refine .inr ⟨?_, expiry, hexpiry, hkept⟩
      intro r hr
      by_cases hrp : r = p
      · rw [hrp, held_take_self] at hr
        exact hmn (Option.some.inj hr).symm
      · rw [held_take_of_ne hrp] at hr
        exact hunheld r hr

omit [DecidableEq π] [DecidableEq ν] in
/-- Time passing alone changes nothing. -/
theorem LeadsOn.later (h : names.LeadsOn period q m left clock) (hclock : clock ≤ now) :
    names.LeadsOn period q m left now := fun hperiod => h (lt_of_le_of_lt hclock hperiod)

theorem Distinct.advances (h : names.Distinct)
    (hadvances : Advances period names names' clock clock') : names'.Distinct := by
  rcases hadvances with ⟨-, rfl | ⟨p, n, hfree, rfl⟩⟩
  · exact h
  · exact h.take hfree.unheld

theorem LeadsOn.advances (h : names.LeadsOn period q m left clock) (hdistinct : names.Distinct)
    (hleft : left ≤ clock) (hadvances : Advances period names names' clock clock') :
    names'.LeadsOn period q m left clock' := by
  rcases hadvances with ⟨hclock, rfl | ⟨p, n, hfree, rfl⟩⟩
  · exact h.later hclock
  · exact h.take hdistinct hfree hclock (le_trans hleft hclock)

/-- A name a page held and no longer holds leads on to it. -/
theorem leadsOn_of_left (h : names.Distinct)
    (hadvances : Advances period names names' clock clock') (hheld : names.held q = some m)
    (hleft : names'.held q ≠ some m) : names'.LeadsOn period q m clock' clock' := by
  rcases hadvances with ⟨-, rfl | ⟨p, n, hfree, rfl⟩⟩
  · exact absurd hheld hleft
  · by_cases hqp : q = p
    · subst hqp
      apply leadsOn_take_left h hheld
      rintro rfl
      exact hleft held_take_self
    · rw [held_take_of_ne hqp] at hleft
      exact absurd hheld hleft

end Rules

end Names

end Arthome.Library
