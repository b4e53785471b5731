import Arthome.Core.WatchRules
import Arthome.Library.Table
import Arthome.Library.TopRanked

/-!
# The screens an account may hold

A lease holds a screen until it expires. An opening takes over the other screens least
recently renewed, as many as it needs to fit under the allowance; a renewal gives way
to the screens opened later.
-/

namespace Arthome.Streaming

open Arthome.Core Library

/-- An active lease of the account on the date, as the screens' decisions read it. -/
structure ScreenLease where
  id : Uuid
  deviceId : Uuid
  openedAt : Instant
  lastRenewedAt : Instant
  leaseExpiresAt : Instant
  deriving Repr, DecidableEq

/-- Still holding a screen. -/
def holdsAScreen [RunRules] (lease : ScreenLease) (now : Instant) : Bool :=
  RunRules.isAfter lease.leaseExpiresAt now

/-- The device's own unlapsed lease, which an opening on that device takes over. -/
def resumableLeaseOf [RunRules] (leases : List ScreenLease) (deviceId : Uuid) (now : Instant) :
    Option ScreenLease :=
  leases.find? fun lease => lease.deviceId = deviceId && holdsAScreen lease now

def compareIds (left right : Uuid) : ℤ :=
  if left = right then 0 else if left < right then -1 else 1

def byLeastRecentlyRenewed (left right : ScreenLease) : ℤ :=
  if left.lastRenewedAt - right.lastRenewedAt ≠ 0 then left.lastRenewedAt - right.lastRenewedAt
  else if left.openedAt - right.openedAt ≠ 0 then left.openedAt - right.openedAt
  else compareIds left.id right.id

/-- The other screens an opening takes over so that it fits under the allowance. -/
def leasesTakenOverBy (otherScreens : List ScreenLease) (allowed : ℤ) : List ScreenLease :=
  let excess := (otherScreens.length : ℤ) - max 0 (allowed - 1)
  if excess ≤ 0 then []
  else
    (otherScreens.insertionSort fun left right => byLeastRecentlyRenewed left right ≤ 0).take
      excess.toNat

def openedLater (lease than : ScreenLease) : Bool :=
  let difference := lease.openedAt - than.openedAt
  0 < difference || difference = 0 && 0 < compareIds lease.id than.id

/-- The screens opened after this one, by opening then id. -/
def newerScreensThan [RunRules] (lease : ScreenLease) (screens : List ScreenLease)
    (now : Instant) : ℕ :=
  (screens.filter fun other =>
    other.id ≠ lease.id && holdsAScreen other now && openedLater other lease).length

/-! ## Under the allowance -/

section Allowance

variable {otherScreens : List ScreenLease}

theorem leasesTakenOverBy_length (otherScreens : List ScreenLease) (allowed : ℤ) :
    ((leasesTakenOverBy otherScreens allowed).length : ℤ) =
      max 0 (otherScreens.length - max 0 (allowed - 1)) := by
  simp only [leasesTakenOverBy]
  split_ifs with hfits
  · rw [List.length_nil]
    omega
  · rw [List.length_take, List.length_insertionSort]
    omega

/-- What is left of the other screens once the opening has taken over. -/
theorem length_notTakenOver (hids : (otherScreens.map ScreenLease.id).Nodup) (allowed : ℤ) :
    ((otherScreens.filter fun other =>
        other.id ∉ (leasesTakenOverBy otherScreens allowed).map ScreenLease.id).length : ℤ) =
      otherScreens.length - (leasesTakenOverBy otherScreens allowed).length := by
  simp only [leasesTakenOverBy]
  split_ifs with hfits
  · simp
  · set sorted := otherScreens.insertionSort fun left right => byLeastRecentlyRenewed left right ≤ 0
    have hperm : sorted.Perm otherScreens := List.perm_insertionSort _ _
    have hsorted : (sorted.map ScreenLease.id).Nodup := (hperm.map _).nodup_iff.mpr hids
    rw [← (hperm.filter _).length_eq, filter_key_notMem_take hsorted, List.length_drop,
      List.length_take, hperm.length_eq]
    omega

theorem mem_of_mem_leasesTakenOverBy {lease : ScreenLease} {allowed : ℤ}
    (h : lease ∈ leasesTakenOverBy otherScreens allowed) : lease ∈ otherScreens := by
  simp only [leasesTakenOverBy] at h
  split_ifs at h
  · cases h
  · exact (List.perm_insertionSort _ _).mem_iff.mp (List.mem_of_mem_take h)

end Allowance

/-! ## Newest first -/

section Newest

/-- The rank of a lease among the screens: by opening, then id. -/
def ScreenLease.rank (lease : ScreenLease) : ℤ ×ₗ ℕ := toLex (lease.openedAt, lease.id)

theorem compareIds_pos_iff {left right : Uuid} : 0 < compareIds left right ↔ right < left := by
  unfold compareIds
  split_ifs with hsame hless
  · simp [hsame]
  · simp [hless.le]
  · have hmore : right < left := lt_of_le_of_ne (not_lt.mp hless) (Ne.symm hsame)
    simp [hmore]

theorem openedLater_iff {lease than : ScreenLease} :
    openedLater lease than = true ↔ than.rank < lease.rank := by
  unfold openedLater ScreenLease.rank
  rw [Prod.Lex.toLex_lt_toLex]
  simp only [Bool.or_eq_true, Bool.and_eq_true, decide_eq_true_eq, compareIds_pos_iff, sub_pos,
    sub_eq_zero]
  rw [eq_comm]

theorem ScreenLease.rank_injective {lease other : ScreenLease} (h : lease.rank = other.rank) :
    lease.id = other.id := by
  have hpair : (lease.openedAt, lease.id) = (other.openedAt, other.id) := toLex_inj.mp h
  exact (Prod.mk.inj hpair).2

/-- The ranks of the screens. -/
def ranksOf (screens : List ScreenLease) : Finset (ℤ ×ₗ ℕ) :=
  (screens.map ScreenLease.rank).toFinset

theorem ranks_nodup {screens : List ScreenLease} (hids : (screens.map ScreenLease.id).Nodup) :
    (screens.map ScreenLease.rank).Nodup := by
  apply List.Nodup.of_map (fun rank => (ofLex rank).2)
  rw [List.map_map]
  exact hids

/-- Among screens that all hold, the newer ones are those ranked above. -/
theorem newerScreensThan_eq [RunRules] {lease : ScreenLease} {screens : List ScreenLease}
    {now : Instant} (hmem : lease ∈ screens) (hids : (screens.map ScreenLease.id).Nodup)
    (hhold : ∀ other ∈ screens, holdsAScreen other now = true) :
    newerScreensThan lease screens now = above (ranksOf screens) lease.rank := by
  have hnewer : ∀ other ∈ screens,
      (decide (other.id ≠ lease.id) && holdsAScreen other now && openedLater other lease) =
        decide (lease.rank < other.rank) := by
    intro other hother
    rw [hhold other hother, Bool.and_true, Bool.eq_iff_iff, Bool.and_eq_true, openedLater_iff,
      decide_eq_true_eq, decide_eq_true_eq]
    constructor
    · exact fun h => h.2
    · intro hlater
      refine ⟨?_, hlater⟩
      intro hsame
      obtain rfl := List.inj_on_of_nodup_map hids hother hmem hsame
      exact lt_irrefl _ hlater
  have habove : (ranksOf screens).filter (fun rank => lease.rank < rank) =
      ((screens.map ScreenLease.rank).filter fun rank => decide (lease.rank < rank)).toFinset := by
    ext rank
    simp [ranksOf]
  unfold newerScreensThan above
  rw [List.filter_congr hnewer, habove, List.toFinset_card_of_nodup ((ranks_nodup hids).filter _),
    List.filter_map, List.length_map]
  rfl

end Newest

end Arthome.Streaming
