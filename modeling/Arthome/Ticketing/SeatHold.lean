import Arthome.Core.SalesRules
import Arthome.Library.Checked

/-!
# The hold of seats

The capacity a purchase carries until it is paid. Its seats left the date's
counters in the statement that placed it. Consuming and releasing it each happen
once, from `active`, as its expiry does, which is the sweeper's.
-/

namespace Arthome.Ticketing

open Arthome.Core Library

structure SeatHoldPlacement where
  id : Uuid
  dateId : Uuid
  accountId : Option Uuid
  profileId : Option Uuid
  tier : PriceTier
  quantity : ℕ
  origin : SeatHoldOrigin
  originRef : Uuid
  intentExpiresAt : Instant
  deriving Repr, DecidableEq

structure SeatHoldSnapshot where
  id : Uuid
  dateId : Uuid
  accountId : Option Uuid
  profileId : Option Uuid
  tier : PriceTier
  quantity : ℕ
  /-- Of `quantity`, the seats drawn from the priority pool, written by the statement that took
  them. -/
  poolSeats : ℤ
  origin : SeatHoldOrigin
  originRef : Uuid
  /-- The intent's own expiry, one instant for both. -/
  expiresAt : Instant
  state : SeatHoldState
  version : ℕ
  deriving Repr, DecidableEq

/-- The state as error texts spell it. -/
def holdStateText : SeatHoldState → String
  | .active => "active"
  | .consumed => "consumed"
  | .released => "released"
  | .expired => "expired"

namespace SeatHold

def place [SalesRules] (placement : SeatHoldPlacement) : Except Refusal SeatHoldSnapshot := do
  let terms ← SalesRules.holdFor placement.quantity placement.intentExpiresAt
  return {
    id := placement.id
    dateId := placement.dateId
    accountId := placement.accountId
    profileId := placement.profileId
    tier := placement.tier
    quantity := terms.quantity
    poolSeats := 0
    origin := placement.origin
    originRef := placement.originRef
    expiresAt := terms.expiresAt
    state := .active
    version := 1 }

/-- Active, whatever its instant: one past its expiry still carries its seats. -/
def isActive (hold : SeatHoldSnapshot) : Bool := hold.state = .active

def leave (hold : SeatHoldSnapshot) (state : SeatHoldState) : Except Refusal SeatHoldSnapshot := do
  require (isActive hold = true)
    (.error s!"hold {hold.id} is {holdStateText hold.state}, not active")
  return { hold with state, version := hold.version + 1 }

def consume (hold : SeatHoldSnapshot) : Except Refusal SeatHoldSnapshot := leave hold .consumed

def release (hold : SeatHoldSnapshot) : Except Refusal SeatHoldSnapshot := leave hold .released

/-- A hold placed carries its purchase's quantity until its intent's expiry. -/
theorem place_ok [SalesRules] [LawfulSalesRules] {placement : SeatHoldPlacement}
    {hold : SeatHoldSnapshot} (h : place placement = .ok hold) :
    hold = {
      id := placement.id
      dateId := placement.dateId
      accountId := placement.accountId
      profileId := placement.profileId
      tier := placement.tier
      quantity := placement.quantity
      poolSeats := 0
      origin := placement.origin
      originRef := placement.originRef
      expiresAt := placement.intentExpiresAt
      state := .active
      version := 1 } ∧ 0 < placement.quantity := by
  unfold place at h
  simp only [bind_ok_iff, pure_ok_iff] at h
  obtain ⟨terms, hterms, rfl⟩ := h
  obtain ⟨rfl, hpos⟩ := LawfulSalesRules.holdFor_ok _ _ _ hterms
  exact ⟨rfl, hpos⟩

theorem leave_ok {hold left : SeatHoldSnapshot} {state : SeatHoldState}
    (h : leave hold state = .ok left) :
    hold.state = .active ∧ left = { hold with state, version := hold.version + 1 } := by
  unfold leave at h
  simp only [bind_ok_iff, require_ok_iff, pure_ok_iff, isActive, decide_eq_true_eq] at h
  obtain ⟨-, hactive, rfl⟩ := h
  exact ⟨hactive, rfl⟩

theorem leave_active {hold : SeatHoldSnapshot} (h : isActive hold = true) (state : SeatHoldState) :
    leave hold state = .ok { hold with state, version := hold.version + 1 } := by
  simp [leave, require, h, bind, Except.bind, pure, Except.pure]

end SeatHold

end Arthome.Ticketing
