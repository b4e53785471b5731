import Arthome.Core.SalesRules
import Arthome.Library.Checked
import Arthome.Ticketing.SeatOrder

/-!
# The sale of a date

`DateSales` is a date's commercial face: its capacity, the four counters its
seats are in, its prices, its schedule and its outcome. Studio commands name the
version they read; facts consumed from the catalog are guarded by the instant
they were stated at. The aggregate decides; the counters a purchase moves are
moved by the statements of `Arthome.Ticketing.Database`.
-/

namespace Arthome.Ticketing

open Arthome.Core Library

structure CapacityTier where
  id : Uuid
  capacity : ℤ
  openedAt : Instant
  deriving Repr, DecidableEq

structure DateSalesSnapshot where
  dateId : Uuid
  channelId : Uuid
  capacityTotal : ℤ
  /-- The capacity the recorded technical provision covers. -/
  provisionedCapacity : Option ℤ
  capacityTiers : List CapacityTier
  seatsAvailable : ℤ
  seatsSold : ℤ
  waitlistCount : ℤ
  /-- The seats only the accounts notified into the open window buy; never in `seatsAvailable`. -/
  priorityPoolSeats : ℤ
  /-- The open window's end. -/
  priorityUntil : Option Instant
  priceTiers : List TierPrice
  pricesLockedAt : Option Instant
  salesClosedAt : Option Instant
  /-- When the sale ends by time. -/
  salesEndAt : Option Instant
  startsAt : Option Instant
  /-- When the schedule applied last was stated: an older one may not overwrite it. -/
  scheduleStatedAt : Option Instant
  outcome : Option DateOutcome
  outcomeStatedAt : Option Instant
  version : ℕ
  deriving Repr, DecidableEq

def outcomesClosingSales : List DateOutcome := [.cancelled, .interrupted]

/-- No fee schedule is set yet: a seat is sold with no service fee. -/
def interimServiceFeeSchedule (currencyCode : String) : ServiceFeeSchedule where
  perSeat := ⟨0, currencyCode⟩
  rateBps := 0

section

variable [SalesRules]

/-- An older fact never overwrites a newer one; one stated at the same instant applies again. -/
def isStale (statedAt : Instant) (lastStatedAt : Option Instant) : Bool :=
  match lastStatedAt with
  | none => false
  | some lastStatedAt => SalesRules.isBefore statedAt lastStatedAt

/-- The price of `quantity` seats of the tier; nothing while that tier is not on sale. -/
def seatQuoteOf (tiers : List TierPrice) (tier : PriceTier) (quantity : ℕ) :
    Except Refusal (Option OrderQuote) :=
  match SalesRules.priceOfTier tiers tier with
  | none => .ok none
  | some unitPrice => do
    let quote ← SalesRules.quoteSeats unitPrice quantity 0
      (interimServiceFeeSchedule unitPrice.currencyCode)
    return some
      { unitPrice
        tierTotal := quote.tierTotal
        serviceFee := quote.serviceFee
        discount := quote.discount
        total := quote.total }

end

namespace DateSales

/-- A date as it opens: capacity and prices are the studio's, the start the catalog's. -/
def opened (dateId channelId : Uuid) : DateSalesSnapshot where
  dateId := dateId
  channelId := channelId
  capacityTotal := 0
  provisionedCapacity := none
  capacityTiers := []
  seatsAvailable := 0
  seatsSold := 0
  waitlistCount := 0
  priorityPoolSeats := 0
  priorityUntil := none
  priceTiers := []
  pricesLockedAt := none
  salesClosedAt := none
  salesEndAt := none
  startsAt := none
  scheduleStatedAt := none
  outcome := none
  outcomeStatedAt := none
  version := 1

/-- From the lock of its prices until an outcome or its end closes it. -/
def isOnSale (sales : DateSalesSnapshot) : Bool :=
  sales.pricesLockedAt.isSome && sales.salesClosedAt.isNone

/-- Closed at its end by time, and by no outcome: a cancellation or an interruption is final. -/
def closedByTime (sales : DateSalesSnapshot) : Bool :=
  sales.salesClosedAt.isSome && sales.outcome.all fun outcome => outcome ∉ outcomesClosingSales

/-- Refuses a screen that read another version; else the next version. -/
def advancedFrom (sales : DateSalesSnapshot) (expectedVersion : ℕ) : Except Refusal ℕ := do
  require (sales.version = expectedVersion) (.stateConflict sales.version)
  return sales.version + 1

/-- False when already locked: publishing engages once. -/
def lockPrices (sales : DateSalesSnapshot) (engagedAt : Instant) : Option DateSalesSnapshot :=
  if sales.pricesLockedAt.isSome then none
  else some { sales with pricesLockedAt := some engagedAt, version := sales.version + 1 }

variable [SalesRules]

/-- Past its end by time, whether or not the sweeper has closed it yet. -/
def hasEndedBy (sales : DateSalesSnapshot) (now : Instant) : Bool :=
  SalesRules.salesEndedBy sales.salesEndAt now

/-- On sale and short of its end by time. -/
def sellsSeatsAt (sales : DateSalesSnapshot) (now : Instant) : Bool :=
  isOnSale sales && !hasEndedBy sales now

def lateEntryAt (sales : DateSalesSnapshot) (now : Instant) : Option LateEntry :=
  SalesRules.lateEntryOf sales.startsAt now

def quote (sales : DateSalesSnapshot) (tier : PriceTier) (quantity : ℕ) :
    Except Refusal (Option OrderQuote) := seatQuoteOf sales.priceTiers tier quantity

/-- Decides a hold of `quantity` seats; the statement that takes them, or finds fewer left, is the
repository's. -/
def holdSeats (sales : DateSalesSnapshot) (quantity : ℕ) (now : Instant) :
    Except Refusal DateSalesSnapshot := do
  require (0 < quantity) (.holdQuantityInvalid quantity)
  match sales.salesEndAt with
  | some salesEndAt => require (¬ hasEndedBy sales now = true) (.salesClosed salesEndAt)
  | none => pure ()
  require (isOnSale sales = true) .soldOut
  return { sales with seatsAvailable := sales.seatsAvailable - quantity }

/-- Replaces every tier, in one currency, until the sale opens. -/
def setPrices (sales : DateSalesSnapshot) (expectedVersion : ℕ) (tiers : List TierPrice) :
    Except Refusal DateSalesSnapshot := do
  let version ← advancedFrom sales expectedVersion
  match sales.pricesLockedAt with
  | some lockedAt => throw (.pricesLocked lockedAt)
  | none => pure ()
  SalesRules.assertPricesShareCurrency tiers
  return { sales with priceTiers := tiers, version }

/-- Widens the capacity by one tier. Notifying a list with someone on it, the tier becomes the
priority pool and the window opens or is extended, which it answers; otherwise the seats go on
public sale and an open window keeps its pool and end. -/
def openCapacityTier (sales : DateSalesSnapshot) (expectedVersion : ℕ) (additionalCapacity : ℤ)
    (notifyWaitlist : Bool) (tierId : Uuid) (now : Instant) :
    Except Refusal (DateSalesSnapshot × Option Instant) := do
  let version ← advancedFrom sales expectedVersion
  match sales.salesClosedAt, sales.outcome with
  | some _, some outcome => throw (.outcomeFinal outcome)
  | _, _ => pure ()
  let widened := sales.capacityTotal + additionalCapacity
  SalesRules.assertTierWidens sales.capacityTotal widened
  SalesRules.assertTechnicalProvisionCovers widened sales.provisionedCapacity sales.startsAt
  let tiers := sales.capacityTiers ++ [⟨tierId, additionalCapacity, now⟩]
  if notifyWaitlist && 0 < sales.waitlistCount then
    let priorityUntil := SalesRules.priorityUntilOf now
    return ({ sales with
      capacityTotal := widened
      capacityTiers := tiers
      priorityPoolSeats := sales.priorityPoolSeats + additionalCapacity
      priorityUntil := some priorityUntil
      version }, some priorityUntil)
  else
    return ({ sales with
      capacityTotal := widened
      capacityTiers := tiers
      seatsAvailable := sales.seatsAvailable + additionalCapacity
      version }, none)

/-- Records or revises the capacity the infrastructure is provisioned for. -/
def setTechnicalProvision (sales : DateSalesSnapshot) (expectedVersion : ℕ)
    (provisionedCapacity : ℤ) (now : Instant) : Except Refusal DateSalesSnapshot := do
  let version ← advancedFrom sales expectedVersion
  SalesRules.assertTechnicalProvisionRecordable sales.capacityTotal provisionedCapacity
    sales.startsAt now
  return { sales with provisionedCapacity := some provisionedCapacity, version }

/-- A start as scheduled or moved by a postponement; false when a newer one was recorded. A sale
closed by time whose new end is still ahead reopens. -/
def recordSchedule (sales : DateSalesSnapshot) (startsAt statedAt now : Instant) :
    Option DateSalesSnapshot :=
  if isStale statedAt sales.scheduleStatedAt then none
  else
    let salesEndAt := SalesRules.seatSalesEndAt startsAt
    let reopens := closedByTime sales && SalesRules.isBefore now salesEndAt
    some { sales with
      startsAt := some startsAt
      salesEndAt := some salesEndAt
      salesClosedAt := if reopens then none else sales.salesClosedAt
      scheduleStatedAt := some statedAt
      version := sales.version + 1 }

/-- Ends a sale on sale once its end by time has passed; false otherwise. -/
def endSales (sales : DateSalesSnapshot) (now : Instant) : Option DateSalesSnapshot :=
  match sales.salesEndAt with
  | none => none
  | some salesEndAt =>
    if !isOnSale sales || SalesRules.isBefore now salesEndAt then none
    else some { sales with salesClosedAt := some salesEndAt, version := sales.version + 1 }

/-- The date's outcome as the catalog declared it; false when a newer one was recorded. A
cancellation or an interruption closes the sale for good. -/
def recordOutcome (sales : DateSalesSnapshot) (outcome : DateOutcome) (statedAt : Instant) :
    Option DateSalesSnapshot :=
  if isStale statedAt sales.outcomeStatedAt then none
  else some { sales with
    outcome := some outcome
    outcomeStatedAt := some statedAt
    salesClosedAt := if outcome ∈ outcomesClosingSales then sales.salesClosedAt.or (some statedAt)
      else sales.salesClosedAt
    version := sales.version + 1 }

/-! ## What an accepted command has checked -/

section Accepted

variable {sales sales' : DateSalesSnapshot} {expectedVersion quantity : ℕ} {now : Instant}

omit [SalesRules] in
theorem advancedFrom_ok {version : ℕ} (h : advancedFrom sales expectedVersion = .ok version) :
    sales.version = expectedVersion ∧ version = sales.version + 1 := by
  unfold advancedFrom at h
  simp only [bind_ok_iff, require_ok_iff, pure_ok_iff] at h
  obtain ⟨_, hversion, rfl⟩ := h
  exact ⟨hversion, rfl⟩

theorem holdSeats_ok (h : holdSeats sales quantity now = .ok sales') :
    0 < quantity ∧ isOnSale sales = true ∧
      sales' = { sales with seatsAvailable := sales.seatsAvailable - quantity } := by
  unfold holdSeats at h
  rw [bind_ok_iff] at h
  obtain ⟨_, hquantity, h⟩ := h
  rw [require_ok_iff] at hquantity
  cases hend : sales.salesEndAt with
  | none =>
      simp only [hend, bind_ok_iff, require_ok_iff, pure_ok_iff] at h
      obtain ⟨_, hsale, rfl⟩ := h
      exact ⟨hquantity, hsale, rfl⟩
  | some salesEndAt =>
      simp only [hend, bind_ok_iff, require_ok_iff, pure_ok_iff] at h
      obtain ⟨_, -, _, hsale, rfl⟩ := h
      exact ⟨hquantity, hsale, rfl⟩

omit [SalesRules] in
theorem setPrices_ok [SalesRules] {tiers : List TierPrice}
    (h : setPrices sales expectedVersion tiers = .ok sales') :
    sales.pricesLockedAt = none ∧
      sales' = { sales with priceTiers := tiers, version := sales.version + 1 } := by
  unfold setPrices at h
  rw [bind_ok_iff] at h
  obtain ⟨version, hversion, h⟩ := h
  obtain ⟨-, rfl⟩ := advancedFrom_ok hversion
  cases hlocked : sales.pricesLockedAt with
  | none =>
      simp only [hlocked, bind_ok_iff, pure_ok_iff] at h
      obtain ⟨_, -, _, -, rfl⟩ := h
      exact ⟨rfl, rfl⟩
  | some lockedAt =>
      simp only [hlocked, bind_ok_iff, throw_ok_iff] at h
      obtain ⟨_, h, -⟩ := h
      exact h.elim

/-- A tier opened widens the capacity by as much as it puts on public sale or in the pool. -/
theorem openCapacityTier_ok {additionalCapacity : ℤ} {notifyWaitlist : Bool} {tierId : Uuid}
    {priorityUntil : Option Instant}
    (h : openCapacityTier sales expectedVersion additionalCapacity notifyWaitlist tierId now =
      .ok (sales', priorityUntil)) :
    (sales.salesClosedAt = none ∨ sales.outcome = none) ∧
      SalesRules.assertTierWidens sales.capacityTotal (sales.capacityTotal + additionalCapacity) =
        .ok () ∧
      sales' =
        { sales with
          capacityTotal := sales.capacityTotal + additionalCapacity
          capacityTiers := sales.capacityTiers ++ [⟨tierId, additionalCapacity, now⟩]
          seatsAvailable := if priorityUntil.isSome then sales.seatsAvailable
            else sales.seatsAvailable + additionalCapacity
          priorityPoolSeats := if priorityUntil.isSome then
            sales.priorityPoolSeats + additionalCapacity else sales.priorityPoolSeats
          priorityUntil := priorityUntil.or sales.priorityUntil
          version := sales.version + 1 } := by
  unfold openCapacityTier at h
  rw [bind_ok_iff] at h
  obtain ⟨version, hversion, h⟩ := h
  obtain ⟨-, rfl⟩ := advancedFrom_ok hversion
  rcases hclosed : sales.salesClosedAt with _ | closedAt <;>
    rcases houtcome : sales.outcome with _ | outcome
  case some.some =>
    simp only [hclosed, houtcome, bind_ok_iff, throw_ok_iff] at h
    obtain ⟨_, h, -⟩ := h
    exact h.elim
  all_goals
    simp only [hclosed, houtcome, bind_ok_iff] at h
    obtain ⟨_, hwidens, _, -, h⟩ := h
    refine ⟨by simp, hwidens, ?_⟩
    split_ifs at h with hlisted
    · obtain ⟨rfl, rfl⟩ := Prod.mk.inj (pure_ok_iff.mp h)
      rfl
    · obtain ⟨rfl, rfl⟩ := Prod.mk.inj (pure_ok_iff.mp h)
      rfl

theorem setTechnicalProvision_ok {provisionedCapacity : ℤ}
    (h : setTechnicalProvision sales expectedVersion provisionedCapacity now = .ok sales') :
    sales' =
      { sales with
        provisionedCapacity := some provisionedCapacity
        version := sales.version + 1 } := by
  unfold setTechnicalProvision at h
  rw [bind_ok_iff] at h
  obtain ⟨version, hversion, h⟩ := h
  obtain ⟨-, rfl⟩ := advancedFrom_ok hversion
  simp only [bind_ok_iff, pure_ok_iff] at h
  obtain ⟨_, -, rfl⟩ := h
  rfl

end Accepted

end DateSales

end Arthome.Ticketing
