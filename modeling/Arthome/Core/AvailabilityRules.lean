import Arthome.Core.Vocabulary

/-!
# Core's rules for a date's availability

What `@arthome/core` computes of a date's gauge, and how often it is stated. The
results rely on an interval that is not negative; that seats are offered while
the public count is above zero is what makes a sale sold out in the candidates'
query and in core alike.
-/

namespace Arthome.Core

/-- The seats of a date by where they are. -/
structure Gauge where
  capacityTotal : ℤ
  seatsSold : ℤ
  seatsHeld : ℤ
  waitlistCount : ℤ
  priorityPoolSeats : ℤ
  deriving Repr, DecidableEq

/-- What is left for the public. -/
def Gauge.publicSeats (gauge : Gauge) : ℤ :=
  gauge.capacityTotal - gauge.seatsSold - gauge.seatsHeld - gauge.priorityPoolSeats

/-- What core computes for a date's availability. -/
class AvailabilityRules where
  seatsAvailable : Gauge → ℤ
  fillRateBps : Gauge → ℤ
  /-- Whether `availabilityOf` answers `seats_available`. -/
  offersSeats : Gauge → Bool
  lowestActivePrice : List TierPrice → Option Money
  publishMinIntervalSeconds : ℤ

/-- What the code relies on core for. -/
class LawfulAvailabilityRules [AvailabilityRules] : Prop where
  seatsAvailable_eq (gauge : Gauge) : AvailabilityRules.seatsAvailable gauge = gauge.publicSeats
  offersSeats_iff (gauge : Gauge) :
    AvailabilityRules.offersSeats gauge = true ↔ 0 < gauge.publicSeats
  interval_nonneg : 0 ≤ AvailabilityRules.publishMinIntervalSeconds

namespace Sample

scoped instance availabilityRules : AvailabilityRules where
  seatsAvailable gauge := gauge.publicSeats
  fillRateBps gauge :=
    if gauge.capacityTotal = 0 then 0 else 10000 * gauge.seatsSold / gauge.capacityTotal
  offersSeats gauge := decide (0 < gauge.publicSeats)
  lowestActivePrice tiers := (tiers.find? fun tier => tier.active).map TierPrice.amount
  publishMinIntervalSeconds := 5

scoped instance lawfulAvailabilityRules : LawfulAvailabilityRules where
  seatsAvailable_eq gauge := rfl
  offersSeats_iff gauge := by simp [AvailabilityRules.offersSeats]
  interval_nonneg := by decide

end Sample

end Arthome.Core
