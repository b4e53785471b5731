import Arthome.Core.SalesRules

/-!
# Core's rules for a capacity tier

What `@arthome/core` says of the technical provision a capacity needs.
`LawfulTierRules` is what the results rely on: core refuses a tier with codes of its
own, and never names a date's outcome.
-/

namespace Arthome.Core

class TierRules where
  requiresTechnicalProvision : ℤ → Bool
  technicalProvisionThreshold : ℤ
  provisionRevisableUntil : Instant → Instant

class LawfulTierRules [SalesRules] : Prop where
  widens_refuses (capacity widened : ℤ) (outcome : DateOutcome) :
    SalesRules.assertTierWidens capacity widened ≠ .error (.outcomeFinal outcome)
  provision_refuses (widened : ℤ) (provisioned : Option ℤ) (startsAt : Option Instant)
      (outcome : DateOutcome) :
    SalesRules.assertTechnicalProvisionCovers widened provisioned startsAt ≠
      .error (.outcomeFinal outcome)

end Arthome.Core
