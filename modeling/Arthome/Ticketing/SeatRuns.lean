import Arthome.Ticketing.Transactions

/-!
# A date's seats in every state reached

Whatever transactions were committed and in whatever order, the four places a
date's seats are counted in add up to its capacity.
-/

namespace Arthome.Ticketing

open Arthome.Core Library

section Runs

variable [OrderRules] [LawfulOrderRules] [SalesRules] [LawfulSalesRules] (publicWebOrigin : String)

/-- In every state reached, a date's counters and its active holds add up to its capacity, none is
negative, the pool is empty while no window is open, and the sold seats are those written for the
date's orders less those their viewers gave up. -/
theorem seats_conserved (transactions : List Transaction) (dateId : Uuid) (row : DateSalesSnapshot)
    (hrow : (World.reached publicWebOrigin transactions).db.sales.find? dateId = some row) :
    row.seatsAvailable + row.priorityPoolSeats + row.seatsSold +
        (World.reached publicWebOrigin transactions).db.heldSeats dateId = row.capacityTotal ∧
      0 ≤ row.seatsAvailable ∧ 0 ≤ row.priorityPoolSeats ∧ 0 ≤ row.seatsSold ∧
      0 ≤ row.capacityTotal ∧
      (row.priorityUntil = none → row.priorityPoolSeats = 0) ∧
      row.seatsSold = (World.reached publicWebOrigin transactions).db.soldSeats dateId := by
  have hsound := World.sound_reached publicWebOrigin transactions
  have hbalanced := hsound.counted.balanced row (Table.mem_of_find? hrow)
  rw [Table.key_of_find? hrow] at hbalanced
  have hheld : 0 ≤ (World.reached publicWebOrigin transactions).db.heldSeats dateId := by
    refine Table.total_nonneg fun hold _ => ?_
    unfold heldWeight
    split_ifs
    · exact Int.natCast_nonneg _
    · exact le_rfl
  have hcapacity : 0 ≤ row.capacityTotal := by
    rw [← hbalanced.total]
    have := hbalanced.available
    have := hbalanced.pool
    have := hbalanced.sold
    omega
  exact ⟨hbalanced.total, hbalanced.available, hbalanced.pool, hbalanced.sold, hcapacity,
    hbalanced.window, hbalanced.writtenSeats⟩

end Runs

section Sample

open Sample

/-- A date opened and priced, with five seats on sale. -/
def sampleOpened : List Transaction :=
  [.sale (.applyFact 1 (.drafted 2) 0), .sale (.setPrices 1 1 [⟨.full, ⟨1000, "EUR"⟩, true⟩]),
    .sale (.applyFact 1 (.lock 1) 1), .sale (.applyFact 1 (.start 1000000 2) 2),
    .sale (.openTier 1 ⟨4, 5, false⟩ 31 10)]

/-- Two of its seats, under the account's key. -/
def samplePurchase : PurchaseSeat where
  body := ⟨1, .full, 2, ⟨2000, "EUR"⟩, none⟩
  buyer := ⟨some 11, none⟩
  idempotency := ⟨some 11, 61, "two seats"⟩
  lateEntryAcknowledged := false

def samplePlaced : List Transaction :=
  sampleOpened ++ [.place samplePurchase .latest 100 ⟨51, 41, "ORDER-51", false⟩]

/-- The provider's confirmation of the order's payment. -/
def sampleSucceeded : Transaction :=
  .applyEvent ⟨.intentSucceeded, some "pi_51", some 51, none⟩ .latest 200
    ⟨71, [(81, "SEAT-81"), (82, "SEAT-82")]⟩

/-- Paid: three seats on sale and two sold. -/
theorem seats_conserved_sample : ∃ row, (World.reached "https://arthome.example"
      (samplePlaced ++ [sampleSucceeded])).db.sales.find? 1 = some row ∧
    row.seatsSold = 2 ∧ row.seatsAvailable = 3 ∧ row.seatsAvailable + row.priorityPoolSeats +
      row.seatsSold + (World.reached "https://arthome.example"
        (samplePlaced ++ [sampleSucceeded])).db.heldSeats 1 = row.capacityTotal := by
  have hseen : ((World.reached "https://arthome.example"
      (samplePlaced ++ [sampleSucceeded])).db.sales.find? 1).map
        (fun row => (row.seatsSold, row.seatsAvailable)) = some (2, 3) := by decide +kernel
  obtain ⟨row, hrow, hfields⟩ := Option.map_eq_some_iff.mp hseen
  obtain ⟨hsold, havailable⟩ := Prod.mk.inj hfields
  exact ⟨row, hrow, hsold, havailable, (seats_conserved "https://arthome.example" _ 1 row hrow).1⟩

end Sample

end Arthome.Ticketing
