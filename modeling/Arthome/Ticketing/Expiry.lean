import Arthome.Ticketing.Payments

/-!
# The expiry of holds

The sweeper's pass, set-based and in one transaction: the active holds past their
expiry with the orders placed on them, each hold expired, its order failed if it
still waits, its seats back last, one statement per date. The same pass fails the
pending orders whose hold went back and that nobody resumed. A row another
transaction has locked is skipped.
-/

namespace Arthome.Ticketing

open Arthome.Core Library

/-- A due hold, with the order placed on it. -/
structure DueHold where
  hold : SeatHoldSnapshot
  order : OrderRecord
  deriving Repr, DecidableEq

/-- An order's row failed by a set-based statement, as its repository reads it back. -/
def sweptOrder (order : SeatOrderSnapshot) : SeatOrderSnapshot :=
  { order with
    state := .failed
    failure := some (order.failure.getD ⟨none, none⟩)
    version := order.version + 1 }

namespace Db

variable (db : Db)

def isDue (hold : SeatHoldSnapshot) (now : Instant) : Bool :=
  hold.state = .active && hold.expiresAt ≤ now

/-- The holds past their expiry, the oldest first, with the orders placed on them. -/
def dueHolds (now : Instant) (batch : ℕ) (locked : List Uuid) : List DueHold :=
  let due := (db.holds.rows.filter fun hold => isDue hold now).mergeSort
    fun a b => decide (a.expiresAt ≤ b.expiresAt)
  let joined := due.flatMap fun hold =>
    (db.orders.rows.filter fun placed => placed.order.holdId = hold.id).map fun placed =>
      (⟨hold, placed⟩ : DueHold)
  (joined.filter fun row => row.hold.id ∉ locked && row.order.id ∉ locked).take batch

/-- A pending order with no intent, past its expiry, whose hold is no longer active. -/
def isPendingWithoutHold (placed : OrderRecord) (now : Instant) : Bool :=
  placed.order.state = .pending && placed.order.intent.isNone && placed.order.expiresAt ≤ now &&
    (db.holds.find? placed.order.holdId).any fun hold => hold.state ≠ .active

/-- Fails at its expiry an order whose hold went back and whose purchase was never retried. -/
def failPendingOrdersWithoutHold (now : Instant) (locked : List Uuid) : Db :=
  { db with
    orders := db.orders.update
      (fun placed =>
        if db.isPendingWithoutHold placed now && placed.id ∉ locked then
          { placed with order := sweptOrder placed.order }
        else placed)
      fun placed => by
        split
        · rfl
        · rfl }

def expireHolds (holdIds : List Uuid) : Db :=
  { db with
    holds := db.holds.update
      (fun hold =>
        if hold.id ∈ holdIds then { hold with state := .expired, version := hold.version + 1 }
        else hold)
      fun hold => by
        split
        · rfl
        · rfl }

/-- An order failed with its hold: it owes the cancellation of the intent it carries, if any. -/
def sweptWithHold (placed : OrderRecord) (now : Instant) : OrderRecord :=
  { placed with order := { sweptOrder placed.order with
      intentCancelOwedAt := placed.order.intent.map fun _ => now } }

def failOrders (orderIds : List Uuid) (now : Instant) : Db :=
  { db with
    orders := db.orders.update
      (fun placed =>
        if placed.id ∈ orderIds && placed.order.state ∈ orderStatesAwaitingPayment then
          sweptWithHold placed now
        else placed)
      fun placed => by
        split
        · rfl
        · rfl }

end Db

/-- Seats on their way back to a date's counters. -/
structure HeldSeats where
  dateId : Uuid
  quantity : ℤ
  poolSeats : ℤ
  deriving Repr, DecidableEq

/-- The due seats of each date, the dates sorted: two passes take their rows in one order. -/
def seatsByDate (due : List DueHold) : List HeldSeats :=
  ((due.map fun row => row.hold.dateId).dedup.mergeSort fun a b => decide (a ≤ b)).map fun dateId =>
    let seats := due.filter fun row => row.hold.dateId = dateId
    { dateId
      quantity := (seats.map fun row => (row.hold.quantity : ℤ)).sum
      poolSeats := (seats.map fun row => row.hold.poolSeats).sum }

/-- One pass, and how many holds it expired. -/
def expireDueHolds (db : Db) (now : Instant) (batch : ℕ) (locked : List Uuid) : Db × ℕ :=
  let due := db.dueHolds now batch locked
  let db := db.failPendingOrdersWithoutHold now locked
  let db := db.expireHolds (due.map fun row => row.hold.id)
  let db := db.failOrders (due.map fun row => row.order.id) now
  ((seatsByDate due).foldl
    (fun db seats => db.returnHeldSeats seats.dateId seats.quantity seats.poolSeats now) db,
    due.length)

end Arthome.Ticketing
