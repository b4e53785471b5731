import Arthome.Library.Machine
import Arthome.Ticketing.Expiry
import Arthome.Ticketing.Outcomes
import Arthome.Ticketing.Sales
import Arthome.Ticketing.SeatOrderChanges

/-!
# What a transaction may do

A `Movement` is the least a transaction does to the rows: one order's record moved,
one hold placed or leaving with its seats counted where they go, one date's row
moved, one settlement or credit written. Each transaction is a sequence of
movements, shown once in the modules that follow; what every run preserves is then
a matter of the cases of `Movement`, never of the transactions' code again. A
movement carries a label: the kinds of movement a claim is conditioned on, or
counts.
-/

namespace Arthome.Ticketing

open Arthome.Core Library

/-- What a movement is to the date's counters, and to the conditions a run may be under. -/
inductive Label where
  | quiet
  | counters
  | waitingIntent (orderId : Uuid)
  | seatsCancelled (orderId : Uuid) (cancellation : SeatCancellation)
  | outcomeStated (dateId : Uuid) (outcome : DateOutcome)
  | holdLeft (holdId : Uuid)
  deriving DecidableEq

/-- The four places a date's seats are counted in, and the window the pool is for. -/
structure Counters where
  capacityTotal : ℤ
  seatsAvailable : ℤ
  priorityPoolSeats : ℤ
  seatsSold : ℤ
  priorityUntil : Option Instant
  deriving DecidableEq

namespace DateSalesSnapshot

def counters (row : DateSalesSnapshot) : Counters where
  capacityTotal := row.capacityTotal
  seatsAvailable := row.seatsAvailable
  priorityPoolSeats := row.priorityPoolSeats
  seatsSold := row.seatsSold
  priorityUntil := row.priorityUntil

/-- Closed for good: by a cancellation or an interruption. -/
def ClosedByOutcome (row : DateSalesSnapshot) : Prop :=
  row.salesClosedAt.isSome ∧ ∃ outcome ∈ outcomesClosingSales, row.outcome = some outcome

end DateSalesSnapshot

/-- The row is the same date's, its outcome stands, and a closed sale stays closed. -/
structure SaleKept (row row' : DateSalesSnapshot) : Prop where
  dateId : row'.dateId = row.dateId
  outcome : row'.outcome = row.outcome
  closed : row.ClosedByOutcome → row'.salesClosedAt.isSome

/-- How a date's row moves by itself. -/
inductive SaleMove (row row' : DateSalesSnapshot) : Label → Prop
  | quiet (hkept : SaleKept row row') (hcounters : row'.counters = row.counters) :
      SaleMove row row' .quiet
  | outcomeStated (outcome : DateOutcome) (hdate : row'.dateId = row.dateId)
      (hcounters : row'.counters = row.counters) (houtcome : row'.outcome = some outcome)
      (hclosed : outcome ∈ outcomesClosingSales ∨ row.salesClosedAt.isSome →
        row'.salesClosedAt.isSome) :
      SaleMove row row' (.outcomeStated row.dateId outcome)
  | tierOnSale (hkept : SaleKept row row') (additional : ℤ) (hpos : 0 < additional)
      (hcounters : row'.counters = { row.counters with
        capacityTotal := row.capacityTotal + additional
        seatsAvailable := row.seatsAvailable + additional }) :
      SaleMove row row' .counters
  | tierPooled (hkept : SaleKept row row') (additional : ℤ) (hpos : 0 < additional)
      (priorityUntil : Instant)
      (hcounters : row'.counters = { row.counters with
        capacityTotal := row.capacityTotal + additional
        priorityPoolSeats := row.priorityPoolSeats + additional
        priorityUntil := some priorityUntil }) :
      SaleMove row row' .counters
  | windowEnded (hkept : SaleKept row row')
      (hcounters : row'.counters = { row.counters with
        seatsAvailable := row.seatsAvailable + row.priorityPoolSeats
        priorityPoolSeats := 0
        priorityUntil := none }) :
      SaleMove row row' .counters

/-- `quantity` seats taken from a date on sale, `poolSeats` of them from the pool. -/
def Taken (row : DateSalesSnapshot) (quantity : ℕ) (poolSeats : ℤ) (row' : DateSalesSnapshot) :
    Prop :=
  ∃ openPool, (openPool = 0 ∨ openPool = row.priorityPoolSeats) ∧
    DateSales.isOnSale row = true ∧ (quantity : ℤ) ≤ row.seatsAvailable + openPool ∧
    poolSeats = min openPool quantity ∧ row' = Db.takenFromPool row openPool quantity

theorem Taken.dateId {row row' : DateSalesSnapshot} {quantity : ℕ} {poolSeats : ℤ}
    (h : Taken row quantity poolSeats row') : row'.dateId = row.dateId := by
  obtain ⟨openPool, -, -, -, -, rfl⟩ := h
  rfl

section Orders

variable [OrderRules]

/-- An order paid, its seats issued. -/
def paidOrder (order : SeatOrderSnapshot) (intentRef : String) (issues : List SeatIssue)
    (now : Instant) : SeatOrderSnapshot :=
  { order with
    state := .paid
    intent := some (order.intent.getD ⟨intentRef, none, none⟩)
    failure := none
    intentCancelOwedAt := none
    paidAt := some now
    seats := issues.map (SeatOrder.issuedSeat order.tier now)
    version := order.version + 1 }

/-- An order whose payment is owed back whole, under refund `id`. -/
def unseatedOrder (order : SeatOrderSnapshot) (reason : RefundReason) (intentRef : String)
    (id : Uuid) (now : Instant) : SeatOrderSnapshot :=
  { order with
    intent := some (order.intent.getD ⟨intentRef, none, none⟩)
    intentCancelOwedAt := none
    refunds := [⟨⟨id, order.quote.total, reason, OrderRules.refundIdempotencyKey id, none⟩,
      now, none, none⟩]
    version := order.version + 1 }

omit [OrderRules] in
def renewedOrder (order : SeatOrderSnapshot) (holdId : Uuid) (expiresAt : Instant) :
    SeatOrderSnapshot :=
  { order with holdId, expiresAt, version := order.version + 1 }

omit [OrderRules] in
def failedOrder (order : SeatOrderSnapshot) (failure : OrderFailure) : SeatOrderSnapshot :=
  { order with state := .failed, failure := some failure, version := order.version + 1 }

/-- How an order stops waiting for its payment without a seat. -/
inductive Stops (record : OrderRecord) : OrderRecord → Prop
  | failed (failure : OrderFailure) (hwaits : record.order.AwaitsPayment) :
      Stops record { record with order := failedOrder record.order failure }
  | swept (now : Instant) (hwaits : record.order.AwaitsPayment)
      (hrefunds : record.order.refunds = []) : Stops record (Db.sweptWithHold record now)
  | unseated (reason : RefundReason) (intentRef : String) (id : Uuid) (now : Instant)
      (haccepts : record.order.AcceptsPayment) :
      Stops record { record with
        order := unseatedOrder record.order reason intentRef id now
        confirmed := true
        unseatedRefunds := record.unseatedRefunds ++ [id] }

/-- The operations that touch no seat and leave an order waiting or not as it was. -/
def Operation.Books : Operation → Prop
  | .oweRefund _ _ | .refundMade _ _ _ | .intentCancelled => True
  | _ => False

/-- How an order's record moves with no hold and no counter. -/
inductive RecordMove (record : OrderRecord) : OrderRecord → Label → Prop
  | waiting {s' : SeatOrderSnapshot} (intent : PaymentIntentRecord) (state : WaitingState)
      (now : Instant) (hc : Change record.order (.recordIntent intent state now) s') :
      RecordMove record { record with order := s' } (.waitingIntent record.order.id)
  | booked {s' : SeatOrderSnapshot} (op : Operation) (hbooks : op.Books)
      (hc : Change record.order op s') : RecordMove record { record with order := s' } .quiet
  | disputed {s' : SeatOrderSnapshot} (hsettled : ¬ record.order.AcceptsPayment)
      (hc : Change record.order .dispute s') :
      RecordMove record { record with order := s' } .quiet
  | cancelled {s' : SeatOrderSnapshot} (cancellation : SeatCancellation) (now : Instant)
      (hreason : cancellation.reason ≠ .viewerRequest)
      (hc : Change record.order (.cancelSeats cancellation now) s') :
      RecordMove record { record with order := s' } (.seatsCancelled record.order.id cancellation)
  | answered (answer : StoredAnswer) (hnone : record.answer = none) :
      RecordMove record { record with answer := some answer } .quiet
  | confirmedAgain (hsettled : ¬ record.order.AcceptsPayment) :
      RecordMove record { record with confirmed := true } .quiet
  | deadlines (deadline : Instant) :
      RecordMove record { record with order := { record.order with
        seats := movedDeadlines deadline record.order.seats } } .quiet

end Orders

/-- How the settlement of a date's outcome moves. -/
inductive SettlementMove (db : Db) (before : DateOutcomeSettlement) : DateOutcomeSettlement → Prop
  | failedAt (failedAt : Option Instant) : SettlementMove db before { before with failedAt }
  | waitlistEnded (now : Instant)
      (hended : (db.sales.find? before.dateId).isSome → ∀ entry ∈ db.entries.rows,
        entry.dateId = before.dateId → ¬ WaitlistEntry.isOnList entry = true) :
      SettlementMove db before { before with waitlistEndedAt := some now }
  | decided (now : Instant) (hwaitlist : before.waitlistEndedAt.isSome)
      (hnothing : db.nothingLeftToSettle before.dateId = true) :
      SettlementMove db before { before with failedAt := none, decidedAt := some now }
  | stamped : SettlementMove db before { before with settledAt := before.decidedAt }

/-- A hold placed for an order: its date, its quantity. -/
structure HeldFor (hold : SeatHoldSnapshot) (order : SeatOrderSnapshot) : Prop where
  originRef : hold.originRef = order.id
  dateId : hold.dateId = order.dateId
  quantity : hold.quantity = order.quantity

/-- Among an order's holds, the one it is on. -/
structure OnHold (hold : SeatHoldSnapshot) (order : SeatOrderSnapshot) : Prop
    extends HeldFor hold order where
  holdId : order.holdId = hold.id
  expiresAt : order.expiresAt = hold.expiresAt

def OrderRecord.opened (order : SeatOrderSnapshot) (binding : IdempotencyBinding) :
    OrderRecord where
  order := order
  binding := binding
  answer := none
  outcomeSettledAt := none
  confirmed := false
  unseatedRefunds := []

def leftHold (hold : SeatHoldSnapshot) (state : SeatHoldState) : SeatHoldSnapshot :=
  { hold with state, version := hold.version + 1 }

namespace Db

variable (db : Db)

def putSales (row : DateSalesSnapshot) : Db := { db with sales := db.sales.put row }

def putHold (hold : SeatHoldSnapshot) : Db := { db with holds := db.holds.put hold }

def putOrder (record : OrderRecord) : Db := { db with orders := db.orders.put record }

/-- The order's hold is no longer active. -/
def HoldGone (order : SeatOrderSnapshot) : Prop :=
  ∀ hold, db.holds.find? order.holdId = some hold → hold.state ≠ .active

end Db

variable [OrderRules]

/-- The least a transaction does. -/
inductive Movement (db : Db) : Label → Db → Prop
  | sale {row row' : DateSalesSnapshot} {label : Label}
      (hrow : db.sales.find? row'.dateId = some row) (hmove : SaleMove row row' label) :
      Movement db label (db.putSales row')
  | dateOpened {row : DateSalesSnapshot} {sales : Table DateSalesSnapshot.dateId}
      (hcounters : row.counters = ⟨0, 0, 0, 0, none⟩) (houtcome : row.outcome = none)
      (hinsert : db.sales.insert row = some sales) : Movement db .quiet { db with sales }
  | entries {entries : Table WaitlistEntrySnapshot.id}
      (hlist : ∀ entry ∈ entries.rows, WaitlistEntry.isOnList entry = true →
        (∃ before ∈ db.entries.rows, before.dateId = entry.dateId ∧
          WaitlistEntry.isOnList before = true) ∨
        ∃ row, db.sales.find? entry.dateId = some row ∧ ¬ row.ClosedByOutcome) :
      Movement db .quiet { db with entries }
  | outcomeToSettle {row : DateSalesSnapshot} {settlement : DateOutcomeSettlement}
      {settlements : Table DateOutcomeSettlement.dateId}
      (hrow : db.sales.find? settlement.dateId = some row) (hclosed : row.ClosedByOutcome)
      (houtcome : row.outcome = some settlement.outcome)
      (hnew : settlement.waitlistEndedAt = none ∧ settlement.decidedAt = none ∧
        settlement.settledAt = none)
      (hinsert : db.settlements.insert settlement = some settlements) :
      Movement db .quiet { db with settlements }
  | settlement {before settlement : DateOutcomeSettlement}
      (hbefore : db.settlements.find? settlement.dateId = some before)
      (hmove : SettlementMove db before settlement) :
      Movement db .quiet (db.putSettlement settlement)
  | creditIssued {credits : Table CreditIssue.id} : Movement db .quiet { db with credits }
  | order {record record' : OrderRecord} {label : Label}
      (hrecord : db.orders.find? record.id = some record)
      (hmove : RecordMove record record' label) : Movement db label (db.putOrder record')
  | credited {record : OrderRecord} {s' : SeatOrderSnapshot} {settlement : DateOutcomeSettlement}
      (hrecord : db.orders.find? record.id = some record)
      (hsettlement : db.settlements.find? record.order.dateId = some settlement)
      (houtcome : settlement.outcome ≠ .cancelled) (crediting : SeatCrediting) (now : Instant)
      (hc : Change record.order (.creditSeats crediting now) s') :
      Movement db .quiet (db.putOrder { record with order := s' })
  | marked {record : OrderRecord} (hrecord : db.orders.find? record.id = some record)
      (now : Instant) (hsettled : ¬ record.order.AcceptsPayment)
      (hcancelled : ∀ settlement, db.settlements.find? record.order.dateId = some settlement →
        settlement.outcome = .cancelled → Db.hasActiveSeat record = false) :
      Movement db .quiet (db.putOrder { record with outcomeSettledAt := some now })
  | stopped {record record' : OrderRecord} (hrecord : db.orders.find? record.id = some record)
      (hgone : db.HoldGone record.order) (hstops : Stops record record') :
      Movement db .quiet (db.putOrder record')
  | returned {hold : SeatHoldSnapshot} {record record' : OrderRecord} {row : DateSalesSnapshot}
      (hrecord : db.orders.find? record.id = some record)
      (hhold : db.holds.find? record.order.holdId = some hold) (hactive : hold.state = .active)
      (hrow : db.sales.find? hold.dateId = some row) (state : SeatHoldState)
      (hstate : state = .released ∨ state = .expired) (now : Instant)
      (hleave : (record' = record ∧ record.order.state = .pending ∧ record.order.intent = none) ∨
        Stops record record') :
      Movement db (.holdLeft hold.id) (((db.putHold (leftHold hold state)).putOrder record').putSales
        (Db.returned row hold.quantity hold.poolSeats now))
  | sold {hold : SeatHoldSnapshot} {record : OrderRecord} {row : DateSalesSnapshot}
      (hrecord : db.orders.find? record.id = some record)
      (hhold : db.holds.find? record.order.holdId = some hold) (hactive : hold.state = .active)
      (hrow : db.sales.find? record.order.dateId = some row)
      (haccepts : record.order.AcceptsPayment) (intentRef : String) (issues : List SeatIssue)
      (hlength : issues.length = record.order.quantity)
      (hissues : (issues.map fun issue => issue.id).Nodup) (now : Instant) :
      Movement db (.holdLeft hold.id) (((db.putHold (leftHold hold .consumed)).putOrder
        { record with
          order := paidOrder record.order intentRef issues now
          confirmed := true }).putSales
        { row with seatsSold := row.seatsSold + record.order.quantity })
  | soldDirect {record : OrderRecord} {row mid : DateSalesSnapshot} {poolSeats : ℤ}
      (hrecord : db.orders.find? record.id = some record) (hgone : db.HoldGone record.order)
      (hrow : db.sales.find? record.order.dateId = some row)
      (htaken : Taken row record.order.quantity poolSeats mid)
      (haccepts : record.order.AcceptsPayment) (intentRef : String) (issues : List SeatIssue)
      (hlength : issues.length = record.order.quantity)
      (hissues : (issues.map fun issue => issue.id).Nodup) (now : Instant) :
      Movement db .counters ((db.putOrder
        { record with
          order := paidOrder record.order intentRef issues now
          confirmed := true }).putSales
        { mid with seatsSold := mid.seatsSold + record.order.quantity })
  | placed {hold : SeatHoldSnapshot} {row row' : DateSalesSnapshot}
      {holds : Table SeatHoldSnapshot.id} {orders : Table OrderRecord.id}
      (placement : SeatOrderPlacement) (binding : IdempotencyBinding) (now : Instant)
      (hquantity : 0 < placement.quantity) (htotal : 0 ≤ placement.quote.total.amountMinor)
      (hon : OnHold hold (SeatOrder.place placement now).current) (hactive : hold.state = .active)
      (hrow : db.sales.find? placement.dateId = some row)
      (htaken : Taken row placement.quantity hold.poolSeats row')
      (hunbound : db.findBound binding.accountId binding.key = none)
      (horders : db.orders.insert
        (.opened (SeatOrder.place placement now).current binding) = some orders)
      (hholds : db.holds.insert hold = some holds) :
      Movement db .counters ({ db with orders, holds }.putSales row')
  | renewed {hold : SeatHoldSnapshot} {record : OrderRecord} {row row' : DateSalesSnapshot}
      {holds : Table SeatHoldSnapshot.id} (hrecord : db.orders.find? record.id = some record)
      (hstate : record.order.state = .pending) (hintent : record.order.intent = none)
      (hgone : db.HoldGone record.order) (hfor : HeldFor hold record.order)
      (hactive : hold.state = .active) (hrow : db.sales.find? record.order.dateId = some row)
      (htaken : Taken row record.order.quantity hold.poolSeats row')
      (hholds : db.holds.insert hold = some holds) :
      Movement db .counters (({ db with holds }.putOrder
        { record with order := renewedOrder record.order hold.id hold.expiresAt }).putSales row')
  | viewerCancelled {record : OrderRecord} {s' : SeatOrderSnapshot} {row : DateSalesSnapshot}
      (hrecord : db.orders.find? record.id = some record) (seatId : Uuid)
      (cancellation : SeatCancellation) (now : Instant)
      (hreason : cancellation.reason = .viewerRequest)
      (hseats : cancellation.seats.map (fun named => named.seatId) = [seatId])
      (hc : Change record.order (.cancelSeats cancellation now) s') (hmoved : s' ≠ record.order)
      (hrow : db.sales.find? record.order.dateId = some row)
      (hsold : 1 ≤ row.seatsSold) :
      Movement db (.seatsCancelled record.order.id cancellation)
        ((db.putOrder { record with order := s' }).putSales
          { row with seatsAvailable := row.seatsAvailable + 1, seatsSold := row.seatsSold - 1 })

section Fields

variable (db : Db) (row : DateSalesSnapshot) (hold : SeatHoldSnapshot) (record : OrderRecord)
  (settlement : DateOutcomeSettlement)

omit [OrderRules]

namespace Db

@[simp] theorem putSales_sales : (db.putSales row).sales = db.sales.put row := rfl

@[simp] theorem putSales_holds : (db.putSales row).holds = db.holds := rfl

@[simp] theorem putSales_orders : (db.putSales row).orders = db.orders := rfl

@[simp] theorem putSales_entries : (db.putSales row).entries = db.entries := rfl

@[simp] theorem putSales_settlements : (db.putSales row).settlements = db.settlements := rfl

@[simp] theorem putHold_sales : (db.putHold hold).sales = db.sales := rfl

@[simp] theorem putHold_holds : (db.putHold hold).holds = db.holds.put hold := rfl

@[simp] theorem putHold_orders : (db.putHold hold).orders = db.orders := rfl

@[simp] theorem putHold_entries : (db.putHold hold).entries = db.entries := rfl

@[simp] theorem putHold_settlements : (db.putHold hold).settlements = db.settlements := rfl

@[simp] theorem putOrder_sales : (db.putOrder record).sales = db.sales := rfl

@[simp] theorem putOrder_holds : (db.putOrder record).holds = db.holds := rfl

@[simp] theorem putOrder_orders : (db.putOrder record).orders = db.orders.put record := rfl

@[simp] theorem putOrder_entries : (db.putOrder record).entries = db.entries := rfl

@[simp] theorem putOrder_settlements : (db.putOrder record).settlements = db.settlements := rfl

@[simp] theorem putSettlement_sales : (db.putSettlement settlement).sales = db.sales := rfl

@[simp] theorem putSettlement_holds : (db.putSettlement settlement).holds = db.holds := rfl

@[simp] theorem putSettlement_orders : (db.putSettlement settlement).orders = db.orders := rfl

@[simp] theorem putSettlement_entries : (db.putSettlement settlement).entries = db.entries := rfl

@[simp] theorem putSettlement_settlements :
    (db.putSettlement settlement).settlements = db.settlements.put settlement := rfl

theorem putOrder_putOrder {record record' : OrderRecord} (h : record.id = record'.id) :
    (db.putOrder record).putOrder record' = db.putOrder record' := by
  unfold putOrder
  rw [Table.put_put h]

theorem putOrder_self {record : OrderRecord} (h : db.orders.find? record.id = some record) :
    db.putOrder record = db := by
  unfold putOrder
  rw [Table.put_self h]

theorem putHold_putOrder : (db.putHold hold).putOrder record = (db.putOrder record).putHold hold :=
  rfl

theorem putSales_putOrder : (db.putSales row).putOrder record = (db.putOrder record).putSales row :=
  rfl

end Db

end Fields

/-- What a movement does to the record of one order. -/
inductive RecordStep (db : Db) (label : Label) (record : OrderRecord) : OrderRecord → Prop
  | same : RecordStep db label record record
  | moved {record' : OrderRecord} (hmove : RecordMove record record' label) :
      RecordStep db label record record'
  | credited {s' : SeatOrderSnapshot} {settlement : DateOutcomeSettlement}
      (hsettlement : db.settlements.find? record.order.dateId = some settlement)
      (houtcome : settlement.outcome ≠ .cancelled) (crediting : SeatCrediting) (now : Instant)
      (hc : Change record.order (.creditSeats crediting now) s') :
      RecordStep db label record { record with order := s' }
  | marked (now : Instant) (hsettled : ¬ record.order.AcceptsPayment)
      (hcancelled : ∀ settlement, db.settlements.find? record.order.dateId = some settlement →
        settlement.outcome = .cancelled → Db.hasActiveSeat record = false) :
      RecordStep db label record { record with outcomeSettledAt := some now }
  | stopped {record' : OrderRecord} (hstops : Stops record record') :
      RecordStep db label record record'
  | paid (haccepts : record.order.AcceptsPayment) (intentRef : String) (issues : List SeatIssue)
      (hlength : issues.length = record.order.quantity)
      (hissues : (issues.map fun issue => issue.id).Nodup) (now : Instant) :
      RecordStep db label record { record with
        order := paidOrder record.order intentRef issues now, confirmed := true }
  | renewed (hstate : record.order.state = .pending) (hintent : record.order.intent = none)
      (holdId : Uuid) (expiresAt : Instant) :
      RecordStep db label record { record with order := renewedOrder record.order holdId expiresAt }
  | viewerCancelled {s' : SeatOrderSnapshot} (cancellation : SeatCancellation) (now : Instant)
      (hlabel : label = .seatsCancelled record.order.id cancellation)
      (hc : Change record.order (.cancelSeats cancellation now) s') :
      RecordStep db label record { record with order := s' }

/-- What a movement does to a hold: nothing, or it leaves. -/
inductive HoldStep (label : Label) (hold : SeatHoldSnapshot) : SeatHoldSnapshot → Prop
  | same : HoldStep label hold hold
  | left (hactive : hold.state = .active) (state : SeatHoldState) (hstate : state ≠ .active)
      (hlabel : label = .holdLeft hold.id) : HoldStep label hold (leftHold hold state)

/-- The record is the same purchase's. -/
structure SamePurchase (record record' : OrderRecord) : Prop where
  id : record'.order.id = record.order.id
  dateId : record'.order.dateId = record.order.dateId
  quantity : record'.order.quantity = record.order.quantity
  total : record'.order.quote.total = record.order.quote.total
  accountId : record'.order.accountId = record.order.accountId
  binding : record'.binding = record.binding

omit [OrderRules] in
theorem SamePurchase.refl (record : OrderRecord) : SamePurchase record record :=
  ⟨rfl, rfl, rfl, rfl, rfl, rfl⟩

omit [OrderRules] in
theorem SamePurchase.trans {r s t : OrderRecord} (h₁ : SamePurchase r s) (h₂ : SamePurchase s t) :
    SamePurchase r t :=
  ⟨h₂.id.trans h₁.id, h₂.dateId.trans h₁.dateId, h₂.quantity.trans h₁.quantity,
    h₂.total.trans h₁.total, h₂.accountId.trans h₁.accountId, h₂.binding.trans h₁.binding⟩

section Cases

variable {db db' : Db} {label : Label} {record record' : OrderRecord}

theorem Change.samePurchase {s' : SeatOrderSnapshot} {op : Operation}
    (hc : Change record.order op s') : SamePurchase record { record with order := s' } := by
  cases hc with
  | refundMade refund refundRef now made sign reached changed hfind hunmade hmade hsign hreached
      hchanged =>
      rw [hchanged]
      split_ifs <;> exact ⟨rfl, rfl, rfl, rfl, rfl, rfl⟩
  | _ => exact ⟨rfl, rfl, rfl, rfl, rfl, rfl⟩

/-- No operation but a renewal moves an order to another hold. -/
theorem Change.sameHold {s s' : SeatOrderSnapshot} {op : Operation} (hc : Change s op s')
    (hop : ∀ holdId expiresAt now, op ≠ .renewHold holdId expiresAt now) :
    s'.holdId = s.holdId ∧ s'.expiresAt = s.expiresAt := by
  cases hc with
  | holdRenewed holdId expiresAt now => exact absurd rfl (hop holdId expiresAt now)
  | refundMade refund refundRef now made sign reached changed hfind hunmade hmade hsign hreached
      hchanged =>
      rw [hchanged]
      split_ifs <;> exact ⟨rfl, rfl⟩
  | _ => exact ⟨rfl, rfl⟩

omit [OrderRules] in
theorem Operation.Books.not_renewHold {op : Operation} (h : op.Books) (holdId : Uuid)
    (expiresAt now : Instant) : op ≠ .renewHold holdId expiresAt now := by
  rintro rfl
  exact h

theorem RecordMove.samePurchase (h : RecordMove record record' label) :
    SamePurchase record record' := by
  cases h with
  | waiting intent state now hc => exact hc.samePurchase
  | booked op hbooks hc => exact hc.samePurchase
  | disputed hsettled hc => exact hc.samePurchase
  | cancelled cancellation now hreason hc => exact hc.samePurchase
  | _ => exact ⟨rfl, rfl, rfl, rfl, rfl, rfl⟩

theorem RecordMove.sameHold (h : RecordMove record record' label) :
    record'.order.holdId = record.order.holdId ∧
      record'.order.expiresAt = record.order.expiresAt := by
  cases h with
  | waiting intent state now hc => exact hc.sameHold (by simp)
  | booked op hbooks hc => exact hc.sameHold hbooks.not_renewHold
  | disputed hsettled hc => exact hc.sameHold (by simp)
  | cancelled cancellation now hreason hc => exact hc.sameHold (by simp)
  | _ => exact ⟨rfl, rfl⟩

theorem Stops.samePurchase (h : Stops record record') : SamePurchase record record' := by
  cases h <;> exact ⟨rfl, rfl, rfl, rfl, rfl, rfl⟩

theorem Stops.sameHold (h : Stops record record') :
    record'.order.holdId = record.order.holdId ∧
      record'.order.expiresAt = record.order.expiresAt := by
  cases h <;> exact ⟨rfl, rfl⟩

theorem RecordStep.samePurchase (h : RecordStep db label record record') :
    SamePurchase record record' := by
  cases h with
  | moved hmove => exact hmove.samePurchase
  | credited _ _ crediting now hc => exact hc.samePurchase
  | stopped hstops => exact hstops.samePurchase
  | viewerCancelled cancellation now _ hc => exact hc.samePurchase
  | _ => exact ⟨rfl, rfl, rfl, rfl, rfl, rfl⟩

/-- A record put in the place of another: the others as they are. -/
theorem recordStep_put (hrecord : db.orders.find? record.id = some record)
    (hstep : RecordStep db label record record') {r' : OrderRecord}
    (hr' : r' ∈ (db.orders.put record').rows) :
    ∃ r, db.orders.find? r'.id = some r ∧ RecordStep db label r r' := by
  have hid : record'.id = record.id := hstep.samePurchase.id
  rcases (Table.mem_put (hid ▸ hrecord)).mp hr' with rfl | ⟨hmem, -⟩
  · exact ⟨record, hid ▸ hrecord, hstep⟩
  · exact ⟨r', Table.find?_of_mem hmem, .same⟩

/-- What a movement makes of the orders: each is one there was, moved, or the one just placed. -/
theorem Movement.record_cases (h : Movement db label db') {r' : OrderRecord}
    (hr' : r' ∈ db'.orders.rows) :
    (∃ r, db.orders.find? r'.id = some r ∧ RecordStep db label r r') ∨
      ∃ placement binding now, 0 < placement.quantity ∧ 0 ≤ placement.quote.total.amountMinor ∧
        r' = .opened (SeatOrder.place placement now).current binding ∧
        db.orders.find? r'.id = none ∧ db.findBound binding.accountId binding.key = none := by
  cases h with
  | order hrecord hmove => exact .inl (recordStep_put hrecord (.moved hmove) hr')
  | credited hrecord hsettlement houtcome crediting now hc =>
      exact .inl (recordStep_put hrecord (.credited hsettlement houtcome crediting now hc) hr')
  | marked hrecord now hsettled hcancelled =>
      exact .inl (recordStep_put hrecord (.marked now hsettled hcancelled) hr')
  | stopped hrecord _ hstops => exact .inl (recordStep_put hrecord (.stopped hstops) hr')
  | returned hrecord _ _ _ _ _ _ hleave =>
      refine .inl (recordStep_put hrecord ?_ hr')
      rcases hleave with ⟨rfl, -, -⟩ | hstops
      · exact .same
      · exact .stopped hstops
  | sold hrecord _ _ _ haccepts intentRef issues hlength hissues now =>
      exact .inl (recordStep_put hrecord (.paid haccepts intentRef issues hlength hissues now) hr')
  | soldDirect hrecord _ _ _ haccepts intentRef issues hlength hissues now =>
      exact .inl (recordStep_put hrecord (.paid haccepts intentRef issues hlength hissues now) hr')
  | placed placement binding now hquantity htotal _ _ _ _ hunbound horders =>
      rcases (Table.mem_insert horders).mp hr' with hmem | rfl
      · exact .inl ⟨r', Table.find?_of_mem hmem, .same⟩
      · exact .inr ⟨placement, binding, now, hquantity, htotal, rfl,
          (Table.insert_eq_some horders).2, hunbound⟩
  | renewed hrecord hstate hintent =>
      exact .inl (recordStep_put hrecord (.renewed hstate hintent _ _) hr')
  | viewerCancelled hrecord seatId cancellation now _ _ hc =>
      exact .inl (recordStep_put hrecord (.viewerCancelled cancellation now rfl hc) hr')
  | _ => exact .inl ⟨r', Table.find?_of_mem hr', .same⟩

/-- A record put in the place of another is found where the other was. -/
theorem recordStep_find (hrecord : db.orders.find? record.id = some record)
    (hstep : RecordStep db label record record') {r : OrderRecord} {id : Uuid}
    (hr : db.orders.find? id = some r) :
    ∃ r', (db.orders.put record').find? id = some r' ∧ RecordStep db label r r' := by
  have hsame : record'.id = record.id := hstep.samePurchase.id
  by_cases hid : id = record'.id
  · subst hid
    rw [hsame, hrecord] at hr
    exact ⟨record', Table.find?_put_self (hsame ▸ hrecord), Option.some.inj hr ▸ hstep⟩
  · exact ⟨r, (Table.find?_put_of_ne (Ne.symm hid)).trans hr, .same⟩

/-- An order is never lost: it is found after a movement, as the movement moved it. -/
theorem Movement.record_find (h : Movement db label db') {r : OrderRecord} {id : Uuid}
    (hr : db.orders.find? id = some r) :
    ∃ r', db'.orders.find? id = some r' ∧ RecordStep db label r r' := by
  cases h with
  | order hrecord hmove => exact recordStep_find hrecord (.moved hmove) hr
  | credited hrecord hsettlement houtcome crediting now hc =>
      exact recordStep_find hrecord (.credited hsettlement houtcome crediting now hc) hr
  | marked hrecord now hsettled hcancelled =>
      exact recordStep_find hrecord (.marked now hsettled hcancelled) hr
  | stopped hrecord _ hstops => exact recordStep_find hrecord (.stopped hstops) hr
  | returned hrecord _ _ _ _ _ _ hleave =>
      refine recordStep_find hrecord ?_ hr
      rcases hleave with ⟨rfl, -, -⟩ | hstops
      · exact .same
      · exact .stopped hstops
  | sold hrecord _ _ _ haccepts intentRef issues hlength hissues now =>
      exact recordStep_find hrecord (.paid haccepts intentRef issues hlength hissues now) hr
  | soldDirect hrecord _ _ _ haccepts intentRef issues hlength hissues now =>
      exact recordStep_find hrecord (.paid haccepts intentRef issues hlength hissues now) hr
  | placed placement binding now _ _ _ _ _ _ _ horders =>
      have hne : OrderRecord.id (.opened (SeatOrder.place placement now).current binding) ≠ id := by
        intro hid
        have hfresh := (Table.insert_eq_some horders).2
        rw [hid, hr] at hfresh
        cases hfresh
      exact ⟨r, (Table.find?_insert_of_ne horders hne).trans hr, .same⟩
  | renewed hrecord hstate hintent =>
      exact recordStep_find hrecord (.renewed hstate hintent _ _) hr
  | viewerCancelled hrecord seatId cancellation now _ _ hc =>
      exact recordStep_find hrecord (.viewerCancelled cancellation now rfl hc) hr
  | _ => exact ⟨r, hr, .same⟩

omit [OrderRules] in
/-- A hold that left, put in its place: the others as they are. -/
theorem holdStep_put {hold : SeatHoldSnapshot} {holds : Table SeatHoldSnapshot.id} {holdId : Uuid}
    (hhold : holds.find? holdId = some hold) (hactive : hold.state = .active)
    {state : SeatHoldState} (hstate : state ≠ .active) {h' : SeatHoldSnapshot}
    (hh' : h' ∈ (holds.put (leftHold hold state)).rows) :
    ∃ h, holds.find? h'.id = some h ∧ HoldStep (.holdLeft hold.id) h h' := by
  have hself : holds.find? (leftHold hold state).id = some hold :=
    (Table.key_of_find? hhold).symm ▸ hhold
  rcases (Table.mem_put hself).mp hh' with rfl | ⟨hmem, -⟩
  · exact ⟨hold, hself, .left hactive state hstate rfl⟩
  · exact ⟨h', Table.find?_of_mem hmem, .same⟩

omit [OrderRules] in
theorem holdStep_find {hold : SeatHoldSnapshot} {holds : Table SeatHoldSnapshot.id} {holdId : Uuid}
    (hhold : holds.find? holdId = some hold) (hactive : hold.state = .active)
    {state : SeatHoldState} (hstate : state ≠ .active) {h : SeatHoldSnapshot} {id : Uuid}
    (hh : holds.find? id = some h) :
    ∃ h', (holds.put (leftHold hold state)).find? id = some h' ∧
      HoldStep (.holdLeft hold.id) h h' := by
  have hself : holds.find? (leftHold hold state).id = some hold :=
    (Table.key_of_find? hhold).symm ▸ hhold
  by_cases hid : id = (leftHold hold state).id
  · subst hid
    rw [hself] at hh
    cases hh
    exact ⟨_, Table.find?_put_self hself, .left hactive state hstate rfl⟩
  · exact ⟨h, (Table.find?_put_of_ne (Ne.symm hid)).trans hh, .same⟩

omit [OrderRules] in
theorem released_or_expired {state : SeatHoldState} (h : state = .released ∨ state = .expired) :
    state ≠ .active := by
  rcases h with rfl | rfl <;> decide

/-- What a movement makes of the holds: each is one there was, left or as it was, or one just
placed. -/
theorem Movement.hold_cases (h : Movement db label db') {h' : SeatHoldSnapshot}
    (hh' : h' ∈ db'.holds.rows) :
    (∃ hold, db.holds.find? h'.id = some hold ∧ HoldStep label hold h') ∨
      (h'.state = .active ∧ label = .counters ∧ ∃ row row', db.sales.find? h'.dateId = some row ∧
        Taken row h'.quantity h'.poolSeats row') := by
  cases h with
  | returned hrecord hhold hactive hrow state hstate =>
      exact .inl (holdStep_put hhold hactive (released_or_expired hstate) hh')
  | sold hrecord hhold hactive => exact .inl (holdStep_put hhold hactive (by decide) hh')
  | placed placement binding now _ _ hon hactive hrow htaken _ _ hholds =>
      rcases (Table.mem_insert hholds).mp hh' with hmem | rfl
      · exact .inl ⟨h', Table.find?_of_mem hmem, .same⟩
      · have hdate : h'.dateId = placement.dateId := hon.dateId
        have hquantity : h'.quantity = placement.quantity := hon.quantity
        exact .inr ⟨hactive, rfl, _, _, hdate ▸ hrow, hquantity ▸ htaken⟩
  | renewed hrecord _ _ _ hfor hactive hrow htaken hholds =>
      rcases (Table.mem_insert hholds).mp hh' with hmem | rfl
      · exact .inl ⟨h', Table.find?_of_mem hmem, .same⟩
      · exact .inr ⟨hactive, rfl, _, _, hfor.dateId ▸ hrow, hfor.quantity ▸ htaken⟩
  | _ => exact .inl ⟨h', Table.find?_of_mem hh', .same⟩

/-- A hold is never lost: it is found after a movement, left or as it was. -/
theorem Movement.hold_find (h : Movement db label db') {hold : SeatHoldSnapshot} {id : Uuid}
    (hhold : db.holds.find? id = some hold) :
    ∃ h', db'.holds.find? id = some h' ∧ HoldStep label hold h' := by
  cases h with
  | returned hrecord hleft hactive hrow state hstate =>
      exact holdStep_find hleft hactive (released_or_expired hstate) hhold
  | sold hrecord hleft hactive => exact holdStep_find hleft hactive (by decide) hhold
  | placed _ _ _ _ _ _ _ _ _ _ _ hholds => exact ⟨hold, Table.find?_of_insert hholds hhold, .same⟩
  | renewed _ _ _ _ _ _ _ _ hholds => exact ⟨hold, Table.find?_of_insert hholds hhold, .same⟩
  | _ => exact ⟨hold, hhold, .same⟩

/-! ## The rows of the dates -/

/-- What a movement does to the row of one date. -/
inductive RowStep (label : Label) (row : DateSalesSnapshot) : DateSalesSnapshot → Prop
  | same : RowStep label row row
  | moved {row' : DateSalesSnapshot} (hmove : SaleMove row row' label) : RowStep label row row'
  | taken {row' : DateSalesSnapshot} {quantity : ℕ} {poolSeats : ℤ} (hlabel : label = .counters)
      (htaken : Taken row quantity poolSeats row') : RowStep label row row'
  | soldDirect {mid : DateSalesSnapshot} {quantity : ℕ} {poolSeats : ℤ}
      (hlabel : label = .counters) (htaken : Taken row quantity poolSeats mid) :
      RowStep label row { mid with seatsSold := mid.seatsSold + quantity }
  | returned (quantity : ℕ) (poolSeats : ℤ) (now : Instant)
      (hlabel : ∃ holdId, label = .holdLeft holdId) :
      RowStep label row (Db.returned row quantity poolSeats now)
  | sold (quantity : ℕ) (hlabel : ∃ holdId, label = .holdLeft holdId) :
      RowStep label row { row with seatsSold := row.seatsSold + quantity }
  | released (hlabel : ∃ orderId cancellation, label = .seatsCancelled orderId cancellation) :
      RowStep label row
        { row with seatsAvailable := row.seatsAvailable + 1, seatsSold := row.seatsSold - 1 }

omit [OrderRules] in
theorem SaleMove.dateId {row row' : DateSalesSnapshot} (h : SaleMove row row' label) :
    row'.dateId = row.dateId := by
  cases h with
  | quiet hkept => exact hkept.dateId
  | outcomeStated _ hdate => exact hdate
  | tierOnSale hkept => exact hkept.dateId
  | tierPooled hkept => exact hkept.dateId
  | windowEnded hkept => exact hkept.dateId

omit [OrderRules] in
theorem RowStep.dateId {row row' : DateSalesSnapshot} (h : RowStep label row row') :
    row'.dateId = row.dateId := by
  cases h with
  | moved hmove => exact hmove.dateId
  | taken _ htaken => exact htaken.dateId
  | soldDirect _ htaken => exact htaken.dateId
  | _ => rfl

omit [OrderRules] in
/-- A row put in the place of another is found where the other was. -/
theorem rowStep_find {row row' : DateSalesSnapshot} {movedId : Uuid}
    (hrow : db.sales.find? movedId = some row) (hstep : RowStep label row row')
    {other : DateSalesSnapshot} {dateId : Uuid} (hother : db.sales.find? dateId = some other) :
    ∃ other', (db.sales.put row').find? dateId = some other' ∧ RowStep label other other' := by
  have hkey : row'.dateId = movedId := hstep.dateId.trans (Table.key_of_find? hrow)
  by_cases hdate : dateId = row'.dateId
  · subst hdate
    rw [hkey, hrow] at hother
    exact ⟨row', Table.find?_put_self (hkey ▸ hrow), Option.some.inj hother ▸ hstep⟩
  · exact ⟨other, (Table.find?_put_of_ne (Ne.symm hdate)).trans hother, .same⟩

/-- A date's row is never lost: it is found after a movement, as the movement moved it. -/
theorem Movement.sales_find (h : Movement db label db') {row : DateSalesSnapshot} {dateId : Uuid}
    (hrow : db.sales.find? dateId = some row) :
    ∃ row', db'.sales.find? dateId = some row' ∧ RowStep label row row' := by
  cases h with
  | sale hmoved hmove => exact rowStep_find hmoved (.moved hmove) hrow
  | dateOpened _ _ hinsert => exact ⟨row, Table.find?_of_insert hinsert hrow, .same⟩
  | returned _ _ _ hmoved _ _ now => exact rowStep_find hmoved (.returned _ _ now ⟨_, rfl⟩) hrow
  | sold _ _ _ hmoved => exact rowStep_find hmoved (.sold _ ⟨_, rfl⟩) hrow
  | soldDirect _ _ hmoved htaken => exact rowStep_find hmoved (.soldDirect rfl htaken) hrow
  | placed _ _ _ _ _ _ _ hmoved htaken => exact rowStep_find hmoved (.taken rfl htaken) hrow
  | renewed _ _ _ _ _ _ hmoved htaken => exact rowStep_find hmoved (.taken rfl htaken) hrow
  | viewerCancelled _ _ _ _ _ _ _ _ hmoved =>
      exact rowStep_find hmoved (.released ⟨_, _, rfl⟩) hrow
  | _ => exact ⟨row, hrow, .same⟩

end Cases

end Arthome.Ticketing
