import Arthome.Library.DiffSave
import Arthome.Ticketing.SeatOrder

/-!
# Orders in their tables

An order is stored over three tables: its own row, one row per seat, one row per
refund. Loading reads them under the order's lock and remembers what they held.
Saving is a hand-written difference: the order's state columns, conditioned on
the version it was loaded at; the seats not stored yet, inserted; the refunds
not stored yet, inserted unless a unique index refuses them; the refunds made
since and the seats moved since, updated. The statements run in that order, each
under the constraints the migrations declare, and a refused one aborts the
transaction.
-/

namespace Arthome.Ticketing

open Arthome.Core Library

/-- Every column a save may move; the rest are the placement's, written once. -/
structure OrderStateColumns where
  holdId : Uuid
  expiresAt : Instant
  state : OrderState
  paymentIntentRef : Option String
  clientSecret : Option String
  nextAction : Option NextAction
  failureCode : Option OrderErrorCode
  declineCode : Option String
  intentCancelOwedAt : Option Instant
  paidAt : Option Instant
  version : ℕ
  deriving Repr, DecidableEq

structure SeatOrderRow extends OrderStateColumns where
  id : Uuid
  reference : String
  idempotencyKey : Uuid
  accountId : Option Uuid
  fingerprint : String
  dateId : Uuid
  channelId : Uuid
  profileId : Option Uuid
  tier : PriceTier
  quantity : ℕ
  currencyCode : String
  unitPriceMinor : ℤ
  tierTotalMinor : ℤ
  serviceFeeMinor : ℤ
  discountMinor : ℤ
  totalMinor : ℤ
  declaredTaxLocation : Option DeclaredTaxLocation
  placedAt : Instant
  deriving Repr, DecidableEq

/-- Every column a seat's move writes; the rest are its payment's, written once. -/
structure SeatStateColumns where
  state : SeatState
  endedAt : Option Instant
  cancelReason : Option SeatCancelReason
  refundId : Option Uuid
  refundAmountMinor : Option ℤ
  creditId : Option Uuid
  creditAmountMinor : Option ℤ
  deriving Repr, DecidableEq

/-- The checks of a seat's row and its references, all on the columns a move writes. -/
def SeatStateColumns.Accepted (columns : SeatStateColumns) (refundIds creditIds : List Uuid) :
    Prop :=
  (columns.state = .active ↔ columns.endedAt = none) ∧
  (columns.refundId = none ↔ columns.refundAmountMinor = none) ∧
  (∀ minor ∈ columns.refundAmountMinor, 0 < minor) ∧
  (columns.creditId = none ↔ columns.creditAmountMinor = none) ∧
  (∀ minor ∈ columns.creditAmountMinor, 0 ≤ minor) ∧
  (∀ refundId ∈ columns.refundId, refundId ∈ refundIds) ∧
  ∀ creditId ∈ columns.creditId, creditId ∈ creditIds

instance (columns : SeatStateColumns) (refundIds creditIds : List Uuid) :
    Decidable (columns.Accepted refundIds creditIds) := by
  unfold SeatStateColumns.Accepted
  infer_instance

structure SeatRow extends SeatStateColumns where
  id : Uuid
  orderId : Uuid
  dateId : Uuid
  accountId : Option Uuid
  profileId : Option Uuid
  tier : PriceTier
  seatCode : String
  cancelDeadline : Option Instant
  activatedAt : Instant
  deriving Repr, DecidableEq

structure OrderRefundRow where
  id : Uuid
  orderId : Uuid
  seatId : Option Uuid
  amountMinor : ℤ
  currencyCode : String
  reason : RefundReason
  idempotencyKey : String
  owedAt : Instant
  refundRef : Option String
  refundedAt : Option Instant
  deriving Repr, DecidableEq

/-- The tables an order is stored over, and the credits its seats may reference. -/
structure OrderTables where
  orders : Table SeatOrderRow.id
  seats : Table SeatRow.id
  refunds : Table OrderRefundRow.id
  credits : List Uuid

section Rows

def orderStateColumnsOf (order : SeatOrderSnapshot) : OrderStateColumns where
  holdId := order.holdId
  expiresAt := order.expiresAt
  state := order.state
  paymentIntentRef := order.intent.map fun intent => intent.ref
  clientSecret := order.intent.bind fun intent => intent.clientSecret
  nextAction := order.intent.bind fun intent => intent.nextAction
  failureCode := order.failure.bind fun failure => failure.code
  declineCode := order.failure.bind fun failure => failure.declineCode
  intentCancelOwedAt := order.intentCancelOwedAt
  paidAt := order.paidAt
  version := order.version

def minorOf (amount : Option Money) : Option ℤ := amount.map Money.amountMinor

def seatStateColumnsOf (seat : SeatSnapshot) : SeatStateColumns where
  state := seat.state
  endedAt := seat.endedAt
  cancelReason := seat.cancelReason
  refundId := seat.refundId
  refundAmountMinor := minorOf seat.refundAmount
  creditId := seat.creditId
  creditAmountMinor := minorOf seat.creditAmount

def seatRowOf (order : SeatOrderSnapshot) (seat : SeatSnapshot) : SeatRow where
  toSeatStateColumns := seatStateColumnsOf seat
  id := seat.id
  orderId := order.id
  dateId := order.dateId
  accountId := order.accountId
  profileId := order.profileId
  tier := seat.tier
  seatCode := seat.code
  cancelDeadline := seat.cancelDeadline
  activatedAt := seat.activatedAt

/-- The purchase's `Idempotency-Key`, bound to the order it created. -/
structure IdempotencyBinding where
  accountId : Option Uuid
  key : Uuid
  fingerprint : String
  deriving Repr, DecidableEq

/-- The row a placement inserts, with its key. -/
def seatOrderRowOf (order : SeatOrderSnapshot) (binding : IdempotencyBinding) : SeatOrderRow where
  toOrderStateColumns := orderStateColumnsOf order
  id := order.id
  reference := order.reference
  idempotencyKey := binding.key
  accountId := binding.accountId
  fingerprint := binding.fingerprint
  dateId := order.dateId
  channelId := order.channelId
  profileId := order.profileId
  tier := order.tier
  quantity := order.quantity
  currencyCode := order.quote.total.currencyCode
  unitPriceMinor := order.quote.unitPrice.amountMinor
  tierTotalMinor := order.quote.tierTotal.amountMinor
  serviceFeeMinor := order.quote.serviceFee.amountMinor
  discountMinor := order.quote.discount.amountMinor
  totalMinor := order.quote.total.amountMinor
  declaredTaxLocation := order.declaredTaxLocation
  placedAt := order.placedAt

def refundRowOf (orderId : Uuid) (refund : OrderRefund) : OrderRefundRow where
  id := refund.id
  orderId := orderId
  seatId := refund.seatId
  amountMinor := refund.amount.amountMinor
  currencyCode := refund.amount.currencyCode
  reason := refund.reason
  idempotencyKey := refund.idempotencyKey
  owedAt := refund.owedAt
  refundRef := refund.ref
  refundedAt := refund.refundedAt

def refundOf (row : OrderRefundRow) : OrderRefund where
  id := row.id
  amount := ⟨row.amountMinor, row.currencyCode⟩
  reason := row.reason
  idempotencyKey := row.idempotencyKey
  seatId := row.seatId
  owedAt := row.owedAt
  ref := row.refundRef
  refundedAt := row.refundedAt

def seatSnapshotOf (row : SeatRow) (currencyCode : String) : SeatSnapshot where
  id := row.id
  code := row.seatCode
  tier := row.tier
  state := row.state
  cancelDeadline := row.cancelDeadline
  activatedAt := row.activatedAt
  endedAt := row.endedAt
  cancelReason := row.cancelReason
  refundId := row.refundId
  refundAmount := row.refundAmountMinor.map fun minor => ⟨minor, currencyCode⟩
  creditId := row.creditId
  creditAmount := row.creditAmountMinor.map fun minor => ⟨minor, currencyCode⟩

def seatOrderSnapshotOf (row : SeatOrderRow) (seats : List SeatRow)
    (refunds : List OrderRefundRow) : SeatOrderSnapshot where
  id := row.id
  reference := row.reference
  dateId := row.dateId
  channelId := row.channelId
  accountId := row.accountId
  profileId := row.profileId
  tier := row.tier
  quantity := row.quantity
  quote :=
    { unitPrice := ⟨row.unitPriceMinor, row.currencyCode⟩
      tierTotal := ⟨row.tierTotalMinor, row.currencyCode⟩
      serviceFee := ⟨row.serviceFeeMinor, row.currencyCode⟩
      discount := ⟨row.discountMinor, row.currencyCode⟩
      total := ⟨row.totalMinor, row.currencyCode⟩ }
  declaredTaxLocation := row.declaredTaxLocation
  holdId := row.holdId
  expiresAt := row.expiresAt
  state := row.state
  intent := row.paymentIntentRef.map fun ref => ⟨ref, row.clientSecret, row.nextAction⟩
  failure := if row.state = .failed then some ⟨row.failureCode, row.declineCode⟩ else none
  refunds := refunds.map refundOf
  intentCancelOwedAt := row.intentCancelOwedAt
  placedAt := row.placedAt
  paidAt := row.paidAt
  seats := seats.map fun seat => seatSnapshotOf seat row.currencyCode
  version := row.version

end Rows

/-- An order as the transaction tracks it: the version and the children last read or written. -/
structure TrackedOrder where
  order : SeatOrder
  loadedVersion : ℕ
  storedSeats : List SeatSnapshot
  storedRefunds : List OrderRefund

namespace OrderTables

def seatsOf (tables : OrderTables) (orderId : Uuid) : List SeatRow :=
  tables.seats.rows.filter fun row => row.orderId = orderId

def refundsOf (tables : OrderTables) (orderId : Uuid) : List OrderRefundRow :=
  tables.refunds.rows.filter fun row => row.orderId = orderId

/-- Seats by their code, refunds in the order they were owed. -/
def findById (tables : OrderTables) (orderId : Uuid) : Option TrackedOrder :=
  (tables.orders.find? orderId).map fun row =>
    let order := SeatOrder.restore (seatOrderSnapshotOf row
      ((tables.seatsOf orderId).mergeSort fun a b => decide (a.seatCode ≤ b.seatCode))
      ((tables.refundsOf orderId).mergeSort fun a b =>
        decide (a.owedAt < b.owedAt ∨ a.owedAt = b.owedAt ∧ a.id ≤ b.id)))
    { order
      loadedVersion := row.version
      storedSeats := order.current.seats
      storedRefunds := order.current.refunds }

/-- A new order with its key; nothing when a unique index holds its key, its id or its reference
already. -/
def place (tables : OrderTables) (order : SeatOrder) (binding : IdempotencyBinding) :
    Option (OrderTables × TrackedOrder) :=
  let row := seatOrderRowOf order.current binding
  if ∃ held ∈ tables.orders.rows, held.reference = row.reference ∨
      held.accountId = row.accountId ∧ held.idempotencyKey = row.idempotencyKey then none
  else (tables.orders.insert row).map fun orders =>
    ({ tables with orders },
      { order, loadedVersion := order.current.version, storedSeats := [], storedRefunds := [] })

/-- The version-conditional update of the order's row. -/
def saveVersioned (tables : OrderTables) (order : SeatOrderSnapshot) (loadedVersion : ℕ) :
    Except Refusal OrderTables :=
  match tables.orders.find? order.id with
  | none => .error (.error "EntityNotFoundError")
  | some row =>
    if row.version = loadedVersion then
      .ok { tables with
        orders := tables.orders.put { row with toOrderStateColumns := orderStateColumnsOf order } }
    else .error (.stateConflict row.version)

/-- The checks and the references of a seat's row. -/
def SeatRowAccepted (tables : OrderTables) (row : SeatRow) : Prop :=
  row.toSeatStateColumns.Accepted (tables.refunds.rows.map fun r => r.id) tables.credits

instance (tables : OrderTables) (row : SeatRow) : Decidable (tables.SeatRowAccepted row) := by
  unfold SeatRowAccepted
  infer_instance

/-- New seats: their ids and codes free, their rows within the constraints. -/
def insertSeats (tables : OrderTables) (new : List SeatRow) : Except Refusal OrderTables :=
  match tables.seats.insertAll new with
  | none => .error (.error "23505")
  | some seats =>
    if ¬ ((new.map fun row => row.seatCode).Nodup ∧
        ∀ row ∈ new, row.seatCode ∉ tables.seats.rows.map fun held => held.seatCode) then
      .error (.error "23505")
    else if ∀ row ∈ new, tables.SeatRowAccepted row then .ok { tables with seats }
    else .error (.error "23514")

/-- A refund of a payment no seat was given for. -/
def Unseated (row : OrderRefundRow) : Prop :=
  row.seatId = none ∧ (row.reason = .holdExpiredCapacityLost ∨ row.reason = .dateCancelled)

instance : DecidablePred Unseated := fun row => by
  unfold Unseated
  infer_instance

/-- Two rows no unique index of the refunds takes together. -/
def Conflict (held row : OrderRefundRow) : Prop :=
  held.idempotencyKey = row.idempotencyKey ∨
    Unseated held ∧ Unseated row ∧ held.orderId = row.orderId

instance (held row : OrderRefundRow) : Decidable (Conflict held row) := by
  unfold Conflict
  infer_instance

/-- A unique index of the refunds holds another row against this one. -/
def RefundConflicts (refunds : Table OrderRefundRow.id) (row : OrderRefundRow) : Prop :=
  ∃ held ∈ refunds.rows, Conflict held row

instance (refunds : Table OrderRefundRow.id) (row : OrderRefundRow) :
    Decidable (RefundConflicts refunds row) := by
  unfold RefundConflicts
  infer_instance

/-- `ON CONFLICT DO NOTHING`: the table with the rows no unique index refused, and their ids. -/
def insertOrIgnore (refunds : Table OrderRefundRow.id) :
    List OrderRefundRow → Table OrderRefundRow.id × List Uuid
  | [] => (refunds, [])
  | row :: rows =>
    if RefundConflicts refunds row then insertOrIgnore refunds rows
    else
      match refunds.insert row with
      | none => insertOrIgnore refunds rows
      | some inserted =>
        let rest := insertOrIgnore inserted rows
        (rest.1, row.id :: rest.2)

/-- New refunds; one not inserted must be the same refund, held already. -/
def insertRefunds (tables : OrderTables) (orderId : Uuid) (new : List OrderRefund) :
    Except Refusal OrderTables :=
  let rows := new.map (refundRowOf orderId)
  if ¬ ∀ row ∈ rows, 0 < row.amountMinor then .error (.error "23514")
  else
    let inserted := insertOrIgnore tables.refunds rows
    if ¬ ∀ row ∈ rows, row.id ∈ inserted.2 → ∀ seatId ∈ row.seatId,
        seatId ∈ tables.seats.rows.map fun seat => seat.id then .error (.error "23503")
    else
      match rows.find? fun row => row.id ∉ inserted.2 ∧ ¬ same inserted.1 row with
      | some row => .error (.error (s!"refund {row.id} of order {orderId} not recorded: " ++
          s!"its id or its key {row.idempotencyKey} is another refund's"))
      | none => .ok { tables with refunds := inserted.1 }
where
  same (refunds : Table OrderRefundRow.id) (row : OrderRefundRow) : Bool :=
    match refunds.find? row.id with
    | none => false
    | some held => held.orderId = orderId && held.idempotencyKey = row.idempotencyKey &&
        held.amountMinor = row.amountMinor

/-- What a refund's update writes. -/
def writeRefund (refund : OrderRefund) (row : OrderRefundRow) : OrderRefundRow :=
  { row with refundRef := refund.ref, refundedAt := refund.refundedAt }

def refundMoved (before refund : OrderRefund) : Bool :=
  ¬ (before.refundedAt = refund.refundedAt ∧ before.ref = refund.ref)

/-- The refunds made since they were stored. -/
def saveMadeRefunds (tables : OrderTables) (stored current : List OrderRefund) : OrderTables :=
  { tables with
    refunds := tables.refunds.updateEach
      (movedFrom stored current (fun r => r.id) refundMoved) (fun r => r.id) writeRefund
      fun _ _ => rfl }

/-- What a seat's update writes. -/
def writeSeat (seat : SeatSnapshot) (row : SeatRow) : SeatRow :=
  { row with toSeatStateColumns := seatStateColumnsOf seat }

def seatMoved (before seat : SeatSnapshot) : Bool :=
  seatStateColumnsOf seat ≠ seatStateColumnsOf before

/-- The seats moved since they were stored, after the refund rows they reference. -/
def saveMovedSeats (tables : OrderTables) (stored current : List SeatSnapshot) :
    Except Refusal OrderTables :=
  let moved := movedFrom stored current (fun seat => seat.id) seatMoved
  let seats := tables.seats.updateEach moved (fun seat => seat.id) writeSeat fun _ _ => rfl
  if ∀ row ∈ seats.rows, row.id ∈ moved.map (fun seat => seat.id) →
      tables.SeatRowAccepted row then .ok { tables with seats }
  else .error (.error "23514")

/-- The order's difference, statement by statement. -/
def save (tables : OrderTables) (tracked : TrackedOrder) :
    Reply OrderTables Refusal TrackedOrder :=
  let current := tracked.order.current
  let newSeats := (addedTo tracked.storedSeats current.seats fun seat => seat.id).map
    (seatRowOf current)
  let newRefunds := addedTo tracked.storedRefunds current.refunds fun r => r.id
  .guard tables (tables.saveVersioned current tracked.loadedVersion) fun t₁ =>
  .guard t₁ (t₁.insertSeats newSeats) fun t₂ =>
  .guard t₂ (t₂.insertRefunds current.id newRefunds) fun t₃ =>
    let t₄ := t₃.saveMadeRefunds tracked.storedRefunds current.refunds
    .guard t₄ (t₄.saveMovedSeats tracked.storedSeats current.seats) fun t₅ =>
      .answer t₅ { tracked with
        loadedVersion := current.version
        storedSeats := current.seats
        storedRefunds := current.refunds }

end OrderTables

end Arthome.Ticketing
