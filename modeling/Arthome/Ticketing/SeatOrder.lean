import Arthome.Core.OrderRules
import Arthome.Library.Reply

/-!
# The order of seats

`SeatOrder` is the aggregate of one purchase: its quote and its hold, frozen or
renewed at the order's own pace, its payment intent, its seats, and the refunds
it owes or has been made. Its states only move forward, a fact that would move
it back being ignored, and it owns its seats, created by the transition to
`paid`. A payment it can give no seat to is owed back.

Every method of the aggregate is one definition below, under its own name. A
method returns the aggregate it leaves with what it answers or refuses with, so
that what a refused call leaves behind is a question the model can be asked.
-/

namespace Arthome.Ticketing

open Arthome.Core Library

/-- Core's four lines, and the unit price they were composed from, frozen at placement. -/
structure OrderQuote where
  unitPrice : Money
  tierTotal : Money
  serviceFee : Money
  discount : Money
  total : Money
  deriving Repr, DecidableEq

/-- The buyer's own statement of where they are. -/
structure DeclaredTaxLocation where
  country : String
  subdivision : Option String
  postalCode : Option String
  deriving Repr, DecidableEq

/-- What the provider asks of the buyer next; core keeps it opaque. -/
abbrev NextAction := String

structure PaymentIntentRecord where
  ref : String
  /-- Absent for an intent learnt of by its webhook alone. -/
  clientSecret : Option String
  nextAction : Option NextAction
  deriving Repr, DecidableEq

structure SeatSnapshot where
  id : Uuid
  code : String
  tier : PriceTier
  state : SeatState
  cancelDeadline : Option Instant
  activatedAt : Instant
  /-- When it left `active`. -/
  endedAt : Option Instant
  cancelReason : Option SeatCancelReason
  /-- The refund giving its money back; absent when nothing was given back. -/
  refundId : Option Uuid
  refundAmount : Option Money
  creditId : Option Uuid
  creditAmount : Option Money
  deriving Repr, DecidableEq

/-- A seat named in a cancellation, with its share of the refund. -/
structure SeatRefundShare where
  seatId : Uuid
  refundAmount : Option Money
  deriving Repr, DecidableEq

/-- Seats cancelled at once, each with its share of `refundId`. -/
structure SeatCancellation where
  reason : SeatCancelReason
  refundId : Option Uuid
  seats : List SeatRefundShare
  deriving Repr, DecidableEq

structure SeatCreditShare where
  seatId : Uuid
  creditAmount : Money
  deriving Repr, DecidableEq

/-- Seats exchanged for a credit on the account. -/
structure SeatCrediting where
  creditId : Uuid
  seats : List SeatCreditShare
  deriving Repr, DecidableEq

/-- A seat about to be created: its id and code drawn by the service, its deadline served. -/
structure SeatIssue where
  id : Uuid
  code : String
  cancelDeadline : Option Instant
  deriving Repr, DecidableEq

structure OrderFailure where
  /-- Absent for a hold that expired unpaid. -/
  code : Option OrderErrorCode
  declineCode : Option String
  deriving Repr, DecidableEq

/-- A refund its caller decided, its key included. -/
structure OwedRefund where
  id : Uuid
  amount : Money
  reason : RefundReason
  idempotencyKey : String
  seatId : Option Uuid
  deriving Repr, DecidableEq

structure OrderRefund extends OwedRefund where
  owedAt : Instant
  ref : Option String
  refundedAt : Option Instant
  deriving Repr, DecidableEq

structure SeatOrderPlacement where
  id : Uuid
  reference : String
  dateId : Uuid
  channelId : Uuid
  accountId : Option Uuid
  profileId : Option Uuid
  tier : PriceTier
  quantity : ℕ
  quote : OrderQuote
  declaredTaxLocation : Option DeclaredTaxLocation
  holdId : Uuid
  expiresAt : Instant
  deriving Repr, DecidableEq

structure SeatOrderSnapshot extends SeatOrderPlacement where
  state : OrderState
  intent : Option PaymentIntentRecord
  failure : Option OrderFailure
  /-- In the order they were owed, made or not. -/
  refunds : List OrderRefund
  /-- When the order failed holding an intent the provider may still confirm. -/
  intentCancelOwedAt : Option Instant
  placedAt : Instant
  paidAt : Option Instant
  seats : List SeatSnapshot
  version : ℕ
  deriving Repr, DecidableEq

/-- What the aggregate states to the rest of the platform. -/
inductive SeatOrderEvent where
  | placed (orderId dateId holdId : Uuid) (total : Money) (occurredAt : Instant)
  | holdRenewed (orderId holdId : Uuid) (expiresAt occurredAt : Instant)
  | intentRecorded (orderId : Uuid) (intentRef : String) (state : OrderState)
      (occurredAt : Instant)
  | paid (orderId dateId channelId : Uuid) (accountId profileId : Option Uuid)
      (tier : PriceTier) (quote : OrderQuote) (intentRef : String)
      (declaredTaxLocation : Option DeclaredTaxLocation) (seats : List SeatSnapshot)
      (occurredAt : Instant)
  | failed (orderId dateId : Uuid) (failureCode : Option OrderErrorCode) (occurredAt : Instant)
  | refundOwed (orderId refundId : Uuid) (amount : Money) (reason : RefundReason)
      (seatId : Option Uuid) (occurredAt : Instant)
  | refunded (orderId channelId refundId : Uuid) (amount : Money) (refundRef : String)
      (reason : RefundReason) (occurredAt : Instant)
  | seatCancelled (orderId dateId seatId : Uuid) (accountId : Option Uuid)
      (reason : SeatCancelReason) (occurredAt : Instant)
  | seatsCredited (orderId dateId creditId : Uuid) (seatIds : List Uuid) (occurredAt : Instant)
  deriving Repr, DecidableEq

/-- The aggregate: its snapshot, and the events it applied since it was loaded. -/
structure SeatOrder where
  current : SeatOrderSnapshot
  uncommitted : List SeatOrderEvent
  deriving Repr, DecidableEq

/-- The states of an order still waiting for its payment. -/
def orderStatesAwaitingPayment : List OrderState := [.pending, .awaitingAction, .processing]

/-- The money was taken and is still held, in part at least. -/
def statesOwingRefunds : List OrderState := [.paid, .partiallyRefunded]

/-- The states an intent waiting for the buyer or the bank puts an order in. -/
inductive WaitingState where
  | awaitingAction
  | processing
  deriving Repr, DecidableEq

def WaitingState.orderState : WaitingState → OrderState
  | .awaitingAction => .awaitingAction
  | .processing => .processing

def sameRefund (owed : OrderRefund) (refund : OwedRefund) : Bool :=
  owed.id = refund.id && owed.idempotencyKey = refund.idempotencyKey &&
    owed.reason = refund.reason && owed.seatId = refund.seatId &&
    owed.amount.currencyCode = refund.amount.currencyCode &&
    owed.amount.amountMinor = refund.amount.amountMinor

/-- The intent as known, completed by what the provider tells of the same one. -/
def completedIntent (known : Option PaymentIntentRecord) (told : PaymentIntentRecord) :
    PaymentIntentRecord :=
  match known with
  | none => told
  | some known =>
    if known.ref = told.ref then
      { known with
        clientSecret := known.clientSecret.or told.clientSecret
        nextAction := known.nextAction.or told.nextAction }
    else known

namespace SeatOrder

section Reading

variable (o : SeatOrder)

def awaitsPayment : Bool := o.current.state ∈ orderStatesAwaitingPayment

/-- Placed, and no intent created for it yet: the purchase resumes by creating one. -/
def awaitsIntent : Bool := o.current.state = .pending && o.current.intent.isNone

/-- Waiting for its buyer on an intent learnt of by its webhook alone. -/
def awaitsClientSecret : Bool :=
  o.awaitsPayment && o.current.refunds.isEmpty &&
    match o.current.intent with
    | none => false
    | some intent => intent.clientSecret.isNone

def owesRefund : Bool := o.current.refunds.any fun r => r.refundedAt.isNone

end Reading

/-- The next version of the aggregate, with the given changes to its snapshot. -/
def advance (o : SeatOrder) (changed : SeatOrderSnapshot) : SeatOrder :=
  { o with current := { changed with version := o.current.version + 1 } }

def apply (o : SeatOrder) (event : SeatOrderEvent) : SeatOrder :=
  { o with uncommitted := o.uncommitted ++ [event] }

def restore (snapshot : SeatOrderSnapshot) : SeatOrder := ⟨snapshot, []⟩

def place (placement : SeatOrderPlacement) (now : Instant) : SeatOrder :=
  (restore
    { placement with
      state := .pending
      intent := none
      failure := none
      refunds := []
      intentCancelOwedAt := none
      placedAt := now
      paidAt := none
      seats := []
      version := 1 }).apply
    (.placed placement.id placement.dateId placement.holdId placement.quote.total now)

variable [OrderRules]

/-- Still waiting for its money, and owing none back: a confirmation pays it. -/
def acceptsPayment (o : SeatOrder) : Bool :=
  o.current.refunds.isEmpty && OrderRules.orderStateMovesForward o.current.state .paid

/-- The total less every refund owed or made. -/
def refundableLeft (o : SeatOrder) : Except Refusal Money := do
  let refunded ← OrderRules.sum (o.current.refunds.map fun r => r.amount)
    o.current.quote.total.currencyCode
  OrderRules.refundableRemaining o.current.quote.total refunded

omit [OrderRules] in
/-- The hold it resumes on, its first one given back while the provider did not answer. -/
def renewHold (o : SeatOrder) (holdId : Uuid) (expiresAt now : Instant) :
    Reply SeatOrder Refusal Unit :=
  if o.awaitsIntent then
    .answer ((o.advance { o.current with holdId, expiresAt }).apply
      (.holdRenewed o.current.id holdId expiresAt now)) ()
  else .refuse o (.error s!"order {o.current.id} holds no seats to renew")

/-- An intent still waiting for the buyer or the bank. True when the order failed meanwhile: it
keeps its state and owes the intent's cancellation, from the instant it first owed it. -/
def recordIntent (o : SeatOrder) (intent : PaymentIntentRecord) (state : WaitingState)
    (now : Instant) : Reply SeatOrder Refusal Bool :=
  if o.current.state = .failed then
    .answer (o.advance { o.current with
      intent := o.current.intent.or (some intent)
      intentCancelOwedAt := o.current.intentCancelOwedAt.or (some now) }) true
  else if o.awaitsPayment then
    let intentKnown := completedIntent o.current.intent intent
    if OrderRules.orderStateMovesForward o.current.state state.orderState then
      .answer ((o.advance { o.current with
        state := state.orderState, intent := some intentKnown }).apply
        (.intentRecorded o.current.id intent.ref state.orderState now)) false
    else if some intentKnown ≠ o.current.intent then
      .answer (o.advance { o.current with intent := some intentKnown }) false
    else .answer o false
  else .answer o false

/-- A new seat of the order, active from `now`. -/
def issuedSeat (tier : PriceTier) (now : Instant) (issue : SeatIssue) : SeatSnapshot where
  id := issue.id
  code := issue.code
  tier := tier
  state := .active
  cancelDeadline := issue.cancelDeadline
  activatedAt := now
  endedAt := none
  cancelReason := none
  refundId := none
  refundAmount := none
  creditId := none
  creditAmount := none

/-- An intent known by its reference alone, unless one is known already. -/
def intentKnownOr (o : SeatOrder) (intentRef : String) : PaymentIntentRecord :=
  o.current.intent.getD ⟨intentRef, none, none⟩

/-- Paid, with one seat per seat bought; nothing when it cannot accept a payment any more. -/
def pay (o : SeatOrder) (intentRef : String) (issues : List SeatIssue) (now : Instant) :
    Reply SeatOrder Refusal Unit :=
  if o.acceptsPayment then
    if issues.length = o.current.quantity then
      let seats := issues.map (issuedSeat o.current.tier now)
      .answer ((o.advance { o.current with
        state := .paid
        intent := some (o.intentKnownOr intentRef)
        failure := none
        intentCancelOwedAt := none
        paidAt := some now
        seats }).apply (.paid o.current.id o.current.dateId o.current.channelId
          o.current.accountId o.current.profileId o.current.tier o.current.quote intentRef
          o.current.declaredTaxLocation seats now)) ()
    else .refuse o
      (.error s!"order {o.current.id} buys {o.current.quantity} seats, not {issues.length}")
  else .answer o ()

omit [OrderRules] in
/-- False, changing nothing, once the order no longer waits for its payment. -/
def fail (o : SeatOrder) (failure : OrderFailure) (now : Instant) :
    Reply SeatOrder Refusal Bool :=
  if o.awaitsPayment then
    .answer ((o.advance { o.current with state := .failed, failure := some failure }).apply
      (.failed o.current.id o.current.dateId failure.code now)) true
  else .answer o false

omit [OrderRules] in
/-- One more refund owed, over a snapshot that already carries its caller's changes. -/
def owe (o : SeatOrder) (refund : OwedRefund) (now : Instant) (changed : SeatOrderSnapshot) :
    SeatOrder :=
  (o.advance { changed with
    refunds := o.current.refunds ++ [⟨refund, now, none, none⟩] }).apply
    (.refundOwed o.current.id refund.id refund.amount refund.reason refund.seatId now)

/-- Money taken and still held, owed back in part or in whole. Owed again with the same facts it
answers the refund already owed; its id or its key already owed with other facts is refused. -/
def oweRefund (o : SeatOrder) (refund : OwedRefund) (now : Instant) :
    Reply SeatOrder Refusal OrderRefund :=
  match o.current.refunds.find? fun r =>
      r.id = refund.id || r.idempotencyKey = refund.idempotencyKey with
  | some owed =>
    if sameRefund owed refund then .answer o owed
    else .refuse o (.error (s!"order {o.current.id} already owes refund {owed.id} under " ++
      s!"{owed.idempotencyKey}, not refund {refund.id} under {refund.idempotencyKey}"))
  | none =>
    if o.current.state ∉ statesOwingRefunds then
      .refuse o
        (.error s!"order {o.current.id} is {o.current.state.text}: it holds no money to refund")
    else if refund.amount.amountMinor ≤ 0 then
      .refuse o (.error s!"order {o.current.id} cannot owe a refund of nothing")
    else
      .guard o o.refundableLeft fun left =>
        .guard o (OrderRules.assertRefundWithinRemaining refund.amount left) fun _ =>
          .answer (o.owe refund now o.current) ⟨refund, now, none, none⟩

/-- The provider took the money and no seat can be given: all of it goes back. The refund's id, or
nothing when the order takes no payment any more. -/
def oweUnseatedPaymentBack (o : SeatOrder) (reason : RefundReason) (intentRef : String)
    (id : Uuid) (now : Instant) : Reply SeatOrder Refusal (Option Uuid) :=
  if o.acceptsPayment then
    .answer (o.owe
      { id
        amount := o.current.quote.total
        reason
        idempotencyKey := OrderRules.refundIdempotencyKey id
        seatId := none } now
      { o.current with
        intent := some (o.intentKnownOr intentRef)
        intentCancelOwedAt := none }) (some id)
  else .answer o none

omit [OrderRules] in
/-- The refund with the given id marked made, the others as they are. -/
def refundsWithMade (refunds : List OrderRefund) (refundId : Uuid) (refundRef : String)
    (now : Instant) : List OrderRefund :=
  refunds.map fun r =>
    if r.id = refundId then { r with ref := some refundRef, refundedAt := some now } else r

/-- The seats the refund gives back, refunded. -/
def seatsRefundedBy (seats : List SeatSnapshot) (refundId : Uuid) : List SeatSnapshot :=
  seats.map fun seat =>
    if seat.refundId = some refundId ∧
        OrderRules.seatStateMayMove seat.state .refunded = true then
      { seat with state := .refunded }
    else seat

omit [OrderRules] in
/-- The refunds the provider made. -/
def madeOf (refunds : List OrderRefund) : List OrderRefund :=
  refunds.filter fun r => r.refundedAt.isSome

/-- A refund the provider made: `refunded` once the refunds made reach the total,
`partiallyRefunded` before, forward only. Nothing for one already made. -/
def refundMade (o : SeatOrder) (refundId : Uuid) (refundRef : String) (now : Instant) :
    Reply SeatOrder Refusal Unit :=
  match o.current.refunds.find? fun r => r.id = refundId with
  | none => .refuse o (.error s!"order {o.current.id} owes no refund {refundId}")
  | some refund =>
    if refund.refundedAt.isSome then .answer o ()
    else
      let refunds := refundsWithMade o.current.refunds refundId refundRef now
      .guard o (OrderRules.sum ((madeOf refunds).map fun r => r.amount)
          o.current.quote.total.currencyCode) fun made =>
        .guard o (OrderRules.compare made o.current.quote.total) fun sign =>
          let reached : OrderState := if 0 ≤ sign then .refunded else .partiallyRefunded
          let seats := seatsRefundedBy o.current.seats refundId
          let changed : SeatOrderSnapshot :=
            if OrderRules.orderStateMovesForward o.current.state reached then
              { o.current with refunds, seats, state := reached, failure := none }
            else { o.current with refunds, seats }
          .answer ((o.advance changed).apply
            (.refunded o.current.id o.current.channelId refundId refund.amount refundRef
              refund.reason now)) ()

/-- Each seat named once, held by the order and allowed to move to `target`. -/
def assertSeatsMayMove (o : SeatOrder) (seatIds : List Uuid) (target : SeatState) :
    Except Refusal Unit :=
  if ¬ seatIds.Nodup then .error (.error s!"order {o.current.id}: a seat is named twice")
  else seatIds.forM fun seatId =>
    match o.current.seats.find? fun seat => seat.id = seatId with
    | none => .error (.error s!"order {o.current.id} holds no seat {seatId}")
    | some seat =>
      if OrderRules.seatStateMayMove seat.state target then .ok ()
      else .error (.seatNotActive seat.state)

omit [OrderRules] in
/-- The seat as a cancellation leaves it: unnamed seats as they are, a share of nothing dropped. -/
def cancelledSeat (cancellation : SeatCancellation) (now : Instant) (seat : SeatSnapshot) :
    SeatSnapshot :=
  match cancellation.seats.find? fun named => named.seatId = seat.id with
  | none => seat
  | some named =>
    let givenBack := named.refundAmount.filter fun share => 0 < share.amountMinor
    { seat with
      state := .cancelled
      endedAt := some now
      cancelReason := some cancellation.reason
      refundId := if givenBack.isNone then none else cancellation.refundId
      refundAmount := givenBack }

omit [OrderRules] in
/-- The shares of the refund the order's seats hold already. -/
def heldAlready (seats : List SeatSnapshot) (refundId : Option Uuid) : List Money :=
  seats.filterMap fun seat => if seat.refundId = refundId then seat.refundAmount else none

/-- Each seat `cancelled` at once with its share of the refund. A seat no longer active is refused,
naming its state, and nothing moves. -/
def cancelSeats (o : SeatOrder) (cancellation : SeatCancellation) (now : Instant) :
    Reply SeatOrder Refusal Unit :=
  let refund := o.current.refunds.find? fun r => some r.id = cancellation.refundId
  let givenBack := cancellation.seats.filterMap fun named => named.refundAmount
  if cancellation.refundId.isSome ∧ refund.isNone then
    .refuse o
      (.error s!"order {o.current.id} owes no refund {cancellation.refundId.getD 0}")
  else if ∃ share ∈ givenBack, share.amountMinor < 0 then
    .refuse o
      (.error s!"order {o.current.id}: a seat's share of a refund cannot be negative")
  else
    .guard o (sharesWithin refund givenBack) fun _ =>
      if cancellation.refundId.isNone ∧ ∃ named ∈ cancellation.seats,
          named.refundAmount.isSome then
        .refuse o (.error s!"order {o.current.id} cannot give a seat a share of no refund")
      else
        .guard o
          (o.assertSeatsMayMove (cancellation.seats.map fun named => named.seatId) .cancelled)
          fun _ =>
          .answer (cancellation.seats.foldl
            (fun order named => order.apply (.seatCancelled o.current.id o.current.dateId
              named.seatId o.current.accountId cancellation.reason now))
            (o.advance { o.current with
              seats := o.current.seats.map (cancelledSeat cancellation now) })) ()
where
  /-- The shares held and given back together, against the refund they are shares of. -/
  sharesWithin (refund : Option OrderRefund) (givenBack : List Money) : Except Refusal Unit :=
    match refund with
    | none => .ok ()
    | some refund => do
      let shared ← OrderRules.sum
        (heldAlready o.current.seats cancellation.refundId ++ givenBack)
        refund.amount.currencyCode
      let sign ← OrderRules.compare shared refund.amount
      if 0 < sign then
        .error (.error s!"order {o.current.id}: the seats' shares exceed refund {refund.id}")
      else .ok ()

omit [OrderRules] in
/-- The seat as a crediting leaves it: unnamed seats as they are. -/
def creditedSeat (crediting : SeatCrediting) (now : Instant) (seat : SeatSnapshot) :
    SeatSnapshot :=
  match crediting.seats.find? fun named => named.seatId = seat.id with
  | none => seat
  | some named =>
    { seat with
      state := .credited
      endedAt := some now
      creditId := some crediting.creditId
      creditAmount := some named.creditAmount }

/-- Each seat `credited` with its share of the credit. -/
def creditSeats (o : SeatOrder) (crediting : SeatCrediting) (now : Instant) :
    Reply SeatOrder Refusal Unit :=
  let seatIds := crediting.seats.map fun named => named.seatId
  .guard o (o.assertSeatsMayMove seatIds .credited) fun _ =>
    .answer ((o.advance { o.current with
      seats := o.current.seats.map (creditedSeat crediting now) }).apply
      (.seatsCredited o.current.id o.current.dateId crediting.creditId seatIds now)) ()

/-- The buyer's bank disputed the charge: the seats stay active. False once disputed. -/
def dispute (o : SeatOrder) : Reply SeatOrder Refusal Bool :=
  if OrderRules.orderStateMovesForward o.current.state .disputed then
    .answer (o.advance { o.current with state := .disputed, failure := none }) true
  else .answer o false

omit [OrderRules] in
def intentCancelled (o : SeatOrder) : Reply SeatOrder Refusal Unit :=
  if o.current.intentCancelOwedAt.isNone then .answer o ()
  else .answer (o.advance { o.current with intentCancelOwedAt := none }) ()

end SeatOrder

end Arthome.Ticketing
