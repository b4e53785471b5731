import Arthome.Ticketing.PaymentMovements
import Arthome.Ticketing.Purchase

/-!
# The movements of a purchase

What each transaction of a purchase does to the rows, and what it leaves the attempt
with: an order placed with its hold, one resumed or its hold renewed, the provider's
answer recorded with the purchase's own, a hold given back.
-/

namespace Arthome.Ticketing

open Arthome.Core Library

variable [OrderRules] [SalesRules] {db db' : Db} {record : OrderRecord}

section Answers

omit [OrderRules] [SalesRules] in
theorem storedAnswerOf_eq {orderId : Uuid} (hrecord : db.orders.find? orderId = some record) :
    db.storedAnswerOf orderId = record.answer := by
  unfold Db.storedAnswerOf
  rw [hrecord]
  rfl

omit [OrderRules] [SalesRules] in
theorem storedAnswerOf_some {orderId : Uuid} {answer : StoredAnswer}
    (h : db.storedAnswerOf orderId = some answer) :
    ∃ record, db.orders.find? orderId = some record ∧ record.answer = some answer := by
  unfold Db.storedAnswerOf at h
  rw [Option.bind_eq_some_iff] at h
  exact h

/-- The rows as they were, or with a first answer on the order. -/
def Db.AnsweredBy (db : Db) (record : OrderRecord) (db' : Db) : Prop :=
  db' = db ∨ ∃ answer, record.answer = none ∧ db' = db.putOrder { record with answer := some answer }

omit [SalesRules] in
theorem Db.AnsweredBy.moved (h : db.AnsweredBy record db')
    (hrecord : db.orders.find? record.id = some record) : Db.Moved IsQuiet db db' := by
  rcases h with rfl | ⟨answer, hnone, rfl⟩
  · exact .refl
  · exact .single rfl (.order hrecord (.answered answer hnone))

omit [OrderRules] [SalesRules] in
/-- The answer a purchase gives is the one its order keeps. -/
theorem kept_ok {answer : StoredAnswer} {r : Db × Resumption}
    (hrecord : db.orders.find? record.id = some record) (h : kept db record.id answer = .ok r) :
    db.AnsweredBy record r.1 ∧ ∃ given replayed, r.2 = .answered given replayed ∧
        r.1.storedAnswerOf record.id = some given := by
  unfold kept at h
  split at h
  · rename_i db₁ hstore
    unfold Db.storeAnswer at hstore
    rw [hrecord] at hstore
    simp only [Option.isNone_iff_eq_none] at hstore
    split_ifs at hstore with hnone
    rw [noteOrder_eq hrecord, Option.some.injEq] at hstore
    rw [pure_ok_iff] at h
    subst h hstore
    let answered : OrderRecord := { record with answer := some answer }
    have hself : (db.putOrder answered).orders.find? record.id = some answered :=
      Table.find?_put_self (a := answered) hrecord
    exact ⟨.inr ⟨answer, hnone, rfl⟩, answer, false, rfl, storedAnswerOf_eq hself⟩
  · simp only [bind_ok_iff, orRefuse_ok_iff, pure_ok_iff] at h
    obtain ⟨first, hfirst, rfl⟩ := h
    exact ⟨.inl rfl, first, true, rfl, hfirst⟩

/-- What a purchase is told of order `orderId`: the answer it keeps, or an intent to create for
it. -/
def Resumption.Of (db : Db) (orderId : Uuid) : Resumption → Prop
  | .answered answer _ => db.storedAnswerOf orderId = some answer
  | .refusal _ => True
  | .createIntent request => request.orderId = orderId

omit [OrderRules] [SalesRules] in
theorem Resumption.Of.congr {orderId : Uuid} {resumption : Resumption}
    (h : resumption.Of db orderId) (horders : db'.orders = db.orders) : resumption.Of db' orderId := by
  cases resumption with
  | answered answer replayed =>
      show db'.storedAnswerOf orderId = _
      rw [Db.storedAnswerOf, horders]
      exact h
  | _ => exact h

omit [OrderRules] in
/-- An answer of an order's: kept, or a refusal. -/
theorem answerOf_ok {origin : String} {seen : Unlocked} {order : SeatOrder} {servedAt : Instant}
    {r : Db × Resumption} (hrecord : db.orders.find? record.id = some record)
    (horder : order.current.id = record.id)
    (h : answerOf origin db seen order servedAt = .ok r) :
    db.AnsweredBy record r.1 ∧ r.2.Of r.1 record.id ∧ ∀ request, r.2 ≠ .createIntent request := by
  unfold answerOf at h
  simp only [horder] at h
  have hkept : ∀ answer, kept db record.id answer = .ok r →
      db.AnsweredBy record r.1 ∧ r.2.Of r.1 record.id ∧
        ∀ request, r.2 ≠ .createIntent request := by
    intro answer hkept
    obtain ⟨hput, given, replayed, hgiven, hstored⟩ := kept_ok hrecord hkept
    refine ⟨hput, ?_, fun request => by rw [hgiven]; simp⟩
    rw [hgiven]
    exact hstored
  split_ifs at h with hpaid howes
  · exact hkept _ h
  · simp only [pure_ok_iff] at h
    subst h
    exact ⟨.inl rfl, trivial, by simp⟩
  · split at h
    · exact hkept _ h
    · rw [pure_ok_iff] at h
      subst h
      exact ⟨.inl rfl, trivial, by simp⟩

end Answers

section Recording

omit [OrderRules] [SalesRules] in
theorem awaitsIntent_iff (order : SeatOrder) : order.awaitsIntent = true ↔
    order.current.state = .pending ∧ order.current.intent = none := by
  simp [SeatOrder.awaitsIntent]

omit [OrderRules] [SalesRules] in
theorem loadOrder_ok {orderId : Uuid} {order : SeatOrder} (h : loadOrder db orderId = .ok order) :
    ∃ record, record.id = orderId ∧ db.orders.find? record.id = some record ∧
      order = SeatOrder.restore record.order := by
  unfold loadOrder at h
  rw [orRefuse_ok_iff] at h
  obtain ⟨record, hrecord, rfl⟩ := findOrder_ok h
  have hid := Table.key_of_find? hrecord
  exact ⟨record, hid, by rw [hid]; exact hrecord, rfl⟩

/-- The provider said that the intent still waits. -/
def PaymentIntent.Waits (intent : PaymentIntent) : Prop :=
  intent.status = .requiresAction ∨ intent.status = .processing

theorem applyIntent_ok {seen : Unlocked} {intent : PaymentIntent} {now : Instant}
    {draw : PaymentDraw} {r : Db × SeatOrder × Option PendingCounterMove}
    (hrecord : db.orders.find? record.id = some record)
    (h : applyIntent db seen (SeatOrder.restore record.order) intent now draw = .ok r) :
    Applied (fun id => id = record.id ∧ intent.Waits) db record r.1 r.2.1.current r.2.2 := by
  unfold applyIntent at h
  simp only at h
  split at h <;> rename_i hstatus
  · exact .settled (settle_ok hrecord h)
  · simp only [bind_ok_iff, pure_ok_iff] at h
    obtain ⟨order', hwait, rfl⟩ := h
    exact .waiting ⟨rfl, .inl hstatus⟩ _ _ now (recordWaitingIntent_ok hwait)
  · simp only [bind_ok_iff, pure_ok_iff] at h
    obtain ⟨order', hwait, rfl⟩ := h
    exact .waiting ⟨rfl, .inr hstatus⟩ _ _ now (recordWaitingIntent_ok hwait)
  · exact failUnpaidOrder_ok h

/-- The provider's answer recorded, with the purchase's. -/
theorem recordIntentIn_moved {origin : String} {seen : Unlocked} {orderId : Uuid}
    {intent : PaymentIntent} {now servedAt : Instant} {draw : PaymentDraw} {r : Db × Resumption}
    (hc : Consistent db)
    (h : recordIntentIn origin db seen orderId intent now servedAt draw = .ok r) :
    Db.MovedOnce (PaymentLabel fun id => id = orderId ∧ intent.Waits) db r.1 ∧
      r.2.Of r.1 orderId ∧ ∀ request, r.2 ≠ .createIntent request := by
  unfold recordIntentIn at h
  simp only [bind_ok_iff, pure_ok_iff] at h
  obtain ⟨order, hload, ⟨db₁, order₁, pending⟩, happly, db₂, hsave, ⟨db₃, answer⟩, hanswer, rfl⟩ := h
  obtain ⟨record, rfl, hrecord, rfl⟩ := loadOrder_ok hload
  have happlied := applyIntent_ok hrecord happly
  have hid : order₁.current.id = record.id := happlied.id
  obtain ⟨record₁, hrecord₁, hmoved⟩ := happlied.movement hc hrecord (saveOrder_seats hsave)
  have hsaved := saveOrder_applied hrecord₁ hid hsave
  simp only at hsaved hmoved hanswer ⊢
  let saved : OrderRecord := { record₁ with order := order₁.current }
  have hfind : db₂.orders.find? saved.id = some saved := by
    have hkey : saved.id = record.id := hid
    rw [hsaved]
    exact Table.find?_put_self (r := record₁) (by rw [hkey]; exact hrecord₁)
  obtain ⟨hput, hof, hnone⟩ := answerOf_ok hfind rfl hanswer
  rw [show saved.id = record.id from hid] at hof
  refine ⟨?_, hof.congr (runPending_orders pending), hnone⟩
  rw [← hsaved] at hmoved
  rcases hput with rfl | ⟨given, hfirst, rfl⟩
  · exact hmoved
  · have hfound : (runPending db₂ pending).orders.find? saved.id = some saved := by
      rw [runPending_orders]
      exact hfind
    rw [runPending_putOrder]
    exact hmoved.then (.single rfl (.order hfound (.answered given hfirst)))

omit [SalesRules] in
theorem releaseHoldOf_moved {orderId : Uuid} {now : Instant} (hc : Consistent db)
    (h : releaseHoldOf db orderId now = .ok db') :
    Db.MovedOnce (fun label => ∃ holdId, label = .holdLeft holdId) db db' := by
  unfold releaseHoldOf at h
  simp only [bind_ok_iff] at h
  obtain ⟨order, hload, h⟩ := h
  obtain ⟨record, rfl, hrecord, rfl⟩ := loadOrder_ok hload
  split_ifs at h with hwaits
  · rw [pure_ok_iff] at h
    exact h ▸ .refl
  · split at h
    · rw [pure_ok_iff] at h
      exact h ▸ .refl
    · rename_i hold hfilter
      simp only [SeatOrder.restore_current] at hfilter
      obtain ⟨hhold, hactive⟩ := filter_active_some hfilter
      simp only [bind_ok_iff, pure_ok_iff] at h
      obtain ⟨left, hleave, db₁, hsave, rfl⟩ := h
      obtain ⟨-, rfl⟩ := saveHold_left hhold hleave hsave
      obtain ⟨-, rfl⟩ := SeatHold.leave_ok hleave
      have hpending := (awaitsIntent_iff (SeatOrder.restore record.order)).mp (by simpa using hwaits)
      obtain ⟨found, hfound, hon⟩ := hc.current record (Table.mem_of_find? hrecord)
      rw [hhold] at hfound
      cases hfound
      obtain ⟨row, hrow⟩ := Option.isSome_iff_exists.mp (hc.dated record (Table.mem_of_find? hrecord))
      rw [← hon.dateId] at hrow
      have hmove := Movement.returned hrecord hhold hactive hrow .released (.inl rfl) now
        (.inl ⟨rfl, hpending⟩)
      rw [Db.putOrder_self _ (by exact hrecord)] at hmove
      have hback : ((db.putHold (leftHold hold .released)).sales.find? hold.dateId) = some row := hrow
      exact (returnHeldSeats_eq hback hold.quantity hold.poolSeats now).symm ▸ .single hmove ⟨_, rfl⟩

end Recording

section Placing

omit [OrderRules] [SalesRules] in
theorem openPoolAt_cases (row : DateSalesSnapshot) (now : Instant) :
    Db.openPoolAt row now = 0 ∨ Db.openPoolAt row now = row.priorityPoolSeats := by
  unfold Db.openPoolAt
  split_ifs <;> simp

omit [OrderRules] [SalesRules] in
/-- The statement that takes a placed hold's seats, and what it writes on the hold. -/
theorem takeStatement_some {fromPool : Bool} {dateId : Uuid} {quantity : ℕ} {now : Instant}
    {hold : SeatHoldSnapshot} (hhold : db.holds.find? hold.id = some hold)
    (hpool : hold.poolSeats = 0)
    (h : takeStatement fromPool dateId hold.id quantity now db = some db') :
    ∃ row row' poolSeats, db.sales.find? dateId = some row ∧ Taken row quantity poolSeats row' ∧
      db' = (db.putHold { hold with poolSeats }).putSales row' := by
  unfold takeStatement at h
  split_ifs at h with hfrom
  · unfold Db.takeSeatsFromPool at h
    rw [hhold] at h
    cases hrow : db.sales.find? dateId with
    | none =>
        rw [hrow] at h
        cases h
    | some row =>
        rw [hrow] at h
        simp only [Bool.and_eq_true, decide_eq_true_eq] at h
        split_ifs at h with hcond
        refine ⟨row, _, _, rfl, ⟨Db.openPoolAt row now, openPoolAt_cases row now, hcond.1.1,
          hcond.1.2, rfl, rfl⟩, ?_⟩
        rw [← Option.some.inj h]
        simp [Db.takenFromPool, Db.putSales, Db.putHold]
  · unfold Db.takeSeats at h
    obtain ⟨row, hrow, hcond, rfl⟩ := updateSales_some h
    simp only [Bool.and_eq_true, decide_eq_true_eq] at hcond
    refine ⟨row, _, _, hrow, ⟨0, .inl rfl, hcond.1.1, by simpa using hcond.1.2, rfl, rfl⟩, ?_⟩
    have hmin : min (0 : ℤ) quantity = 0 := min_eq_left (Int.natCast_nonneg quantity)
    have hself : db.putHold { hold with poolSeats := min (0 : ℤ) quantity } = db := by
      rw [hmin, ← hpool]
      unfold Db.putHold
      rw [Table.put_self hhold]
    rw [hself]
    simp [Db.takenFromPool]

omit [OrderRules] [SalesRules] in
theorem insertHold_ok {hold : SeatHoldSnapshot} (h : db.insertHold hold = .ok db') :
    ∃ holds, db.holds.insert hold = some holds ∧ db' = { db with holds } := by
  unfold Db.insertHold at h
  simp only [bind_ok_iff, orRefuse_ok_iff, pure_ok_iff] at h
  obtain ⟨holds, hinsert, rfl⟩ := h
  exact ⟨holds, hinsert, rfl⟩

omit [OrderRules] [SalesRules] in
/-- A hold inserted and its seats taken: the hold as it stands, and the date's row. -/
theorem held_ok {fromPool : Bool} {dateId : Uuid} {quantity : ℕ} {now : Instant} {mid : Db}
    {hold : SeatHoldSnapshot} {holds : Table SeatHoldSnapshot.id}
    (hinsert : db.holds.insert hold = some holds)
    (h : takeStatement fromPool dateId hold.id quantity now mid = some db') (hmid : mid.holds = holds)
    (hsales : mid.sales = db.sales) (hpool : hold.poolSeats = 0) :
    ∃ row row' poolSeats holds', db.sales.find? dateId = some row ∧ Taken row quantity poolSeats row' ∧
      db.holds.insert { hold with poolSeats } = some holds' ∧
      db' = { mid with holds := holds' }.putSales row' := by
  subst hmid
  obtain ⟨row, row', poolSeats, hrow, htaken, rfl⟩ :=
    takeStatement_some (Table.find?_insert_self hinsert) hpool h
  rw [hsales] at hrow
  exact ⟨row, row', poolSeats, _, hrow, htaken, Table.insert_put hinsert rfl, rfl⟩

omit [OrderRules] [SalesRules] in
theorem placeOrder_ok {order : SeatOrder} {binding : IdempotencyBinding}
    (h : db.placeOrder order binding = .ok (some db')) :
    0 < order.current.quantity ∧ 0 ≤ order.current.quote.total.amountMinor ∧
      db.findBound binding.accountId binding.key = none ∧ ∃ orders,
        db.orders.insert (.opened order.current binding) = some orders ∧ db' = { db with orders } := by
  unfold Db.placeOrder at h
  simp only [bind_ok_iff, require_ok_iff] at h
  obtain ⟨-, ⟨hquantity, htotal⟩, h⟩ := h
  split_ifs at h with htaken
  · cases h
  · simp only [pure_ok_iff, Option.map_eq_some_iff] at h
    obtain ⟨orders, hinsert, rfl⟩ := h
    simp only [Bool.or_eq_true, not_or, Bool.not_eq_true, Option.isSome_eq_false_iff,
      Option.isNone_iff_eq_none] at htaken
    exact ⟨hquantity, htotal, htaken.1, orders, hinsert, rfl⟩

omit [SalesRules] in
/-- An order placed on a hold, its seats taken. -/
theorem placed_moved {placement : SeatOrderPlacement} {binding : IdempotencyBinding}
    {hold : SeatHoldSnapshot} {fromPool : Bool} {now : Instant} {db₁ db₂ : Db}
    (horder : db.placeOrder (SeatOrder.place placement now) binding = .ok (some db₁))
    (hinsert : db₁.insertHold hold = .ok db₂)
    (htake : takeStatement fromPool placement.dateId hold.id placement.quantity now db₂ = some db')
    (hon : OnHold hold (SeatOrder.place placement now).current) (hactive : hold.state = .active)
    (hpool : hold.poolSeats = 0) :
    Movement db .counters db' ∧ db'.orders.find? placement.id =
      some (.opened (SeatOrder.place placement now).current binding) := by
  obtain ⟨hquantity, htotal, hunbound, orders, horders, rfl⟩ := placeOrder_ok horder
  obtain ⟨holds, hholds, rfl⟩ := insertHold_ok hinsert
  obtain ⟨row, row', poolSeats, holds', hrow, htaken, hholds', rfl⟩ :=
    held_ok hholds htake rfl rfl hpool
  have hon' : OnHold { hold with poolSeats } (SeatOrder.place placement now).current :=
    ⟨⟨hon.originRef, hon.dateId, hon.quantity⟩, hon.holdId, hon.expiresAt⟩
  have hrow' : db.sales.find? placement.dateId = some row := hrow
  have hmove := Movement.placed placement binding now hquantity htotal hon' hactive hrow' htaken
    hunbound horders hholds'
  exact ⟨hmove, Table.find?_insert_self horders⟩

/-- The first transaction of a purchase, committed: the order its key was bound to, or a new one. -/
theorem placeIn_ok [LawfulSalesRules] {origin : String} {seen : Unlocked} {command : PurchaseSeat}
    {now : Instant} {draw : PlacementDraw} {r : Db × Placement}
    (h : placeIn origin db seen command now draw = .ok r) :
    (∃ bound, seen.keys.findBound command.idempotency.accountId command.idempotency.key = some bound ∧
      bound.binding.fingerprint = command.idempotency.fingerprint ∧ r = (db, .bound bound.id)) ∨
    ∃ request record, Movement db .counters r.1 ∧ r.2 = .placed draw.orderId request ∧
      request.orderId = draw.orderId ∧ r.1.orders.find? draw.orderId = some record ∧
      record.binding = command.idempotency := by
  obtain ⟨body, buyer, idempotency, acknowledged⟩ := command
  unfold placeIn at h
  simp only at h
  split at h
  · rename_i bound hbound
    simp only [bind_ok_iff, refusing_ok_iff, require_ok_iff, pure_ok_iff] at h
    obtain ⟨-, hfingerprint, rfl⟩ := h
    exact .inl ⟨bound, hbound, hfingerprint, rfl⟩
  · right
    simp only [bind_ok_iff, refusing_ok_iff, orRefuse_ok_iff] at h
    obtain ⟨sales, -, -, -, h⟩ := h
    split at h
    · cases h
    · simp only [bind_ok_iff, refusing_ok_iff, orRefuse_ok_iff, require_ok_iff, pure_ok_iff] at h
      obtain ⟨quoted, -, quote, -, -, -, hold, hplace, -, -, db₁, ⟨placed, horder, hplaced⟩,
        db₂, hinsert, db₃, htake, rfl⟩ := h
      subst hplaced
      obtain ⟨rfl, -⟩ := SeatHold.place_ok hplace
      obtain ⟨hmove, hfind⟩ := placed_moved horder hinsert htake ⟨⟨rfl, rfl, rfl⟩, rfl, rfl⟩ rfl rfl
      exact ⟨_, _, hmove, rfl, rfl, hfind, rfl⟩

end Placing

section Resuming

omit [OrderRules] [SalesRules] in
theorem fail_commit_of_awaits {order : SeatOrder} {failure : OrderFailure} {now : Instant}
    {r : SeatOrder × Bool} (hawaits : order.current.AwaitsPayment)
    (h : (order.fail failure now).commit = .ok r) :
    r.1.current = failedOrder order.current failure := by
  rw [← SeatOrderSnapshot.awaitsPayment_iff] at hawaits
  rw [SeatOrder.fail, if_pos hawaits, Reply.commit_ok_iff] at h
  rw [← h.1]
  rfl

omit [OrderRules] [SalesRules] in
theorem renewHold_commit {order : SeatOrder} {holdId : Uuid} {expiresAt now : Instant}
    {r : SeatOrder × Unit} (hwaits : order.awaitsIntent = true)
    (h : (order.renewHold holdId expiresAt now).commit = .ok r) :
    r.1.current = renewedOrder order.current holdId expiresAt := by
  rw [SeatOrder.renewHold, if_pos hwaits, Reply.commit_ok_iff] at h
  rw [← h.1]
  rfl

omit [OrderRules] in
/-- A hold renewed: its order failed sold out, or a new hold under it and its statement to run. -/
theorem renewHoldIn_ok [LawfulSalesRules] {seen : Unlocked} {order : SeatOrder}
    {sales : Option DateSalesSnapshot} {now : Instant} {holdId : Uuid}
    {r : Db × SeatOrder × Option (Db → Option Db)} (hwaits : order.awaitsIntent = true)
    (h : renewHoldIn db seen order sales now holdId = .ok r) :
    (r.1 = db ∧ r.2.2 = none ∧
      r.2.1.current = failedOrder order.current ⟨some .soldOut, none⟩) ∨
    ∃ hold fromPool, HeldFor hold order.current ∧ hold.state = .active ∧ hold.poolSeats = 0 ∧
      db.insertHold hold = .ok r.1 ∧
      r.2.1.current = renewedOrder order.current hold.id hold.expiresAt ∧
      r.2.2 = some (takeStatement fromPool order.current.dateId hold.id order.current.quantity now) := by
  have hawaits : order.current.AwaitsPayment := by
    have hstate := ((awaitsIntent_iff order).mp hwaits).1
    unfold SeatOrderSnapshot.AwaitsPayment
    rw [hstate]
    decide
  unfold renewHoldIn at h
  simp only at h
  split at h
  · simp only [bind_ok_iff, pure_ok_iff] at h
    obtain ⟨⟨order', failed⟩, hfail, rfl⟩ := h
    exact .inl ⟨rfl, rfl, fail_commit_of_awaits hawaits hfail⟩
  · simp only [bind_ok_iff, pure_ok_iff] at h
    obtain ⟨-, -, hold, hplace, db₁, hinsert, ⟨order', u⟩, hrenew, rfl⟩ := h
    obtain ⟨rfl, -⟩ := SeatHold.place_ok hplace
    exact .inr ⟨_, _, ⟨rfl, rfl, rfl⟩, rfl, rfl, hinsert, renewHold_commit hwaits hrenew, rfl⟩

omit [SalesRules] in
/-- An order failed and saved whose hold is gone. -/
theorem failed_moved {order : SeatOrder} {failure : OrderFailure}
    (hrecord : db.orders.find? record.id = some record) (hgone : db.HoldGone record.order)
    (hwaits : record.order.AwaitsPayment) (hcurrent : order.current = failedOrder record.order failure)
    (h : db.saveOrder order = .ok db') : Movement db .quiet db' := by
  rw [saveOrder_applied hrecord (by rw [hcurrent]; rfl) h, hcurrent]
  exact .stopped hrecord hgone (.failed failure hwaits)

omit [SalesRules] in
/-- An order on a new hold, its seats taken. -/
theorem renewed_moved {order : SeatOrder} {hold : SeatHoldSnapshot} {fromPool : Bool} {now : Instant}
    {db₁ db₂ : Db} (hrecord : db.orders.find? record.id = some record)
    (hstate : record.order.state = .pending) (hintent : record.order.intent = none)
    (hgone : db.HoldGone record.order) (hfor : HeldFor hold record.order)
    (hactive : hold.state = .active) (hpool : hold.poolSeats = 0)
    (hinsert : db.insertHold hold = .ok db₁)
    (hcurrent : order.current = renewedOrder record.order hold.id hold.expiresAt)
    (hsave : db₁.saveOrder order = .ok db₂)
    (htake : takeStatement fromPool record.order.dateId hold.id record.order.quantity now db₂ =
      some db') : Movement db .counters db' := by
  obtain ⟨holds, hholds, rfl⟩ := insertHold_ok hinsert
  have hrecord₁ : ({ db with holds } : Db).orders.find? record.id = some record := hrecord
  have hsaved := saveOrder_applied hrecord₁ (by rw [hcurrent]; rfl) hsave
  subst hsaved
  obtain ⟨row, row', poolSeats, holds', hrow, htaken, hholds', rfl⟩ :=
    held_ok hholds htake rfl rfl hpool
  have hfor' : HeldFor { hold with poolSeats } record.order :=
    ⟨hfor.originRef, hfor.dateId, hfor.quantity⟩
  have hmove := Movement.renewed hrecord hstate hintent hgone hfor' hactive hrow htaken hholds'
  rw [hcurrent]
  exact hmove

omit [OrderRules] [SalesRules] in
theorem any_active_false {hold : Option SeatHoldSnapshot}
    (h : hold.any SeatHold.isActive = false) : ∀ held, hold = some held → held.state ≠ .active := by
  rintro held rfl
  simpa [SeatHold.isActive] using h

omit [OrderRules] [SalesRules] in
/-- Of an order that waits for its intent or its client's secret, what its gone hold says. -/
theorem holdGone_of {order : SeatOrder} (hrecord : order.current = record.order)
    (hwaits : ¬ (!order.awaitsClientSecret && !order.awaitsIntent) = true)
    (hgone : (!order.awaitsClientSecret &&
      !(db.holds.find? order.current.holdId).any SeatHold.isActive) = true) :
    order.awaitsIntent = true ∧ record.order.state = .pending ∧ record.order.intent = none ∧
      db.HoldGone record.order := by
  simp only [Bool.and_eq_true, Bool.not_eq_true', not_and, Bool.not_eq_false] at hwaits hgone
  have hintent := hwaits hgone.1
  obtain ⟨hstate, hnone⟩ := (awaitsIntent_iff order).mp hintent
  rw [hrecord] at hstate hnone hgone
  exact ⟨hintent, hstate, hnone, any_active_false hgone.2⟩

omit [OrderRules] [SalesRules] in
theorem filter_false {α : Type} (a : Option α) : a.filter (fun _ => false) = none := by
  cases a <;> rfl

omit [OrderRules] [SalesRules] in
theorem awaits_of_pending {s : SeatOrderSnapshot} (h : s.state = .pending) : s.AwaitsPayment := by
  unfold SeatOrderSnapshot.AwaitsPayment
  rw [h]
  decide

/-- An order resumed: answered, refused, or on to the provider. -/
theorem resumeIn_ok [LawfulSalesRules] {origin : String} {seen : Unlocked} {orderId : Uuid}
    {acknowledged : Bool} {now servedAt : Instant} {holdId : Uuid} {r : Db × Resumption}
    (h : resumeIn origin db seen orderId acknowledged now servedAt holdId = .ok r) :
    Db.MovedOnce (fun label => label = .counters) db r.1 ∧
      ((∃ stored, seen.answers.storedAnswerOf orderId = some stored ∧
        r = (db, .answered stored true)) ∨ r.2.Of r.1 orderId) := by
  unfold resumeIn at h
  split at h
  · rename_i stored hstored
    rw [pure_ok_iff] at h
    subst h
    exact ⟨.refl, .inl ⟨stored, hstored, rfl⟩⟩
  · simp only [bind_ok_iff, refusing_ok_iff] at h
    obtain ⟨order, hload, h⟩ := h
    obtain ⟨record, rfl, hrecord, rfl⟩ := loadOrder_ok hload
    by_cases hwaits : (!(SeatOrder.restore record.order).awaitsClientSecret &&
      !(SeatOrder.restore record.order).awaitsIntent) = true
    · rw [if_pos hwaits, refusing_ok_iff] at h
      obtain ⟨hput, hof, -⟩ := answerOf_ok hrecord rfl h
      exact ⟨.inl (hput.moved hrecord), .inr hof⟩
    rw [if_neg hwaits] at h
    generalize hholdGone : (!(SeatOrder.restore record.order).awaitsClientSecret &&
      !(db.holds.find? (SeatOrder.restore record.order).current.holdId).any SeatHold.isActive) =
        holdGone at h
    cases holdGone with
    | false =>
        simp only [filter_false, Bool.false_eq_true, if_false] at h
        split at h <;> rw [pure_ok_iff] at h <;> subst h
        · exact ⟨.refl, .inr trivial⟩
        · exact ⟨.refl, .inr rfl⟩
    | true =>
        obtain ⟨hintent, hstate, hnone, hgone⟩ := holdGone_of rfl hwaits hholdGone
        have hawaits := awaits_of_pending hstate
        split at h
        · simp only [bind_ok_iff, refusing_ok_iff, pure_ok_iff] at h
          obtain ⟨⟨order', failed⟩, hfail, db₁, hsave, rfl⟩ := h
          have hcurrent := fail_commit_of_awaits hawaits hfail
          exact ⟨.quiet (failed_moved hrecord hgone hawaits hcurrent hsave), .inr trivial⟩
        · split at h
          · rw [pure_ok_iff] at h
            subst h
            exact ⟨.refl, .inr trivial⟩
          · simp only [if_true, bind_ok_iff, refusing_ok_iff] at h
            obtain ⟨⟨db₁, order', takeSeats⟩, hrenew, db₂, hsave, h⟩ := h
            rcases renewHoldIn_ok hintent hrenew with ⟨hdb, htake, hcurrent⟩ |
              ⟨hold, fromPool, hfor, hactive, hpool, hinsert, hcurrent, htake⟩
            · simp only at hdb htake
              subst hdb htake
              rw [pure_ok_iff] at h
              subst h
              exact ⟨.quiet (failed_moved hrecord hgone hawaits hcurrent hsave), .inr trivial⟩
            · simp only at htake
              subst htake
              simp only [bind_ok_iff, orRefuse_ok_iff, pure_ok_iff] at h
              obtain ⟨db₃, htaken, rfl⟩ := h
              refine ⟨.single (renewed_moved hrecord hstate hnone hgone hfor hactive hpool hinsert
                hcurrent hsave htaken) rfl, .inr ?_⟩
              show order'.current.id = record.id
              rw [hcurrent]
              rfl

/-- A hold that exists and has left. -/
def Db.HasLeft (db : Db) (holdId : Uuid) : Prop :=
  ∃ hold, db.holds.find? holdId = some hold ∧ hold.state ≠ .active

omit [OrderRules] [SalesRules] in
theorem hasLeft_of_gone (hc : Consistent db) (hrecord : db.orders.find? record.id = some record)
    (hgone : db.HoldGone record.order) : db.HasLeft record.order.holdId := by
  obtain ⟨hold, hfind, -⟩ := hc.current record (Table.mem_of_find? hrecord)
  exact ⟨hold, hfind, hgone hold hfind⟩

omit [OrderRules] in
/-- A renewal that found no seat left rolled back an order's leaving a hold that has left. -/
theorem resumeIn_soldOut {origin : String} {seen : Unlocked} {orderId : Uuid}
    {acknowledged : Bool} {now servedAt : Instant} {holdId id stale : Uuid} (hc : Consistent db)
    (h : resumeIn origin db seen orderId acknowledged now servedAt holdId =
      .error (.renewalSoldOut id stale)) : id = orderId ∧ db.HasLeft stale := by
  unfold resumeIn at h
  split at h
  · cases h
  · simp only [bind_error_iff, refusing_error_iff, refusing_ok_iff] at h
    rcases h with ⟨refusal, -, hne⟩ | ⟨order, hload, h⟩
    · cases hne
    obtain ⟨record, rfl, hrecord, rfl⟩ := loadOrder_ok hload
    by_cases hwaits : (!(SeatOrder.restore record.order).awaitsClientSecret &&
      !(SeatOrder.restore record.order).awaitsIntent) = true
    · rw [if_pos hwaits, refusing_error_iff] at h
      obtain ⟨refusal, -, hne⟩ := h
      cases hne
    rw [if_neg hwaits] at h
    generalize hholdGone : (!(SeatOrder.restore record.order).awaitsClientSecret &&
      !(db.holds.find? (SeatOrder.restore record.order).current.holdId).any SeatHold.isActive) =
        holdGone at h
    split at h
    · simp only [bind_error_iff, refusing_error_iff, pure_error_iff, and_false, exists_false,
        or_false, reduceCtorEq] at h
    · split at h
      · cases h
      · split_ifs at h with hgone
        · obtain ⟨-, -, -, hleft⟩ := holdGone_of rfl hwaits (hholdGone.trans hgone)
          simp only [bind_error_iff, refusing_error_iff, reduceCtorEq, and_false, exists_false,
            false_or] at h
          obtain ⟨r, -, db₁, -, h⟩ := h
          split at h
          · cases h
          · simp only [bind_error_iff, orRefuse_error_iff, pure_error_iff, and_false, exists_false,
              or_false, Rollback.renewalSoldOut.injEq] at h
            obtain ⟨-, rfl, rfl⟩ := h
            exact ⟨rfl, hasLeft_of_gone hc hrecord hleft⟩
        · cases h

/-- After a renewal for want of seats: failed sold out, or answered for by another attempt. -/
theorem failSoldOutIn_ok {origin : String} {seen : Unlocked} {orderId stale : Uuid}
    {now servedAt : Instant} {r : Db × Resumption} (hstale : db.HasLeft stale)
    (h : failSoldOutIn origin db seen orderId stale now servedAt = .ok r) :
    Db.Moved IsQuiet db r.1 ∧ r.2.Of r.1 orderId ∧ ∀ request, r.2 ≠ .createIntent request := by
  unfold failSoldOutIn at h
  simp only [bind_ok_iff] at h
  obtain ⟨order, hload, h⟩ := h
  obtain ⟨record, rfl, hrecord, rfl⟩ := loadOrder_ok hload
  split_ifs at h with hother hwaits
  · rw [pure_ok_iff] at h
    subst h
    exact ⟨.refl, trivial, by simp⟩
  · obtain ⟨hput, hof, hnone⟩ := answerOf_ok hrecord rfl h
    exact ⟨hput.moved hrecord, hof, hnone⟩
  · simp only [bind_ok_iff, pure_ok_iff] at h
    obtain ⟨⟨order', failed⟩, hfail, db₁, hsave, rfl⟩ := h
    have hsame : record.order.holdId = stale := not_not.mp hother
    have hgone : db.HoldGone record.order := by
      intro hold hhold
      obtain ⟨left, hleft, hstate⟩ := hstale
      rw [hsame, hleft] at hhold
      cases hhold
      exact hstate
    have hpending := ((awaitsIntent_iff (SeatOrder.restore record.order)).mp (by simpa using hwaits)).1
    have hawaits := awaits_of_pending hpending
    have hcurrent := fail_commit_of_awaits hawaits hfail
    exact ⟨.single rfl (failed_moved hrecord hgone hawaits hcurrent hsave), trivial, by simp⟩

end Resuming

end Arthome.Ticketing
