import Arthome.Ticketing.SeatRuns

/-!
# A payment is answered once

The provider's confirmation of an order's payment leaves the order seated or
unseated, and whatever is done to the order next it stays what it became. The
confirmation applied again changes nothing a buyer or a date could see.
-/

namespace Arthome.Ticketing

open Arthome.Core Library

/-- The transaction applies the provider's confirmation of the order's payment. -/
def Transaction.Confirms (orderId : Uuid) : Transaction → Prop
  | .applyEvent event .. => event.kind = .intentSucceeded ∧ event.orderId = some orderId
  | .recordIntent id intent .. => id = orderId ∧ intent.status = .succeeded
  | _ => False

/-- Every date, hold and credit is as it was, and so is every order, its seats and refunds included. -/
structure NothingWritten (db db' : Db) : Prop where
  sales : db'.sales = db.sales
  holds : db'.holds = db.holds
  credits : db'.credits = db.credits
  orders : ∀ id, (db'.orders.find? id).map OrderRecord.order = (db.orders.find? id).map OrderRecord.order

section Confirmation

variable [OrderRules] [SalesRules] {db db₁ db' : Db} {record : OrderRecord}

omit [OrderRules] [SalesRules] in
/-- A record moved beside its order. -/
theorem nothingWritten_put {record' : OrderRecord} (hrecord : db.orders.find? record.id = some record)
    (horder : record'.order = record.order) : NothingWritten db (db.putOrder record') := by
  refine ⟨rfl, rfl, rfl, fun id => ?_⟩
  have hid : record'.id = record.id := congrArg (fun order => order.id) horder
  rw [Db.putOrder_orders, Table.find?_put (hid ▸ hrecord)]
  split_ifs with hsame
  · rw [hsame, hid, hrecord]
    exact congrArg some horder
  · rfl

omit [SalesRules] in
/-- A settled payment is confirmed; settled before, it moves nothing else. -/
theorem Settled.confirmed {s' : SeatOrderSnapshot} {pending : Option PendingCounterMove}
    (hrecord : db.orders.find? record.id = some record) (h : Settled db record db₁ s' pending) :
    (∃ record₁, db₁.orders.find? record.id = some record₁ ∧ record₁.confirmed = true) ∧
      (¬ record.order.AcceptsPayment →
        db₁ = db.putOrder record.confirmedNow ∧ s' = record.order ∧ pending = none) := by
  have hself : (db.putOrder record.confirmedNow).orders.find? record.id =
      some record.confirmedNow := Table.find?_put_self (a := record.confirmedNow) hrecord
  cases h with
  | again hsettled => exact ⟨⟨_, hself, rfl⟩, fun _ => ⟨rfl, rfl, rfl⟩⟩
  | sold haccepts => exact ⟨⟨_, hself, rfl⟩, fun hnot => absurd haccepts hnot⟩
  | soldDirect haccepts => exact ⟨⟨_, hself, rfl⟩, fun hnot => absurd haccepts hnot⟩
  | returned haccepts _ _ reason intentRef id now =>
      refine ⟨⟨record.unseatedNow (unseatedOrder record.order reason intentRef id now) id, ?_, rfl⟩,
        fun hnot => absurd haccepts hnot⟩
      exact Table.find?_put_self (r := record.confirmedNow) hself
  | stopped haccepts _ reason intentRef id now =>
      refine ⟨⟨record.unseatedNow (unseatedOrder record.order reason intentRef id now) id, ?_, rfl⟩,
        fun hnot => absurd haccepts hnot⟩
      exact Table.find?_put_self (r := record.confirmedNow) hself

/-- What a confirmation leaves: the record confirmed, and nothing else moved when the order took no
payment any more. -/
structure Confirmed (db : Db) (record : OrderRecord) (db' : Db) : Prop where
  confirmed : ∃ record', db'.orders.find? record.id = some record' ∧ record'.confirmed = true
  again : ¬ record.order.AcceptsPayment → NothingWritten db db'

omit [SalesRules] in
/-- A settled payment, its order saved and its counters moved last. -/
theorem Settled.saved {order : SeatOrder} {pending : Option PendingCounterMove} {db₂ : Db}
    (hrecord : db.orders.find? record.id = some record)
    (h : Settled db record db₁ order.current pending) (hid : order.current.id = record.id)
    (hsave : db₁.saveOrder order = .ok db₂) :
    ∃ record₂, db₂.orders.find? record.id = some record₂ ∧ record₂.confirmed = true ∧
      record₂.id = record.id ∧ (¬ record.order.AcceptsPayment → pending = none ∧
        record₂.order = record.order ∧ db₂ = db.putOrder record₂) := by
  obtain ⟨⟨record₁, hfind, hconfirmed⟩, hagain⟩ := h.confirmed hrecord
  rw [saveOrder_applied hfind hid hsave]
  have hput : (db₁.orders.put { record₁ with order := order.current }).find? record.id =
      some { record₁ with order := order.current } := by
    have hkey : ({ record₁ with order := order.current } : OrderRecord).id = record.id := hid
    exact hkey ▸ Table.find?_put_self (hkey ▸ hfind)
  refine ⟨_, hput, hconfirmed, hid, fun hnot => ?_⟩
  obtain ⟨rfl, horder, rfl⟩ := hagain hnot
  exact ⟨rfl, horder, Db.putOrder_putOrder db hid.symm⟩

/-- A webhook's confirmation. -/
theorem applyIn_confirms {seen : Unlocked} {event : PaymentEvent} {now : Instant}
    {draw : PaymentDraw} {orderId : Uuid} (hkind : event.kind = .intentSucceeded)
    (horder : event.orderId = some orderId) (h : applyIn db seen event now draw = .ok db') :
    ∃ record, db.orders.find? orderId = some record ∧ Confirmed db record db' := by
  unfold applyIn at h
  rw [horder, hkind] at h
  simp only [bind_ok_iff, orRefuse_ok_iff, pure_ok_iff] at h
  obtain ⟨order, hfind, ⟨db₁, order₁, pending⟩, happly, db₂, hsave, rfl⟩ := h
  obtain ⟨record, hrecord, rfl⟩ := findOrder_ok hfind
  obtain rfl : record.id = orderId := Table.key_of_find? hrecord
  unfold applyTo at happly
  rw [hkind] at happly
  simp only [bind_ok_iff] at happly
  obtain ⟨intentRef, -, happly⟩ := happly
  have hsettled := settle_ok hrecord happly
  have happlied : Applied event.Waits db record db₁ order₁.current pending := .settled hsettled
  obtain ⟨record₂, hfound, hconfirmed, hid, hagain⟩ := hsettled.saved hrecord happlied.id hsave
  refine ⟨record, hrecord, ⟨record₂, ?_, hconfirmed⟩, fun hnot => ?_⟩
  · rw [runPending_orders]
    exact hfound
  · obtain ⟨rfl, hsame, rfl⟩ := hagain hnot
    exact nothingWritten_put hrecord hsame

/-- The provider's answer to the purchase itself, a confirmation. -/
theorem recordIntentIn_confirms {origin : String} {seen : Unlocked} {orderId : Uuid}
    {intent : PaymentIntent} {now servedAt : Instant} {draw : PaymentDraw} {r : Db × Resumption}
    (hstatus : intent.status = .succeeded)
    (h : recordIntentIn origin db seen orderId intent now servedAt draw = .ok r) :
    ∃ record, db.orders.find? orderId = some record ∧ Confirmed db record r.1 := by
  unfold recordIntentIn at h
  simp only [bind_ok_iff, pure_ok_iff] at h
  obtain ⟨order, hload, ⟨db₁, order₁, pending⟩, happly, db₂, hsave, ⟨db₃, answer⟩, hanswer, rfl⟩ := h
  obtain ⟨record, rfl, hrecord, rfl⟩ := loadOrder_ok hload
  unfold applyIntent at happly
  rw [hstatus] at happly
  have hsettled := settle_ok hrecord happly
  have happlied : Applied (fun _ => False) db record db₁ order₁.current pending := .settled hsettled
  obtain ⟨record₂, hfound, hconfirmed, hid, hagain⟩ := hsettled.saved hrecord happlied.id hsave
  have hfind : db₂.orders.find? record₂.id = some record₂ := hid.symm ▸ hfound
  obtain ⟨hput, -, -⟩ := answerOf_ok hfind (happlied.id.trans hid.symm) hanswer
  refine ⟨record, hrecord, ?_⟩
  rcases hput with rfl | ⟨given, -, rfl⟩
  · refine ⟨⟨record₂, ?_, hconfirmed⟩, fun hnot => ?_⟩
    · rw [runPending_orders]
      exact hfound
    · obtain ⟨rfl, hsame, rfl⟩ := hagain hnot
      exact nothingWritten_put hrecord hsame
  · let answered : OrderRecord := { record₂ with answer := some given }
    refine ⟨⟨answered, ?_, hconfirmed⟩, fun hnot => ?_⟩
    · rw [runPending_orders, ← hid]
      exact Table.find?_put_self (a := answered) hfind
    · obtain ⟨rfl, hsame, rfl⟩ := hagain hnot
      have hput : (db.putOrder record₂).putOrder answered = db.putOrder answered :=
        Db.putOrder_putOrder db rfl
      show NothingWritten db ((db.putOrder record₂).putOrder answered)
      rw [hput]
      exact nothingWritten_put hrecord hsame

/-- A transaction that applies a confirmation finds the order, and leaves it confirmed. -/
theorem Transaction.perform_confirms {publicWebOrigin : String} {w : World} {orderId : Uuid}
    {transaction : Transaction} (hconfirms : transaction.Confirms orderId)
    (h : transaction.perform publicWebOrigin w = .ok db') :
    ∃ record, w.db.orders.find? orderId = some record ∧ Confirmed w.db record db' := by
  cases transaction with
  | applyEvent event reads now draw =>
      exact applyIn_confirms hconfirms.1 hconfirms.2 (refusing_ok_iff.mp h)
  | recordIntent id intent reads now servedAt draw =>
      obtain ⟨rfl, hstatus⟩ := hconfirms
      obtain ⟨resumption, hrecord⟩ := map_fst_ok (refusing_ok_iff.mp h)
      exact recordIntentIn_confirms hstatus hrecord
  | _ => exact hconfirms.elim

end Confirmation

/-! ## Runs -/

section Runs

variable [OrderRules] [LawfulOrderRules] {db db' : Db}

/-- A fact about an order that every movement keeps while the order stands somewhere. -/
def KeptByMovements (fact : OrderRecord → Prop) : Prop :=
  ∀ {db : Db} {label : Label} {record record' : OrderRecord}, RecordStep db label record record' →
    Standing record → fact record → fact record'

theorem Db.Moved.record_keeps {ok : Db → Label → Prop} (hm : Db.Moved ok db db')
    {fact : OrderRecord → Prop} (hkept : KeptByMovements fact) (hc : Consistent db)
    {record : OrderRecord} {orderId : Uuid} (hrecord : db.orders.find? orderId = some record)
    (hfact : fact record) : ∃ record', db'.orders.find? orderId = some record' ∧ fact record' := by
  have hrun : Consistent db' ∧
      ∃ record', db'.orders.find? orderId = some record' ∧ fact record' := by
    apply hm.invariant (P := fun mid => Consistent mid ∧
      ∃ record', mid.orders.find? orderId = some record' ∧ fact record')
    · exact ⟨hc, record, hrecord, hfact⟩
    · rintro mid label mid' ⟨hc, found, hfind, hfact⟩ - hmove
      obtain ⟨next, hnext, hstep⟩ := hmove.record_find hfind
      exact ⟨hmove.consistent hc, next, hnext,
        hkept hstep (hc.standing found (Table.mem_of_find? hfind)) hfact⟩
  exact hrun.2

theorem keptByMovements_seated : KeptByMovements Seated :=
  fun hstep hstanding hseated => hstep.seated hstanding hseated

theorem keptByMovements_unseated : KeptByMovements Unseated :=
  fun hstep hstanding hunseated => hstep.unseated hstanding hunseated

variable [SalesRules] [LawfulSalesRules] {publicWebOrigin : String} {w : World}

theorem World.Sound.record_keeps (hs : w.Sound) {fact : OrderRecord → Prop}
    (hkept : KeptByMovements fact) (later : List Transaction) {record : OrderRecord} {orderId : Uuid}
    (hrecord : w.db.orders.find? orderId = some record) (hfact : fact record) :
    ∃ record', (later.foldl (World.advance publicWebOrigin) w).db.orders.find? orderId =
      some record' ∧ fact record' := by
  induction later generalizing w record with
  | nil => exact ⟨record, hrecord, hfact⟩
  | cons transaction later ih =>
      obtain ⟨next, hnext, hfact⟩ := (hs.moved transaction).record_keeps hkept hs.consistent hrecord
        hfact
      exact ih (hs.advance transaction) hnext hfact

variable (publicWebOrigin)

/-- Once a confirmation of its payment is applied to an order, the order is seated for ever, or
unseated for ever, and never both; applied again, the confirmation writes nothing. -/
theorem money_answered_once (before : List Transaction) (success : Transaction) (orderId : Uuid)
    (committed : Db) (hconfirms : success.Confirms orderId)
    (hcommitted : success.perform publicWebOrigin (World.reached publicWebOrigin before) =
      .ok committed) :
    ((∀ later, ∃ record, (World.reached publicWebOrigin
        (before ++ success :: later)).db.orders.find? orderId = some record ∧ Seated record ∧
          ¬ Unseated record) ∨
      ∀ later, ∃ record, (World.reached publicWebOrigin
        (before ++ success :: later)).db.orders.find? orderId = some record ∧ Unseated record ∧
          ¬ Seated record) ∧
    ∀ (later : List Transaction) (again : Transaction) (written : Db), again.Confirms orderId →
      again.perform publicWebOrigin
        (World.reached publicWebOrigin (before ++ success :: later)) = .ok written →
      NothingWritten (World.reached publicWebOrigin (before ++ success :: later)).db written := by
  have hs := World.sound_reached publicWebOrigin before
  have hadvance : ((World.reached publicWebOrigin before).advance publicWebOrigin success).db =
      committed := by
    unfold World.advance
    rw [hcommitted]
  have hafter : ((World.reached publicWebOrigin before).advance publicWebOrigin success).Sound :=
    hs.advance success
  have hrun : ∀ later, World.reached publicWebOrigin (before ++ success :: later) =
      later.foldl (World.advance publicWebOrigin)
        ((World.reached publicWebOrigin before).advance publicWebOrigin success) := by
    intro later
    simp only [World.reached, List.foldl_append, List.foldl_cons]
  obtain ⟨record₀, hrecord₀, ⟨record, hrecord, hconfirmed⟩, -⟩ :=
    Transaction.perform_confirms hconfirms hcommitted
  rw [show record₀.id = orderId from Table.key_of_find? hrecord₀, ← hadvance] at hrecord
  have hanswered : (∀ later, ∃ record, (World.reached publicWebOrigin
      (before ++ success :: later)).db.orders.find? orderId = some record ∧ Seated record) ∨
      ∀ later, ∃ record, (World.reached publicWebOrigin
        (before ++ success :: later)).db.orders.find? orderId = some record ∧ Unseated record := by
    cases hafter.consistent.standing record (Table.mem_of_find? hrecord) with
    | «open» hopen =>
        rw [hopen.confirmed] at hconfirmed
        cases hconfirmed
    | seated hseated =>
        left
        intro later
        rw [hrun later]
        exact hafter.record_keeps keptByMovements_seated later hrecord hseated
    | unseated hunseated =>
        right
        intro later
        rw [hrun later]
        exact hafter.record_keeps keptByMovements_unseated later hrecord hunseated
  constructor
  · rcases hanswered with hseated | hunseated
    · left
      intro later
      obtain ⟨found, hfind, hfact⟩ := hseated later
      exact ⟨found, hfind, hfact, fun h => h.not_seated hfact⟩
    · right
      intro later
      obtain ⟨found, hfind, hfact⟩ := hunseated later
      exact ⟨found, hfind, hfact, hfact.not_seated⟩
  · intro later again written hagain hwritten
    obtain ⟨found, hfind, hconfirmed⟩ := Transaction.perform_confirms hagain hwritten
    apply hconfirmed.again
    intro haccepts
    have hstanding := (World.sound_reached publicWebOrigin
      (before ++ success :: later)).consistent.standing found (Table.mem_of_find? hfind)
    have hopen := hstanding.open_of_accepts haccepts
    rcases hanswered with hseated | hunseated
    · obtain ⟨same, hsame, hfact⟩ := hseated later
      rw [hfind] at hsame
      exact hopen.not_seated (Option.some.inj hsame ▸ hfact)
    · obtain ⟨same, hsame, hfact⟩ := hunseated later
      rw [hfind] at hsame
      obtain ⟨r, hr, -⟩ := (Option.some.inj hsame ▸ hfact : Unseated found).refund
      rw [hopen.refunds] at hr
      cases hr

end Runs

section Sample

open Sample

/-- The sample order's confirmation leaves it seated, or unseated, whatever comes next. -/
theorem money_answered_once_sample :
    ∃ record, (World.reached "https://arthome.example"
        (samplePlaced ++ [sampleSucceeded, sampleSucceeded])).db.orders.find? 51 = some record ∧
      Seated record ∧ ¬ Unseated record := by
  have hok : (sampleSucceeded.perform "https://arthome.example"
      (World.reached "https://arthome.example" samplePlaced)).toOption.isSome = true := by
    decide +kernel
  obtain ⟨committed, hcommitted⟩ := Option.isSome_iff_exists.mp hok
  have hpaid : ((World.reached "https://arthome.example"
      (samplePlaced ++ [sampleSucceeded, sampleSucceeded])).db.orders.find? 51).all
        (fun record => record.order.paidAt.isSome) = true := by decide +kernel
  rcases (money_answered_once "https://arthome.example" samplePlaced sampleSucceeded 51 committed
    ⟨rfl, rfl⟩ (toOption_eq_some_iff.mp hcommitted)).1 with hseated | hunseated
  · exact hseated [sampleSucceeded]
  · obtain ⟨record, hfind, hfact, -⟩ := hunseated [sampleSucceeded]
    rw [hfind] at hpaid
    have hsome : record.order.paidAt.isSome = true := hpaid
    rw [hfact.paidAt] at hsome
    cases hsome

end Sample

end Arthome.Ticketing
