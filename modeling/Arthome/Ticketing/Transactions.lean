import Arthome.Ticketing.OutcomeMovements
import Arthome.Ticketing.PurchaseMovements
import Arthome.Ticketing.SaleMovements

/-!
# Ticketing's transactions, in any order

Each transaction commits as one step on the state it finds, or rolls back. What it
read without a lock is any state committed before it, its own included. One thing
outlives a rollback: an attempt whose renewed hold found no seat left goes on to
fail its order. A transaction that commits is a run of movements, whose labels say
what it may do; so what every movement keeps holds in every state reached.
-/

namespace Arthome.Ticketing

open Arthome.Core Library

/-- How many commits ago each of a transaction's reads without a lock was made. -/
structure Reads where
  keys : ℕ
  answers : ℕ
  sales : ℕ
  salesAgain : ℕ
  entries : ℕ
  deriving Repr, DecidableEq

/-- Every read made of the state the transaction itself finds. -/
def Reads.latest : Reads := ⟨0, 0, 0, 0, 0⟩

/-- A transaction with what it draws and reads. -/
inductive Transaction where
  | place (command : PurchaseSeat) (reads : Reads) (now : Instant) (draw : PlacementDraw)
  | resume (orderId : Uuid) (lateEntryAcknowledged : Bool) (reads : Reads) (now servedAt : Instant)
      (holdId : Uuid)
  | failSoldOut (orderId staleHoldId : Uuid) (reads : Reads) (now servedAt : Instant)
  | recordIntent (orderId : Uuid) (intent : PaymentIntent) (reads : Reads) (now servedAt : Instant)
      (draw : PaymentDraw)
  | releaseHold (orderId : Uuid) (now : Instant)
  | applyEvent (event : PaymentEvent) (reads : Reads) (now : Instant) (draw : PaymentDraw)
  | intentCancelled (orderId : Uuid)
  | refundMade (orderId refundId : Uuid) (refundRef : String) (now : Instant)
  | expireHolds (now : Instant) (batch : ℕ) (locked : List Uuid)
  | cancelSeat (seatId accountId : Uuid) (reads : Reads) (now : Instant) (refundId : Uuid)
  | refundSeat (seatId : Uuid) (body : RefundSeatBody) (reads : Reads) (now : Instant)
      (refundId : Uuid)
  | settleOrders (dateId : Uuid) (orderBatch : ℕ) (now : Instant) (locked : List Uuid)
      (draw : Uuid → Uuid)
  | stampSettled (dateId : Uuid)
  | setAside (dateId : Uuid) (now : Instant)
  | sale (action : WaitlistAction)

/-- The committed state, those before it with the latest first, and the renewals that rolled back
sold out: the order of each and the hold it was to leave. -/
structure World where
  db : Db
  past : List Db
  soldOut : List (Uuid × Uuid)

namespace World

def empty : World := ⟨.empty, [], []⟩

/-- The state committed so many commits ago. -/
def before (w : World) (commits : ℕ) : Db := (w.db :: w.past).getD commits w.db

def seen (w : World) (reads : Reads) : Unlocked where
  keys := w.before reads.keys
  answers := w.before reads.answers
  sales := w.before reads.sales
  salesAgain := w.before reads.salesAgain
  entries := w.before reads.entries

end World

variable [OrderRules] [SalesRules] (publicWebOrigin : String)

/-- What the transaction commits. -/
def Transaction.perform (w : World) : Transaction → Except Rollback Db
  | .place command reads now draw =>
      (placeIn publicWebOrigin w.db (w.seen reads) command now draw).map Prod.fst
  | .resume orderId lateEntryAcknowledged reads now servedAt holdId =>
      (resumeIn publicWebOrigin w.db (w.seen reads) orderId lateEntryAcknowledged now servedAt
        holdId).map Prod.fst
  | .failSoldOut orderId staleHoldId reads now servedAt => do
      refusing (require ((orderId, staleHoldId) ∈ w.soldOut) (.error "no renewal was sold out"))
      refusing ((failSoldOutIn publicWebOrigin w.db (w.seen reads) orderId staleHoldId now
        servedAt).map Prod.fst)
  | .recordIntent orderId intent reads now servedAt draw =>
      refusing ((recordIntentIn publicWebOrigin w.db (w.seen reads) orderId intent now servedAt
        draw).map Prod.fst)
  | .releaseHold orderId now => refusing (releaseHoldOf w.db orderId now)
  | .applyEvent event reads now draw => refusing (applyIn w.db (w.seen reads) event now draw)
  | .intentCancelled orderId => refusing (intentCancelledIn w.db orderId)
  | .refundMade orderId refundId refundRef now =>
      refusing (refundMadeIn w.db orderId refundId refundRef now)
  | .expireHolds now batch locked => .ok (expireDueHolds w.db now batch locked).1
  | .cancelSeat seatId accountId reads now refundId =>
      refusing ((Arthome.Ticketing.cancelSeat w.db (w.seen reads) seatId accountId now
        refundId).map Prod.fst)
  | .refundSeat seatId body reads now refundId =>
      refusing ((Arthome.Ticketing.refundSeat w.db (w.seen reads) seatId body now
        refundId).map Prod.fst)
  | .settleOrders dateId orderBatch now locked draw =>
      refusing ((Arthome.Ticketing.settleOrders w.db dateId orderBatch now locked draw).map Prod.fst)
  | .stampSettled dateId => .ok (Arthome.Ticketing.stampSettled w.db dateId)
  | .setAside dateId now => .ok (Arthome.Ticketing.setAside w.db dateId now)
  | .sale action => refusing (action.perform w.db)

namespace World

/-- A transaction committed, or rolled back. -/
def advance (w : World) (transaction : Transaction) : World :=
  match transaction.perform publicWebOrigin w with
  | .ok db => { w with db, past := w.db :: w.past }
  | .error (.renewalSoldOut orderId staleHoldId) =>
      { w with soldOut := (orderId, staleHoldId) :: w.soldOut }
  | .error _ => w

/-- The world after the transactions, from before the first date was opened. -/
def reached (transactions : List Transaction) : World :=
  transactions.foldl (advance publicWebOrigin) empty

end World

/-! ## A transaction as movements -/

/-- What a transaction's movements may be. -/
def Transaction.Labels : Transaction → Db → Label → Prop
  | .place .. => IsCounted
  | .resume .. => IsCounted
  | .failSoldOut .. => IsQuiet
  | .recordIntent orderId intent .. => fun _ label =>
      label = .quiet ∨ PaymentLabel (fun id => id = orderId ∧ intent.Waits) label
  | .releaseHold .. => fun _ label => label = .quiet ∨ ∃ holdId, label = .holdLeft holdId
  | .applyEvent event .. => fun _ label => label = .quiet ∨ PaymentLabel event.Waits label
  | .intentCancelled _ => IsQuiet
  | .refundMade .. => IsQuiet
  | .expireHolds .. => fun _ label => label = .quiet ∨ ∃ holdId, label = .holdLeft holdId
  | .cancelSeat .. => IsOfSeats
  | .refundSeat .. => IsOfSeats
  | .settleOrders .. => IsOfSeats
  | .stampSettled _ => IsQuiet
  | .setAside .. => IsQuiet
  | .sale (.applyFact dateId fact _) => IsFact dateId fact
  | .sale _ => IsCounted

section Movements

variable {publicWebOrigin} {w : World} {db db' : Db}

omit [SalesRules] in
theorem Db.MovedOnce.moved {labels : Label → Prop} (h : Db.MovedOnce labels db db') :
    Db.Moved (fun _ label => label = .quiet ∨ labels label) db db' := by
  rcases h with hquiet | ⟨label, mid, hlabel, hmove, hquiet⟩
  · exact hquiet.mono fun _ _ => .inl
  · have hfirst : Db.Moved (fun _ label => label = .quiet ∨ labels label) db mid :=
      .single (.inr hlabel) hmove
    exact hfirst.trans (hquiet.mono fun _ _ => .inl)

omit [OrderRules] [SalesRules] in
/-- A result whose first part was committed. -/
theorem map_fst_ok {ε α β : Type} {x : Except ε (α × β)} {a : α} (h : x.map Prod.fst = .ok a) :
    ∃ b, x = .ok (a, b) := by
  cases x with
  | error e => cases h
  | ok r => exact ⟨r.2, Except.ok.inj h ▸ rfl⟩

omit [OrderRules] [SalesRules] in
theorem map_error_iff {ε α β : Type} {x : Except ε α} {f : α → β} {e : ε} :
    x.map f = .error e ↔ x = .error e := by
  cases x <;> simp [Except.map]

omit [OrderRules] in
/-- A purchase placed renews nothing. -/
theorem placeIn_not_soldOut {seen : Unlocked} {command : PurchaseSeat} {now : Instant}
    {draw : PlacementDraw} {orderId staleHoldId : Uuid} :
    placeIn publicWebOrigin db seen command now draw ≠
      .error (.renewalSoldOut orderId staleHoldId) := by
  intro h
  obtain ⟨body, buyer, idempotency, acknowledged⟩ := command
  unfold placeIn at h
  simp only at h
  split at h
  · simp only [bind_error_iff, refusing_error_iff, pure_error_iff, reduceCtorEq, and_false,
      exists_false, or_false] at h
  · simp only [bind_error_iff, refusing_error_iff, reduceCtorEq, and_false, exists_false,
      false_or] at h
    obtain ⟨sales, -, held, -, h⟩ := h
    split at h
    · cases h
    · simp only [bind_error_iff, refusing_error_iff, orRefuse_error_iff, pure_error_iff, reduceCtorEq,
        and_false, exists_false, or_false] at h

/-- The hold of every renewal rolled back sold out has left. -/
def World.HoldsLeft (w : World) : Prop := ∀ noted ∈ w.soldOut, w.db.HasLeft noted.2

variable [LawfulSalesRules]

/-- A transaction of a date's sale is a run of movements. -/
theorem WaitlistAction.perform_moved {action : WaitlistAction} (h : action.perform db = .ok db') :
    Db.Moved (Transaction.Labels (.sale action)) db db' := by
  have hcounted : ∀ {mid : Db}, Db.Moved IsQuiet db mid → Db.Moved IsCounted db mid :=
    fun hmoved => hmoved.mono fun _ _ => .inl
  cases action with
  | join dateId accountId entryId now => exact hcounted (joinIn_moved h)
  | leave dateId accountId now => exact hcounted (leaveIn_moved h)
  | openTier dateId body tierId now => exact openIn_moved h
  | endWindow dateId now =>
      obtain ⟨ended, hend⟩ := map_fst_ok h
      exact endDuePriorityWindow_moved hend
  | endWaitlist dateId now => exact endWaitlist_moved h
  | applyFact dateId fact now =>
      unfold WaitlistAction.perform applyCatalogDateFact at h
      cases fact with
      | drafted channelId => exact (draftedIn_moved h).mono fun _ _ => .inl
      | lock statedAt => exact movedIn_moved h
      | start startsAt statedAt => exact movedIn_moved h
      | outcome outcome statedAt => exact movedIn_moved h
  | endSale dateId now => exact hcounted (closeEndedSale_moved h)
  | setPrices dateId expectedVersion tiers => exact hcounted (setPricesIn_moved h)
  | setTechnicalProvision dateId expectedVersion provisionedCapacity now =>
      exact hcounted (setTechnicalProvisionIn_moved h)

variable [LawfulOrderRules]

/-- A transaction that commits is a run of the movements it may make. -/
theorem Transaction.perform_moved {transaction : Transaction} (hc : Consistent w.db)
    (hleft : w.HoldsLeft) (h : transaction.perform publicWebOrigin w = .ok db') :
    Db.Moved transaction.Labels w.db db' := by
  cases transaction with
  | place command reads now draw =>
      obtain ⟨placement, hplace⟩ := map_fst_ok h
      rcases placeIn_ok hplace with ⟨bound, -, -, hsame⟩ | ⟨request, record, hmove, -⟩
      · obtain ⟨rfl, -⟩ := Prod.mk.inj hsame
        exact .refl
      · exact .single (.inr rfl) hmove
  | resume orderId lateEntryAcknowledged reads now servedAt holdId =>
      obtain ⟨resumption, hresume⟩ := map_fst_ok h
      exact (resumeIn_ok hresume).1.moved
  | failSoldOut orderId staleHoldId reads now servedAt =>
      simp only [perform, bind_ok_iff, refusing_ok_iff, require_ok_iff] at h
      obtain ⟨-, hnoted, hfail⟩ := h
      obtain ⟨resumption, hfail⟩ := map_fst_ok hfail
      exact (failSoldOutIn_ok (hleft _ hnoted) hfail).1
  | recordIntent orderId intent reads now servedAt draw =>
      obtain ⟨resumption, hrecord⟩ := map_fst_ok (refusing_ok_iff.mp h)
      exact (recordIntentIn_moved hc hrecord).1.moved
  | releaseHold orderId now => exact (releaseHoldOf_moved hc (refusing_ok_iff.mp h)).moved
  | applyEvent event reads now draw => exact (applyIn_moved hc (refusing_ok_iff.mp h)).moved
  | intentCancelled orderId => exact intentCancelledIn_moved (refusing_ok_iff.mp h)
  | refundMade orderId refundId refundRef now => exact refundMadeIn_moved (refusing_ok_iff.mp h)
  | expireHolds now batch locked => exact Except.ok.inj h ▸ expireDueHolds_moved hc now batch locked
  | cancelSeat seatId accountId reads now refundId =>
      obtain ⟨ticket, hcancel⟩ := map_fst_ok (refusing_ok_iff.mp h)
      exact cancelSeat_moved hcancel
  | refundSeat seatId body reads now refundId =>
      obtain ⟨amount, hrefund⟩ := map_fst_ok (refusing_ok_iff.mp h)
      exact refundSeat_moved hrefund
  | settleOrders dateId orderBatch now locked draw =>
      obtain ⟨settled, hsettle⟩ := map_fst_ok (refusing_ok_iff.mp h)
      exact settleOrders_moved hc hsettle
  | stampSettled dateId => exact Except.ok.inj h ▸ stampSettled_moved dateId
  | setAside dateId now => exact Except.ok.inj h ▸ setAside_moved dateId
  | sale action => exact WaitlistAction.perform_moved (refusing_ok_iff.mp h)

omit [LawfulSalesRules] [LawfulOrderRules] in
/-- A renewal that rolls back sold out names a hold that has left. -/
theorem Transaction.perform_soldOut {transaction : Transaction} {orderId staleHoldId : Uuid}
    (hc : Consistent w.db)
    (h : transaction.perform publicWebOrigin w = .error (.renewalSoldOut orderId staleHoldId)) :
    w.db.HasLeft staleHoldId := by
  cases transaction with
  | place command reads now draw => exact absurd (map_error_iff.mp h) placeIn_not_soldOut
  | resume resumedId lateEntryAcknowledged reads now servedAt holdId =>
      exact (resumeIn_soldOut hc (map_error_iff.mp h)).2
  | failSoldOut failedId leftId reads now servedAt =>
      simp only [perform, bind_error_iff, refusing_error_iff, reduceCtorEq, and_false, exists_false,
        or_false] at h
  | expireHolds now batch locked => cases h
  | stampSettled dateId => cases h
  | setAside dateId now => cases h
  | _ =>
      obtain ⟨refusal, -, hne⟩ := refusing_error_iff.mp h
      cases hne

end Movements

/-! ## What holds in every state reached -/

/-- What every transaction keeps: the rows agree with one another, and are counted. -/
structure World.Sound (w : World) : Prop where
  consistent : Consistent w.db
  counted : Counted w.db
  holdsLeft : w.HoldsLeft

section Runs

variable {publicWebOrigin} {w : World} {db db' : Db} {label : Label}

omit [OrderRules] [SalesRules] in
theorem consistent_empty : Consistent .empty where
  current record hrecord := by cases hrecord
  placedFor hold hhold := by cases hhold
  dated record hrecord := by cases hrecord
  standing record hrecord := by cases hrecord

omit [OrderRules] [SalesRules] in
theorem counted_empty : Counted .empty where
  balanced row hrow := by cases hrow
  seats record hrecord := by cases hrecord
  pooled hold hhold := by cases hhold

omit [OrderRules] [SalesRules] in
theorem World.sound_empty : World.empty.Sound :=
  ⟨consistent_empty, counted_empty, fun noted hnoted => by cases hnoted⟩

/-- A renewal is noted sold out by the transaction that rolled back for it. -/
theorem World.mem_soldOut_advance {transaction : Transaction} {noted : Uuid × Uuid}
    (h : noted ∈ (w.advance publicWebOrigin transaction).soldOut) : noted ∈ w.soldOut ∨
      transaction.perform publicWebOrigin w = .error (.renewalSoldOut noted.1 noted.2) := by
  unfold World.advance at h
  split at h
  · exact .inl h
  · rename_i orderId staleHoldId hperform
    rcases List.mem_cons.mp h with rfl | hbefore
    · exact .inr hperform
    · exact .inl hbefore
  · exact .inl h

omit [SalesRules] in
/-- A hold that left stays away. -/
theorem Movement.hasLeft (hm : Movement db label db') {holdId : Uuid} (h : db.HasLeft holdId) :
    db'.HasLeft holdId := by
  obtain ⟨hold, hfind, hstate⟩ := h
  obtain ⟨left, hleft, hstep⟩ := hm.hold_find hfind
  refine ⟨left, hleft, ?_⟩
  cases hstep with
  | same => exact hstate
  | left hactive => exact absurd hactive hstate

omit [SalesRules] in
theorem Db.Moved.hasLeft {ok : Db → Label → Prop} (hm : Db.Moved ok db db') {holdId : Uuid}
    (h : db.HasLeft holdId) : db'.HasLeft holdId :=
  hm.invariant h fun _ _ _ hleft _ hmove => hmove.hasLeft hleft

variable [LawfulOrderRules]

omit [SalesRules] in
theorem Db.Moved.consistent {ok : Db → Label → Prop} (hm : Db.Moved ok db db') (h : Consistent db) :
    Consistent db' :=
  hm.invariant h fun _ _ _ hc _ hmove => hmove.consistent hc

omit [SalesRules] in
theorem Db.Moved.counted {ok : Db → Label → Prop} (hm : Db.Moved ok db db') (hc : Consistent db)
    (h : Counted db) : Counted db' := by
  have hboth : Consistent db' ∧ Counted db' := by
    apply hm.invariant (P := fun mid => Consistent mid ∧ Counted mid)
    · exact ⟨hc, h⟩
    · intro mid label mid' hmid _ hmove
      exact ⟨hmove.consistent hmid.1, hmove.counted hmid.1 hmid.2⟩
  exact hboth.2

variable [LawfulSalesRules]

/-- A step of the world is a run of its transaction's movements: none when it rolls back. -/
theorem World.Sound.moved (h : w.Sound) (transaction : Transaction) :
    Db.Moved transaction.Labels w.db (w.advance publicWebOrigin transaction).db := by
  unfold World.advance
  split
  · rename_i db hperform
    exact Transaction.perform_moved h.consistent h.holdsLeft hperform
  · exact .refl
  · exact .refl

theorem World.Sound.advance (h : w.Sound) (transaction : Transaction) :
    (w.advance publicWebOrigin transaction).Sound := by
  have hmoved : Db.Moved transaction.Labels w.db (w.advance publicWebOrigin transaction).db :=
    h.moved transaction
  refine ⟨hmoved.consistent h.consistent, hmoved.counted h.consistent h.counted, ?_⟩
  intro noted hnoted
  apply hmoved.hasLeft
  rcases World.mem_soldOut_advance hnoted with hbefore | hperform
  · exact h.holdsLeft noted hbefore
  · exact Transaction.perform_soldOut h.consistent hperform

variable (publicWebOrigin) in
theorem World.Sound.run (h : w.Sound) (transactions : List Transaction) :
    (transactions.foldl (World.advance publicWebOrigin) w).Sound := by
  induction transactions generalizing w with
  | nil => exact h
  | cons transaction transactions ih => exact ih (h.advance transaction)

/-- What every movement keeps of consistent rows holds after any transactions. -/
theorem World.Sound.kept (h : w.Sound) {P : Db → Prop} (transactions : List Transaction)
    (hkept : ∀ {before after : Db} {label : Label}, Consistent before → P before →
      Movement before label after → P after)
    (hP : P w.db) : P (transactions.foldl (World.advance publicWebOrigin) w).db := by
  induction transactions generalizing w with
  | nil => exact hP
  | cons transaction transactions ih =>
      refine ih (h.advance transaction) ?_
      have hrun : Consistent (w.advance publicWebOrigin transaction).db ∧
          P (w.advance publicWebOrigin transaction).db := by
        apply (h.moved transaction).invariant (P := fun mid => Consistent mid ∧ P mid)
        · exact ⟨h.consistent, hP⟩
        · intro before label after hmid _ hmove
          exact ⟨hmove.consistent hmid.1, hkept hmid.1 hmid.2 hmove⟩
      exact hrun.2

variable (publicWebOrigin) in
theorem World.sound_reached (transactions : List Transaction) :
    (World.reached publicWebOrigin transactions).Sound :=
  World.sound_empty.run publicWebOrigin transactions

end Runs

end Arthome.Ticketing
