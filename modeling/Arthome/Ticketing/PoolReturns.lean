import Arthome.Ticketing.ExpiryMovements
import Arthome.Ticketing.WaitlistCounts

/-!
# Seats held from a priority pool, and given back

A hold of a buyer notified into a window draws on the pool first, and records how much. Released or
expired, its pool seats go back to the pool while a window is open at that instant, on public sale
otherwise: the statement reads the window in force, not the one the seats were drawn in.

Two things are the model's own, kept beside the rows: how many windows each date has opened, and
what each hold drew, in which of them. A tier opens a window when none was open at its instant, and
extends the one that was.
-/

namespace Arthome.Ticketing

open Arthome.Core Library

/-- A transaction's writes on the seats of a date, on its holds and on what a window's end reads. -/
inductive PoolAction where
  | placeHold (placement : SeatHoldPlacement) (fromPool : Bool) (now : Instant)
  | releaseHold (holdId : Uuid) (now : Instant)
  | expireHold (holdId : Uuid) (now : Instant)
  | sellHold (holdId dateId : Uuid) (quantity : ℕ)
  | takeAndSell (dateId : Uuid) (quantity : ℕ) (fromPool : Bool) (now : Instant)
  | releaseSold (dateId : Uuid) (quantity : ℕ)
  | sale (action : WaitlistAction)
  | records (orders : Table OrderRecord.id) (settlements : Table DateOutcomeSettlement.dateId)
      (credits : Table CreditIssue.id)

/-- A hold leaves for the sale or the release of its seats. -/
def Db.leaveHold (db : Db) (holdId : Uuid)
    (leave : SeatHoldSnapshot → Except Refusal SeatHoldSnapshot) :
    Except Refusal (Db × SeatHoldSnapshot) := do
  let hold ← orRefuse (db.holds.find? holdId) .notFound
  let left ← leave hold
  let db ← db.saveHold left
  return (db, left)

/-- What a hold drew from a pool, and the window it drew it in. -/
structure Draw where
  window : ℕ
  poolSeats : ℤ
  deriving Repr, DecidableEq

/-- The rows, with the windows each date opened and what each hold drew. -/
structure PooledDb where
  db : Db
  windows : Uuid → ℕ
  drawn : Uuid → Draw

def PooledDb.empty : PooledDb := ⟨.empty, fun _ => 0, fun _ => ⟨0, 0⟩⟩

/-- A window of the date is open at `now`. -/
def Db.windowOpenAt (db : Db) (dateId : Uuid) (now : Instant) : Bool :=
  (db.sales.find? dateId).any fun row =>
    row.priorityUntil.any fun priorityUntil => now < priorityUntil

def Db.windowed (db : Db) (dateId : Uuid) : Bool :=
  (db.sales.find? dateId).any fun row => row.priorityUntil.isSome

def Db.poolOf (db : Db) (dateId : Uuid) : ℤ :=
  ((db.sales.find? dateId).map fun row => row.priorityPoolSeats).getD 0

namespace PoolAction

section Perform

variable [SalesRules]

def perform (db : Db) : PoolAction → Except Refusal Db
  | .placeHold placement fromPool now => do
    let hold ← SeatHold.place placement
    let db ← db.insertHold hold
    orRefuse (takeStatement fromPool hold.dateId hold.id hold.quantity now db) .soldOut
  | .releaseHold holdId now => do
    let (db, hold) ← db.leaveHold holdId SeatHold.release
    return db.returnHeldSeats hold.dateId hold.quantity hold.poolSeats now
  | .expireHold holdId now => do
    let hold ← orRefuse (db.holds.find? holdId) .notFound
    require (Db.isDue hold now = true) .notFound
    return (db.expireHolds [holdId]).returnHeldSeats hold.dateId hold.quantity hold.poolSeats now
  | .sellHold holdId dateId quantity => do
    let (db, _) ← db.leaveHold holdId SeatHold.consume
    return db.sellHeldSeats dateId quantity
  | .takeAndSell dateId quantity fromPool now =>
    orRefuse (db.takeAndSellSeats dateId quantity now fromPool) .soldOut
  | .releaseSold dateId quantity => orRefuse (db.releaseSoldSeats dateId quantity) .notFound
  | .sale action => action.perform db
  | .records orders settlements credits => return { db with orders, settlements, credits }

end Perform

/-- The date whose window a tier opened: none was open at its instant, one stands after. -/
def opensWindow (db db' : Db) : PoolAction → Option Uuid
  | .sale (.openTier dateId _ _ now) =>
    if !db.windowOpenAt dateId now && db'.windowed dateId then some dateId else none
  | _ => none

/-- The hold whose seats the action gives back, and when. -/
def returning (db : Db) : PoolAction → Option (SeatHoldSnapshot × Instant)
  | .releaseHold holdId now =>
    ((db.holds.find? holdId).filter SeatHold.isActive).map fun hold => (hold, now)
  | .expireHold holdId now =>
    ((db.holds.find? holdId).filter fun hold => Db.isDue hold now).map fun hold => (hold, now)
  | _ => none

end PoolAction

/-- The rows after an action, the windows and the draws kept up. -/
def PooledDb.after (s : PooledDb) (action : PoolAction) (db : Db) : PooledDb where
  db := db
  windows := match action.opensWindow s.db db with
    | some dateId => Function.update s.windows dateId (s.windows dateId + 1)
    | none => s.windows
  drawn := match action with
    | .placeHold placement _ _ => Function.update s.drawn placement.id
        ⟨s.windows placement.dateId, s.db.poolOf placement.dateId - db.poolOf placement.dateId⟩
    | _ => s.drawn

/-- One action; a refused one rolls back. -/
def PooledDb.advance [SalesRules] (s : PooledDb) (action : PoolAction) : PooledDb :=
  match action.perform s.db with
  | .ok db => s.after action db
  | .error _ => s

/-- The rows after actions in order, from none. -/
def PooledDb.reached [SalesRules] (actions : List PoolAction) : PooledDb :=
  actions.foldl PooledDb.advance .empty

/-! ## Where seats belong -/

/-- The very window a hold drew on is open at `now`, extended or not. -/
def PooledDb.windowStands (s : PooledDb) (hold : SeatHoldSnapshot) (now : Instant) : Bool :=
  s.db.windowOpenAt hold.dateId now && (s.drawn hold.id).window = s.windows hold.dateId

/-- A row with a hold's seats back, `toPool` of them to the pool. -/
def DateSalesSnapshot.back (row : DateSalesSnapshot) (quantity toPool : ℤ) : DateSalesSnapshot :=
  { row with
    priorityPoolSeats := row.priorityPoolSeats + toPool
    seatsAvailable := row.seatsAvailable + quantity - toPool }

/-- A hold given back returns what it drew to the pool exactly while its own window is open, the rest
to public sale, and touches no other date. -/
def PooledDb.SeatsGoBack [SalesRules] (s : PooledDb) (action : PoolAction) : Prop :=
  ∀ hold now, action.returning s.db = some (hold, now) →
    ∀ dateId, (s.advance action).db.sales.find? dateId = (s.db.sales.find? dateId).map fun row =>
      if dateId = hold.dateId then
        row.back hold.quantity
          (if s.windowStands hold now then (s.drawn hold.id).poolSeats else 0)
      else row

/-- The action gives back a hold with seats of a pool in a window opened since its own. -/
def PooledDb.OutlivesWindow (s : PooledDb) (action : PoolAction) : Prop :=
  ∃ hold now, action.returning s.db = some (hold, now) ∧ 0 < hold.poolSeats ∧
    s.db.windowOpenAt hold.dateId now = true ∧
    (s.drawn hold.id).window < s.windows hold.dateId

/-! ## A hold given back -/

section Returning

variable {db : Db} {action : PoolAction} {hold : SeatHoldSnapshot} {now : Instant}

/-- The hold given back is active. -/
theorem PoolAction.returning_active (h : action.returning db = some (hold, now)) :
    db.holds.find? hold.id = some hold ∧ hold.state = .active := by
  cases action with
  | releaseHold holdId instant =>
      obtain ⟨found, hfound, hpair⟩ := Option.map_eq_some_iff.mp h
      obtain ⟨rfl, rfl⟩ := Prod.mk.inj hpair
      obtain ⟨hfind, hactive⟩ := Option.filter_eq_some_iff.mp hfound
      exact ⟨Table.key_of_find? hfind ▸ hfind, of_decide_eq_true hactive⟩
  | expireHold holdId instant =>
      obtain ⟨found, hfound, hpair⟩ := Option.map_eq_some_iff.mp h
      obtain ⟨rfl, rfl⟩ := Prod.mk.inj hpair
      obtain ⟨hfind, hdue⟩ := Option.filter_eq_some_iff.mp hfound
      simp only [Db.isDue, Bool.and_eq_true, decide_eq_true_eq] at hdue
      exact ⟨Table.key_of_find? hfind ▸ hfind, hdue.1⟩
  | _ => cases h

theorem Db.leaveHold_active {holdId : Uuid} (hfind : db.holds.find? holdId = some hold)
    (hactive : hold.state = .active) (state : SeatHoldState) :
    db.leaveHold holdId (fun hold => SeatHold.leave hold state) =
      .ok (db.putHold (leftHold hold state), leftHold hold state) := by
  have hleave : SeatHold.leave hold state = .ok (leftHold hold state) :=
    SeatHold.leave_active (decide_eq_true hactive) state
  have hself : db.holds.find? (leftHold hold state).id = some hold :=
    (Table.key_of_find? hfind).symm ▸ hfind
  unfold Db.leaveHold Db.saveHold
  simp only [hfind, hleave, hself, orRefuse, bind, Except.bind, pure, Except.pure]
  rfl

/-- What an action that gives a hold back does: the hold's row, then the date's. -/
theorem PoolAction.perform_returning [SalesRules] (h : action.returning db = some (hold, now)) :
    ∃ mid : Db, mid.sales = db.sales ∧
      action.perform db = .ok
        (mid.returnHeldSeats hold.dateId hold.quantity hold.poolSeats now) := by
  cases action with
  | releaseHold holdId instant =>
      obtain ⟨found, hfound, hpair⟩ := Option.map_eq_some_iff.mp h
      obtain ⟨rfl, rfl⟩ := Prod.mk.inj hpair
      obtain ⟨hfind, hactive⟩ := Option.filter_eq_some_iff.mp hfound
      have hleft := Db.leaveHold_active hfind (of_decide_eq_true hactive) .released
      refine ⟨db.putHold (leftHold found .released), rfl, ?_⟩
      show (db.leaveHold holdId (fun hold => SeatHold.leave hold .released) >>= _) = _
      rw [hleft]
      rfl
  | expireHold holdId instant =>
      obtain ⟨found, hfound, hpair⟩ := Option.map_eq_some_iff.mp h
      obtain ⟨rfl, rfl⟩ := Prod.mk.inj hpair
      obtain ⟨hfind, hdue⟩ := Option.filter_eq_some_iff.mp hfound
      refine ⟨db.expireHolds [holdId], rfl, ?_⟩
      simp only [PoolAction.perform, hfind, orRefuse, require, hdue, if_true, bind, Except.bind,
        pure, Except.pure]
  | _ => cases h

/-- The dates' rows after held seats went back. -/
theorem find?_returnHeldSeats (dateId other : Uuid) (quantity poolSeats : ℤ) :
    (db.returnHeldSeats dateId quantity poolSeats now).sales.find? other =
      (db.sales.find? other).map fun row =>
        if other = dateId then Db.returned row quantity poolSeats now else row := by
  rw [returnHeldSeats_update, Table.find?_update]
  cases hrow : db.sales.find? other with
  | none => rfl
  | some row =>
      rw [Option.map_some, Option.map_some, Table.key_of_find? hrow]

end Returning

/-! ## What a run keeps of the pools and the draws -/

/-- No pool is short of seats, and a hold's record is of what it drew, in a window its date had
opened. -/
structure PooledDb.Recorded (s : PooledDb) : Prop where
  pools : ∀ row ∈ s.db.sales.rows, 0 ≤ row.priorityPoolSeats
  drawn : ∀ hold ∈ s.db.holds.rows, hold.poolSeats = (s.drawn hold.id).poolSeats
  nonneg : ∀ hold ∈ s.db.holds.rows, 0 ≤ hold.poolSeats
  windows : ∀ hold ∈ s.db.holds.rows, (s.drawn hold.id).window ≤ s.windows hold.dateId

section Steps

variable [SalesRules] {s : PooledDb} {action : PoolAction} {hold : SeatHoldSnapshot} {now : Instant}

/-- Where a hold's seats go, whatever its window. -/
theorem find?_advance_returning (h : action.returning s.db = some (hold, now)) (dateId : Uuid) :
    (s.advance action).db.sales.find? dateId = (s.db.sales.find? dateId).map fun row =>
      if dateId = hold.dateId then Db.returned row hold.quantity hold.poolSeats now else row := by
  obtain ⟨mid, hsales, hperform⟩ := PoolAction.perform_returning h
  unfold PooledDb.advance
  rw [hperform]
  show (mid.returnHeldSeats _ _ _ _).sales.find? dateId = _
  rw [find?_returnHeldSeats, hsales]

omit [SalesRules] in
theorem returned_eq_back {db : Db} {row : DateSalesSnapshot}
    (hrow : db.sales.find? hold.dateId = some row) :
    Db.returned row hold.quantity hold.poolSeats now =
      row.back hold.quantity
        (if db.windowOpenAt hold.dateId now then hold.poolSeats else 0) := by
  unfold Db.windowOpenAt
  rw [hrow, Option.any_some]
  rfl

/-- A step puts seats back where they belong exactly when no hold outlived its window into another
one. -/
theorem seatsGoBack_iff (hs : s.Recorded) : s.SeatsGoBack action ↔ ¬ s.OutlivesWindow action := by
  constructor
  · rintro hback ⟨hold, now, hreturning, hpos, hopen, hlater⟩
    obtain ⟨row, hrow, -⟩ := Option.any_eq_true _ _ |>.mp hopen
    have hwrong : s.windowStands hold now = false := by
      unfold PooledDb.windowStands
      rw [decide_eq_false (by omega), Bool.and_false]
    have hgoes := hback hold now hreturning hold.dateId
    rw [find?_advance_returning hreturning, hrow, Option.map_some, Option.map_some, if_pos rfl,
      if_pos rfl, returned_eq_back hrow, if_pos hopen, hwrong, Option.some.injEq] at hgoes
    have hpool := congrArg DateSalesSnapshot.priorityPoolSeats hgoes
    simp only [DateSalesSnapshot.back, Bool.false_eq_true, if_false] at hpool
    omega
  · intro hnot hold now hreturning dateId
    rw [find?_advance_returning hreturning]
    cases hrow : s.db.sales.find? dateId with
    | none => rfl
    | some row =>
        rw [Option.map_some, Option.map_some]
        by_cases hdate : dateId = hold.dateId
        · subst hdate
          rw [if_pos rfl, if_pos rfl, returned_eq_back hrow]
          have hmem := Table.mem_of_find? (PoolAction.returning_active hreturning).1
          have hdrawn := hs.drawn hold hmem
          have hwindow := hs.windows hold hmem
          have hnonneg := hs.nonneg hold hmem
          unfold PooledDb.windowStands
          cases hopen : s.db.windowOpenAt hold.dateId now with
          | false => rfl
          | true =>
              by_cases hsame : (s.drawn hold.id).window = s.windows hold.dateId
              · rw [decide_eq_true hsame, hdrawn]
                rfl
              · have hnone : hold.poolSeats = 0 := by
                  by_contra hsome
                  exact hnot ⟨hold, now, hreturning, by omega, hopen, by omega⟩
                rw [decide_eq_false hsame, hnone]
                rfl
        · rw [if_neg hdate, if_neg hdate]

end Steps

end Arthome.Ticketing
