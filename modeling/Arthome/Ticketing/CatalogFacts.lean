import Arthome.Library.Latest
import Arthome.Ticketing.SaleRuns
import Arthome.Ticketing.Sales

/-!
# The catalog's facts converge

A date's start and its outcome are stated by the catalog, delivered at least once
and in any order, each kind guarded by its own statement instant. The date's row
keeps one register for each. The refund deadlines are copies of the start on the
date's seats, moved by a statement of the fact's transaction and written anew by
each payment from the start it read.
-/

namespace Arthome.Ticketing

open Arthome.Core Library

/-- A fact about a date's start or its outcome. -/
inductive DateFact where
  | schedule (startsAt statedAt : Instant)
  | outcome (declared : DateOutcome) (statedAt : Instant)
  deriving Repr, DecidableEq

namespace DateFact

def statedAt : DateFact → Instant
  | .schedule _ statedAt => statedAt
  | .outcome _ statedAt => statedAt

def operation : DateFact → SaleOperation
  | .schedule startsAt statedAt => .recordSchedule startsAt statedAt
  | .outcome declared statedAt => .recordOutcome declared statedAt

/-- The fact an operation delivers, if it delivers one. -/
def ofOperation : SaleOperation → Option DateFact
  | .recordSchedule startsAt statedAt => some (.schedule startsAt statedAt)
  | .recordOutcome declared statedAt => some (.outcome declared statedAt)
  | _ => none

@[simp] theorem ofOperation_operation (fact : DateFact) : ofOperation fact.operation = some fact := by
  cases fact <;> rfl

end DateFact

/-! ## The row's two registers -/

/-- The start in force, and when it was stated. -/
structure ScheduleInForce where
  startsAt : Option Instant
  salesEndAt : Option Instant
  scheduleStatedAt : Option Instant
  deriving Repr, DecidableEq

/-- The outcome in force, and when it was stated. -/
structure OutcomeInForce where
  outcome : Option DateOutcome
  outcomeStatedAt : Option Instant
  deriving Repr, DecidableEq

namespace SaleFacts

def schedule (facts : SaleFacts) : ScheduleInForce :=
  ⟨facts.startsAt, facts.salesEndAt, facts.scheduleStatedAt⟩

def outcomeInForce (facts : SaleFacts) : OutcomeInForce := ⟨facts.outcome, facts.outcomeStatedAt⟩

end SaleFacts

def scheduleOf : SaleOperation → Option (Instant × Instant)
  | .recordSchedule startsAt statedAt => some (statedAt, startsAt)
  | _ => none

def outcomeOf : SaleOperation → Option (Instant × DateOutcome)
  | .recordOutcome outcome statedAt => some (statedAt, outcome)
  | _ => none

section

variable [SalesRules]

def scheduleRegister : Register ScheduleInForce Instant Instant where
  stamp schedule := schedule.scheduleStatedAt
  write _ statedAt startsAt :=
    ⟨some startsAt, some (SalesRules.seatSalesEndAt startsAt), some statedAt⟩
  stamp_write _ _ _ := rfl
  write_write _ _ _ _ _ := rfl

omit [SalesRules] in
def outcomeRegister : Register OutcomeInForce Instant DateOutcome where
  stamp inForce := inForce.outcomeStatedAt
  write _ statedAt outcome := ⟨some outcome, some statedAt⟩
  stamp_write _ _ _ := rfl
  write_write _ _ _ _ _ := rfl

section Lawful

variable [LawfulSalesClock]

theorem isStale_eq (statedAt : Instant) (kept : Option Instant) :
    isStale statedAt kept = kept.any fun kept => decide (statedAt < kept) := by
  cases kept with
  | none => rfl
  | some kept =>
      rw [Bool.eq_iff_iff]
      simp [isStale, LawfulSalesClock.isBefore_iff]

/-- A fact is stale when its register keeps a later one. -/
theorem isOlder_schedule (facts : SaleFacts) (startsAt statedAt : Instant) :
    scheduleRegister.isOlder facts.schedule (statedAt, startsAt) =
      isStale statedAt facts.scheduleStatedAt := (isStale_eq statedAt _).symm

theorem isOlder_outcome (facts : SaleFacts) (declared : DateOutcome) (statedAt : Instant) :
    outcomeRegister.isOlder facts.outcomeInForce (statedAt, declared) =
      isStale statedAt facts.outcomeStatedAt := (isStale_eq statedAt _).symm

theorem schedule_after (facts : SaleFacts) (op : SaleOperation) :
    (match scheduleOf op with
      | some fact => scheduleRegister.deliver facts.schedule fact
      | none => facts.schedule) = (facts.after op).schedule := by
  cases op with
  | recordSchedule startsAt statedAt =>
      simp only [scheduleOf, SaleFacts.after, Register.deliver, isOlder_schedule]
      split_ifs
      · rfl
      · rfl
  | lockPrices engagedAt =>
      simp only [scheduleOf, SaleFacts.after]
      split_ifs
      · rfl
      · rfl
  | recordOutcome declared statedAt =>
      simp only [scheduleOf, SaleFacts.after]
      split_ifs
      · rfl
      · rfl
  | _ => rfl

theorem outcome_after (facts : SaleFacts) (op : SaleOperation) :
    (match outcomeOf op with
      | some fact => outcomeRegister.deliver facts.outcomeInForce fact
      | none => facts.outcomeInForce) = (facts.after op).outcomeInForce := by
  cases op with
  | recordOutcome declared statedAt =>
      simp only [outcomeOf, SaleFacts.after, Register.deliver, isOlder_outcome]
      split_ifs
      · rfl
      · rfl
  | lockPrices engagedAt =>
      simp only [outcomeOf, SaleFacts.after]
      split_ifs
      · rfl
      · rfl
  | recordSchedule startsAt statedAt =>
      simp only [outcomeOf, SaleFacts.after]
      split_ifs
      · rfl
      · rfl
  | _ => rfl

/-- The start in force is its register's, fed the schedules alone. -/
theorem schedule_foldl (facts : SaleFacts) (ops : List SaleOperation) :
    (ops.foldl SaleFacts.after facts).schedule =
      (ops.filterMap scheduleOf).foldl scheduleRegister.deliver facts.schedule := by
  induction ops generalizing facts with
  | nil => rfl
  | cons op ops ih =>
      rw [List.foldl_cons, ih, ← schedule_after, List.filterMap_cons]
      cases scheduleOf op with
      | none => rfl
      | some fact => rfl

theorem outcome_foldl (facts : SaleFacts) (ops : List SaleOperation) :
    (ops.foldl SaleFacts.after facts).outcomeInForce =
      (ops.filterMap outcomeOf).foldl outcomeRegister.deliver facts.outcomeInForce := by
  induction ops generalizing facts with
  | nil => rfl
  | cons op ops ih =>
      rw [List.foldl_cons, ih, ← outcome_after, List.filterMap_cons]
      cases outcomeOf op with
      | none => rfl
      | some fact => rfl

/-! ## Every order and duplication -/

omit [SalesRules] [LawfulSalesClock] in
theorem mem_filterMap_scheduleOf {ops : List SaleOperation} {fact : Instant × Instant} :
    fact ∈ ops.filterMap scheduleOf ↔
      DateFact.schedule fact.2 fact.1 ∈ ops.filterMap DateFact.ofOperation := by
  simp only [List.mem_filterMap]
  constructor
  · rintro ⟨op, hop, hfact⟩
    cases op with
    | recordSchedule startsAt statedAt =>
        obtain rfl := Option.some.inj hfact
        exact ⟨_, hop, rfl⟩
    | _ => cases hfact
  · rintro ⟨op, hop, hfact⟩
    cases op with
    | recordSchedule startsAt statedAt =>
        obtain ⟨rfl, rfl⟩ := DateFact.schedule.inj (Option.some.inj hfact)
        exact ⟨_, hop, rfl⟩
    | recordOutcome declared statedAt => cases hfact
    | _ => cases hfact

omit [SalesRules] [LawfulSalesClock] in
theorem mem_filterMap_outcomeOf {ops : List SaleOperation} {fact : Instant × DateOutcome} :
    fact ∈ ops.filterMap outcomeOf ↔
      DateFact.outcome fact.2 fact.1 ∈ ops.filterMap DateFact.ofOperation := by
  simp only [List.mem_filterMap]
  constructor
  · rintro ⟨op, hop, hfact⟩
    cases op with
    | recordOutcome declared statedAt =>
        obtain rfl := Option.some.inj hfact
        exact ⟨_, hop, rfl⟩
    | _ => cases hfact
  · rintro ⟨op, hop, hfact⟩
    cases op with
    | recordOutcome declared statedAt =>
        obtain ⟨rfl, rfl⟩ := DateFact.outcome.inj (Option.some.inj hfact)
        exact ⟨_, hop, rfl⟩
    | recordSchedule startsAt statedAt => cases hfact
    | _ => cases hfact

/-- Two lists of operations that deliver the same facts, stated at distinct instants, leave the
same start and the same outcome in force. -/
theorem facts_foldl_congr (facts : SaleFacts) {ops ops' : List SaleOperation}
    (hstamps : ∀ fact ∈ ops.filterMap DateFact.ofOperation,
      ∀ fact' ∈ ops.filterMap DateFact.ofOperation, fact.statedAt = fact'.statedAt → fact = fact')
    (hsame : ∀ fact, fact ∈ ops.filterMap DateFact.ofOperation ↔
      fact ∈ ops'.filterMap DateFact.ofOperation) :
    (ops.foldl SaleFacts.after facts).schedule = (ops'.foldl SaleFacts.after facts).schedule ∧
      (ops.foldl SaleFacts.after facts).outcomeInForce =
        (ops'.foldl SaleFacts.after facts).outcomeInForce := by
  constructor
  · rw [schedule_foldl, schedule_foldl]
    apply scheduleRegister.foldl_deliver_congr
    · rintro ⟨statedAt, startsAt⟩ hfact ⟨statedAt', startsAt'⟩ hfact' heq
      rw [mem_filterMap_scheduleOf] at hfact hfact'
      obtain ⟨rfl, rfl⟩ := DateFact.schedule.inj (hstamps _ hfact _ hfact' heq)
      rfl
    · intro fact
      rw [mem_filterMap_scheduleOf, mem_filterMap_scheduleOf, hsame]
  · rw [outcome_foldl, outcome_foldl]
    apply outcomeRegister.foldl_deliver_congr
    · rintro ⟨statedAt, declared⟩ hfact ⟨statedAt', declared'⟩ hfact' heq
      rw [mem_filterMap_outcomeOf] at hfact hfact'
      obtain ⟨rfl, rfl⟩ := DateFact.outcome.inj (hstamps _ hfact _ hfact' heq)
      rfl
    · intro fact
      rw [mem_filterMap_outcomeOf, mem_filterMap_outcomeOf, hsame]

end Lawful

/-! ## The date's row and its seats -/

/-- One date's row and its seats' rows. -/
structure DatedRows where
  sales : DateSalesSnapshot
  seats : List SeatSnapshot
  deriving Repr, DecidableEq

namespace DatedRows

variable (rows : DatedRows)

/-- The seats after the statement that moves them to a start, and how many it moved: none against
a newer start. -/
def moveDeadlines (startsAt statedAt : Instant) : List SeatSnapshot × ℕ :=
  let deadline := SalesRules.seatCancelDeadline startsAt
  if rows.sales.scheduleStatedAt.any fun scheduleStatedAt => statedAt < scheduleStatedAt then
    (rows.seats, 0)
  else (movedDeadlines deadline rows.seats, rows.seats.countP (isMovedSeat deadline))

/-- The rows after an operation; nothing when a start found stale had moved seats, which rolls
back. A start moves the seats before its row is locked. -/
def perform (now : Instant) (op : SaleOperation) : Option DatedRows :=
  let moved := match op with
    | .recordSchedule startsAt statedAt => rows.moveDeadlines startsAt statedAt
    | _ => (rows.seats, 0)
  match op.perform rows.sales now with
  | none => if moved.2 = 0 then some { rows with seats := moved.1 } else none
  | some sales => some ⟨sales, moved.1⟩

/-- Every active seat's deadline is the one of the start in force. -/
def Aligned : Prop :=
  ∀ seat ∈ rows.seats, seat.state = .active →
    seat.cancelDeadline = rows.sales.startsAt.map SalesRules.seatCancelDeadline

theorem perform_facts {rows rows' : DatedRows} {now : Instant} {op : SaleOperation}
    (h : rows.perform now op = some rows') : rows'.sales.facts = rows.sales.facts.after op := by
  unfold perform at h
  cases hdone : op.perform rows.sales now with
  | none =>
      simp only [hdone] at h
      split_ifs at h
      rw [← Option.some.inj h, SaleOperation.after_of_perform_none hdone]
  | some sales =>
      simp only [hdone] at h
      rw [← Option.some.inj h, SaleOperation.perform_facts hdone]

/-- Only a schedule touches the seats. -/
theorem perform_seats {rows rows' : DatedRows} {now : Instant} {op : SaleOperation}
    (h : rows.perform now op = some rows')
    (hop : ∀ startsAt statedAt, op ≠ .recordSchedule startsAt statedAt) :
    rows'.seats = rows.seats ∧ rows'.sales.startsAt = rows.sales.startsAt := by
  have hstart : rows'.sales.startsAt = rows.sales.startsAt := by
    rw [show rows'.sales.startsAt = rows'.sales.facts.startsAt from rfl, perform_facts h,
      SaleFacts.after_startsAt _ hop]
    rfl
  refine ⟨?_, hstart⟩
  cases op with
  | recordSchedule startsAt statedAt => exact absurd rfl (hop startsAt statedAt)
  | _ =>
      simp only [perform] at h
      split at h
      · rw [← Option.some.inj h]
      · rw [← Option.some.inj h]

omit [SalesRules] in
theorem mem_movedDeadlines {deadline : Instant} {seats : List SeatSnapshot} {seat : SeatSnapshot}
    (hseat : seat ∈ movedDeadlines deadline seats) (hactive : seat.state = .active) :
    seat.cancelDeadline = some deadline := by
  obtain ⟨before, -, rfl⟩ := List.mem_map.mp hseat
  unfold isMovedSeat at hactive ⊢
  split_ifs at hactive ⊢ with hmoved
  · rfl
  · simpa [hactive] using hmoved

variable [LawfulSalesClock]

/-- A start that is delivered is passed over, or moves the row and every active seat. -/
theorem perform_schedule {rows rows' : DatedRows} {startsAt statedAt now : Instant}
    (h : rows.perform now (.recordSchedule startsAt statedAt) = some rows') :
    rows' = rows ∨ rows'.sales.startsAt = some startsAt ∧
      rows'.seats = movedDeadlines (SalesRules.seatCancelDeadline startsAt) rows.seats := by
  have hstale := isStale_eq statedAt rows.sales.scheduleStatedAt
  cases holder : rows.sales.scheduleStatedAt.any fun kept => decide (statedAt < kept) with
  | true =>
      rw [holder] at hstale
      have hnone : SaleOperation.perform rows.sales now (.recordSchedule startsAt statedAt) = none :=
        if_pos hstale
      have hseats : rows.moveDeadlines startsAt statedAt = (rows.seats, 0) := if_pos holder
      simp only [perform, hnone, hseats] at h
      exact .inl (Option.some.inj h).symm
  | false =>
      rw [holder] at hstale
      have hseats : (rows.moveDeadlines startsAt statedAt).1 =
          movedDeadlines (SalesRules.seatCancelDeadline startsAt) rows.seats := by
        unfold moveDeadlines
        rw [if_neg (by rw [holder]; simp)]
      have hfacts := perform_facts h
      have hstart : rows'.sales.startsAt = some startsAt := by
        rw [show rows'.sales.startsAt = rows'.sales.facts.startsAt from rfl, hfacts, SaleFacts.after,
          if_neg (by rw [show rows.sales.facts.scheduleStatedAt = rows.sales.scheduleStatedAt from rfl,
            hstale]; simp)]
      refine .inr ⟨hstart, ?_⟩
      rw [← hseats]
      simp only [perform] at h
      split at h
      · split_ifs at h
        rw [← Option.some.inj h]
      · rw [← Option.some.inj h]

/-- An operation keeps the active seats' deadlines those of the start in force. -/
theorem Aligned.perform {rows rows' : DatedRows} {now : Instant} {op : SaleOperation}
    (haligned : rows.Aligned) (h : rows.perform now op = some rows') : rows'.Aligned := by
  by_cases hop : ∃ startsAt statedAt, op = .recordSchedule startsAt statedAt
  · obtain ⟨startsAt, statedAt, rfl⟩ := hop
    rcases perform_schedule h with rfl | ⟨hstart, hseats⟩
    · exact haligned
    · intro seat hseat hactive
      rw [hseats] at hseat
      rw [hstart, mem_movedDeadlines hseat hactive]
      rfl
  · push Not at hop
    obtain ⟨hseats, hstart⟩ := perform_seats h hop
    unfold Aligned
    rw [hseats, hstart]
    exact haligned

end DatedRows

/-! ## Runs -/

/-- The rows of a date, and the rows of its sale committed before, latest first. -/
structure DateHistory where
  rows : DatedRows
  past : List DateSalesSnapshot
  deriving Repr, DecidableEq

/-- What a transaction does to a date's rows. -/
inductive DateAction where
  | operation (now : Instant) (op : SaleOperation)
  /-- The statements of purchases, sweepers and waiting lists, which move counters alone. -/
  | countersMoved (seatsAvailable seatsSold waitlistCount priorityPoolSeats : ℤ)
      (priorityUntil : Option Instant)
  /-- A payment's seats, their deadline from the sale it read without a lock: `read` commits ago. -/
  | seatsIssued (read : ℕ) (tier : PriceTier) (draw : List (Uuid × String)) (now : Instant)
  /-- A seat written as it leaves `active`, or after it left. -/
  | seatLeft (left : SeatSnapshot)
  deriving Repr, DecidableEq

namespace DateHistory

variable (history : DateHistory)

/-- The rows of the sale a transaction may have read, latest first. -/
def committed : List DateSalesSnapshot := history.rows.sales :: history.past

def commit (rows : DatedRows) : DateHistory := ⟨rows, history.committed⟩

/-- One transaction; nothing when it rolls back. -/
def step : DateAction → Option DateHistory
  | .operation now op => (history.rows.perform now op).map history.commit
  | .countersMoved seatsAvailable seatsSold waitlistCount priorityPoolSeats priorityUntil =>
      some (history.commit { history.rows with
        sales := { history.rows.sales with
          seatsAvailable, seatsSold, waitlistCount, priorityPoolSeats, priorityUntil } })
  | .seatsIssued read tier draw now =>
      history.committed[read]?.map fun sales =>
        let cancelDeadline := sales.startsAt.map SalesRules.seatCancelDeadline
        history.commit { history.rows with
          seats := history.rows.seats ++ draw.map fun (id, code) =>
            SeatOrder.issuedSeat tier now ⟨id, code, cancelDeadline⟩ }
  | .seatLeft left =>
      if left.state = .active then none
      else some (history.commit { history.rows with
        seats := history.rows.seats.map fun seat => if seat.id = left.id then left else seat })

/-- The transactions one after the other. -/
def run (actions : List DateAction) : Option DateHistory := actions.foldlM step history

/-- The payment read the start in force when it commits. -/
def readsInForce : DateAction → Bool
  | .seatsIssued read _ _ _ =>
      history.committed[read]?.all fun sales => sales.startsAt = history.rows.sales.startsAt
  | _ => true

/-- Every payment of the run read the start in force when it commits. -/
def allReadInForce (history : DateHistory) : List DateAction → Bool
  | [] => true
  | action :: actions => history.readsInForce action &&
      (history.step action).all fun next => next.allReadInForce actions

/-- The operations of a run. -/
def operationsOf (actions : List DateAction) : List SaleOperation :=
  actions.filterMap fun action =>
    match action with
    | .operation _ op => some op
    | _ => none

/-- The facts a run delivers. -/
def factsOf (actions : List DateAction) : List DateFact :=
  (operationsOf actions).filterMap DateFact.ofOperation

variable {history history' : DateHistory} {action : DateAction} {actions : List DateAction}

theorem run_cons (h : history.run (action :: actions) = some history') :
    ∃ next, history.step action = some next ∧ next.run actions = some history' := by
  unfold run at h ⊢
  rw [List.foldlM_cons] at h
  exact Option.bind_eq_some_iff.mp h

/-- Only an operation moves what was stated. -/
theorem step_facts (h : history.step action = some history') :
    history'.rows.sales.facts =
      (operationsOf [action]).foldl SaleFacts.after history.rows.sales.facts := by
  cases action with
  | operation now op =>
      obtain ⟨rows, hrows, rfl⟩ := Option.map_eq_some_iff.mp h
      exact DatedRows.perform_facts hrows
  | countersMoved seatsAvailable seatsSold waitlistCount priorityPoolSeats priorityUntil =>
      rw [← Option.some.inj h]
      rfl
  | seatsIssued read tier draw now =>
      obtain ⟨sales, -, rfl⟩ := Option.map_eq_some_iff.mp h
      rfl
  | seatLeft left =>
      simp only [step] at h
      split_ifs at h
      rw [← Option.some.inj h]
      rfl

theorem run_facts (h : history.run actions = some history') :
    history'.rows.sales.facts =
      (operationsOf actions).foldl SaleFacts.after history.rows.sales.facts := by
  induction actions generalizing history with
  | nil =>
      rw [← Option.some.inj h]
      rfl
  | cons action actions ih =>
      obtain ⟨next, hstep, hrun⟩ := run_cons h
      have hsplit : operationsOf (action :: actions) = operationsOf [action] ++ operationsOf actions :=
        List.filterMap_append (l := [action])
      rw [ih hrun, step_facts hstep, hsplit, List.foldl_append]

variable [LawfulSalesClock]

/-- A transaction whose payment read the start in force keeps the deadlines aligned. -/
theorem step_aligned (haligned : history.rows.Aligned) (hread : history.readsInForce action = true)
    (h : history.step action = some history') : history'.rows.Aligned := by
  cases action with
  | operation now op =>
      obtain ⟨rows, hrows, rfl⟩ := Option.map_eq_some_iff.mp h
      exact haligned.perform hrows
  | countersMoved seatsAvailable seatsSold waitlistCount priorityPoolSeats priorityUntil =>
      rw [← Option.some.inj h]
      exact haligned
  | seatsIssued read tier draw now =>
      obtain ⟨sales, hsales, rfl⟩ := Option.map_eq_some_iff.mp h
      have hstart : sales.startsAt = history.rows.sales.startsAt := by
        simpa [readsInForce, hsales] using hread
      intro seat hseat hactive
      rcases List.mem_append.mp hseat with hold | hnew
      · exact haligned seat hold hactive
      · obtain ⟨⟨id, code⟩, -, rfl⟩ := List.mem_map.mp hnew
        exact congrArg (Option.map SalesRules.seatCancelDeadline) hstart
  | seatLeft left =>
      simp only [step] at h
      split_ifs at h with hleft
      rw [← Option.some.inj h]
      intro seat hseat hactive
      obtain ⟨before, hbefore, rfl⟩ := List.mem_map.mp hseat
      split_ifs at hactive ⊢ with hsame
      · exact absurd hactive hleft
      · exact haligned before hbefore hactive

theorem run_aligned (haligned : history.rows.Aligned)
    (hread : history.allReadInForce actions = true)
    (h : history.run actions = some history') : history'.rows.Aligned := by
  induction actions generalizing history with
  | nil =>
      rw [← Option.some.inj h]
      exact haligned
  | cons action actions ih =>
      obtain ⟨next, hstep, hrun⟩ := run_cons h
      rw [allReadInForce, hstep, Bool.and_eq_true] at hread
      exact ih (step_aligned haligned hread.1 hstep) hread.2 hrun

end DateHistory

/-! ## The fact's transaction -/

namespace CatalogDateFact

/-- What a later fact asks of the date's sale. -/
def operation : CatalogDateFact → Option SaleOperation
  | .drafted _ => none
  | .lock statedAt => some (.lockPrices statedAt)
  | .start startsAt statedAt => some (.recordSchedule startsAt statedAt)
  | .outcome declared statedAt => some (.recordOutcome declared statedAt)

end CatalogDateFact

/-- The rows of one date: its sale's, and those of the seats of its orders. -/
def Db.datedRows (db : Db) (dateId : Uuid) : Option DatedRows :=
  (db.sales.find? dateId).map fun sales =>
    ⟨sales, (db.orders.rows.filter fun record => record.order.dateId = dateId).flatMap fun record =>
      record.order.seats⟩

omit [SalesRules] in
theorem flatMap_movedDeadlines (deadline : Instant) (dateId : Uuid) (records : List OrderRecord) :
    ((records.map fun record =>
        if record.order.dateId = dateId then
          { record with order := { record.order with
              seats := movedDeadlines deadline record.order.seats } }
        else record).filter fun record => record.order.dateId = dateId).flatMap
        (fun record => record.order.seats) =
      movedDeadlines deadline ((records.filter fun record => record.order.dateId = dateId).flatMap
        fun record => record.order.seats) := by
  induction records with
  | nil => rfl
  | cons record records ih =>
      by_cases hdate : record.order.dateId = dateId
      · rw [List.map_cons, if_pos hdate, List.filter_cons_of_pos (by simpa using hdate),
          List.filter_cons_of_pos (by simpa using hdate), List.flatMap_cons, List.flatMap_cons, ih]
        exact List.map_append.symm
      · rw [List.map_cons, if_neg hdate, List.filter_cons_of_neg (by simpa using hdate),
          List.filter_cons_of_neg (by simpa using hdate), ih]

theorem applied_eq_perform {fact : CatalogDateFact} {op : SaleOperation}
    (hop : fact.operation = some op) (sales : DateSalesSnapshot) (now : Instant) :
    applied sales now fact = op.perform sales now := by
  cases fact with
  | drafted channelId => cases hop
  | lock statedAt =>
      obtain rfl := Option.some.inj hop
      rfl
  | start startsAt statedAt =>
      obtain rfl := Option.some.inj hop
      rfl
  | outcome declared statedAt =>
      obtain rfl := Option.some.inj hop
      rfl

omit [SalesRules] in
/-- Saving a row over the one just read writes it as it is. -/
theorem saveSales_datedRows {db db' : Db} {dateId : Uuid} {stored current : DateSalesSnapshot}
    (hstored : db.sales.find? dateId = some stored) (hdate : current.dateId = dateId)
    (h : db.saveSales stored current = .ok db') :
    db' = { db with sales := db.sales.put current } := by
  unfold Db.saveSales at h
  simp only [bind_ok_iff, orRefuse_ok_iff, require_ok_iff, pure_ok_iff] at h
  obtain ⟨row, hrow, _, -, rfl⟩ := h
  rw [hdate, hstored] at hrow
  obtain rfl := Option.some.inj hrow
  congr 2
  cases current
  simp

omit [SalesRules] in
theorem sales_of_datedRows {db : Db} {dateId : Uuid} {rows : DatedRows}
    (hrows : db.datedRows dateId = some rows) : db.sales.find? dateId = some rows.sales := by
  obtain ⟨sales, hsales, rfl⟩ := Option.map_eq_some_iff.mp hrows
  exact hsales

omit [SalesRules] in
theorem datedRows_put {db : Db} {dateId : Uuid} {rows : DatedRows} {current : DateSalesSnapshot}
    (hrows : db.datedRows dateId = some rows) (hdate : current.dateId = dateId) :
    ({ db with sales := db.sales.put current } : Db).datedRows dateId =
      some ⟨current, rows.seats⟩ := by
  obtain ⟨sales, hsales, rfl⟩ := Option.map_eq_some_iff.mp hrows
  have hput : (db.sales.put current).find? dateId = some current := by
    rw [← hdate] at hsales ⊢
    exact Table.find?_put_self hsales
  unfold Db.datedRows
  rw [hput]
  rfl

/-- The statement of a start moves the seats of the date's orders, and no other. -/
theorem moveSeatCancelDeadlines_datedRows {db : Db} {dateId : Uuid} {rows : DatedRows}
    (hrows : db.datedRows dateId = some rows) (startsAt statedAt : Instant) :
    (moveSeatCancelDeadlines db dateId startsAt statedAt).1.sales = db.sales ∧
      (moveSeatCancelDeadlines db dateId startsAt statedAt).1.datedRows dateId =
        some ⟨rows.sales, (rows.moveDeadlines startsAt statedAt).1⟩ ∧
      (moveSeatCancelDeadlines db dateId startsAt statedAt).2 =
        (rows.moveDeadlines startsAt statedAt).2 := by
  obtain ⟨sales, hsales, rfl⟩ := Option.map_eq_some_iff.mp hrows
  simp only [moveSeatCancelDeadlines, DatedRows.moveDeadlines, hsales, Option.any_some]
  split_ifs with hnewer
  · exact ⟨rfl, hrows, rfl⟩
  · refine ⟨rfl, ?_, ?_⟩
    · unfold Db.datedRows
      rw [hsales, Option.map_some, Table.update_rows]
      congr 2
      exact flatMap_movedDeadlines (SalesRules.seatCancelDeadline startsAt) dateId db.orders.rows
    · rw [List.countP_flatMap]
      rfl

omit [SalesRules] in
theorem recordOutcomeToSettle_datedRows (db : Db) (dateId : Uuid) (outcome : DateOutcome)
    (recordedAt : Instant) :
    (recordOutcomeToSettle db dateId outcome recordedAt).datedRows dateId = db.datedRows dateId := by
  unfold recordOutcomeToSettle
  split
  · rfl
  · rfl

/-- The rest of a later fact's transaction, once its seats are moved. -/
theorem afterSeats_datedRows {db db' : Db} {dateId : Uuid} {fact : CatalogDateFact}
    {op : SaleOperation} (hop : fact.operation = some op) {rows : DatedRows} (seatsMoved : ℕ)
    {now : Instant} {overtaken : Refusal} (hrows : db.datedRows dateId = some rows)
    (h : (do
      let sales ← findSales db dateId
      match applied sales now fact with
      | none => do
        require (seatsMoved = 0) overtaken
        return db
      | some current => do
        let saved ← db.saveSales sales current
        match fact with
        | .outcome outcome _ =>
          if outcome ∈ outcomesClosingSales then
            return recordOutcomeToSettle saved dateId outcome now
          else return saved
        | _ => return saved) = Except.ok db') :
    db'.datedRows dateId = match op.perform rows.sales now with
      | none => if seatsMoved = 0 then some rows else none
      | some sales => some ⟨sales, rows.seats⟩ := by
  have hstored := sales_of_datedRows hrows
  simp only [findSales, bind_ok_iff, orRefuse_ok_iff] at h
  obtain ⟨sales, hsales, h⟩ := h
  rw [hstored] at hsales
  obtain rfl := Option.some.inj hsales
  rw [applied_eq_perform hop] at h
  cases hdone : op.perform rows.sales now with
  | none =>
      simp only [hdone, bind_ok_iff, require_ok_iff, pure_ok_iff] at h ⊢
      obtain ⟨_, hnone, rfl⟩ := h
      rw [hrows, if_pos hnone]
  | some current =>
      simp only [hdone, bind_ok_iff] at h ⊢
      obtain ⟨saved, hsaved, h⟩ := h
      have hdate : current.dateId = dateId :=
        (SaleOperation.perform_dateId hdone).trans (Table.key_of_find? hstored)
      have hsavedRows : saved.datedRows dateId = some ⟨current, rows.seats⟩ := by
        rw [saveSales_datedRows hstored hdate hsaved]
        exact datedRows_put hrows hdate
      rw [← hsavedRows]
      cases fact with
      | outcome declared statedAt =>
          simp only at h
          split_ifs at h
          · rw [← pure_ok_iff.mp h]
            exact recordOutcomeToSettle_datedRows saved dateId declared now
          · rw [← pure_ok_iff.mp h]
      | drafted channelId => rw [← pure_ok_iff.mp h]
      | lock statedAt => rw [← pure_ok_iff.mp h]
      | start startsAt statedAt => rw [← pure_ok_iff.mp h]

/-- The transaction of a later fact moves the date's rows as the operation it asks for does. -/
theorem movedIn_perform {db db' : Db} {dateId : Uuid} {fact : CatalogDateFact} {op : SaleOperation}
    {now : Instant} (hop : fact.operation = some op) {rows : DatedRows}
    (hrows : db.datedRows dateId = some rows) (h : movedIn db dateId fact now = .ok db') :
    db'.datedRows dateId = rows.perform now op := by
  cases fact with
  | drafted channelId => cases hop
  | lock statedAt =>
      obtain rfl := Option.some.inj hop
      exact afterSeats_datedRows rfl 0 hrows h
  | start startsAt statedAt =>
      obtain rfl := Option.some.inj hop
      obtain ⟨-, hmoved, hcount⟩ := moveSeatCancelDeadlines_datedRows hrows startsAt statedAt
      have hafter := afterSeats_datedRows rfl
        (moveSeatCancelDeadlines db dateId startsAt statedAt).2 hmoved h
      rw [hcount] at hafter
      exact hafter
  | outcome declared statedAt =>
      obtain rfl := Option.some.inj hop
      exact afterSeats_datedRows rfl 0 hrows h

end

section Sample

open Sample

/-- A start, a later one, the first delivered again; then a payment of two seats. -/
def sampleActions (read : ℕ) : List DateAction :=
  [.operation 10 (.recordSchedule 20000 15), .operation 20 (.recordSchedule 10000 5),
    .operation 30 (.recordSchedule 30000 25), .operation 40 (.recordSchedule 20000 15),
    .seatsIssued read .full [(7, "A"), (8, "B")] 50]

def sampleHistory (read : ℕ) : Option DateHistory :=
  DateHistory.run ⟨⟨DateSales.opened 1 2, []⟩, []⟩ (sampleActions read)

def sampleFacts : List DateFact := [.schedule 10000 5, .schedule 20000 15, .schedule 30000 25]

end Sample

end Arthome.Ticketing
