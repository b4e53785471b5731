import Arthome.Library.Passes
import Arthome.Ticketing.Availability
import Mathlib.Data.Finset.Dedup
import Mathlib.Data.Finset.Order

/-!
# No availability move is left unpublished

What a pass finds due and what it publishes, over any order of writes, closings and
publications. A move counts one more than what is recorded as published, so the
figures published last are the date's own whenever the two counts are equal. A date
with a move to publish, of a sale that opened, is due in every pass from some instant
on, until a publication of it commits or fails: what can keep it waiting is a date's
quiet interval and its retry delay, and both only end.
-/

namespace Arthome.Ticketing

open Arthome.Core Library

/-! ## Writes and figures -/

section Writes

variable [SalesRules] {sales sales' : DateSalesSnapshot} {now : Instant} {op : SaleOperation}
  {date date' : OfferedDate}

omit [SalesRules] in
theorem closesSale_moves {event : DateSalesEvent} (h : event.closesSale = true) :
    event.movesAvailability = true := by
  cases event <;> simp_all [DateSalesEvent.closesSale, DateSalesEvent.movesAvailability]

omit [SalesRules] in
theorem any_moves_of_any_closes {events : List DateSalesEvent}
    (h : events.any DateSalesEvent.closesSale = true) :
    events.any DateSalesEvent.movesAvailability = true := by
  rw [List.any_eq_true] at h ⊢
  obtain ⟨event, hmem, hcloses⟩ := h
  exact ⟨event, hmem, closesSale_moves hcloses⟩

/-- An operation that ends a sale says so. -/
theorem any_closes_of_closed (h : op.perform sales now = some sales')
    (hopen : sales.salesClosedAt = none) (hclosed : sales'.salesClosedAt.isSome) :
    (op.events sales now).any DateSalesEvent.closesSale = true := by
  have hafter := SaleOperation.perform_closedAt h
  cases op with
  | recordSchedule startsAt statedAt =>
      simp only [DateSalesSnapshot.closedAtAfter, hopen, ite_self] at hafter
      rw [hafter] at hclosed
      cases hclosed
  | recordOutcome outcome statedAt =>
      simp only [DateSalesSnapshot.closedAtAfter, hopen] at hafter
      split_ifs at hafter with hcloses
      · simp [SaleOperation.events, DateSalesEvent.closesSale, hcloses]
      · rw [hafter] at hclosed
        cases hclosed
  | endSales => rfl
  | lockPrices engagedAt => simp [hafter, DateSalesSnapshot.closedAtAfter, hopen] at hclosed
  | holdSeats quantity => simp [hafter, DateSalesSnapshot.closedAtAfter, hopen] at hclosed
  | setPrices expectedVersion tiers =>
      simp [hafter, DateSalesSnapshot.closedAtAfter, hopen] at hclosed
  | openCapacityTier expectedVersion additionalCapacity notifyWaitlist tierId =>
      simp [hafter, DateSalesSnapshot.closedAtAfter, hopen] at hclosed
  | setTechnicalProvision expectedVersion provisionedCapacity =>
      simp [hafter, DateSalesSnapshot.closedAtAfter, hopen] at hclosed

/-- Locked prices stay locked. -/
theorem locked_of_perform (h : op.perform sales now = some sales')
    (hlocked : sales.pricesLockedAt.isSome) : sales'.pricesLockedAt.isSome := by
  have hafter : (sales.facts.after op).pricesLockedAt.isSome := by
    cases op with
    | lockPrices engagedAt =>
        simp only [SaleFacts.after]
        split_ifs
        · exact hlocked
        · rfl
    | recordSchedule startsAt statedAt =>
        simp only [SaleFacts.after]
        split_ifs
        · exact hlocked
        · exact hlocked
    | recordOutcome outcome statedAt =>
        simp only [SaleFacts.after]
        split_ifs
        · exact hlocked
        · exact hlocked
    | _ => exact hlocked
  rw [← SaleOperation.perform_facts h] at hafter
  exact hafter

variable [AvailabilityRules]

omit [SalesRules] in
/-- The figures read the sale's being on, its gauge and its prices alone. -/
theorem offeredFiguresOf_congr (hsale : DateSales.isOnSale sales' = DateSales.isOnSale sales)
    (hgauge : gaugeOf sales' = gaugeOf sales) (hprices : sales'.priceTiers = sales.priceTiers) :
    offeredFiguresOf sales' = offeredFiguresOf sales := by
  have hcount : sales'.waitlistCount = sales.waitlistCount := congrArg Gauge.waitlistCount hgauge
  simp only [offeredFiguresOf, availabilityFiguresOf, hsale, hgauge, hprices, hcount]

/-- An operation that counts no move leaves the figures as they were. -/
theorem offeredFiguresOf_of_perform (h : op.perform sales now = some sales')
    (hsaved : op.isSaved = true)
    (hstill : (op.events sales now).any DateSalesEvent.movesAvailability = false) :
    offeredFiguresOf sales' = offeredFiguresOf sales := by
  cases op with
  | recordSchedule startsAt statedAt =>
      simp only [SaleOperation.events] at hstill
      simp only [SaleOperation.perform, DateSales.recordSchedule] at h
      split_ifs at h hstill with hstale hreopens
      · cases hstill
      · obtain rfl := Option.some.inj h
        exact offeredFiguresOf_congr rfl rfl rfl
  | recordOutcome outcome statedAt =>
      have hkeeps : outcome ∉ outcomesClosingSales := by
        simpa [SaleOperation.events, DateSalesEvent.movesAvailability] using hstill
      simp only [SaleOperation.perform, DateSales.recordOutcome, if_neg hkeeps] at h
      split_ifs at h
      obtain rfl := Option.some.inj h
      exact offeredFiguresOf_congr rfl rfl rfl
  | setTechnicalProvision expectedVersion provisionedCapacity =>
      rw [DateSales.setTechnicalProvision_ok (toOption_eq_some_iff.mp h)]
      exact offeredFiguresOf_congr rfl rfl rfl
  | holdSeats quantity => cases hsaved
  | lockPrices engagedAt => cases hstill
  | endSales => cases hstill
  | setPrices expectedVersion tiers => cases hstill
  | openCapacityTier expectedVersion additionalCapacity notifyWaitlist tierId =>
      simp only [SaleOperation.events] at hstill
      split_ifs at hstill <;> cases hstill

end Writes

/-! ## What every date keeps -/

namespace OfferedDate

variable [AvailabilityRules]

/-- The milliseconds two publications are kept apart. -/
def interval : ℤ := AvailabilityRules.publishMinIntervalSeconds * 1000

/-- A publication after another: an interval later, or the date sold out or came back. -/
def Apart : AvailabilityChanged → AvailabilityChanged → Prop :=
  Spaced AvailabilityChanged.occurredAt (fun change => change.figures.soldOut) interval

end OfferedDate

def AvailabilityChanged.OffersNothing (change : AvailabilityChanged) : Prop :=
  change.figures.seatsAvailable = 0 ∧ change.figures.soldOut = false

section Invariant

variable [AvailabilityRules] {date : OfferedDate}

/-- A publication under way, of a date that may have moved since it was read. -/
structure ReadingSound (date : OfferedDate) (reading : Reading) : Prop where
  moves_le : reading.moves ≤ date.availabilityMoves
  current : reading.moves = date.availabilityMoves →
    reading.change.figures = offeredFiguresOf date.sales
  closed : date.sales.salesClosedAt.isSome → reading.change.OffersNothing
  apart : ∀ last, date.lastPublished = some last → OfferedDate.Apart reading.change last

structure PublicationSound (date : OfferedDate) : Prop where
  moves_le : date.publication.publishedMoves ≤ date.availabilityMoves
  current : date.publication.publishedMoves = date.availabilityMoves →
    ∀ last, date.lastPublished = some last → last.figures = offeredFiguresOf date.sales
  closing : date.publication.closingDue = date.closingUnpublished
  publishedAt : date.publication.publishedAt = date.lastPublished.map AvailabilityChanged.occurredAt
  soldOut : date.publication.publishedSoldOut =
    date.lastPublished.map fun change => change.figures.soldOut
  closed : date.sales.salesClosedAt.isSome → date.publication.closingDue = false →
    ∃ last, date.lastPublished = some last ∧ last.OffersNothing
  reading : ∀ reading, date.underWay = some reading → ReadingSound date reading
  apart : date.publications.IsChain OfferedDate.Apart

theorem publicationSound_opened (dateId channelId : Uuid) :
    PublicationSound (OfferedDate.opened dateId channelId) where
  moves_le := le_rfl
  current _ last hlast := by cases hlast
  closing := rfl
  publishedAt := rfl
  soldOut := rfl
  closed hclosed := by cases hclosed
  reading reading hreading := by cases hreading
  apart := List.isChain_nil

/-- A closed sale offers no seat. -/
theorem offeredFiguresOf_closed {sales : DateSalesSnapshot} (h : sales.salesClosedAt.isSome)
    (now : Instant) : (⟨offeredFiguresOf sales, now⟩ : AvailabilityChanged).OffersNothing := by
  have hoff : ¬ DateSales.isOnSale sales = true := by
    simp [DateSales.isOnSale, Option.isNone_eq_false_iff.mpr h]
  simp [AvailabilityChanged.OffersNothing, offeredFiguresOf, hoff]

/-- A date written with one more move counted, and nothing of its publication. -/
theorem PublicationSound.moved (h : PublicationSound date) {sales : DateSalesSnapshot}
    (hclosed : sales.salesClosedAt.isSome → date.sales.salesClosedAt.isSome) :
    PublicationSound { date with sales, availabilityMoves := date.availabilityMoves + 1 } where
  moves_le := by
    have hle := h.moves_le
    simp only
    omega
  current hequal := by
    have hle := h.moves_le
    simp only at hequal
    omega
  closing := h.closing
  publishedAt := h.publishedAt
  soldOut := h.soldOut
  closed hsale hdue := h.closed (hclosed hsale) hdue
  reading reading hreading := by
    have hread := h.reading reading hreading
    have hle := hread.moves_le
    refine ⟨?_, ?_, fun hsale => hread.closed (hclosed hsale), hread.apart⟩
    · simp only
      omega
    · intro hequal
      simp only at hequal
      omega
  apart := h.apart

/-- A date written with no move counted, its figures as they were. -/
theorem PublicationSound.still (h : PublicationSound date) {sales : DateSalesSnapshot}
    (hfigures : offeredFiguresOf sales = offeredFiguresOf date.sales)
    (hclosed : sales.salesClosedAt.isSome → date.sales.salesClosedAt.isSome) :
    PublicationSound { date with sales } where
  moves_le := h.moves_le
  current hequal last hlast := (h.current hequal last hlast).trans hfigures.symm
  closing := h.closing
  publishedAt := h.publishedAt
  soldOut := h.soldOut
  closed hsale hdue := h.closed (hclosed hsale) hdue
  reading reading hreading := by
    have hread := h.reading reading hreading
    refine ⟨hread.moves_le, ?_, fun hsale => hread.closed (hclosed hsale), hread.apart⟩
    exact fun hequal => (hread.current hequal).trans hfigures.symm
  apart := h.apart

/-- A closing, while no publication is under way. -/
theorem PublicationSound.closing_recorded (h : PublicationSound date) (hidle : date.underWay = none)
    {sales : DateSalesSnapshot} :
    PublicationSound { date with
      sales
      availabilityMoves := date.availabilityMoves + 1
      publication := { date.publication with closingDue := true }
      happened := .closed :: date.happened } where
  moves_le := by
    have hle := h.moves_le
    simp only
    omega
  current hequal := by
    have hle := h.moves_le
    simp only at hequal
    omega
  closing := rfl
  publishedAt := h.publishedAt
  soldOut := h.soldOut
  closed _ hdue := by cases hdue
  reading reading hreading := by
    simp only [hidle, reduceCtorEq] at hreading
  apart := h.apart

section Written

variable [SalesRules] {date' : OfferedDate} {now : Instant}

omit [AvailabilityRules] [SalesRules] in
/-- No statement on the counters closes a sale, or moves it to another date. -/
theorem CounterStatement.run_kept {statement : CounterStatement} {row row' : DateSalesSnapshot}
    (h : statement.run row now = some row') :
    row'.dateId = row.dateId ∧ row'.salesClosedAt = row.salesClosedAt ∧
      row'.pricesLockedAt = row.pricesLockedAt := by
  unfold CounterStatement.run at h
  split_ifs at h
  obtain rfl := Option.some.inj h
  cases statement <;> exact ⟨rfl, rfl, rfl⟩

/-- A write keeps what is known of a date's publications. -/
theorem PublicationSound.written (h : PublicationSound date) {written : DateWrite}
    (hrun : written.run date now = some date') : PublicationSound date' := by
  cases written with
  | count statement =>
      obtain ⟨sales, hsales, rfl⟩ := Option.map_eq_some_iff.mp hrun
      obtain ⟨-, hclosed, -⟩ := CounterStatement.run_kept hsales
      exact h.moved fun hsale => hclosed ▸ hsale
  | save op =>
      simp only [DateWrite.run] at hrun
      split_ifs at hrun with hsaved hwaits
      · simp at hrun
      obtain ⟨sales, hsales, hrun⟩ := Option.bind_eq_some_iff.mp hrun
      obtain rfl := Option.some.inj hrun
      have hclosed : (op.events date.sales now).any DateSalesEvent.closesSale = false →
          sales.salesClosedAt.isSome → date.sales.salesClosedAt.isSome := by
        intro hopen hsale
        by_contra hnone
        rw [any_closes_of_closed hsales (Option.not_isSome_iff_eq_none.mp hnone) hsale] at hopen
        cases hopen
      cases hcloses : (op.events date.sales now).any DateSalesEvent.closesSale with
      | true =>
          have hidle : date.underWay = none := by
            rw [hcloses, Bool.and_true] at hwaits
            exact Option.not_isSome_iff_eq_none.mp hwaits
          simp only [OfferedDate.recordAvailabilityMoves, hcloses, any_moves_of_any_closes hcloses,
            if_true]
          exact h.closing_recorded hidle
      | false =>
          cases hmoves : (op.events date.sales now).any DateSalesEvent.movesAvailability with
          | true =>
              simp only [OfferedDate.recordAvailabilityMoves, hcloses, hmoves, if_true,
                Bool.false_eq_true, if_false]
              exact h.moved (hclosed hcloses)
          | false =>
              simp only [OfferedDate.recordAvailabilityMoves, hcloses, hmoves, Bool.false_eq_true,
                if_false]
              exact h.still (offeredFiguresOf_of_perform hsales hsaved hmoves) (hclosed hcloses)

end Written

/-! ### Publications -/

theorem PublicationSound.claimed (h : PublicationSound date) {date' : OfferedDate} {now : Instant}
    (hclaim : date.claim now = some date') : PublicationSound date' := by
  unfold OfferedDate.claim at hclaim
  simp only at hclaim
  split_ifs at hclaim with hheld hdue
  obtain rfl := Option.some.inj hclaim
  refine ⟨h.moves_le, h.current, h.closing, h.publishedAt, h.soldOut, h.closed, ?_, h.apart⟩
  intro reading hreading
  obtain rfl := Option.some.inj hreading
  refine ⟨le_rfl, fun _ => rfl, fun hclosed => offeredFiguresOf_closed hclosed now, ?_⟩
  intro last hlast
  have hlast' : date.lastPublished = some last := hlast
  have hat := h.publishedAt
  have hsoldOut := h.soldOut
  rw [hlast', Option.map_some] at hat hsoldOut
  simp only [hat, hsoldOut, Bool.and_eq_true, Bool.or_eq_true, decide_eq_true_eq, Option.all_some,
    ne_eq, Option.some.injEq] at hdue
  rcases hdue.2 with hquiet | hchanged
  · left
    have hquiet' : @LE.le ℤ _ last.occurredAt
        (now - AvailabilityRules.publishMinIntervalSeconds * 1000) := hquiet
    unfold OfferedDate.interval
    simp only
    omega
  · exact .inr (Ne.symm hchanged)

theorem PublicationSound.committed (h : PublicationSound date) {date' : OfferedDate}
    (hcommit : date.commit = some date') : PublicationSound date' := by
  obtain ⟨reading, hreading, rfl⟩ := Option.map_eq_some_iff.mp hcommit
  have hread := h.reading reading hreading
  refine ⟨hread.moves_le, ?_, rfl, rfl, rfl, ?_, ?_, ?_⟩
  · intro hequal last hlast
    obtain rfl := Option.some.inj hlast
    exact hread.current hequal
  · intro hclosed _
    exact ⟨reading.change, rfl, hread.closed hclosed⟩
  · intro other hother
    cases hother
  · have hlist : ({ date with
        publication :=
          { publishedMoves := reading.moves
            publishedAt := some reading.change.occurredAt
            publishedSoldOut := some reading.change.figures.soldOut
            failedAt := none
            closingDue := false }
        underWay := none
        happened := .published reading.change :: date.happened } : OfferedDate).publications =
          reading.change :: date.publications := rfl
    have hchain := h.apart
    rw [hlist]
    cases hpublications : date.publications with
    | nil => exact List.isChain_singleton _
    | cons last older =>
        have hlast : date.lastPublished = some last := by
          rw [OfferedDate.lastPublished, hpublications]
          rfl
        rw [hpublications] at hchain
        exact List.isChain_cons_cons.mpr ⟨hread.apart last hlast, hchain⟩

theorem PublicationSound.rolledBack (h : PublicationSound date) {date' : OfferedDate}
    (hrolled : date.rollBack = some date') : PublicationSound date' := by
  obtain ⟨reading, -, rfl⟩ := Option.map_eq_some_iff.mp hrolled
  refine ⟨h.moves_le, h.current, h.closing, h.publishedAt, h.soldOut, h.closed, ?_, h.apart⟩
  intro other hother
  cases hother

theorem PublicationSound.asideSet (h : PublicationSound date) {date' : OfferedDate} {now : Instant}
    (haside : date.setAside now = some date') : PublicationSound date' := by
  unfold OfferedDate.setAside at haside
  split_ifs at haside
  obtain rfl := Option.some.inj haside
  refine ⟨h.moves_le, h.current, h.closing, h.publishedAt, h.soldOut, h.closed, ?_, h.apart⟩
  intro reading hreading
  have hread := h.reading reading hreading
  exact ⟨hread.moves_le, hread.current, hread.closed, hread.apart⟩

end Invariant

/-! ## The order of a pass -/

section Order

theorem nullsFirst_trans {a b c : Option Instant} (hab : nullsFirst a b = true)
    (hbc : nullsFirst b c = true) : nullsFirst a c = true := by
  cases a <;> cases b <;> cases c <;> simp_all [nullsFirst]
  exact le_trans hab hbc

theorem nullsFirst_total (a b : Option Instant) : (nullsFirst a b || nullsFirst b a) = true := by
  cases a <;> cases b <;> simp [nullsFirst]
  exact le_total _ _

theorem nullsFirst_antisymm {a b : Option Instant} (hab : nullsFirst a b = true)
    (hba : nullsFirst b a = true) : a = b := by
  cases a <;> cases b <;> simp_all [nullsFirst]
  exact le_antisymm hab hba

theorem comesNoLater_trans (a b c : OfferedDate) (hab : a.comesNoLater b = true)
    (hbc : b.comesNoLater c = true) : a.comesNoLater c = true := by
  unfold OfferedDate.comesNoLater at hab hbc ⊢
  by_cases hfirst : a.publication.failedAt = b.publication.failedAt
  · rw [if_pos hfirst] at hab
    rw [hfirst]
    split_ifs at hbc ⊢
    · exact nullsFirst_trans hab hbc
    · exact hbc
  · rw [if_neg hfirst] at hab
    by_cases hsecond : b.publication.failedAt = c.publication.failedAt
    · rw [← hsecond, if_neg hfirst]
      exact hab
    · rw [if_neg hsecond] at hbc
      have hsame : a.publication.failedAt ≠ c.publication.failedAt := by
        intro hac
        rw [← hac] at hbc
        exact hfirst (nullsFirst_antisymm hab hbc)
      rw [if_neg hsame]
      exact nullsFirst_trans hab hbc

theorem comesNoLater_total (a b : OfferedDate) :
    (a.comesNoLater b || b.comesNoLater a) = true := by
  unfold OfferedDate.comesNoLater
  by_cases hfailed : a.publication.failedAt = b.publication.failedAt
  · rw [if_pos hfailed, if_pos hfailed.symm]
    exact nullsFirst_total _ _
  · rw [if_neg hfailed, if_neg (Ne.symm hfailed)]
    exact nullsFirst_total _ _

end Order

/-! ## Runs -/

section Runs

variable [AvailabilityRules] [SalesRules] {dates dates' : Table OfferedDate.dateId}
  {action : AvailabilityAction} {date date' : OfferedDate} {now : Instant}

omit [AvailabilityRules] in
theorem DateWrite.run_dateId {written : DateWrite} (h : written.run date now = some date') :
    date'.dateId = date.dateId := by
  cases written with
  | count statement =>
      obtain ⟨sales, hsales, rfl⟩ := Option.map_eq_some_iff.mp h
      exact (CounterStatement.run_kept hsales).1
  | save op =>
      simp only [DateWrite.run] at h
      split_ifs at h with hsaved hwaits
      · simp at h
      obtain ⟨sales, hsales, h⟩ := Option.bind_eq_some_iff.mp h
      obtain rfl := Option.some.inj h
      have hdate : sales.dateId = date.sales.dateId := SaleOperation.perform_dateId hsales
      unfold OfferedDate.recordAvailabilityMoves
      split_ifs <;> exact hdate

theorem AvailabilityAction.rewrite_dateId (h : action.rewrite date = some date') :
    date'.dateId = date.dateId := by
  cases action with
  | opened dateId channelId => cases h
  | write dateId written now => exact DateWrite.run_dateId h
  | claim dateId now =>
      simp only [AvailabilityAction.rewrite, OfferedDate.claim] at h
      split_ifs at h
      exact Option.some.inj h ▸ rfl
  | commit dateId =>
      obtain ⟨reading, -, rfl⟩ := Option.map_eq_some_iff.mp h
      rfl
  | rollBack dateId =>
      obtain ⟨reading, -, rfl⟩ := Option.map_eq_some_iff.mp h
      rfl
  | setAside dateId now =>
      simp only [AvailabilityAction.rewrite, OfferedDate.setAside] at h
      split_ifs at h
      exact Option.some.inj h ▸ rfl

/-- A transaction opens a date, or rewrites one. -/
theorem AvailabilityAction.step_cases (h : action.step dates = some dates') :
    (∃ dateId channelId, dates.insert (OfferedDate.opened dateId channelId) = some dates') ∨
      ∃ date date', dates.find? action.dateId = some date ∧ action.rewrite date = some date' ∧
        date'.dateId = action.dateId ∧ dates' = dates.put date' := by
  cases action with
  | opened dateId channelId => exact .inl ⟨dateId, channelId, h⟩
  | _ =>
      obtain ⟨date, hfind, h⟩ := Option.bind_eq_some_iff.mp h
      obtain ⟨date', hrewrite, rfl⟩ := Option.map_eq_some_iff.mp h
      have hdate := AvailabilityAction.rewrite_dateId hrewrite
      exact .inr ⟨date, date', hfind, hrewrite, hdate.trans (Table.key_of_find? hfind), rfl⟩

theorem PublicationSound.rewritten (h : PublicationSound date)
    (hrewrite : action.rewrite date = some date') : PublicationSound date' := by
  cases action with
  | opened dateId channelId => cases hrewrite
  | write dateId written now => exact h.written hrewrite
  | claim dateId now => exact h.claimed hrewrite
  | commit dateId => exact h.committed hrewrite
  | rollBack dateId => exact h.rolledBack hrewrite
  | setAside dateId now => exact h.asideSet hrewrite

/-- A transaction keeps what is known of every date's publications. -/
theorem publicationSound_step (hdates : ∀ date ∈ dates.rows, PublicationSound date)
    (h : action.step dates = some dates') : ∀ date ∈ dates'.rows, PublicationSound date := by
  intro date hdate
  rcases AvailabilityAction.step_cases h with ⟨dateId, channelId, hinsert⟩ |
    ⟨before, after, hfind, hrewrite, hafter, rfl⟩
  · rcases (Table.mem_insert hinsert).mp hdate with hkept | rfl
    · exact hdates date hkept
    · exact publicationSound_opened dateId channelId
  · rcases (Table.mem_put (hafter ▸ hfind)).mp hdate with rfl | ⟨hkept, -⟩
    · exact (hdates before (Table.mem_of_find? hfind)).rewritten hrewrite
    · exact hdates date hkept

/-- Any transactions, one after the other. -/
def AvailabilityReached (dates : Table OfferedDate.dateId) : Prop :=
  Reaches (fun _ _ => True) (fun dates action => AvailabilityAction.step dates action)
    Table.empty dates

theorem publicationSound_reached (h : AvailabilityReached dates) :
    ∀ date ∈ dates.rows, PublicationSound date :=
  Reaches.invariant h (fun date hdate => by cases hdate) fun _ _ _ hdates _ hstep =>
    publicationSound_step hdates hstep

/-! ### What a pass finds due -/

/-- A date of a sale that opened, with a move to publish: on sale, or its closing to publish. -/
structure Unpublished (date : OfferedDate) : Prop where
  moves : date.publication.publishedMoves < date.availabilityMoves
  opened : date.sales.pricesLockedAt.isSome
  offered : DateSales.isOnSale date.sales = true ∨ date.closingUnpublished = true

/-- A publication of the date that commits, or that failed. -/
def AvailabilityAction.settles (dateId : Uuid) : AvailabilityAction → Bool
  | .commit of => of = dateId
  | .setAside of _ => of = dateId
  | _ => false

/-- A date still to publish, last published and last failed when `before` was. -/
structure StillUnpublished (before date : OfferedDate) : Prop where
  publishedAt : date.publication.publishedAt = before.publication.publishedAt
  failedAt : date.publication.failedAt = before.publication.failedAt
  unpublished : Unpublished date

omit [AvailabilityRules] in
/-- A date on sale stays on sale, or its closing is recorded. -/
theorem offered_of_perform {op : SaleOperation} {sales sales' : DateSalesSnapshot}
    (h : op.perform sales now = some sales') (hsale : DateSales.isOnSale sales = true) :
    DateSales.isOnSale sales' = true ∨
      (op.events sales now).any DateSalesEvent.closesSale = true := by
  simp only [DateSales.isOnSale, Bool.and_eq_true, Option.isNone_iff_eq_none] at hsale
  cases hclosed : sales'.salesClosedAt with
  | none =>
      left
      simp [DateSales.isOnSale, hclosed, locked_of_perform h hsale.1]
  | some closedAt =>
      right
      exact any_closes_of_closed h hsale.2 (by rw [hclosed]; rfl)

omit [AvailabilityRules] in
theorem StillUnpublished.written {before : OfferedDate} (h : StillUnpublished before date)
    {written : DateWrite} (hrun : written.run date now = some date') :
    StillUnpublished before date' := by
  obtain ⟨hat, hfailed, hmoves, hopened, hoffered⟩ := h
  cases written with
  | count statement =>
      obtain ⟨sales, hsales, rfl⟩ := Option.map_eq_some_iff.mp hrun
      obtain ⟨-, hclosed, hlocked⟩ := CounterStatement.run_kept hsales
      have hsale : DateSales.isOnSale sales = DateSales.isOnSale date.sales := by
        simp only [DateSales.isOnSale, hclosed, hlocked]
      refine ⟨hat, hfailed, ?_, hlocked ▸ hopened, ?_⟩
      · simp only
        omega
      · simp only [hsale]
        exact hoffered
  | save op =>
      simp only [DateWrite.run] at hrun
      split_ifs at hrun with hsaved hwaits
      · simp at hrun
      obtain ⟨sales, hsales, hrun⟩ := Option.bind_eq_some_iff.mp hrun
      obtain rfl := Option.some.inj hrun
      have hlocked := locked_of_perform hsales hopened
      cases hcloses : (op.events date.sales now).any DateSalesEvent.closesSale with
      | true =>
          simp only [OfferedDate.recordAvailabilityMoves, hcloses, any_moves_of_any_closes hcloses,
            if_true]
          refine ⟨hat, hfailed, ?_, hlocked, .inr rfl⟩
          simp only
          omega
      | false =>
          have hoffered' : DateSales.isOnSale sales = true ∨ date.closingUnpublished = true := by
            rcases hoffered with hsale | hclosing
            · left
              rcases offered_of_perform hsales hsale with hstays | hends
              · exact hstays
              · rw [hcloses] at hends
                cases hends
            · exact .inr hclosing
          simp only [OfferedDate.recordAvailabilityMoves, hcloses, Bool.false_eq_true, if_false]
          split_ifs
          · refine ⟨hat, hfailed, ?_, hlocked, hoffered'⟩
            simp only
            omega
          · exact ⟨hat, hfailed, hmoves, hlocked, hoffered'⟩

theorem StillUnpublished.rewritten {before : OfferedDate} (h : StillUnpublished before date)
    (hsettles : action.settles action.dateId = false) (hrewrite : action.rewrite date = some date') :
    StillUnpublished before date' := by
  cases action with
  | opened dateId channelId => cases hrewrite
  | write dateId written now => exact h.written hrewrite
  | claim dateId now =>
      simp only [AvailabilityAction.rewrite, OfferedDate.claim] at hrewrite
      split_ifs at hrewrite
      obtain rfl := Option.some.inj hrewrite
      exact ⟨h.publishedAt, h.failedAt, h.unpublished.moves, h.unpublished.opened,
        h.unpublished.offered⟩
  | commit dateId => simp [AvailabilityAction.settles, AvailabilityAction.dateId] at hsettles
  | rollBack dateId =>
      obtain ⟨reading, -, rfl⟩ := Option.map_eq_some_iff.mp hrewrite
      exact ⟨h.publishedAt, h.failedAt, h.unpublished.moves, h.unpublished.opened,
        h.unpublished.offered⟩
  | setAside dateId now => simp [AvailabilityAction.settles, AvailabilityAction.dateId] at hsettles

/-- While no publication of the date commits or fails, it is still to publish. -/
theorem StillUnpublished.reached {dateId : Uuid} (hdate : dates.find? dateId = some date)
    (hunpublished : Unpublished date)
    (h : Reaches (fun _ action => action.settles dateId = false)
      (fun dates action => AvailabilityAction.step dates action) dates dates') :
    ∃ after, dates'.find? dateId = some after ∧ StillUnpublished date after := by
  refine Reaches.invariant (P := fun dates => ∃ after, dates.find? dateId = some after ∧
    StillUnpublished date after) h ⟨date, hdate, rfl, rfl, hunpublished⟩ ?_
  intro mid action next ⟨current, hcurrent, hstill⟩ hguard hstep
  rcases AvailabilityAction.step_cases hstep with ⟨openedId, channelId, hinsert⟩ |
    ⟨before, after, hfind, hrewrite, hafter, rfl⟩
  · exact ⟨current, Table.find?_of_insert hinsert hcurrent, hstill⟩
  · by_cases hsame : action.dateId = dateId
    · rw [hsame] at hfind hafter
      rw [hcurrent] at hfind
      obtain rfl := Option.some.inj hfind
      refine ⟨after, ?_, hstill.rewritten (hsame ▸ hguard) hrewrite⟩
      rw [← hafter] at hcurrent ⊢
      exact Table.find?_put_self hcurrent
    · refine ⟨current, ?_, hstill⟩
      rw [Table.find?_put_of_ne fun h => hsame (hafter.symm.trans h)]
      exact hcurrent

/-- The instant both of a date's delays have ended at. -/
def dueSince (date : OfferedDate) : ℤ :=
  max (date.publication.publishedAt.elim 0 fun publishedAt => publishedAt + OfferedDate.interval)
    (date.publication.failedAt.elim 0 fun failedAt =>
      failedAt + availabilityPublishRetrySeconds * 1000)

omit [SalesRules] in
theorem delays_ended (h : dueSince date ≤ now) :
    (date.publication.publishedAt.all fun publishedAt => decide (publishedAt ≤ quietSince now)) =
        true ∧
      (date.publication.failedAt.all fun failedAt => decide (failedAt ≤ retrySince now)) = true := by
  obtain ⟨hquiet, hretry⟩ := max_le_iff.mp h
  constructor
  · cases hat : date.publication.publishedAt with
    | none => rfl
    | some publishedAt =>
        rw [hat, Option.elim_some] at hquiet
        have hle : @LE.le ℤ _ publishedAt (quietSince now) := by
          unfold quietSince
          unfold OfferedDate.interval at hquiet
          linarith
        simpa using hle
  · cases hfailed : date.publication.failedAt with
    | none => rfl
    | some failedAt =>
        rw [hfailed, Option.elim_some] at hretry
        have hle : @LE.le ℤ _ failedAt (retrySince now) := by
          unfold retrySince
          linarith
        simpa using hle

omit [SalesRules] in
/-- Once its delays have ended, a date to publish is due. -/
theorem isDue_of_unpublished (hsound : PublicationSound date) (h : Unpublished date)
    (hnow : dueSince date ≤ now) : date.isDue now = true := by
  obtain ⟨hquiet, hretry⟩ := delays_ended hnow
  have hoffered : (DateSales.isOnSale date.sales || date.publication.closingDue) = true := by
    rw [hsound.closing, Bool.or_eq_true]
    exact h.offered
  simp only [OfferedDate.isDue, hoffered, h.opened, decide_eq_true h.moves, hretry, hquiet,
    Bool.true_or, Bool.and_self]

omit [SalesRules] in
/-- And its publication goes through, unless another publisher holds it. -/
theorem claim_of_unpublished (h : Unpublished date) (hnow : dueSince date ≤ now)
    (hfree : date.underWay = none) : (date.claim now).isSome = true := by
  obtain ⟨hquiet, -⟩ := delays_ended hnow
  simp [OfferedDate.claim, hfree, hquiet, h.moves]

omit [SalesRules] in
theorem mem_dueDates : date ∈ dueDates dates now ↔ date ∈ dates.rows ∧ date.isDue now = true := by
  unfold dueDates
  rw [List.mem_mergeSort, List.mem_filter]

omit [SalesRules] in
/-- A date due is a candidate, or the batch is full of dates that come no later. -/
theorem mem_candidates_or_full (hdate : date ∈ dates.rows) (hdue : date.isDue now = true) :
    date ∈ candidates dates now ∨
      (candidates dates now).length = availabilityPublishBatch ∧
        ∀ other ∈ candidates dates now, other.isDue now = true ∧ other.comesNoLater date = true := by
  have hmem : date ∈ dates.rows.filter fun date => date.isDue now := List.mem_filter.mpr ⟨hdate, hdue⟩
  rcases mem_take_mergeSort_or_full comesNoLater_trans comesNoLater_total hmem
    availabilityPublishBatch with htaken | ⟨hfull, hbefore⟩
  · exact .inl htaken
  · refine .inr ⟨hfull, fun other hother => ⟨?_, hbefore other hother⟩⟩
    exact (mem_dueDates.mp (List.mem_of_mem_take hother)).2

omit [SalesRules] in
theorem unpublished_of_isDue (hsound : PublicationSound date) (h : date.isDue now = true) :
    Unpublished date := by
  simp only [OfferedDate.isDue, Bool.and_eq_true, Bool.or_eq_true, decide_eq_true_eq] at h
  obtain ⟨⟨⟨⟨hoffered, hopened⟩, hmoves⟩, -⟩, -⟩ := h
  exact ⟨hmoves, hopened, hsound.closing ▸ hoffered⟩

omit [SalesRules] in
/-- Sold out as the candidates' query reads it is sold out as core states it. -/
theorem soldOut_offeredFiguresOf [LawfulAvailabilityRules] {sales : DateSalesSnapshot}
    (hseats : 0 ≤ sales.seatsAvailable) : (offeredFiguresOf sales).soldOut =
      (DateSales.isOnSale sales && decide (sales.seatsAvailable = 0)) := by
  have hpublic : (gaugeOf sales).publicSeats = sales.seatsAvailable := by
    unfold Gauge.publicSeats gaugeOf
    ring
  have hoffers := LawfulAvailabilityRules.offersSeats_iff (gaugeOf sales)
  rw [hpublic] at hoffers
  unfold offeredFiguresOf
  split_ifs with hsale
  · rw [hsale, Bool.true_and]
    unfold availabilityFiguresOf
    by_cases hnone : sales.seatsAvailable = 0
    · have hnot : ¬ AvailabilityRules.offersSeats (gaugeOf sales) = true := by
        rw [hoffers]
        omega
      simp [hnone, hnot]
    · have hsome : AvailabilityRules.offersSeats (gaugeOf sales) = true := by
        rw [hoffers]
        omega
      simp [hnone, hsome]
  · simp [hsale]

omit [SalesRules] in
/-- What a pass finds due is decided again alike, while nothing moved and no other publisher holds
it. -/
theorem claim_of_isDue [LawfulAvailabilityRules] (h : date.isDue now = true)
    (hseats : 0 ≤ date.sales.seatsAvailable) (hfree : date.underWay = none) :
    (date.claim now).isSome = true := by
  simp only [OfferedDate.isDue, Bool.and_eq_true, Bool.or_eq_true, decide_eq_true_eq] at h
  obtain ⟨⟨⟨-, hmoves⟩, -⟩, hdelay⟩ := h
  have hdue : (date.publication.publishedAt.all fun publishedAt =>
        decide (publishedAt ≤ quietSince now)) = true ∨
      date.publication.publishedSoldOut ≠ some (offeredFiguresOf date.sales).soldOut := by
    rcases hdelay with hquiet | hflag
    · exact .inl hquiet
    · right
      rw [soldOut_offeredFiguresOf hseats]
      exact Ne.symm hflag
  have hclaims : (decide (date.publication.publishedMoves < date.availabilityMoves) &&
      ((date.publication.publishedAt.all fun publishedAt => decide (publishedAt ≤ quietSince now)) ||
        decide (date.publication.publishedSoldOut ≠
          some (offeredFiguresOf date.sales).soldOut))) = true := by
    rw [decide_eq_true hmoves, Bool.true_and, Bool.or_eq_true, decide_eq_true_eq]
    exact hdue
  unfold OfferedDate.claim
  simp only [hfree, Option.isSome_none, Bool.false_eq_true, if_false]
  rw [if_pos hclaims]
  rfl

/-! ### Passes alone -/

/-- What a publisher does of its own: it takes a candidate, and ends what is under way. -/
def PassAction (dates : Table OfferedDate.dateId) : AvailabilityAction → Prop
  | .claim dateId now => ∃ date ∈ candidates dates now, date.dateId = dateId
  | .commit _ | .rollBack _ => True
  | _ => False

/-- A publisher writes nothing of the sale. -/
theorem PassAction.sales (hguard : PassAction dates action)
    (h : action.rewrite date = some date') : date'.sales = date.sales := by
  cases action with
  | opened dateId channelId => cases h
  | write dateId written now => exact hguard.elim
  | claim dateId now =>
      simp only [AvailabilityAction.rewrite, OfferedDate.claim] at h
      split_ifs at h
      exact Option.some.inj h ▸ rfl
  | commit dateId =>
      obtain ⟨reading, -, rfl⟩ := Option.map_eq_some_iff.mp h
      rfl
  | rollBack dateId =>
      obtain ⟨reading, -, rfl⟩ := Option.map_eq_some_iff.mp h
      rfl
  | setAside dateId now => exact hguard.elim

/-- A pass later than any instant that takes the date, after passes alone. -/
def TakenLater (dates : Table OfferedDate.dateId) (dateId : Uuid) : Prop :=
  ∀ bound : ℤ, ∃ dates', Reaches PassAction (fun dates action => AvailabilityAction.step dates action)
    dates dates' ∧ ∃ now, bound ≤ now ∧ ∃ after ∈ candidates dates' now, after.dateId = dateId

/-- What passes have left to do: moves to publish, and publications under way. -/
def leftToDo (date : OfferedDate) : ℤ :=
  (if date.publication.publishedMoves < date.availabilityMoves then 1 else 0) +
    if date.underWay.isSome then 1 else 0

/-- A candidate published, or what was under way of it ended. -/
theorem publish_candidate {other : OfferedDate} (hcandidate : other ∈ candidates dates now)
    (hunpublished : Unpublished other) (hnow : dueSince other ≤ now) :
    ∃ after dates', Reaches PassAction (fun dates action => AvailabilityAction.step dates action)
      dates dates' ∧ dates' = dates.put after ∧ after.dateId = other.dateId ∧
      leftToDo after < leftToDo other ∧
      (after.publication.publishedMoves < after.availabilityMoves →
        after.publication = other.publication) := by
  have hmem : other ∈ dates.rows := (mem_dueDates.mp (List.mem_of_mem_take hcandidate)).1
  have hfind : dates.find? other.dateId = some other := Table.find?_of_mem hmem
  cases hunderWay : other.underWay with
  | some reading =>
      let freed : OfferedDate := { other with underWay := none }
      have hstep : AvailabilityAction.step dates (.rollBack other.dateId) =
          some (dates.put freed) := by
        simp [AvailabilityAction.step, AvailabilityAction.dateId, AvailabilityAction.rewrite, hfind,
          OfferedDate.rollBack, hunderWay, freed]
      have hguard : PassAction dates (.rollBack other.dateId) := trivial
      refine ⟨freed, dates.put freed, Reaches.refl.tail hguard hstep, rfl, rfl, ?_, fun _ => rfl⟩
      simp [leftToDo, freed, hunderWay]
  | none =>
      let reading : Reading := ⟨other.availabilityMoves, ⟨offeredFiguresOf other.sales, now⟩⟩
      let held : OfferedDate := { other with underWay := some reading }
      let done : OfferedDate := { held with
        publication :=
          { publishedMoves := reading.moves
            publishedAt := some reading.change.occurredAt
            publishedSoldOut := some reading.change.figures.soldOut
            failedAt := none
            closingDue := false }
        underWay := none
        happened := .published reading.change :: held.happened }
      have hclaim : other.claim now = some held := by
        have hsome := claim_of_unpublished hunpublished hnow hunderWay
        simp only [OfferedDate.claim, hunderWay, Option.isSome_none, Bool.false_eq_true,
          if_false] at hsome ⊢
        split_ifs at hsome ⊢
        · rfl
        · cases hsome
      have hheld : AvailabilityAction.step dates (.claim other.dateId now) =
          some (dates.put held) := by
        simp [AvailabilityAction.step, AvailabilityAction.dateId, AvailabilityAction.rewrite, hfind,
          hclaim]
      have hdone : AvailabilityAction.step (dates.put held) (.commit other.dateId) =
          some (dates.put done) := by
        have hput : (dates.put held).find? other.dateId = some held := Table.find?_put_self hfind
        have hsame : held.dateId = done.dateId := rfl
        rw [← Table.put_put hsame]
        simp [AvailabilityAction.step, AvailabilityAction.dateId, AvailabilityAction.rewrite, hput,
          OfferedDate.commit, held, done]
      have hguard : PassAction dates (.claim other.dateId now) := ⟨other, hcandidate, rfl⟩
      have hguard' : PassAction (dates.put held) (.commit other.dateId) := trivial
      refine ⟨done, dates.put done, (Reaches.refl.tail hguard hheld).tail hguard' hdone, rfl, rfl,
        ?_, ?_⟩
      · simp [leftToDo, done, held, reading, hunderWay, hunpublished.moves]
      · intro hmoves
        simp [done, held, reading] at hmoves

omit [AvailabilityRules] [SalesRules] in
theorem leftToDo_nonneg (date : OfferedDate) : 0 ≤ leftToDo date := by
  unfold leftToDo
  split_ifs <;> omega

omit [AvailabilityRules] [SalesRules] in
theorem leftToDo_le_total (hdate : date ∈ dates.rows) : leftToDo date ≤ dates.total leftToDo := by
  unfold Table.total
  refine List.single_le_sum ?_ _ (List.mem_map_of_mem hdate)
  intro left hleft
  obtain ⟨other, -, rfl⟩ := List.mem_map.mp hleft
  exact leftToDo_nonneg other

/-- Passes alone come to every date to publish: each takes one off what is left to do. -/
theorem taken_after_passes (now : ℤ) (n : ℕ) :
    ∀ dates : Table OfferedDate.dateId, dates.total leftToDo ≤ n →
      (∀ date ∈ dates.rows, PublicationSound date) →
      (∀ date ∈ dates.rows, date.publication.publishedMoves < date.availabilityMoves →
        dueSince date ≤ now) →
      ∀ date ∈ dates.rows, Unpublished date →
        ∃ dates', Reaches PassAction (fun dates action => AvailabilityAction.step dates action)
          dates dates' ∧ ∃ after ∈ candidates dates' now, after.dateId = date.dateId := by
  induction n with
  | zero =>
      intro dates htotal _ _ date hdate hunpublished
      have hleft := leftToDo_le_total hdate
      have hpos : 1 ≤ leftToDo date := by
        unfold leftToDo
        rw [if_pos hunpublished.moves]
        split_ifs <;> omega
      omega
  | succ n ih =>
      intro dates htotal hsound hdelays date hdate hunpublished
      have hdue := isDue_of_unpublished (hsound date hdate) hunpublished
        (hdelays date hdate hunpublished.moves)
      by_cases hcandidate : date ∈ candidates dates now
      · exact ⟨dates, .refl, date, hcandidate, rfl⟩
      · obtain ⟨hfull, -⟩ := (mem_candidates_or_full hdate hdue).resolve_left hcandidate
        obtain ⟨other, hother⟩ := List.exists_mem_of_length_pos
          (hfull ▸ (by decide : 0 < availabilityPublishBatch))
        obtain ⟨hmem, hotherDue⟩ := mem_dueDates.mp (List.mem_of_mem_take hother)
        have hotherUnpublished := unpublished_of_isDue (hsound other hmem) hotherDue
        obtain ⟨after, next, hreached, rfl, hafter, hless, hpublication⟩ := publish_candidate hother
          hotherUnpublished (hdelays other hmem hotherUnpublished.moves)
        have hfind : dates.find? after.dateId = some other := hafter ▸ Table.find?_of_mem hmem
        have hne : date.dateId ≠ after.dateId := by
          intro hsame
          have hsameDate := Table.eq_of_mem hdate hmem (hsame.trans hafter)
          exact hcandidate (hsameDate ▸ hother)
        have hput := Table.total_put hfind leftToDo
        have hnext := ih (dates.put after) (by push_cast at htotal; omega)
          (Reaches.invariant hreached hsound fun _ _ _ hdates _ hstep =>
            publicationSound_step hdates hstep) ?_ date
          ((Table.mem_put hfind).mpr (.inr ⟨hdate, hne⟩)) hunpublished
        · obtain ⟨dates', hlater, htaken⟩ := hnext
          exact ⟨dates', hreached.trans hlater, htaken⟩
        · intro current hcurrent hmoves
          rcases (Table.mem_put hfind).mp hcurrent with rfl | ⟨hkept, -⟩
          · have hsame : dueSince current = dueSince other := by
              unfold dueSince
              rw [hpublication hmoves]
            rw [hsame]
            exact hdelays other hmem hotherUnpublished.moves
          · exact hdelays current hkept hmoves

/-- Every date to publish is taken later, by passes alone. -/
theorem takenLater_of_unpublished (hsound : ∀ date ∈ dates.rows, PublicationSound date)
    (hdate : date ∈ dates.rows) (hunpublished : Unpublished date) :
    TakenLater dates date.dateId := by
  intro bound
  obtain ⟨last, hlast⟩ := (dates.rows.map dueSince).toFinset.exists_le
  obtain ⟨dates', hreached, htaken⟩ := taken_after_passes (max bound last)
    (dates.total leftToDo).toNat dates (Int.self_le_toNat _) hsound
    (fun other hother _ => le_max_of_le_right
      (hlast _ (List.mem_toFinset.mpr (List.mem_map_of_mem hother)))) date hdate hunpublished
  exact ⟨dates', hreached, max bound last, le_max_left _ _, htaken⟩

/-! ## The publications of every run -/

/-- A pass at `now` finds the date due, takes it unless its batch is full of dates due that come no
later, and publishes it unless another publisher holds it. -/
structure PassFinds (dates : Table OfferedDate.dateId) (date : OfferedDate) (now : Instant) :
    Prop where
  due : date.isDue now = true
  taken : date ∈ candidates dates now ∨
    (candidates dates now).length = availabilityPublishBatch ∧
      ∀ other ∈ candidates dates now, other.isDue now = true ∧ other.comesNoLater date = true
  published : date.underWay = none → (date.claim now).isSome = true

/-- In every state reached. A date of a sale that opened with a move to publish, on sale or its
closing not published, is a candidate of a later pass, after passes alone; and whatever else is
written, from an instant on every pass finds it, until a publication of it commits or fails. With no
move to publish, the figures published last are its own. A closed sale whose closing is published
offers no seat and is not sold out. Two publications are an interval apart unless the date sold out
or came back between them. -/
theorem availability_published [LawfulAvailabilityRules] (hreached : AvailabilityReached dates)
    (hdate : date ∈ dates.rows) :
    (Unpublished date → TakenLater dates date.dateId ∧
      ∃ since : ℤ, ∀ dates', Reaches (fun _ action => action.settles date.dateId = false)
          (fun dates action => AvailabilityAction.step dates action) dates dates' →
        ∃ after, dates'.find? date.dateId = some after ∧
          ∀ now, since ≤ now → PassFinds dates' after now) ∧
    (date.publication.publishedMoves = date.availabilityMoves →
      ∀ last, date.lastPublished = some last → last.figures = offeredFiguresOf date.sales) ∧
    (date.sales.salesClosedAt.isSome → date.closingUnpublished = false →
      ∃ last, date.lastPublished = some last ∧ last.figures.seatsAvailable = 0 ∧
        last.figures.soldOut = false) ∧
    ∀ newer later between earlier older,
      date.publications = newer ++ later :: (between ++ earlier :: older) →
      earlier.occurredAt + OfferedDate.interval ≤ later.occurredAt ∨
        ∃ change ∈ later :: between, change.figures.soldOut ≠ earlier.figures.soldOut := by
  have hsounds := publicationSound_reached hreached
  have hsound := hsounds date hdate
  refine ⟨?_, hsound.current, ?_, ?_⟩
  · intro hunpublished
    refine ⟨takenLater_of_unpublished hsounds hdate hunpublished, dueSince date, ?_⟩
    intro dates' hlater
    obtain ⟨after, hafter, hstill⟩ :=
      StillUnpublished.reached (Table.find?_of_mem hdate) hunpublished hlater
    have hmem := Table.mem_of_find? hafter
    have hafterSound : PublicationSound after :=
      Reaches.invariant hlater hsounds (fun _ _ _ hdates _ hstep =>
        publicationSound_step hdates hstep) after hmem
    have hsince : dueSince after = dueSince date := by
      unfold dueSince
      rw [hstill.publishedAt, hstill.failedAt]
    refine ⟨after, hafter, fun now hnow => ?_⟩
    rw [← hsince] at hnow
    have hdue := isDue_of_unpublished hafterSound hstill.unpublished hnow
    exact ⟨hdue, mem_candidates_or_full hmem hdue,
      claim_of_unpublished hstill.unpublished hnow⟩
  · intro hclosed hpublished
    exact hsound.closed hclosed (hsound.closing.trans hpublished)
  · intro newer later between earlier older hlist
    have hchain := hsound.apart
    rw [hlist] at hchain
    have hinterval : 0 ≤ OfferedDate.interval := by
      have hnonneg := LawfulAvailabilityRules.interval_nonneg
      unfold OfferedDate.interval
      omega
    exact gap_or_changed _ _ _ hinterval (List.isChain_append.mp hchain).2.1

/-- A draft is never published: no pass takes a date whose prices were never locked. -/
theorem not_takenLater_of_unopened {dateId : Uuid} (hdate : dates.find? dateId = some date)
    (hunopened : date.sales.pricesLockedAt = none) : ¬ TakenLater dates dateId := by
  intro htaken
  obtain ⟨dates', hreached, now, -, after, hcandidate, hafter⟩ := htaken 0
  have hkept : ∃ current, dates'.find? dateId = some current ∧
      current.sales.pricesLockedAt = none := by
    refine Reaches.invariant (P := fun dates => ∃ current, dates.find? dateId = some current ∧
      current.sales.pricesLockedAt = none) hreached ⟨date, hdate, hunopened⟩ ?_
    intro mid action next ⟨current, hcurrent, hnone⟩ hguard hstep
    rcases AvailabilityAction.step_cases hstep with ⟨openedId, channelId, hinsert⟩ |
      ⟨before, rewritten, hfind, hrewrite, hrewritten, rfl⟩
    · exact ⟨current, Table.find?_of_insert hinsert hcurrent, hnone⟩
    · by_cases hsame : action.dateId = dateId
      · rw [hsame] at hfind hrewritten
        rw [hcurrent] at hfind
        obtain rfl := Option.some.inj hfind
        refine ⟨rewritten, ?_, PassAction.sales hguard hrewrite ▸ hnone⟩
        rw [← hrewritten] at hcurrent ⊢
        exact Table.find?_put_self hcurrent
      · refine ⟨current, ?_, hnone⟩
        rw [Table.find?_put_of_ne fun h => hsame (hrewritten.symm.trans h)]
        exact hcurrent
  obtain ⟨current, hcurrent, hnone⟩ := hkept
  obtain ⟨hmem, hdue⟩ := mem_dueDates.mp (List.mem_of_mem_take hcandidate)
  have hfound : dates'.find? dateId = some after := hafter ▸ Table.find?_of_mem hmem
  rw [hcurrent] at hfound
  obtain rfl := Option.some.inj hfound
  simp [OfferedDate.isDue, hnone] at hdue

end Runs

section Sample

open Sample

/-- A date of ten seats opens and is published; then three seats are taken. -/
def sampleOffered : List AvailabilityAction :=
  [.opened 1 2, .write 1 (.save (.openCapacityTier 1 10 false 7)) 10,
    .write 1 (.save (.lockPrices 20)) 20, .claim 1 100, .commit 1, .write 1 (.count (.takeSeats 3)) 200]

theorem availability_published_sample :
    ∃ dates, AvailabilityReached dates ∧ ∃ date ∈ dates.rows, date.dateId = 1 ∧
      date.publications.length = 1 ∧ TakenLater dates 1 ∧ ∃ since : ℤ, ∀ now, since ≤ now →
        PassFinds dates date now := by
  have hseen : ((sampleOffered.foldlM AvailabilityAction.step Table.empty).bind fun dates =>
      (dates.find? 1).map fun date =>
        (decide (date.publication.publishedMoves < date.availabilityMoves),
          date.sales.pricesLockedAt.isSome, DateSales.isOnSale date.sales,
          date.publications.length)) = some (true, true, true, 1) := by decide
  obtain ⟨dates, hrun, hfound⟩ := Option.bind_eq_some_iff.mp hseen
  obtain ⟨date, hdate, hfields⟩ := Option.map_eq_some_iff.mp hfound
  simp only [Prod.mk.injEq, decide_eq_true_eq] at hfields
  obtain ⟨hmoves, hopened, hsale, hlength⟩ := hfields
  have hreached : AvailabilityReached dates := Reaches.of_foldlM (fun _ _ => trivial) hrun
  have hmem := Table.mem_of_find? hdate
  have hkey := Table.key_of_find? hdate
  obtain ⟨htaken, since, hfinds⟩ :=
    (availability_published hreached hmem).1 ⟨hmoves, hopened, .inl hsale⟩
  obtain ⟨after, hafter, hpasses⟩ := hfinds dates .refl
  rw [hkey, hdate] at hafter
  obtain rfl := Option.some.inj hafter
  exact ⟨dates, hreached, date, hmem, hkey, hlength, hkey ▸ htaken, since, hpasses⟩

/-- A date cancelled before it opened has a closing no pass ever publishes. -/
theorem unopened_closing_never_taken :
    ¬ ∀ dates, AvailabilityReached dates → ∀ date ∈ dates.rows,
      date.publication.publishedMoves < date.availabilityMoves →
      DateSales.isOnSale date.sales = true ∨ date.closingUnpublished = true →
      TakenLater dates date.dateId := by
  intro hall
  have hseen : (([.opened 1 2, .write 1 (.save (.recordOutcome .cancelled 5)) 5] :
      List AvailabilityAction).foldlM AvailabilityAction.step Table.empty).bind (fun dates =>
      (dates.find? 1).map fun date =>
        (decide (date.publication.publishedMoves < date.availabilityMoves),
          date.sales.pricesLockedAt, date.closingUnpublished)) = some (true, none, true) := by decide
  obtain ⟨dates, hrun, hfound⟩ := Option.bind_eq_some_iff.mp hseen
  obtain ⟨date, hdate, hfields⟩ := Option.map_eq_some_iff.mp hfound
  simp only [Prod.mk.injEq, decide_eq_true_eq] at hfields
  obtain ⟨hmoves, hunopened, hclosing⟩ := hfields
  have hreached : AvailabilityReached dates := Reaches.of_foldlM (fun _ _ => trivial) hrun
  have hkey := Table.key_of_find? hdate
  refine not_takenLater_of_unopened hdate hunopened ?_
  exact hkey ▸ hall dates hreached date (Table.mem_of_find? hdate) hmoves (.inr hclosing)

end Sample

end Arthome.Ticketing
