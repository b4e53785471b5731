import Arthome.Catalog.DateChronicles
import Arthome.Ticketing.CatalogFacts

/-!
# The sale follows the catalog's rows

Ticketing keeps of a date its start, its outcome and the lock of its prices, read off the
catalog's messages. A date's chronicle says where its rows stand, so that a sale that applied
every fact of the chronicle, in any order and at least once, with whatever ran between them,
says of its date what the rows do.
-/

namespace Arthome.Ticketing

open Arthome.Core Library
open Arthome.Catalog.Dates (DateMessage DateRecord Chronicle StatedInOrder messagesOf)

/-! ## What a message asks of a sale -/

/-- Nothing for an outcome this build does not know. -/
def dateOutcomeOf : ℕ → Option DateOutcome
  | 1 => some .postponed
  | 2 => some .cancelled
  | 3 => some .interrupted
  | _ => none

@[simp] theorem dateOutcomeOf_wire (outcome : DateOutcome) :
    dateOutcomeOf (Catalog.Dates.WIRE_DATE_OUTCOME outcome) = some outcome := by
  cases outcome <;> rfl

/-- The fact a message states of its date's sale: `READERS`. A replay's change is another
command's, and a transition says nothing ticketing keeps. -/
def catalogDateFactOf : DateMessage → Option CatalogDateFact
  | .drafted _ channelId _ _ _ => some (.drafted channelId)
  | .engaged _ _ occurredAt => some (.lock occurredAt)
  | .scheduled message => some (.start message.startsAt message.occurredAt)
  | .rescheduled _ _ newStartsAt _ _ occurredAt => some (.start newStartsAt occurredAt)
  | .outcomeDeclared _ _ outcome _ _ declaredAt =>
      (dateOutcomeOf outcome).map fun outcome => .outcome outcome declaredAt
  | .replayStateChanged _ => none
  | .stateChanged .. => none

/-- What the messages of a date ask of its sale, once it is open. -/
def askedBy (messages : List DateMessage) : List SaleOperation :=
  messages.filterMap fun message => (catalogDateFactOf message).bind CatalogDateFact.operation

/-- The operation applies a fact. -/
def SaleOperation.appliesFact : SaleOperation → Bool
  | .lockPrices _ => true
  | .recordSchedule _ _ => true
  | .recordOutcome _ _ => true
  | _ => false

/-- A run applied what the messages ask at least once, in any order, and no other fact. -/
def AppliesAsked (messages : List DateMessage) (actions : List DateAction) : Prop :=
  ∀ op : SaleOperation, op.appliesFact = true →
    (op ∈ DateHistory.operationsOf actions ↔ op ∈ askedBy messages)

/-- A declared outcome, as ticketing reads it. -/
def outcomeStated (declared : Instant × Catalog.Dates.Declaration) :
    Option (Instant × DateOutcome) :=
  (dateOutcomeOf declared.2.outcome).map fun outcome => (declared.1, outcome)

def lockOf : SaleOperation → Option Instant
  | .lockPrices engagedAt => some engagedAt
  | _ => none

section Asked

variable {messages : List DateMessage} {actions : List DateAction}

/-- What the run stated of a part of the facts is what the messages state of it. -/
theorem AppliesAsked.mem_filterMap {α : Type} {part : SaleOperation → Option α}
    (h : AppliesAsked messages actions)
    (hpart : ∀ op a, part op = some a → op.appliesFact = true) (a : α) :
    a ∈ (DateHistory.operationsOf actions).filterMap part ↔
      a ∈ (askedBy messages).filterMap part := by
  rw [List.mem_filterMap, List.mem_filterMap]
  constructor
  · rintro ⟨op, hop, ha⟩
    exact ⟨op, (h op (hpart op a ha)).mp hop, ha⟩
  · rintro ⟨op, hop, ha⟩
    exact ⟨op, (h op (hpart op a ha)).mpr hop, ha⟩

theorem scheduleOf_asked (messages : List DateMessage) :
    (askedBy messages).filterMap scheduleOf = messages.filterMap DateMessage.start := by
  rw [askedBy, List.filterMap_filterMap]
  refine List.filterMap_congr fun message _ => ?_
  cases message with
  | outcomeDeclared _ _ outcome _ _ declaredAt =>
      simp only [catalogDateFactOf, DateMessage.start]
      cases dateOutcomeOf outcome <;> rfl
  | _ => rfl

theorem outcomeOf_asked (messages : List DateMessage) :
    (askedBy messages).filterMap outcomeOf =
      (messages.filterMap DateMessage.declaration).filterMap outcomeStated := by
  rw [askedBy]
  refine filterMap_parts (fun message => ?_) messages
  cases message with
  | outcomeDeclared _ _ outcome _ _ declaredAt =>
      simp only [catalogDateFactOf, DateMessage.declaration, Option.bind_some, outcomeStated]
      cases dateOutcomeOf outcome <;> rfl
  | _ => rfl

theorem lockOf_asked (messages : List DateMessage) :
    (askedBy messages).filterMap lockOf = messages.filterMap DateMessage.engagement := by
  rw [askedBy, List.filterMap_filterMap]
  refine List.filterMap_congr fun message _ => ?_
  cases message with
  | outcomeDeclared _ _ outcome _ _ declaredAt =>
      simp only [catalogDateFactOf, DateMessage.engagement]
      cases dateOutcomeOf outcome <;> rfl
  | _ => rfl

end Asked

/-! ## Where a sale ends -/

/-- The sale's row says of its date what the catalog's rows say. -/
structure DateSalesSnapshot.AgreesWith [SalesRules] (sales : DateSalesSnapshot)
    (record : DateRecord) : Prop where
  startsAt : sales.startsAt = record.date.slug.map fun _ => record.date.startsAt
  salesEndAt : sales.salesEndAt =
    record.date.slug.map fun _ => SalesRules.seatSalesEndAt record.date.startsAt
  outcome : sales.outcome = record.date.outcome
  pricesLockedAt : sales.pricesLockedAt = record.publication.pricesLockedAt

section Ends

variable [SalesRules]

theorem lock_after (facts : SaleFacts) (op : SaleOperation) :
    (facts.after op).pricesLockedAt = facts.pricesLockedAt.or (lockOf op) := by
  cases op with
  | lockPrices engagedAt =>
      simp only [SaleFacts.after, lockOf]
      cases hlocked : facts.pricesLockedAt with
      | none => rfl
      | some lockedAt =>
          rw [Option.isSome_some, if_pos rfl, hlocked]
          rfl
  | recordSchedule startsAt statedAt =>
      simp only [SaleFacts.after, lockOf, Option.or_none]
      split_ifs
      · rfl
      · rfl
  | recordOutcome declared statedAt =>
      simp only [SaleFacts.after, lockOf, Option.or_none]
      split_ifs
      · rfl
      · rfl
  | _ => exact Option.or_none.symm

/-- The first lock stands. -/
theorem lock_foldl (facts : SaleFacts) (ops : List SaleOperation) :
    (ops.foldl SaleFacts.after facts).pricesLockedAt =
      facts.pricesLockedAt.or (ops.filterMap lockOf).head? := by
  induction ops generalizing facts with
  | nil => exact Option.or_none.symm
  | cons op ops ih =>
      rw [List.foldl_cons, ih, lock_after, Option.or_assoc, List.filterMap_cons]
      cases lockOf op with
      | none => rfl
      | some engagedAt => rfl

omit [SalesRules] in
/-- Locks at one instant alone lock at that instant, and none locks nothing. -/
theorem head?_of_mem_toList {locks : List Instant} {locked : Option Instant}
    (h : ∀ engagedAt, engagedAt ∈ locks ↔ engagedAt ∈ locked.toList) : locks.head? = locked := by
  cases locks with
  | nil =>
      cases locked with
      | none => rfl
      | some lockedAt => exact absurd ((h lockedAt).mpr (by simp)) List.not_mem_nil
  | cons engagedAt locks =>
      have hmem := (h engagedAt).mp List.mem_cons_self
      rw [Option.mem_toList] at hmem
      exact hmem.symm

variable [LawfulSalesClock] {origin showSlug : String} {venue : Catalog.Dates.Venue}
  {record : DateRecord} {messages : List DateMessage} {actions : List DateAction}
  {history : DateHistory}

/-- The start the sale ends on is the row's. -/
theorem schedule_of_chronicle (dateId channelId : Uuid)
    (h : Chronicle origin showSlug venue record messages)
    (hstated : StatedInOrder messages) (happlied : AppliesAsked messages actions) :
    let ended := ((DateHistory.operationsOf actions).foldl SaleFacts.after
      (DateSales.opened dateId channelId).facts).schedule
    ended.startsAt = record.date.slug.map (fun _ => record.date.startsAt) ∧
      ended.salesEndAt =
        record.date.slug.map fun _ => SalesRules.seatSalesEndAt record.date.startsAt := by
  intro ended
  have hended : ended = (messages.filterMap DateMessage.start).getLast?.elim
      (DateSales.opened dateId channelId).facts.schedule fun last =>
        scheduleRegister.write (DateSales.opened dateId channelId).facts.schedule last.1
          last.2 := by
    refine (schedule_foldl _ _).trans
      (foldl_deliver_of_log scheduleRegister rfl hstated.starts fun fact => ?_)
    rw [← scheduleOf_asked]
    refine happlied.mem_filterMap (fun op stated hop => ?_) fact
    cases op with
    | recordSchedule startsAt statedAt => rfl
    | _ => cases hop
  have hstarted := h.started
  rw [lastOf] at hstarted
  cases hlast : (messages.filterMap DateMessage.start).getLast? with
  | none =>
      rw [hlast, Option.map_none, eq_comm, Option.map_eq_none_iff] at hstarted
      rw [hended, hlast, hstarted]
      exact ⟨rfl, rfl⟩
  | some last =>
      rw [hlast, Option.map_some, eq_comm, Option.map_eq_some_iff] at hstarted
      obtain ⟨slug, hslug, hstartsAt⟩ := hstarted
      rw [hended, hlast, hslug, hstartsAt]
      exact ⟨rfl, rfl⟩

omit [SalesRules] [LawfulSalesClock] in
/-- The last outcome ticketing reads is the row's. -/
theorem lastOutcome_of_chronicle (h : Chronicle origin showSlug venue record messages) :
    lastOf ((messages.filterMap DateMessage.declaration).filterMap outcomeStated) =
      record.date.outcome := by
  have hread : lastOf ((messages.filterMap DateMessage.declaration).filterMap outcomeStated) =
      (lastOf (messages.filterMap DateMessage.declaration)).bind fun declared =>
        dateOutcomeOf declared.outcome := by
    refine lastOf_read (f := fun declaredAt => declaredAt)
      (g := fun declared : Catalog.Dates.Declaration => dateOutcomeOf declared.outcome)
      fun declared hdeclared => ?_
    rw [h.lastDeclared] at hdeclared
    obtain ⟨outcome, -, rfl⟩ := Option.map_eq_some_iff.mp hdeclared
    rw [dateOutcomeOf_wire]
    rfl
  rw [hread, h.lastDeclared]
  cases record.date.outcome with
  | none => rfl
  | some outcome => exact dateOutcomeOf_wire outcome

/-- The outcome the sale ends on is the row's. -/
theorem outcome_of_chronicle (dateId channelId : Uuid)
    (h : Chronicle origin showSlug venue record messages)
    (hstated : StatedInOrder messages) (happlied : AppliesAsked messages actions) :
    ((DateHistory.operationsOf actions).foldl SaleFacts.after
      (DateSales.opened dateId channelId).facts).outcomeInForce.outcome = record.date.outcome := by
  have hgrowing : ((messages.filterMap DateMessage.declaration).filterMap outcomeStated).Pairwise
      fun a b => a.1 < b.1 := by
    refine hstated.declarations.filterMap _ fun earlier later hlt a ha b hb => ?_
    obtain ⟨_, -, rfl⟩ := Option.map_eq_some_iff.mp ha
    obtain ⟨_, -, rfl⟩ := Option.map_eq_some_iff.mp hb
    exact hlt
  have hsame : ∀ fact, fact ∈ (DateHistory.operationsOf actions).filterMap outcomeOf ↔
      fact ∈ (messages.filterMap DateMessage.declaration).filterMap outcomeStated := by
    intro fact
    rw [← outcomeOf_asked]
    refine happlied.mem_filterMap (fun op stated hop => ?_) fact
    cases op with
    | recordOutcome declared statedAt => rfl
    | _ => cases hop
  rw [outcome_foldl, foldl_deliver_of_log outcomeRegister rfl hgrowing hsame,
    ← lastOutcome_of_chronicle h, lastOf]
  cases ((messages.filterMap DateMessage.declaration).filterMap outcomeStated).getLast? <;> rfl

omit [LawfulSalesClock] in
/-- The lock the sale ends on is the row's. -/
theorem lock_of_chronicle (dateId channelId : Uuid)
    (h : Chronicle origin showSlug venue record messages)
    (happlied : AppliesAsked messages actions) :
    ((DateHistory.operationsOf actions).foldl SaleFacts.after
      (DateSales.opened dateId channelId).facts).pricesLockedAt =
        record.publication.pricesLockedAt := by
  have hsame : ∀ engagedAt, engagedAt ∈ (DateHistory.operationsOf actions).filterMap lockOf ↔
      engagedAt ∈ record.publication.pricesLockedAt.toList := by
    intro engagedAt
    rw [← h.engaged, ← lockOf_asked]
    refine happlied.mem_filterMap (fun op stated hop => ?_) engagedAt
    cases op with
    | lockPrices engagedAt => rfl
    | _ => cases hop
  rw [lock_foldl, head?_of_mem_toList hsame]
  rfl

/-- A sale that applied what a chronicle asks agrees with the rows the chronicle follows. -/
theorem agreesWith_of_chronicle {dateId channelId : Uuid}
    (h : Chronicle origin showSlug venue record messages)
    (hstated : StatedInOrder messages) (happlied : AppliesAsked messages actions)
    (hrun : (⟨⟨DateSales.opened dateId channelId, []⟩, []⟩ : DateHistory).run actions =
      some history) : history.rows.sales.AgreesWith record := by
  have hfacts := DateHistory.run_facts hrun
  obtain ⟨hstartsAt, hsalesEndAt⟩ := schedule_of_chronicle dateId channelId h hstated happlied
  have houtcome := outcome_of_chronicle dateId channelId h hstated happlied
  have hlocked := lock_of_chronicle dateId channelId h happlied
  rw [← hfacts] at hstartsAt hsalesEndAt houtcome hlocked
  exact ⟨hstartsAt, hsalesEndAt, houtcome, hlocked⟩

omit [SalesRules] [LawfulSalesClock] in
/-- A sale is opened on the date's own channel. -/
theorem channel_of_chronicle (h : Chronicle origin showSlug venue record messages)
    {channelId : Uuid}
    (hopened : CatalogDateFact.drafted channelId ∈ messages.filterMap catalogDateFactOf) :
    channelId = record.date.channelId := by
  obtain ⟨message, hmessage, hfact⟩ := List.mem_filterMap.mp hopened
  refine h.channels message hmessage channelId ?_
  cases message with
  | drafted dateId draftedOn showId venueId occurredAt =>
      obtain rfl := CatalogDateFact.drafted.inj (Option.some.inj hfact)
      rfl
  | outcomeDeclared dateId declaredOn outcome declared rescheduledTo declaredAt =>
      obtain ⟨_, -, hother⟩ := Option.map_eq_some_iff.mp hfact
      cases hother
  | _ => cases hfact

end Ends

/-! ## Over every run -/

section Runs

variable [SalesRules] [LawfulSalesClock] [PublicationRules] [ReplayRules]
  [LawfulPublicationRules] [SlugRules] {origin : String}

end Runs

section Sample

open Sample Catalog.Sample Catalog.Dates.Sample

/-- What the date's messages ask, the last first, then a payment. -/
def sampleFollowed : List DateAction :=
  (askedBy (messagesOf sampleDb.outbox 7)).reverse.map (.operation 200000000) ++
    [.seatsIssued 0 .full [(70, "A"), (71, "B")] 200000001]

end Sample

end Arthome.Ticketing
