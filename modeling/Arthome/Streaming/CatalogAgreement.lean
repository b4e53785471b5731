import Arthome.Catalog.DateChronicles
import Arthome.Streaming.EntitlementConvergence

/-!
# The entitlement rows follow the catalog's

Streaming answers who may watch a date from a row of its own, fed by the catalog's messages. A
date's chronicle says where catalog's rows stand, so that once every fact of the chronicle is
applied, late, twice or out of order, the row of a public date says of it what catalog's rows do.
-/

namespace Arthome.Streaming

open Arthome.Core Arthome.Library
open Arthome.Catalog.Dates (DateMessage DateRecord Chronicle StatedInOrder messagesOf
  WIRE_PUBLICATION_STATE WIRE_DATE_OUTCOME WIRE_REPLAY_POLICY WIRE_RIGHTS_SCOPE
  WIRE_BLACKOUT_REASON UNSPECIFIED)

/-! ## The wire's numbers, read -/

/-- The member a table gives the number to. -/
def domainOf {μ : Type} (members : List μ) (table : μ → ℕ) (wire : ℕ) : Option μ :=
  members.find? fun member => table member = wire

def publicationStateOf : ℕ → Option PublicationState :=
  domainOf [.draft, .reserve, .scheduled, .technical, .live, .ended, .replayOnline]
    WIRE_PUBLICATION_STATE

def dateOutcomeOf : ℕ → Option DateOutcome :=
  domainOf [.postponed, .cancelled, .interrupted] WIRE_DATE_OUTCOME

/-- An unknown policy opens no replay. -/
def replayPolicyOf (wire : ℕ) : ReplayPolicy :=
  (domainOf [.included, .subscription, .unit, .none] WIRE_REPLAY_POLICY wire).getD .none

def rightsScopeOf : ℕ → Option RightsScope := domainOf [.worldwide, .restricted] WIRE_RIGHTS_SCOPE

def blackoutReasonOf : ℕ → Option BlackoutReason :=
  domainOf [.coProduction, .broadcaster, .festival] WIRE_BLACKOUT_REASON

@[simp] theorem publicationStateOf_wire (state : PublicationState) :
    publicationStateOf (WIRE_PUBLICATION_STATE state) = some state := by
  cases state <;> rfl

@[simp] theorem dateOutcomeOf_wire (outcome : DateOutcome) :
    dateOutcomeOf (WIRE_DATE_OUTCOME outcome) = some outcome := by
  cases outcome <;> rfl

@[simp] theorem replayPolicyOf_wire (policy : ReplayPolicy) :
    replayPolicyOf (WIRE_REPLAY_POLICY policy) = policy := by
  cases policy <;> rfl

@[simp] theorem rightsScopeOf_wire (scope : RightsScope) :
    rightsScopeOf (WIRE_RIGHTS_SCOPE scope) = some scope := by
  cases scope <;> rfl

/-- No reason is unspecified on the wire, and reads back as none. -/
@[simp] theorem blackoutReasonOf_wire (reason : Option BlackoutReason) :
    blackoutReasonOf ((reason.map WIRE_BLACKOUT_REASON).getD UNSPECIFIED) = reason := by
  cases reason with
  | none => rfl
  | some reason => cases reason <;> rfl

/-! ## What a message states -/

/-- The fact a message states of its date: `ENTITLEMENT_READERS`. -/
def dateFactOf : DateMessage → Option DateFact
  | .scheduled message =>
      some (.scheduled message.dateId message.channelId message.startsAt message.runtimeMin
        ⟨replayPolicyOf message.replayPolicy, message.replayWindowHours⟩
        ⟨rightsScopeOf message.rightsScope, message.blackoutCountries.map String.toUpper,
          blackoutReasonOf message.blackoutReason⟩ message.occurredAt)
  | .rescheduled dateId _ newStartsAt _ _ occurredAt =>
      some (.rescheduled dateId newStartsAt occurredAt)
  | .stateChanged dateId channelId _ toState version _ occurredAt =>
      some (.publicationStateChanged dateId channelId (publicationStateOf toState) version
        occurredAt)
  | .outcomeDeclared dateId channelId outcome _ _ declaredAt =>
      (dateOutcomeOf outcome).map fun outcome =>
        .outcomeDeclared dateId channelId outcome declaredAt
  | _ => none

/-- A declared outcome, as the row's group keeps it. -/
def outcomeRead (declared : Instant × Catalog.Dates.Declaration) :
    Option (Option Instant × Option DateOutcome) :=
  (dateOutcomeOf declared.2.outcome).map fun outcome => (some declared.1, some outcome)

/-- What the messages of a date state of it, in their order. -/
def statedBy (messages : List DateMessage) : List EntitlementFact :=
  messages.filterMap fun message => (dateFactOf message).map .date

theorem dateFactOf_dateId {message : DateMessage} {fact : DateFact}
    (h : dateFactOf message = some fact) : fact.dateId = message.dateId := by
  cases message with
  | outcomeDeclared dateId channelId outcome declared rescheduledTo declaredAt =>
      obtain ⟨_, -, rfl⟩ := Option.map_eq_some_iff.mp h
      rfl
  | scheduled | rescheduled | stateChanged =>
      obtain rfl := Option.some.inj h
      rfl
  | _ => cases h

section Parts

variable {γ : Type} {dateId : Uuid} {messages : List DateMessage}

/-- A declaration states nothing but the outcome. -/
theorem dateFactOf_outcomeDeclared {states : DateFact → Option γ}
    (hdeclared : ∀ dateId channelId outcome statedAt,
      states (.outcomeDeclared dateId channelId outcome statedAt) = none)
    (dateId channelId : Uuid) (outcome : ℕ) (declared : Catalog.Dates.OutcomeMessage)
    (rescheduledTo : Option Instant) (declaredAt : Instant) :
    (dateFactOf (.outcomeDeclared dateId channelId outcome declared rescheduledTo declaredAt)).bind
      states = none := by
  simp only [dateFactOf]
  cases dateOutcomeOf outcome with
  | none => rfl
  | some outcome => exact hdeclared _ _ _ _

/-- A part of a date's facts, read off a part of its messages. -/
theorem stated_part {α : Type} {states : DateFact → Option γ} {said : DateMessage → Option α}
    {read : α → Option γ} (hdate : ∀ message ∈ messages, message.dateId = dateId)
    (h : ∀ message, (dateFactOf message).bind states = (said message).bind read) :
    (statedBy messages).filterMap (aboutDate dateId states) =
      (messages.filterMap said).filterMap read := by
  rw [statedBy, List.filterMap_filterMap, List.filterMap_filterMap]
  refine List.filterMap_congr fun message hmessage => ?_
  rw [← h message]
  cases hfact : dateFactOf message with
  | none => rfl
  | some fact =>
      simp only [Option.map_some, Option.bind_some, aboutDate_date]
      rw [dateFactOf_dateId hfact, if_pos (hdate message hmessage)]

variable (hdate : ∀ message ∈ messages, message.dateId = dateId)

include hdate

theorem timing_stated : (statedBy messages).filterMap (aboutDate dateId DateFact.timing) =
    (messages.filterMap DateMessage.start).map fun start => (some start.1, some start.2) := by
  rw [← List.filterMap_eq_map]
  refine stated_part hdate fun message => ?_
  cases message with
  | outcomeDeclared => exact dateFactOf_outcomeDeclared (fun _ _ _ _ => rfl) _ _ _ _ _ _
  | _ => rfl

theorem publication_stated : (statedBy messages).filterMap (aboutDate dateId DateFact.publication) =
    (messages.filterMap DateMessage.transition).map fun moved =>
      (some (moved.1 : ℤ), publicationStateOf moved.2) := by
  rw [← List.filterMap_eq_map]
  refine stated_part hdate fun message => ?_
  cases message with
  | outcomeDeclared => exact dateFactOf_outcomeDeclared (fun _ _ _ _ => rfl) _ _ _ _ _ _
  | _ => rfl

theorem outcome_stated : (statedBy messages).filterMap (aboutDate dateId DateFact.outcome) =
    (messages.filterMap DateMessage.declaration).filterMap outcomeRead := by
  refine stated_part hdate fun message => ?_
  cases message with
  | outcomeDeclared _ _ outcome =>
      simp only [dateFactOf, DateMessage.declaration, Option.bind_some, outcomeRead]
      cases dateOutcomeOf outcome <;> rfl
  | _ => rfl

/-- What only the schedule states is read off it. -/
theorem scheduled_stated (states : DateFact → Option γ)
    {read : Catalog.Dates.DateScheduledMessage → γ}
    (hread : ∀ message, (dateFactOf (.scheduled message)).bind states = some (read message))
    (hmoved : ∀ dateId startsAt statedAt, states (.rescheduled dateId startsAt statedAt) = none)
    (htransitioned : ∀ dateId channelId state version statedAt,
      states (.publicationStateChanged dateId channelId state version statedAt) = none)
    (hdeclared : ∀ dateId channelId outcome statedAt,
      states (.outcomeDeclared dateId channelId outcome statedAt) = none) :
    (statedBy messages).filterMap (aboutDate dateId states) =
      (messages.filterMap DateMessage.schedule).map read := by
  rw [← List.filterMap_eq_map]
  refine stated_part hdate fun message => ?_
  cases message with
  | scheduled message => exact hread message
  | outcomeDeclared => exact dateFactOf_outcomeDeclared hdeclared _ _ _ _ _ _
  | rescheduled => exact hmoved _ _ _
  | stateChanged => exact htransitioned _ _ _ _ _
  | _ => rfl

end Parts

/-! ## What a part ends on -/

namespace Fed

variable {γ : Type} {dateId : Uuid} {stated : List EntitlementFact} {s t : EntitlementDb}
  {facts : List EntitlementFact} {columns : EntitlementDate → γ} {blank : γ}
  {states : DateFact → Option γ} {takes : γ → γ → Bool}

/-- A guarded group ends on the last value stated of it, while each is taken over those before. -/
theorem group_last (h : Fed dateId stated s facts t)
    (happlied : ∀ (fact : DateFact) (appliedAt : Instant) (kept : Option EntitlementDate),
      groupIn columns blank (fact.applied appliedAt kept).1 =
        feed takes (groupIn columns blank kept) (states fact))
    {values : List γ} (hvalues : stated.filterMap (aboutDate dateId states) = values)
    (hgrowing : values.Pairwise fun v w => takes v w = true ∧ takes w v = false)
    (hfirst : ∀ v ∈ values, takes blank v = true) :
    t.group columns blank dateId = values.getLast?.getD blank := by
  cases hlast : values.getLast? with
  | none =>
      rw [List.getLast?_eq_none_iff] at hlast
      have hnone : ∀ fact, Arrives dateId stated fact → aboutDate dateId states fact = none := by
        intro fact hfact
        by_contra hsome
        obtain ⟨value, hvalue⟩ := Option.ne_none_iff_exists'.mp hsome
        have hmem := hfact.mem_filterMap hvalue
        rw [hvalues, hlast] at hmem
        cases hmem
      refine h.feeds.invariant (fun v => v.group columns blank dateId = blank) h.group_blank
        h.arrives ?_
      intro v fact w hv hfact hmove
      rw [hmove.group_feed happlied, hnone fact hfact]
      exact hv
  | some last =>
      obtain ⟨front, hfront⟩ := List.getLast?_eq_some_iff.mp hlast
      have hmem : last ∈ values := List.mem_of_getLast? hlast
      obtain ⟨fact, hfact, hstates⟩ := List.mem_filterMap.mp (hvalues.symm ▸ hmem)
      have hbeats : Beats takes blank (aboutDate dateId states) (Arrives dateId stated) last := by
        refine ⟨⟨fact, .inl hfact, hstates⟩, hfirst last hmem, ?_⟩
        intro fact' other hfact' hother hne
        have hotherMem := hfact'.mem_filterMap hother
        rw [hvalues, hfront, List.mem_append] at hotherMem
        have hbefore := hotherMem.resolve_right fun hsame => hne (List.mem_singleton.mp hsame)
        rw [hfront] at hgrowing
        exact (List.pairwise_append.mp hgrowing).2.2 other hbefore last List.mem_cons_self
      have hsettles : Settles EntitlementDb.Applies (fun _ => True)
          (EntitlementDb.group columns blank dateId) blank (aboutDate dateId states)
          (Arrives dateId stated) last :=
        hbeats.settles fun _ _ hmove => hmove.group_feed happlied
      exact hsettles.settled (fun _ _ _ => trivial) h.feeds h.arrives trivial
        (.inl h.group_blank) ⟨fact, h.all fact hfact, hstates⟩

/-- A part all that state it state alike ends on what they state. -/
theorem group_constant (h : Fed dateId stated s facts t)
    (happlied : ∀ (fact : DateFact) (appliedAt : Instant) (kept : Option EntitlementDate),
      (∀ row, kept = some row → row.ChannelKnown) →
        WritesOnce columns blank (states fact) kept (fact.applied appliedAt kept).1)
    {value : γ} (hstated : value ∈ stated.filterMap (aboutDate dateId states))
    (hsame : ∀ other ∈ stated.filterMap (aboutDate dateId states), other = value) :
    t.group columns blank dateId = value := by
  obtain ⟨fact, hfact, hstates⟩ := List.mem_filterMap.mp hstated
  have hsettles : Settles EntitlementDb.Applies (EntitlementDb.ChannelKnown dateId)
      (EntitlementDb.group columns blank dateId) blank (aboutDate dateId states)
      (Arrives dateId stated) value := by
    refine Settles.of_constant ?_ ?_ ?_
    · exact fun {fact stated} hfact hstates => hsame stated (hfact.mem_filterMap hstates)
    · exact fun hs _ hmove => (hmove.group_writesOnce hs happlied).1
    · exact fun hs _ hmove hstates hblank =>
        (hmove.group_writesOnce hs happlied).2 value hstates hblank
  refine hsettles.settled (fun hv _ hmove => hmove.channelKnown hv) h.feeds h.arrives ?_
    (.inl h.group_blank) ⟨fact, h.all fact hfact, hstates⟩
  intro row hrow
  rw [h.noDate] at hrow
  cases hrow

end Fed

/-- The row of a public date says of it what the catalog's rows say. -/
structure EntitlementDate.AgreesWith (row : EntitlementDate) (record : DateRecord) : Prop where
  channelId : row.channelId = some record.date.channelId
  startsAt : row.startsAt = some record.date.startsAt
  runtimeMin : row.runtimeMin = some record.date.runtimeMin
  replayPolicy : row.replayPolicy = some record.date.replayPolicy
  replayWindowHours : row.replayWindowHours = some (record.date.replayWindowHours.getD 0)
  rightsScope : row.rightsScope = some record.date.rights.scope
  blackoutCountries :
    row.blackoutCountries = some (record.date.rights.blackoutCountries.map String.toUpper)
  blackoutReason : row.blackoutReason = record.date.rights.reason
  publicationState : row.publicationState = some record.publication.state
  outcome : row.outcome = record.date.outcome

section Groups

variable {origin showSlug slug : String} {venue : Catalog.Dates.Venue} {record : DateRecord}
  {messages : List DateMessage} {dateId : Uuid} {s t : EntitlementDb}
  {facts : List EntitlementFact}

/-- A later instant is taken over an earlier one, never the reverse. -/
theorem takesFrom_newerOrSame_of_lt {α : Type} {a b : Instant} (h : a < b) (v w : α) :
    takesFrom isNewerOrSame (some a, v) (some b, w) = true ∧
      takesFrom isNewerOrSame (some b, w) (some a, v) = false := by
  simp [takesFrom, isNewerOrSame, h, h.le]

/-- A group the schedule alone states holds what it states. -/
theorem group_of_schedule {α : Type} {columns : EntitlementDate → Option Instant × α} {blank : α}
    {states : DateFact → Option (Option Instant × α)}
    (h : Fed dateId (statedBy messages) s facts t)
    (happlied : ∀ (fact : DateFact) (appliedAt : Instant) (kept : Option EntitlementDate),
      groupIn columns (none, blank) (fact.applied appliedAt kept).1 =
        feed (takesFrom isNewerOrSame) (groupIn columns (none, blank) kept) (states fact))
    {occurredAt : Instant} {value : α}
    (hvalues : (statedBy messages).filterMap (aboutDate dateId states) =
      [(some occurredAt, value)]) :
    t.group columns (none, blank) dateId = (some occurredAt, value) :=
  h.group_last happlied hvalues (List.pairwise_singleton _ _) fun v hv => by
    rw [List.mem_singleton.mp hv]
    rfl

theorem start_of_chronicle (h : Chronicle origin showSlug venue record messages)
    (hslug : record.date.slug = some slug) (hstated : StatedInOrder messages)
    (hdate : ∀ message ∈ messages, message.dateId = dateId)
    (hfed : Fed dateId (statedBy messages) s facts t) : ∃ statedAt,
    t.group EntitlementDate.timing (none, none) dateId =
      (some statedAt, some record.date.startsAt) := by
  have hgroup := hfed.group_last DateFact.timing_applied (timing_stated hdate)
    (hstated.starts.map _ fun a b hlt => takesFrom_newerOrSame_of_lt hlt _ _) (by
      intro v hv
      obtain ⟨start, -, rfl⟩ := List.mem_map.mp hv
      rfl)
  have hstarted := h.started
  rw [hslug, Option.map_some, lastOf, Option.map_eq_some_iff] at hstarted
  obtain ⟨⟨statedAt, startsAt⟩, hlast, rfl⟩ := hstarted
  rw [List.getLast?_map, hlast] at hgroup
  exact ⟨statedAt, hgroup⟩

theorem publication_of_chronicle (h : Chronicle origin showSlug venue record messages)
    (hpublic : record.publication.state.isPublic = true)
    (hdate : ∀ message ∈ messages, message.dateId = dateId)
    (hfed : Fed dateId (statedBy messages) s facts t) : ∃ version,
    t.group EntitlementDate.publication (none, none) dateId =
      (some version, some record.publication.state) := by
  obtain ⟨state, hstate, htracks⟩ := h.transitions
  have hgroup := hfed.group_last DateFact.publication_applied (publication_stated hdate)
    (htracks.growing.map _ fun a b hlt => by
      simp [takesFrom, isNewer, hlt, hlt.le]) (by
      intro v hv
      obtain ⟨moved, -, rfl⟩ := List.mem_map.mp hv
      rfl)
  cases state with
  | none =>
      rw [Option.getD_none] at hstate
      rw [← hstate] at hpublic
      cases hpublic
  | some state =>
      rw [Option.getD_some] at hstate
      obtain ⟨⟨version, wire⟩, hlast, hwire⟩ := Option.map_eq_some_iff.mp htracks.last
      simp only at hwire
      rw [List.getLast?_map, hlast, Option.map_some, Option.getD_some, hwire,
        publicationStateOf_wire, hstate] at hgroup
      exact ⟨version, hgroup⟩

/-- The last outcome streaming reads is the row's. -/
theorem lastOutcome_of_chronicle (h : Chronicle origin showSlug venue record messages) :
    lastOf ((messages.filterMap DateMessage.declaration).filterMap outcomeRead) =
      record.date.outcome.map some := by
  have hread : outcomeRead = fun declared =>
      ((dateOutcomeOf declared.2.outcome).map some).map fun outcome =>
        (some declared.1, outcome) := by
    funext declared
    rw [Option.map_map]
    rfl
  rw [hread, lastOf_read (f := some) (g := fun declared : Catalog.Dates.Declaration =>
    (dateOutcomeOf declared.outcome).map some) fun declared hdeclared => ?_, h.lastDeclared]
  · cases record.date.outcome with
    | none => rfl
    | some outcome => exact congrArg (Option.map some) (dateOutcomeOf_wire outcome)
  · rw [h.lastDeclared] at hdeclared
    obtain ⟨outcome, -, rfl⟩ := Option.map_eq_some_iff.mp hdeclared
    rw [dateOutcomeOf_wire]
    rfl

theorem outcome_of_chronicle (h : Chronicle origin showSlug venue record messages)
    (hstated : StatedInOrder messages) (hdate : ∀ message ∈ messages, message.dateId = dateId)
    (hfed : Fed dateId (statedBy messages) s facts t) :
    (t.group EntitlementDate.outcomeDeclared (none, none) dateId).2 = record.date.outcome := by
  have hgrowing : ((messages.filterMap DateMessage.declaration).filterMap outcomeRead).Pairwise
      fun v w => takesOutcome v w = true ∧ takesOutcome w v = false := by
    refine (hstated.declarations.and h.standing).filterMap _ fun a b hlt v hv w hw => ?_
    obtain ⟨earlier, hearlier, rfl⟩ := Option.map_eq_some_iff.mp hv
    obtain ⟨later, -, rfl⟩ := Option.map_eq_some_iff.mp hw
    rw [hlt.2, dateOutcomeOf_wire, Option.some.injEq] at hearlier
    subst hearlier
    have htaken := takesFrom_newerOrSame_of_lt hlt.1 (some DateOutcome.postponed) (some later)
    simp [takesOutcome, htaken.1, htaken.2, isFinal]
  have hgroup := hfed.group_last DateFact.outcome_applied (outcome_stated hdate) hgrowing (by
    intro v hv
    obtain ⟨declared, -, hread⟩ := List.mem_filterMap.mp hv
    obtain ⟨_, -, rfl⟩ := Option.map_eq_some_iff.mp hread
    rfl)
  have hlast := lastOutcome_of_chronicle h
  rw [lastOf] at hlast
  rw [hgroup]
  cases hend : ((messages.filterMap DateMessage.declaration).filterMap outcomeRead).getLast? with
  | none =>
      rw [hend, Option.map_none, eq_comm, Option.map_eq_none_iff] at hlast
      rw [hlast]
      rfl
  | some last =>
      rw [hend, Option.map_some, eq_comm, Option.map_eq_some_iff] at hlast
      obtain ⟨outcome, houtcome, hsame⟩ := hlast
      rw [houtcome, hsame]
      rfl

/-- The columns the schedule alone states are those of the row. -/
theorem schedule_of_chronicle (h : Chronicle origin showSlug venue record messages)
    (hslug : record.date.slug = some slug)
    (hdate : ∀ message ∈ messages, message.dateId = dateId)
    (hfed : Fed dateId (statedBy messages) s facts t) :
    (∃ statedAt, t.group EntitlementDate.replay (none, none, none) dateId =
      (some statedAt, some record.date.replayPolicy,
        some (record.date.replayWindowHours.getD 0))) ∧
    (∃ statedAt, t.group EntitlementDate.rights (none, none, none, none) dateId =
      (some statedAt, some record.date.rights.scope,
        some (record.date.rights.blackoutCountries.map String.toUpper),
        record.date.rights.reason)) ∧
    t.group EntitlementDate.runtimeMin none dateId = some record.date.runtimeMin := by
  obtain ⟨occurredAt, startsAt, first, hschedule, -⟩ := h.scheduled hslug
  have hreplay := scheduled_stated hdate DateFact.replay (fun _ => rfl)
    (fun _ _ _ => rfl) (fun _ _ _ _ _ => rfl) fun _ _ _ _ => rfl
  have hrights := scheduled_stated hdate DateFact.rights (fun _ => rfl)
    (fun _ _ _ => rfl) (fun _ _ _ _ _ => rfl) fun _ _ _ _ => rfl
  have hruntime := scheduled_stated hdate DateFact.runtimeMin (fun _ => rfl)
    (fun _ _ _ => rfl) (fun _ _ _ _ _ => rfl) fun _ _ _ _ => rfl
  rw [hschedule, List.map_singleton] at hreplay hrights hruntime
  refine ⟨⟨occurredAt, ?_⟩, ⟨occurredAt, ?_⟩, ?_⟩
  · rw [group_of_schedule hfed DateFact.replay_applied hreplay]
    simp [Catalog.Dates.scheduleOf]
  · rw [group_of_schedule hfed DateFact.rights_applied hrights]
    simp [Catalog.Dates.scheduleOf]
  · refine hfed.group_constant
      (fun fact appliedAt kept _ => fact.runtimeMin_applied appliedAt kept) ?_ ?_
    · rw [hruntime]
      exact List.mem_singleton_self _
    · intro other hother
      rw [hruntime] at hother
      exact List.mem_singleton.mp hother

/-- The channel of the row is the date's. -/
theorem channel_of_chronicle (h : Chronicle origin showSlug venue record messages)
    (hslug : record.date.slug = some slug)
    (hdate : ∀ message ∈ messages, message.dateId = dateId)
    (hfed : Fed dateId (statedBy messages) s facts t) :
    t.group EntitlementDate.channelId none dateId = some record.date.channelId := by
  obtain ⟨occurredAt, startsAt, first, hschedule, -⟩ := h.scheduled hslug
  have hstated : (statedBy messages).filterMap (aboutDate dateId DateFact.channelId) =
      (messages.filterMap fun message =>
        (dateFactOf message).bind DateFact.channelId).filterMap some :=
    stated_part hdate fun message => (Option.bind_fun_some _).symm
  rw [List.filterMap_some] at hstated
  refine hfed.group_constant (fun fact appliedAt kept => fact.channelId_applied appliedAt) ?_ ?_
  · rw [hstated, List.mem_filterMap]
    have hmem : Catalog.Dates.scheduleOf origin showSlug venue record.date startsAt first
        occurredAt ∈ messages.filterMap DateMessage.schedule := by
      rw [hschedule]
      exact List.mem_singleton_self _
    obtain ⟨message, hmessage, hsaid⟩ := List.mem_filterMap.mp hmem
    refine ⟨message, hmessage, ?_⟩
    cases message with
    | scheduled message =>
        obtain rfl := Option.some.inj hsaid
        rfl
    | _ => cases hsaid
  · intro other hother
    rw [hstated, List.mem_filterMap] at hother
    obtain ⟨message, hmessage, hsaid⟩ := hother
    have hchannel := h.channels message hmessage
    cases message with
    | outcomeDeclared _ declaredOn outcome =>
        simp only [dateFactOf] at hsaid
        cases houtcome : dateOutcomeOf outcome with
        | none =>
            rw [houtcome] at hsaid
            cases hsaid
        | some read =>
            rw [houtcome] at hsaid
            rw [← Option.some.inj hsaid, hchannel declaredOn rfl]
    | scheduled message => rw [← Option.some.inj hsaid, hchannel _ rfl]
    | stateChanged _ movedOn => rw [← Option.some.inj hsaid, hchannel movedOn rfl]
    | _ => cases hsaid

/-- A row fed what a public date's chronicle states agrees with the rows the chronicle follows. -/
theorem agreesWith_of_chronicle (h : Chronicle origin showSlug venue record messages)
    (hslug : record.date.slug = some slug) (hpublic : record.publication.state.isPublic = true)
    (hstated : StatedInOrder messages) (hdate : ∀ message ∈ messages, message.dateId = dateId)
    (hfed : Fed dateId (statedBy messages) s facts t) :
    ∃ row, t.dates.find? dateId = some row ∧ row.AgreesWith record := by
  obtain ⟨timedAt, htiming⟩ := start_of_chronicle h hslug hstated hdate hfed
  obtain ⟨version, hpublication⟩ := publication_of_chronicle h hpublic hdate hfed
  have houtcome := outcome_of_chronicle h hstated hdate hfed
  obtain ⟨⟨replayAt, hreplay⟩, ⟨rightsAt, hrights⟩, hruntime⟩ :=
    schedule_of_chronicle h hslug hdate hfed
  have hchannel := channel_of_chronicle h hslug hdate hfed
  unfold EntitlementDb.group at htiming hpublication houtcome hreplay hrights hruntime hchannel
  cases hrow : t.dates.find? dateId with
  | none =>
      rw [hrow] at htiming
      cases htiming
  | some row =>
      rw [hrow] at htiming hpublication houtcome hreplay hrights hruntime hchannel
      exact ⟨row, rfl, {
        channelId := hchannel
        startsAt := congrArg Prod.snd htiming
        runtimeMin := hruntime
        replayPolicy := congrArg (fun kept => kept.2.1) hreplay
        replayWindowHours := congrArg (fun kept => kept.2.2) hreplay
        rightsScope := congrArg (fun kept => kept.2.1) hrights
        blackoutCountries := congrArg (fun kept => kept.2.2.1) hrights
        blackoutReason := congrArg (fun kept => kept.2.2.2) hrights
        publicationState := congrArg Prod.snd hpublication
        outcome := houtcome }⟩

end Groups

/-! ## Over every run -/

section Deliveries

variable {dateId : Uuid} {messages : List DateMessage} {s : EntitlementDb}
  {deliveries : List Delivery} {delivery : Delivery}

theorem seat_not_stated {fact : SeatMessageFact} : .seat fact ∉ statedBy messages := by
  intro h
  obtain ⟨message, -, hstated⟩ := List.mem_filterMap.mp h
  obtain ⟨_, -, hseat⟩ := Option.map_eq_some_iff.mp hstated
  cases hseat

/-- A fact about the date that was stated, or any other fact, may arrive. -/
theorem arrives_of_stated (h : ∀ fact, delivery.fact = .date fact → fact.dateId = dateId →
    delivery.fact ∈ statedBy messages) : Arrives dateId (statedBy messages) delivery.fact := by
  by_cases hconcerns : delivery.fact.Concerns dateId (statedBy messages)
  · cases hfact : delivery.fact with
    | date fact =>
        rw [hfact] at hconcerns
        exact .inl (hfact ▸ h fact hfact hconcerns)
    | seat fact =>
        rw [hfact] at hconcerns
        obtain ⟨other, hother, -⟩ := hconcerns
        exact absurd hother seat_not_stated
  · exact .inr hconcerns

/-- A fact about a date is never refused, so its message is claimed. -/
theorem processed_of_date (hdelivery : delivery ∈ deliveries)
    (hstated : delivery.fact ∈ statedBy messages) :
    delivery.messageId ∈ (s.run deliveries).processed := by
  obtain ⟨first, later, rfl⟩ := List.append_of_mem hdelivery
  apply EntitlementDb.mem_processed_run
  intro refusal hrefused
  obtain ⟨seatId, statedAt, hkeptRow, -⟩ := EntitlementDb.refused_cases hrefused
  rw [hkeptRow] at hstated
  exact seat_not_stated hstated

end Deliveries

section Runs

variable [PublicationRules] [ReplayRules] [LawfulPublicationRules] [SlugRules] {origin : String}

/-- In every run of catalog, once streaming handled every fact the messages of a public date state,
late, twice or out of order, among any facts about other dates and about seats, its row says of
the date what catalog's rows do. -/
theorem entitlement_agrees_with_catalog (transactions : List Catalog.Dates.Transaction)
    {dateId : Uuid} {record : DateRecord} {slug : String} {s : EntitlementDb}
    {deliveries : List Delivery}
    (hrecord : (Catalog.Dates.World.reached origin transactions).db.recordOf dateId = some record)
    (hslug : record.date.slug = some slug)
    (hstated : StatedInOrder
      (messagesOf (Catalog.Dates.World.reached origin transactions).db.outbox dateId))
    (hunknown : s.dates.find? dateId = none)
    (hfresh : ∀ delivery ∈ deliveries, delivery.messageId ∉ s.processed)
    (hids : ∀ delivery ∈ deliveries, ∀ other ∈ deliveries,
      delivery.messageId = other.messageId → delivery.fact = other.fact)
    (harrives : ∀ delivery ∈ deliveries, ∀ fact, delivery.fact = .date fact →
      fact.dateId = dateId → delivery.fact ∈ statedBy
        (messagesOf (Catalog.Dates.World.reached origin transactions).db.outbox dateId))
    (happlied : ∀ fact ∈ statedBy
        (messagesOf (Catalog.Dates.World.reached origin transactions).db.outbox dateId),
      ∃ delivery ∈ deliveries, delivery.fact = fact) :
    ∃ row, (s.run deliveries).dates.find? dateId = some row ∧ row.AgreesWith record := by
  obtain ⟨hreferences, hsound, hchronicled⟩ :=
    @Catalog.Dates.World.reached_chronicled _ _ origin _ _ transactions
  obtain ⟨shown, venue, hshown, hvenue⟩ := hreferences.of_record hrecord
  have hpublic : record.publication.state.isPublic = true := by
    rw [(hsound _ _ hrecord).public_iff, hslug]
    rfl
  obtain ⟨facts, hfed⟩ := EntitlementDb.exists_fed
    ⟨hunknown, fun fact hfact => absurd hfact seat_not_stated, hfresh⟩ hids
    (fun delivery hdelivery => arrives_of_stated (harrives delivery hdelivery))
    (fun fact hfact => by
      obtain ⟨delivery, hdelivery, rfl⟩ := happlied fact hfact
      exact ⟨delivery, hdelivery, rfl, processed_of_date hdelivery hfact⟩)
  exact agreesWith_of_chronicle (hchronicled.said hrecord hshown hvenue) hslug hpublic hstated
    (fun message hmessage => Catalog.Dates.dateId_of_mem_messagesOf hmessage) hfed

end Runs

namespace Sample

open Arthome.Core.Sample Arthome.Catalog.Sample Arthome.Catalog.Dates.Sample

/-- What the sample's date states, the last first. -/
def catalogDeliveries : List Delivery :=
  (statedBy (messagesOf sampleDb.outbox 7)).reverse.zipIdx.map fun (fact, rank) =>
    ⟨1000 + rank, fact, 200000000⟩

theorem entitlement_agrees_with_catalog_sample :
    ∃ record row, sampleDb.recordOf 7 = some record ∧
      (EntitlementDb.empty.run catalogDeliveries).dates.find? 7 = some row ∧
      row.AgreesWith record ∧ row.startsAt = some 180000000 ∧
      row.publicationState = some .replayOnline ∧ row.outcome = some .postponed := by
  have hrow : (sampleDb.recordOf 7).map (fun record => (record.date.slug.isSome,
      record.date.startsAt, record.publication.state, record.date.outcome)) =
        some (true, 180000000, .replayOnline, some .postponed) := by decide +kernel
  obtain ⟨record, hrecord, hrow⟩ := Option.map_eq_some_iff.mp hrow
  simp only [Prod.mk.injEq] at hrow
  obtain ⟨hnamed, hstart, hstate, houtcome⟩ := hrow
  obtain ⟨slug, hslug⟩ := Option.isSome_iff_exists.mp hnamed
  have hdelivered : ∀ delivery ∈ catalogDeliveries,
      delivery.fact ∈ statedBy (messagesOf sampleDb.outbox 7) := by decide +kernel
  obtain ⟨row, hfound, hagrees⟩ := entitlement_agrees_with_catalog sampleTransactions hrecord hslug
    ⟨by decide +kernel, by decide +kernel⟩ (s := .empty) rfl (by decide +kernel)
    (by decide +kernel) (fun delivery hdelivery _ _ _ => hdelivered delivery hdelivery)
    (by decide +kernel)
  exact ⟨record, row, hrecord, hfound, hagrees, hstart ▸ hagrees.startsAt,
    hstate ▸ hagrees.publicationState, hagrees.outcome.trans houtcome⟩

end Sample

end Arthome.Streaming
