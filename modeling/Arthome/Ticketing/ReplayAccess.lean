import Arthome.Core.ReplayRules
import Arthome.Ticketing.Database
import Mathlib.Data.Rat.Defs

/-!
# The accesses to a date's replay

Ticketing keeps a copy of a date's `Replay`, ordered by its version, and writes the
accesses of the date's seats in the transaction that keeps it: granted when it is
first kept pending or online, revoked when it is withdrawn. Messages are claimed
by their id in the same transaction. The transactions of the rest of the service
never write these tables.
-/

namespace Arthome.Ticketing

open Arthome.Core Library

/-- What a message says of a date's `Replay`. -/
structure ReplayStateFact where
  dateId : Uuid
  version : ℤ
  toState : ReplayState
  policy : ReplayPolicy
  liveEndedAt : Instant
  closesAt : Instant
  onlineAt : Option Instant
  deriving Repr, DecidableEq

/-- Ticketing's copy of a date's `Replay`, with what it did to the date's accesses. -/
structure ReplayWindow where
  state : ReplayState
  version : ℤ
  policy : ReplayPolicy
  liveEndedAt : Instant
  closesAt : Instant
  onlineAt : Option Instant
  grantedAt : Option Instant
  revokedAt : Option Instant
  deriving Repr, DecidableEq

/-- What the date's accesses owe a change of the window. -/
inductive AccessChange where
  | grant
  | revoke
  deriving Repr, DecidableEq

inductive ReplayWindowChange where
  | superseded
  | kept (window : ReplayWindow) (accesses : Option AccessChange)
  deriving Repr, DecidableEq

def grantingStates : List ReplayState := [.pending, .online]

/-- The window's hours, read back from the closing the message carries computed. -/
def windowHoursOf (liveEndedAt closesAt : Instant) : ℚ := (closesAt - liveEndedAt : ℤ) / 3600000

/-- The window a fact states, under the marks already kept. -/
def windowOf (kept : Option ReplayWindow) (fact : ReplayStateFact) : ReplayWindow where
  state := fact.toState
  version := fact.version
  policy := fact.policy
  liveEndedAt := fact.liveEndedAt
  closesAt := fact.closesAt
  onlineAt := fact.onlineAt
  grantedAt := kept.bind fun kept => kept.grantedAt
  revokedAt := kept.bind fun kept => kept.revokedAt

section Window

variable (grantsReplayOnLiveEnd : ReplayPolicy → ℚ → Option DateOutcome → Bool)

/-- A first-seen `online` grants, a first-seen `closed` does not. -/
def nextReplayWindow (kept : Option ReplayWindow) (fact : ReplayStateFact)
    (outcome : Option DateOutcome) (now : Instant) : ReplayWindowChange :=
  if kept.any fun kept => fact.version ≤ kept.version then .superseded
  else
    let window := windowOf kept fact
    if window.state = .withdrawn ∧ window.revokedAt = none then
      .kept { window with revokedAt := some now } (some .revoke)
    else
      let grants := decide (window.state ∈ grantingStates) && window.grantedAt.isNone &&
        window.revokedAt.isNone && grantsReplayOnLiveEnd window.policy
          (windowHoursOf window.liveEndedAt window.closesAt) outcome
      if grants then .kept { window with grantedAt := some now } (some .grant)
      else .kept window none

end Window

/-! ## The tables -/

structure ReplayWindowRow where
  dateId : Uuid
  window : ReplayWindow
  recordedAt : Instant
  deriving Repr, DecidableEq

inductive ReplayAccessOrigin where
  | seat
  deriving Repr, DecidableEq

inductive ReplayAccessRevocationReason where
  | replayWithdrawn
  deriving Repr, DecidableEq

structure ReplayAccess where
  dateId : Uuid
  seatId : Uuid
  origin : ReplayAccessOrigin
  grantedAt : Instant
  revokedAt : Option Instant
  revocationReason : Option ReplayAccessRevocationReason
  deriving Repr, DecidableEq

/-- The service's tables with those of the replay, and the messages claimed. -/
structure ReplayDb where
  db : Db
  windows : Table ReplayWindowRow.dateId
  accesses : Table ReplayAccess.seatId
  processed : List Uuid

namespace ReplayDb

/-- Before the first message on any replay. -/
def opened (db : Db) : ReplayDb := ⟨db, .empty, .empty, []⟩

/-- The seats of a date that are active. -/
def activeSeats (db : Db) (dateId : Uuid) : List Uuid :=
  db.orders.rows.flatMap fun record =>
    if record.order.dateId = dateId then
      (record.order.seats.filter fun seat => seat.state = .active).map fun seat => seat.id
    else []

/-- One access per seat; a seat that has one gets none. -/
def grantSeatAccesses (accesses : Table ReplayAccess.seatId) (dateId : Uuid) (seats : List Uuid)
    (grantedAt : Instant) : Table ReplayAccess.seatId :=
  seats.foldl (fun accesses seatId =>
    (accesses.insert ⟨dateId, seatId, .seat, grantedAt, none, none⟩).getD accesses) accesses

/-- An access as the revocation of its date leaves it. -/
def revoked (dateId : Uuid) (revokedAt : Instant) (access : ReplayAccess) : ReplayAccess :=
  if access.dateId = dateId ∧ access.revokedAt = none then
    { access with revokedAt := some revokedAt, revocationReason := some .replayWithdrawn }
  else access

def revokeAccesses (accesses : Table ReplayAccess.seatId) (dateId : Uuid) (revokedAt : Instant) :
    Table ReplayAccess.seatId :=
  accesses.update (revoked dateId revokedAt) fun access => by
    unfold revoked
    split_ifs <;> rfl

/-- The date's window, opened when the date has none, then kept. -/
def keepReplayWindow (windows : Table ReplayWindowRow.dateId) (row : ReplayWindowRow) :
    Table ReplayWindowRow.dateId :=
  ((windows.insert row).getD windows).put row

/-- The window is kept and the accesses it owes written. -/
def keep (s : ReplayDb) (messageId dateId : Uuid) (window : ReplayWindow)
    (accesses : Option AccessChange) (now : Instant) : ReplayDb where
  db := s.db
  windows := keepReplayWindow s.windows ⟨dateId, window, now⟩
  accesses :=
    match accesses with
    | some .grant => grantSeatAccesses s.accesses dateId (activeSeats s.db dateId) now
    | some .revoke => revokeAccesses s.accesses dateId now
    | none => s.accesses
  processed := messageId :: s.processed

/-- The date's window as the transaction locks it. -/
def windowOn (s : ReplayDb) (dateId : Uuid) : Option ReplayWindow :=
  (s.windows.find? dateId).map fun row => row.window

end ReplayDb

/-- What a message's handling came to. -/
inductive MessageOutcome where
  | applied
  | superseded
  | duplicate
  deriving Repr, DecidableEq

section Handler

variable (grantsReplayOnLiveEnd : ReplayPolicy → ℚ → Option DateOutcome → Bool)

/-- One message on a date's replay. The window's row carries `revoked_at` only while withdrawn, a
check of its table, so a state kept after a withdrawal refuses the whole transaction. -/
def recordReplayState (s : ReplayDb) (messageId : Uuid) (fact : ReplayStateFact) (now : Instant) :
    Except Refusal (ReplayDb × MessageOutcome) :=
  if messageId ∈ s.processed then .ok (s, .duplicate)
  else
    match s.db.sales.find? fact.dateId with
    | none => .error .notFound
    | some sales =>
      match nextReplayWindow grantsReplayOnLiveEnd (s.windowOn fact.dateId) fact sales.outcome now with
      | .superseded => .ok ({ s with processed := messageId :: s.processed }, .superseded)
      | .kept window accesses =>
        if window.revokedAt.isSome ∧ window.state ≠ .withdrawn then
          .error (.error "replay_window_revoked_when_withdrawn")
        else .ok (s.keep messageId fact.dateId window accesses now, .applied)

/-- A message on a replay, or any transaction of the rest of the service. -/
inductive ReplayAction where
  | message (messageId : Uuid) (fact : ReplayStateFact) (now : Instant)
  | elsewhere (db : Db)

namespace ReplayDb

def step (s : ReplayDb) : ReplayAction → ReplayDb
  | .message messageId fact now =>
    match recordReplayState grantsReplayOnLiveEnd s messageId fact now with
    | .ok (s', _) => s'
    | .error _ => s
  | .elsewhere db => { s with db }

/-- What a message's fact decides, once its date is known. -/
def decidedOn (s : ReplayDb) (fact : ReplayStateFact) (now : Instant) : Option ReplayWindowChange :=
  (s.db.sales.find? fact.dateId).map fun sales =>
    nextReplayWindow grantsReplayOnLiveEnd (s.windowOn fact.dateId) fact sales.outcome now

/-- The fact a message applies, with what its change did to the accesses. -/
def appliedBy (s : ReplayDb) : ReplayAction → Option (ReplayStateFact × Option AccessChange)
  | .message messageId fact now =>
    match recordReplayState grantsReplayOnLiveEnd s messageId fact now,
      s.decidedOn grantsReplayOnLiveEnd fact now with
    | .ok (_, .applied), some (.kept _ accesses) => some (fact, accesses)
    | _, _ => none
  | .elsewhere _ => none

def run (s : ReplayDb) (actions : List ReplayAction) : ReplayDb :=
  actions.foldl (step grantsReplayOnLiveEnd) s

/-- The facts on a date a run applied, in order, with what each did to the accesses. -/
def appliedOn (dateId : Uuid) (s : ReplayDb) :
    List ReplayAction → List (ReplayStateFact × Option AccessChange)
  | [] => []
  | action :: actions =>
    ((s.appliedBy grantsReplayOnLiveEnd action).toList.filter fun applied =>
      applied.1.dateId = dateId) ++ appliedOn dateId (s.step grantsReplayOnLiveEnd action) actions

end ReplayDb

end Handler

/-! ## What a change may do -/

/-- The window's facts are those of a message. -/
def ReplayWindow.Shows (window : ReplayWindow) (fact : ReplayStateFact) : Prop :=
  window = { windowOf none fact with
    grantedAt := window.grantedAt
    revokedAt := window.revokedAt }

section Changes

variable {grantsReplayOnLiveEnd : ReplayPolicy → ℚ → Option DateOutcome → Bool}

/-- The marks of a window, and what its change does to the accesses: a withdrawal revokes once, a
first pending or online grants once, and never after a withdrawal. -/
inductive MarksChange (toState : ReplayState) (now : Instant) (grantedAt revokedAt : Option Instant) :
    Option Instant → Option Instant → Option AccessChange → Prop
  | revoked (hstate : toState = .withdrawn) (hrevoked : revokedAt = none) :
      MarksChange toState now grantedAt revokedAt grantedAt (some now) (some .revoke)
  | granted (hstate : toState ≠ .withdrawn) (hgranted : grantedAt = none)
      (hrevoked : revokedAt = none) :
      MarksChange toState now grantedAt revokedAt (some now) revokedAt (some .grant)
  | left (hstate : toState = .withdrawn → revokedAt.isSome) :
      MarksChange toState now grantedAt revokedAt grantedAt revokedAt none

/-- A fact is kept over an older version only, and as it states the window. -/
theorem nextReplayWindow_kept {kept : Option ReplayWindow} {fact : ReplayStateFact}
    {outcome : Option DateOutcome} {now : Instant} {window : ReplayWindow}
    {accesses : Option AccessChange}
    (h : nextReplayWindow grantsReplayOnLiveEnd kept fact outcome now = .kept window accesses) :
    (∀ older ∈ kept, older.version < fact.version) ∧ window.Shows fact ∧
      MarksChange fact.toState now (kept.bind fun kept => kept.grantedAt)
        (kept.bind fun kept => kept.revokedAt) window.grantedAt window.revokedAt accesses := by
  have hversion : kept.any (fun kept => fact.version ≤ kept.version) = false →
      ∀ older ∈ kept, older.version < fact.version := by
    intro hany older holder
    rw [Option.mem_def.mp holder, Option.any_some, decide_eq_false_iff_not] at hany
    exact not_le.mp hany
  unfold nextReplayWindow at h
  dsimp only at h
  split_ifs at h with holder hwithdrawn hgrants
  · obtain ⟨rfl, rfl⟩ := ReplayWindowChange.kept.inj h
    exact ⟨hversion (Bool.not_eq_true _ ▸ holder), rfl, .revoked hwithdrawn.1 hwithdrawn.2⟩
  · obtain ⟨rfl, rfl⟩ := ReplayWindowChange.kept.inj h
    simp only [Bool.and_eq_true, decide_eq_true_eq, Option.isNone_iff_eq_none] at hgrants
    obtain ⟨⟨⟨hstate, hgranted⟩, hrevoked⟩, -⟩ := hgrants
    refine ⟨hversion (Bool.not_eq_true _ ▸ holder), rfl, .granted ?_ hgranted hrevoked⟩
    intro hsame
    rw [show (windowOf kept fact).state = fact.toState from rfl, hsame] at hstate
    exact absurd hstate (by decide)
  · obtain ⟨rfl, rfl⟩ := ReplayWindowChange.kept.inj h
    refine ⟨hversion (Bool.not_eq_true _ ▸ holder), rfl, .left fun hstate => ?_⟩
    rw [Option.isSome_iff_ne_none]
    exact fun hrevoked => hwithdrawn ⟨hstate, hrevoked⟩

namespace ReplayDb

/-- A message is refused, leaves the replay's tables, or keeps what its fact decides. -/
theorem recordReplayState_cases (s : ReplayDb) (messageId : Uuid) (fact : ReplayStateFact)
    (now : Instant) :
    (∃ e, recordReplayState grantsReplayOnLiveEnd s messageId fact now = .error e) ∨
      (∃ s' answer, recordReplayState grantsReplayOnLiveEnd s messageId fact now =
          .ok (s', answer) ∧ answer ≠ .applied ∧ s'.windows = s.windows ∧
          s'.accesses = s.accesses) ∨
      ∃ outcome window accesses,
        nextReplayWindow grantsReplayOnLiveEnd (s.windowOn fact.dateId) fact outcome now =
          .kept window accesses ∧
        recordReplayState grantsReplayOnLiveEnd s messageId fact now =
          .ok (s.keep messageId fact.dateId window accesses now, .applied) ∧
        s.decidedOn grantsReplayOnLiveEnd fact now = some (.kept window accesses) := by
  unfold recordReplayState decidedOn
  by_cases hclaimed : messageId ∈ s.processed
  · rw [if_pos hclaimed]
    exact .inr (.inl ⟨s, .duplicate, rfl, by simp, rfl, rfl⟩)
  · rw [if_neg hclaimed]
    cases hsales : s.db.sales.find? fact.dateId with
    | none => exact .inl ⟨_, rfl⟩
    | some sales =>
        cases hchange : nextReplayWindow grantsReplayOnLiveEnd (s.windowOn fact.dateId) fact
            sales.outcome now with
        | superseded =>
            simp only [hchange]
            exact .inr (.inl ⟨_, .superseded, rfl, by simp, rfl, rfl⟩)
        | kept window accesses =>
            simp only [hchange, Option.map_some]
            by_cases hcheck : window.revokedAt.isSome ∧ window.state ≠ .withdrawn
            · rw [if_pos hcheck]
              exact .inl ⟨_, rfl⟩
            · rw [if_neg hcheck]
              exact .inr (.inr ⟨sales.outcome, window, accesses, hchange, rfl, rfl⟩)

/-- What an action may do to the replay's tables: nothing, or keep what a message's fact decides. -/
theorem step_cases (s : ReplayDb) (action : ReplayAction) :
    s.appliedBy grantsReplayOnLiveEnd action = none ∧
        (s.step grantsReplayOnLiveEnd action).windows = s.windows ∧
        (s.step grantsReplayOnLiveEnd action).accesses = s.accesses ∨
      ∃ messageId fact now outcome window accesses,
        nextReplayWindow grantsReplayOnLiveEnd (s.windowOn fact.dateId) fact outcome now =
          .kept window accesses ∧
        s.step grantsReplayOnLiveEnd action = s.keep messageId fact.dateId window accesses now ∧
        s.appliedBy grantsReplayOnLiveEnd action = some (fact, accesses) := by
  cases action with
  | elsewhere db => exact .inl ⟨rfl, rfl, rfl⟩
  | message messageId fact now =>
      simp only [step, appliedBy]
      rcases recordReplayState_cases s messageId fact now with ⟨e, herror⟩ | ⟨s', answer, hok, hanswer, hwindows, haccesses⟩ |
          ⟨outcome, window, accesses, hchange, hok, hdecided⟩
      · rw [herror]
        exact .inl ⟨rfl, rfl, rfl⟩
      · rw [hok]
        refine .inl ⟨?_, hwindows, haccesses⟩
        cases answer with
        | applied => exact absurd rfl hanswer
        | superseded => rfl
        | duplicate => rfl
      · rw [hok, hdecided]
        exact .inr ⟨messageId, fact, now, outcome, window, accesses, hchange, rfl, rfl⟩

/-! ## The tables after a change -/

theorem keepReplayWindow_self (windows : Table ReplayWindowRow.dateId) (row : ReplayWindowRow) :
    (keepReplayWindow windows row).find? row.dateId = some row := windows.find?_upsert_self row

theorem keepReplayWindow_other (windows : Table ReplayWindowRow.dateId) {row : ReplayWindowRow}
    {dateId : Uuid} (hother : row.dateId ≠ dateId) :
    (keepReplayWindow windows row).find? dateId = windows.find? dateId :=
  windows.find?_upsert_of_ne hother

theorem mem_grantSeatAccesses {accesses : Table ReplayAccess.seatId} {dateId : Uuid}
    {seats : List Uuid} {grantedAt : Instant} {access : ReplayAccess}
    (h : access ∈ (grantSeatAccesses accesses dateId seats grantedAt).rows) :
    access ∈ accesses.rows ∨ access.dateId = dateId := by
  unfold grantSeatAccesses at h
  induction seats generalizing accesses with
  | nil => exact .inl h
  | cons seatId seats ih =>
      rcases ih h with hbefore | hdate
      · dsimp only at hbefore
        cases hinsert : accesses.insert ⟨dateId, seatId, .seat, grantedAt, none, none⟩ with
        | none =>
            rw [hinsert] at hbefore
            exact .inl hbefore
        | some granted =>
            rw [hinsert] at hbefore
            rcases (Table.mem_insert hinsert).mp hbefore with hkept | rfl
            · exact .inl hkept
            · exact .inr rfl
      · exact .inr hdate

theorem mem_revokeAccesses {accesses : Table ReplayAccess.seatId} {dateId : Uuid}
    {revokedAt : Instant} {access : ReplayAccess}
    (h : access ∈ (revokeAccesses accesses dateId revokedAt).rows) :
    access.dateId = dateId ∧ access.revokedAt.isSome ∨
      access.dateId ≠ dateId ∧ access ∈ accesses.rows := by
  rw [revokeAccesses, Table.update_rows] at h
  obtain ⟨before, hbefore, rfl⟩ := List.mem_map.mp h
  unfold revoked
  by_cases hdate : before.dateId = dateId
  · by_cases hlive : before.revokedAt = none
    · rw [if_pos ⟨hdate, hlive⟩]
      exact .inl ⟨hdate, rfl⟩
    · rw [if_neg fun hboth => hlive hboth.2]
      exact .inl ⟨hdate, Option.isSome_iff_ne_none.mpr hlive⟩
  · rw [if_neg fun hboth => hdate hboth.1]
    exact .inr ⟨hdate, hbefore⟩

/-- An access to another date's replay is not written. -/
theorem mem_keep_other {s : ReplayDb} {messageId dateId : Uuid} {window : ReplayWindow}
    {accesses : Option AccessChange} {now : Instant} {access : ReplayAccess}
    (h : access ∈ (s.keep messageId dateId window accesses now).accesses.rows)
    (hother : access.dateId ≠ dateId) : access ∈ s.accesses.rows := by
  unfold keep at h
  cases accesses with
  | none => exact h
  | some change =>
      cases change with
      | grant => exact (mem_grantSeatAccesses h).resolve_right hother
      | revoke =>
          rcases mem_revokeAccesses h with ⟨hdate, -⟩ | ⟨-, hmem⟩
          · exact absurd hdate hother
          · exact hmem

end ReplayDb

/-! ## A date's replay over a run -/

/-- A change that granted the date's accesses. -/
def isGrant (applied : ReplayStateFact × Option AccessChange) : Bool :=
  applied.2 = some .grant

/-- What the facts applied on a date leave of its window and of its accesses. -/
structure Follows (dateId : Uuid) (applied : List (ReplayStateFact × Option AccessChange))
    (s : ReplayDb) : Prop where
  unseen : s.windowOn dateId = none → applied = []
  shown : ∀ window, s.windowOn dateId = some window →
    ∃ last ∈ applied, window.Shows last.1 ∧ ∀ other ∈ applied, other.1.version ≤ last.1.version
  once : (applied.filter isGrant).length ≤ 1
  granted : ∀ window, s.windowOn dateId = some window → window.grantedAt = none →
    applied.filter isGrant = []
  withdrawn : ∀ window, s.windowOn dateId = some window →
    (∃ last ∈ applied, last.1.toState = .withdrawn) → window.revokedAt.isSome
  revoked : ∀ window, s.windowOn dateId = some window → window.revokedAt.isSome →
    ∀ access ∈ s.accesses.rows, access.dateId = dateId → access.revokedAt.isSome

section Run

variable {dateId : Uuid} {applied : List (ReplayStateFact × Option AccessChange)} {s s' : ReplayDb}

theorem Follows.congr (h : Follows dateId applied s) (hwindow : s'.windowOn dateId = s.windowOn dateId)
    (haccesses : ∀ access ∈ s'.accesses.rows, access.dateId = dateId → access ∈ s.accesses.rows) :
    Follows dateId applied s' := by
  refine ⟨?_, ?_, h.once, ?_, ?_, ?_⟩
  · rw [hwindow]
    exact h.unseen
  · rw [hwindow]
    exact h.shown
  · rw [hwindow]
    exact h.granted
  · rw [hwindow]
    exact h.withdrawn
  · rw [hwindow]
    intro window hkept hrevoked access haccess hdate
    exact h.revoked window hkept hrevoked access (haccesses access haccess hdate) hdate

theorem ReplayDb.windowOn_keep_self (s : ReplayDb) (messageId : Uuid) (window : ReplayWindow)
    (accesses : Option AccessChange) (now : Instant) :
    (s.keep messageId dateId window accesses now).windowOn dateId = some window := by
  have hkept := ReplayDb.keepReplayWindow_self s.windows ⟨dateId, window, now⟩
  exact congrArg (Option.map fun row : ReplayWindowRow => row.window) hkept

theorem ReplayDb.windowOn_keep_other (s : ReplayDb) (messageId : Uuid) {other : Uuid}
    (hother : other ≠ dateId) (window : ReplayWindow) (accesses : Option AccessChange)
    (now : Instant) :
    (s.keep messageId other window accesses now).windowOn dateId = s.windowOn dateId :=
  congrArg (Option.map fun row : ReplayWindowRow => row.window)
    (ReplayDb.keepReplayWindow_other s.windows hother)

/-- The accesses of a date are all revoked once its window is. -/
theorem revoked_keep {messageId : Uuid} {fact : ReplayStateFact} {now : Instant}
    {window : ReplayWindow} {accesses : Option AccessChange} (h : Follows dateId applied s)
    (hmarks : MarksChange fact.toState now ((s.windowOn dateId).bind fun kept => kept.grantedAt)
      ((s.windowOn dateId).bind fun kept => kept.revokedAt) window.grantedAt window.revokedAt accesses)
    (hrevoked : window.revokedAt.isSome) :
    ∀ access ∈ (s.keep messageId dateId window accesses now).accesses.rows,
      access.dateId = dateId → access.revokedAt.isSome := by
  intro access haccess hdate
  generalize hgrantedAt : window.grantedAt = grantedAt at hmarks
  generalize hrevokedAt : window.revokedAt = revokedAt at hmarks hrevoked
  cases hmarks with
  | revoked =>
      rcases ReplayDb.mem_revokeAccesses haccess with ⟨-, hdone⟩ | ⟨hother, -⟩
      · exact hdone
      · exact absurd hdate hother
  | granted hstate hgranted hnone =>
      rw [hnone] at hrevoked
      cases hrevoked
  | left hstate =>
      obtain ⟨kept, hkept, hmark⟩ := Option.bind_eq_some_iff.mp (Option.eq_some_of_isSome hrevoked)
      exact h.revoked kept hkept (Option.isSome_iff_exists.mpr ⟨_, hmark⟩) access haccess hdate

/-- Nothing kept as granted, so nothing granted yet. -/
theorem Follows.none_granted (h : Follows dateId applied s)
    (hgranted : (s.windowOn dateId).bind (fun kept => kept.grantedAt) = none) :
    applied.filter isGrant = [] := by
  cases hkept : s.windowOn dateId with
  | none => rw [h.unseen hkept, List.filter_nil]
  | some kept =>
      rw [hkept] at hgranted
      exact h.granted kept hkept hgranted

/-- A withdrawal applied on the date is kept as revoked. -/
theorem Follows.kept_revoked (h : Follows dateId applied s)
    (hwithdrawn : ∃ last ∈ applied, last.1.toState = .withdrawn) :
    ((s.windowOn dateId).bind fun kept => kept.revokedAt).isSome := by
  cases hkept : s.windowOn dateId with
  | none =>
      obtain ⟨last, hlast, -⟩ := hwithdrawn
      rw [h.unseen hkept] at hlast
      cases hlast
  | some kept => exact h.withdrawn kept hkept hwithdrawn

/-- A change grants only what was never granted, and keeps that it did. -/
theorem MarksChange.grants {toState : ReplayState} {now : Instant}
    {grantedAt revokedAt grantedAt' revokedAt' : Option Instant} {accesses : Option AccessChange}
    (h : MarksChange toState now grantedAt revokedAt grantedAt' revokedAt' accesses) :
    (accesses = some .grant → grantedAt = none) ∧
      (grantedAt' = none → grantedAt = none ∧ accesses ≠ some .grant) := by
  cases h with
  | revoked => exact ⟨by simp, fun hnone => ⟨hnone, by simp⟩⟩
  | granted hstate hgranted hrevoked => exact ⟨fun _ => hgranted, by simp⟩
  | left => exact ⟨by simp, fun hnone => ⟨hnone, by simp⟩⟩

/-- A withdrawal leaves a mark, and no change takes the mark back. -/
theorem MarksChange.revokes {toState : ReplayState} {now : Instant}
    {grantedAt revokedAt grantedAt' revokedAt' : Option Instant} {accesses : Option AccessChange}
    (h : MarksChange toState now grantedAt revokedAt grantedAt' revokedAt' accesses)
    (hrevoked : toState = .withdrawn ∨ revokedAt.isSome) : revokedAt'.isSome := by
  cases h with
  | revoked => rfl
  | granted hstate hgranted hnone =>
      rcases hrevoked with hwithdrawn | hmarked
      · exact absurd hwithdrawn hstate
      · exact hmarked
  | left hmarked =>
      rcases hrevoked with hwithdrawn | hmarks
      · exact hmarked hwithdrawn
      · exact hmarks

/-- A fact kept on the date is the newest applied on it. -/
theorem Follows.keep {messageId : Uuid} {fact : ReplayStateFact} {outcome : Option DateOutcome}
    {now : Instant} {window : ReplayWindow} {accesses : Option AccessChange}
    (h : Follows fact.dateId applied s)
    (hchange : nextReplayWindow grantsReplayOnLiveEnd (s.windowOn fact.dateId) fact outcome now =
      .kept window accesses) :
    Follows fact.dateId (applied ++ [(fact, accesses)])
      (s.keep messageId fact.dateId window accesses now) := by
  obtain ⟨holder, hshows, hmarks⟩ := nextReplayWindow_kept hchange
  have hself : (s.keep messageId fact.dateId window accesses now).windowOn fact.dateId =
      some window := s.windowOn_keep_self messageId window accesses now
  refine ⟨?_, ?_, ?_, ?_, ?_, ?_⟩
  · rw [hself]
    intro hnone
    cases hnone
  · rw [hself]
    rintro _ ⟨rfl⟩
    refine ⟨(fact, accesses), by simp, hshows, ?_⟩
    intro other hother
    rcases List.mem_append.mp hother with hearlier | hlast
    · cases hkept : s.windowOn fact.dateId with
      | none =>
          rw [h.unseen hkept] at hearlier
          cases hearlier
      | some kept =>
          obtain ⟨last, hlast, hshown, hnewest⟩ := h.shown kept hkept
          have hversion : kept.version = last.1.version := by
            rw [hshown]
            rfl
          have hnewer := holder kept hkept
          have hother := hnewest other hearlier
          dsimp only
          omega
    · rw [List.mem_singleton.mp hlast]
  · by_cases hgrant : accesses = some .grant
    · have hearlier := h.none_granted (hmarks.grants.1 hgrant)
      rw [List.filter_append, hearlier, List.nil_append]
      exact List.length_filter_le _ _
    · have hlast : [(fact, accesses)].filter isGrant = [] := by simp [isGrant, hgrant]
      rw [List.filter_append, hlast, List.append_nil]
      exact h.once
  · rw [hself]
    rintro _ ⟨rfl⟩ hgranted
    obtain ⟨hnever, hgrant⟩ := hmarks.grants.2 hgranted
    rw [List.filter_append, h.none_granted hnever]
    simp [isGrant, hgrant]
  · rw [hself]
    rintro _ ⟨rfl⟩ ⟨last, hlast, hwithdrawn⟩
    apply hmarks.revokes
    rcases List.mem_append.mp hlast with hearlier | hnew
    · exact .inr (h.kept_revoked ⟨last, hearlier, hwithdrawn⟩)
    · rw [List.mem_singleton.mp hnew] at hwithdrawn
      exact .inl hwithdrawn
  · rw [hself]
    rintro _ ⟨rfl⟩ hrevoked
    exact revoked_keep h hmarks hrevoked

/-- An action keeps the date's accounts, with the fact it applies on the date. -/
theorem Follows.step (h : Follows dateId applied s) (action : ReplayAction) :
    Follows dateId (applied ++ (s.appliedBy grantsReplayOnLiveEnd action).toList.filter fun applied =>
      applied.1.dateId = dateId) (s.step grantsReplayOnLiveEnd action) := by
  rcases ReplayDb.step_cases s action with ⟨hnothing, hwindows, haccesses⟩ |
      ⟨messageId, fact, now, outcome, window, accesses, hchange, hstep, happlied⟩
  · rw [hnothing, Option.toList_none, List.filter_nil, List.append_nil]
    refine h.congr ?_ ?_
    · unfold ReplayDb.windowOn
      rw [hwindows]
    · intro access haccess _
      rwa [haccesses] at haccess
  · rw [happlied, hstep, Option.toList_some]
    by_cases hdate : fact.dateId = dateId
    · subst hdate
      rw [List.filter_singleton]
      simpa using h.keep hchange
    · have hnone : [(fact, accesses)].filter (fun applied => applied.1.dateId = dateId) = [] := by
        simp [hdate]
      rw [hnone, List.append_nil]
      refine h.congr (s.windowOn_keep_other messageId hdate window accesses now) ?_
      intro access haccess hsame
      exact ReplayDb.mem_keep_other haccess (hsame ▸ Ne.symm hdate)

/-- Over a whole run, the facts it applied on the date are all followed. -/
theorem Follows.run (h : Follows dateId applied s) (actions : List ReplayAction) :
    Follows dateId (applied ++ ReplayDb.appliedOn grantsReplayOnLiveEnd dateId s actions)
      (s.run grantsReplayOnLiveEnd actions) := by
  induction actions generalizing applied s with
  | nil =>
      rw [ReplayDb.appliedOn, List.append_nil]
      exact h
  | cons action actions ih =>
      rw [ReplayDb.appliedOn, ← List.append_assoc]
      exact ih (h.step action)

/-- Before the first message nothing is kept of any date. -/
theorem Follows.opened (db : Db) : Follows dateId [] (.opened db) := by
  have hnone : (ReplayDb.opened db).windowOn dateId = none := rfl
  refine ⟨fun _ => rfl, ?_, Nat.zero_le 1, ?_, ?_, ?_⟩
  all_goals
    rw [hnone]
    intro window hkept
    cases hkept

end Run

/-- Whatever facts arrive on a date, in whatever order and however often, and whatever the rest of
the service does between them: its accesses are granted at most once, the window kept is the one
that the highest version applied states, and once a withdrawal is applied none of its accesses
stands. -/
theorem replay_accesses_follow_catalog (grantsReplayOnLiveEnd : ReplayPolicy → ℚ → Option DateOutcome → Bool)
    (db : Db) (actions : List ReplayAction) (dateId : Uuid) :
    let applied := ReplayDb.appliedOn grantsReplayOnLiveEnd dateId (.opened db) actions
    let s := (ReplayDb.opened db).run grantsReplayOnLiveEnd actions
    (applied.filter isGrant).length ≤ 1 ∧
      (s.windowOn dateId = none → applied = []) ∧
      (∀ window, s.windowOn dateId = some window → ∃ last ∈ applied, window.Shows last.1 ∧
        ∀ other ∈ applied, other.1.version ≤ last.1.version) ∧
      ((∃ last ∈ applied, last.1.toState = .withdrawn) →
        ∀ access ∈ s.accesses.rows, access.dateId = dateId → access.revokedAt.isSome) := by
  intro applied s
  have h : Follows dateId applied s := (Follows.opened db).run actions
  refine ⟨h.once, h.unseen, h.shown, ?_⟩
  intro hwithdrawn
  obtain ⟨window, hkept, hmarked⟩ := Option.bind_eq_some_iff.mp
    (Option.eq_some_of_isSome (h.kept_revoked hwithdrawn))
  exact h.revoked window hkept (Option.isSome_iff_exists.mpr ⟨_, hmarked⟩)

end Changes

end Arthome.Ticketing
